import Mathlib.Data.List.Nodup
import MacroTypes.Proofs.Catalog.Placing

/-!
# Orders that do not matter

Removing several classes leaves what does not depend on their order, nor on how often each of them
is listed (`Coherent.unregisterAll_congr`). Registrations in a container can displace one another,
so their order matters in general. It does not for stored types that have different classes and
different keys (`Coherent.registerAll_perm`), and the nested types of a type are such where they are
stored under their names (`StoresNested.distinct`).

Both follow from what the operations do to the views, where lists of classes occur as sets only.
-/

namespace MacroTypes.Catalog

variable {cat : Catalog}

/-! ## Removing -/

/-- What is removed matters, and not in which order or how often. -/
theorem Coherent.unregisterAll_congr (h : cat.Coherent) {cs cs' : List ClassName}
    (hmem : ∀ c, c ∈ cs ↔ c ∈ cs') : cat.unregisterAll cs = cat.unregisterAll cs' := by
  apply (h.unregisterAll cs).ext (h.unregisterAll cs')
  · intro c
    simp only [get?_unregisterAll, hmem]
  · intro c s
    simp only [scopes_unregisterAll, hmem]

/-- The old classes can be gone through in any order when a type is placed. -/
theorem Coherent.placeOutside_perm (h : cat.Coherent) (project? : Option NodeId) (t : ElementType)
    {old old' : List ClassName} (hperm : old.Perm old') :
    cat.placeOutside project? t old = cat.placeOutside project? t old' := by
  apply (h.registerInside project? t).unregisterAll_congr
  intro c
  simp only [List.mem_filter, hperm.mem_iff]

/-! ## Registering -/

/-- Registers types in a scope, one after the other. -/
def registerAll (cat : Catalog) (s : Scope) (ts : List ElementType) : Catalog :=
  ts.foldl (fun cat t => cat.register s t) cat

/-- Stored types of different classes with different keys. -/
structure Distinct (cat : Catalog) (ts : List ElementType) : Prop where
  /-- Each of the types is the stored one of its class. -/
  get?_eq : ∀ t ∈ ts, cat.get? t.className = some t
  /-- No two of them have the same class. -/
  classNames : (ts.map ElementType.className).Nodup
  /-- No two of them have the same key. -/
  keys : (ts.map ElementType.key).Nodup

/-- Registering the types of classes in a container means to look them up and register what is
    found, as they do not change on the way. -/
theorem Coherent.registerClassesInside_eq (h : cat.Coherent) (n : NodeId) (cs : List ClassName) :
    cat.registerClassesInside (some n) cs =
      cat.registerAll (.container n) (cs.filterMap cat.get?) := by
  induction cs generalizing cat with
  | nil => rfl
  | cons c rest ih =>
    rw [registerClassesInside_cons]
    cases hc : cat.get? c with
    | none =>
      rw [List.filterMap_cons_none hc]
      exact ih h
    | some t =>
      -- the rest is looked up in a catalogue with the same types
      have hget : (cat.register (.container n) t).get? = cat.get? :=
        funext (h.get?_register_self hc (.container n))
      rw [List.filterMap_cons_some hc, Option.elim_some, registerInside_some,
        ih (h.register (.container n) t), hget]
      rfl

/-- Stored types are found under their classes. -/
private theorem filterMap_get?_map_className {ts : List ElementType}
    (h : ∀ t ∈ ts, cat.get? t.className = some t) :
    (ts.map ElementType.className).filterMap cat.get? = ts := by
  rw [List.filterMap_map]
  exact (List.filterMap_congr h).trans List.filterMap_some

/-- Classes of different keys can be registered in a container in any order, each of them any number
    of times. -/
private theorem Coherent.registerClassesInside_congr (h : cat.Coherent) (n : NodeId)
    {cs cs' : List ClassName} (hmem : ∀ c, c ∈ cs ↔ c ∈ cs')
    (hkeys : ∀ c ∈ cs, ∀ c' ∈ cs, ∀ t t', cat.get? c = some t → cat.get? c' = some t' →
      t.key = t'.key → c = c') :
    cat.registerClassesInside (some n) cs = cat.registerClassesInside (some n) cs' := by
  have hkeys' := hkeys
  simp only [hmem] at hkeys'
  apply (h.registerClassesInside (some n) cs).ext (h.registerClassesInside (some n) cs')
  · intro c
    -- no stored type changes
    rw [h.get?_registerClassesInside, h.get?_registerClassesInside]
  · intro c s
    -- and the scopes depend on which classes there are
    rw [h.mem_scopes_registerClassesInside hkeys, h.mem_scopes_registerClassesInside hkeys']
    simp only [SharesKey, hmem]

/-- Types that are distinct have different keys unless they are the same. -/
theorem Distinct.eq_of_key_eq {ts : List ElementType} (hts : cat.Distinct ts) {t t' : ElementType}
    (ht : t ∈ ts) (ht' : t' ∈ ts) (hkey : t.key = t'.key) : t = t' :=
  List.inj_on_of_nodup_map hts.keys ht ht' hkey

/-- Distinct types can be registered in a container in any order. -/
theorem Coherent.registerAll_perm (h : cat.Coherent) (n : NodeId) {ts ts' : List ElementType}
    (hts : cat.Distinct ts) (hperm : ts.Perm ts') :
    cat.registerAll (.container n) ts = cat.registerAll (.container n) ts' := by
  -- types are registered through their classes, of which the order does not matter
  have hget' : ∀ t ∈ ts', cat.get? t.className = some t := fun t ht =>
    hts.get?_eq t (hperm.mem_iff.2 ht)
  rw [← filterMap_get?_map_className hts.get?_eq, ← filterMap_get?_map_className hget',
    ← h.registerClassesInside_eq, ← h.registerClassesInside_eq]
  apply h.registerClassesInside_congr n fun c => (hperm.map ElementType.className).mem_iff
  -- the type that is stored under a class of the list is in the list
  intro c hc c' hc' u u' hu hu' hkey
  obtain ⟨t, ht, rfl⟩ := List.mem_map.1 hc
  obtain ⟨t', ht', rfl⟩ := List.mem_map.1 hc'
  obtain rfl := Option.some.inj ((hts.get?_eq t ht).symm.trans hu)
  obtain rfl := Option.some.inj ((hts.get?_eq t' ht').symm.trans hu')
  exact congrArg ElementType.className (hts.eq_of_key_eq ht ht' hkey)

/-! ## Nested types -/

variable {t : ElementType}

/-- The nested classes of a type are all stored. -/
private theorem StoresNested.exists_get? (h : cat.StoresNested t) {c : ClassName}
    (hc : c ∈ t.nested.values) : ∃ u, cat.get? c = some u := by
  obtain ⟨k, hk⟩ := Std.ExtTreeMap.mem_values.1 hc
  obtain ⟨u, hu, -⟩ := h.get?_nested k c hk
  exact ⟨u, hu⟩

/-- No class is nested under two names, as its type has one key. -/
theorem StoresNested.nodup_values (h : cat.StoresNested t) : t.nested.values.Nodup := by
  apply Std.ExtTreeMap.nodup_values
  intro k k' c hk hk'
  obtain ⟨u, hu, rfl⟩ := h.get?_nested k c hk
  obtain ⟨u', hu', rfl⟩ := h.get?_nested k' c hk'
  rw [Option.some.inj (hu.symm.trans hu')]

/-- Looking up the nested classes finds a type for each of them. -/
theorem StoresNested.map_className_filterMap (h : cat.StoresNested t) (hcat : cat.Coherent)
    {cs : List ClassName} (hcs : ∀ c ∈ cs, c ∈ t.nested.values) :
    (cs.filterMap cat.get?).map ElementType.className = cs := by
  have hfound : ∀ c ∈ cs, (cat.get? c).map ElementType.className = some c := by
    intro c hc
    obtain ⟨u, hu⟩ := h.exists_get? (hcs c hc)
    rw [hu, Option.map_some, hcat.className_eq c u hu]
  rw [List.map_filterMap, List.filterMap_congr hfound, List.filterMap_some]

/-- The nested types of a type are distinct, in whatever order they are looked up. -/
theorem StoresNested.distinct (h : cat.StoresNested t) (hcat : cat.Coherent) {cs : List ClassName}
    (hperm : cs.Perm t.nested.values) : cat.Distinct (cs.filterMap cat.get?) := by
  have hcs : ∀ c ∈ cs, c ∈ t.nested.values := fun c => hperm.mem_iff.1
  -- what is found under the classes has these classes, and no class comes twice
  have hclasses : ((cs.filterMap cat.get?).map ElementType.className).Nodup := by
    rw [h.map_className_filterMap hcat hcs]
    exact hperm.nodup_iff.2 h.nodup_values
  refine ⟨fun u hu => ?_, hclasses, ?_⟩
  · obtain ⟨c, -, hu⟩ := List.mem_filterMap.1 hu
    rw [hcat.className_eq c u hu, hu]
  · -- types with one key are of one class, and so they are the same
    refine List.Nodup.map_on (fun u hu u' hu' hkey => ?_) (.of_map _ hclasses)
    obtain ⟨c, hc, hu⟩ := List.mem_filterMap.1 hu
    obtain ⟨c', hc', hu'⟩ := List.mem_filterMap.1 hu'
    obtain rfl := h.eq_of_key_eq (hcs c hc) (hcs c' hc') hu hu' hkey
    exact Option.some.inj (hu.symm.trans hu')

/-- The nested types can be registered in a body in any order. -/
theorem StoresNested.registerClassesInside_perm (h : cat.StoresNested t) (hcat : cat.Coherent)
    (body? : Option NodeId) {cs : List ClassName} (hperm : cs.Perm t.nested.values) :
    cat.registerClassesInside body? cs = cat.registerClassesInside body? t.nested.values := by
  cases body? with
  | none => rw [registerClassesInside_none, registerClassesInside_none]
  | some b =>
    apply hcat.registerClassesInside_congr b fun c => hperm.mem_iff
    intro c hc c' hc' u u' hu hu' hkey
    exact h.eq_of_key_eq (hperm.mem_iff.1 hc) (hperm.mem_iff.1 hc') hu hu' hkey

end MacroTypes.Catalog
