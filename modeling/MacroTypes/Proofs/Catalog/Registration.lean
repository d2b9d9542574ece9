import MacroTypes.Catalog.Coherent
import MacroTypes.Document.Define

/-!
# Registering and removing several types

What the operations of the catalogue do in bulk, seen through the stored types and the scopes of the
classes. As long as a class keeps its key, a registration in a coherent catalogue displaces in the
scope of the registration only.

* `get?_unregisterAll`, `scopes_unregisterAll`
* `Coherent.mem_scopes_register_of_key`
* `Coherent.get?_registerClassesInside`, `Coherent.mem_scopes_registerClassesInside`
-/

namespace MacroTypes.Catalog

variable {cat : Catalog}

/-- A coherent catalogue without types is empty. -/
theorem Coherent.eq_empty (h : cat.Coherent) (hget : ∀ c, cat.get? c = none) : cat = ∅ := by
  refine h.ext coherent_empty (fun c => by rw [hget, get?_empty]) fun c s => ?_
  rw [scopes_empty]
  refine iff_of_false (fun hs => ?_) (by simp)
  obtain ⟨t, ht⟩ := exists_get?_of_mem_scopes hs
  exact nomatch (hget c).symm.trans ht

theorem contains_eq_isSome (cat : Catalog) (c : ClassName) :
    cat.contains c = (cat.get? c).isSome := by
  rw [contains, get?, Option.isSome_map, Std.ExtTreeMap.contains_eq_isSome_getElem?]

/-! ## Removing several classes -/

theorem get?_unregisterAll (cat : Catalog) (cs : List ClassName) (d : ClassName) :
    (cat.unregisterAll cs).get? d = if d ∈ cs then none else cat.get? d := by
  induction cs generalizing cat with
  | nil => simp [unregisterAll]
  | cons c rest ih =>
    show ((cat.unregister c).2.unregisterAll rest).get? d = _
    rw [ih, get?_unregister]
    by_cases hd : d = c
    · simp [hd]
    · simp [hd]

theorem scopes_unregisterAll (cat : Catalog) (cs : List ClassName) (d : ClassName) :
    (cat.unregisterAll cs).scopes d = if d ∈ cs then ∅ else cat.scopes d := by
  induction cs generalizing cat with
  | nil => simp [unregisterAll]
  | cons c rest ih =>
    show ((cat.unregister c).2.unregisterAll rest).scopes d = _
    rw [ih, scopes_unregister]
    by_cases hd : d = c
    · simp [hd]
    · simp [hd]

theorem Coherent.unregisterAll (h : Coherent cat) (cs : List ClassName) :
    Coherent (cat.unregisterAll cs) := by
  induction cs generalizing cat with
  | nil => exact h
  | cons c rest ih => exact ih (h.unregister c)

/-- Removing classes that are not stored changes nothing. -/
theorem unregisterAll_eq_self {cs : List ClassName} (h : ∀ c ∈ cs, cat.get? c = none) :
    cat.unregisterAll cs = cat := by
  induction cs with
  | nil => rfl
  | cons c rest ih =>
    have hc : cat.entries[c]? = none := Option.map_eq_none_iff.1 (h c List.mem_cons_self)
    -- a class without an entry is nowhere, so taking it out leaves the catalogue as it is
    have hfirst : (cat.unregister c).2 = cat := by rw [unregister, hc]
    show (cat.unregister c).2.unregisterAll rest = cat
    rw [hfirst, ih fun d hd => h d (List.mem_cons_of_mem _ hd)]

/-! ## Registering one type -/

/-- A class that keeps its key gains the scope and displaces only there. -/
theorem Coherent.mem_scopes_register_of_key (h : Coherent cat) {s s' : Scope} {t : ElementType}
    (hkey : ∀ u, cat.get? t.className = some u → u.key = t.key) {d : ClassName} :
    s' ∈ (cat.register s t).scopes d ↔
      if d = t.className then s' = s ∨ s' ∈ cat.scopes d
      else s' ∈ cat.scopes d ∧
        ¬ (s' = s ∧ s ≠ .document ∧ ∃ u, cat.get? d = some u ∧ u.key = t.key) := by
  by_cases hd : d = t.className
  · rw [Catalog.mem_scopes_register, if_pos hd, if_pos hd]
  · rw [h.mem_scopes_register hd, if_neg hd]
    refine and_congr_right fun hmem => not_congr ?_
    constructor
    · intro hand
      obtain ⟨hdoc, hor, hu⟩ := hand
      rcases hor with rfl | hs
      · -- displaced in the scope of the registration itself
        exact ⟨rfl, hdoc, hu⟩
      · -- two classes of one key in one container are the same
        cases s' with
        | document => exact absurd rfl hdoc
        | container n =>
          obtain ⟨v, hv⟩ := exists_get?_of_mem_scopes hs
          have hnew := (h.lookup_iff n t.key t.className).2 ⟨hs, v, hv, hkey v hv⟩
          have hold := (h.lookup_iff n t.key d).2 ⟨hmem, hu⟩
          exact absurd (Option.some.inj (hold.symm.trans hnew)) hd
    · intro hand
      obtain ⟨heq, hdoc, hu⟩ := hand
      exact ⟨heq ▸ hdoc, .inl heq, hu⟩

/-- In the document nothing is displaced. -/
theorem Coherent.mem_scopes_register_document (h : Coherent cat) {s : Scope} {t : ElementType}
    (hkey : ∀ u, cat.get? t.className = some u → u.key = t.key) {d : ClassName} :
    s ∈ (cat.register .document t).scopes d ↔
      s ∈ cat.scopes d ∨ (s = .document ∧ d = t.className) := by
  rw [h.mem_scopes_register_of_key hkey]
  split
  · next hd => simp [hd, or_comm]
  · next hd => simp [hd]

/-! ## Registering in a container, if there is one -/

theorem registerInside_none (cat : Catalog) (t : ElementType) : cat.registerInside none t = cat :=
  rfl

theorem registerInside_some (cat : Catalog) (n : NodeId) (t : ElementType) :
    cat.registerInside (some n) t = cat.register (.container n) t := rfl

theorem Coherent.registerInside (h : Coherent cat) (container? : Option NodeId) (t : ElementType) :
    Coherent (cat.registerInside container? t) := by
  cases container? with
  | none => exact h
  | some n => exact h.register (.container n) t

theorem get?_registerInside (cat : Catalog) (container? : Option NodeId) (t : ElementType)
    (d : ClassName) :
    (cat.registerInside container? t).get? d =
      if container?.isSome ∧ d = t.className then some t else cat.get? d := by
  cases container? with
  | none => simp [registerInside_none]
  | some n => simp [registerInside_some, get?_register]

/-- Registering the stored types of some classes, one class after the other. -/
theorem registerClassesInside_cons (cat : Catalog) (container? : Option NodeId) (c : ClassName)
    (rest : List ClassName) :
    cat.registerClassesInside container? (c :: rest) =
      ((cat.get? c).elim cat (cat.registerInside container?)).registerClassesInside container?
        rest := rfl

theorem registerClassesInside_none (cat : Catalog) (cs : List ClassName) :
    cat.registerClassesInside none cs = cat := by
  induction cs generalizing cat with
  | nil => rfl
  | cons c rest ih =>
    rw [registerClassesInside_cons, ih]
    cases cat.get? c <;> rfl

/-- What registering a stored type keeps is kept by registering those of several classes. -/
theorem registerClassesInside_invariant {P : Catalog → Prop} {container? : Option NodeId}
    {cs : List ClassName}
    (hstep : ∀ {cat c t}, c ∈ cs → cat.get? c = some t → P cat →
      P (cat.registerInside container? t)) (h : P cat) :
    P (cat.registerClassesInside container? cs) := by
  induction cs generalizing cat with
  | nil => exact h
  | cons c rest ih =>
    rw [registerClassesInside_cons]
    apply ih fun hc => hstep (List.mem_cons_of_mem _ hc)
    cases hget : cat.get? c with
    | none => exact h
    | some t => exact hstep List.mem_cons_self hget h

theorem Coherent.registerClassesInside (h : Coherent cat) (container? : Option NodeId)
    (cs : List ClassName) : Coherent (cat.registerClassesInside container? cs) :=
  registerClassesInside_invariant (P := Coherent) (fun _ _ h => h.registerInside container? _) h

/-- Registering a stored type again replaces it by itself. -/
theorem Coherent.get?_register_self (h : Coherent cat) {c : ClassName} {t : ElementType}
    (hc : cat.get? c = some t) (s : Scope) (d : ClassName) :
    (cat.register s t).get? d = cat.get? d := by
  rw [get?_register, h.className_eq c t hc]
  split
  · next hd => rw [hd, hc]
  · rfl

/-- Registering a stored type where it is registered changes nothing. -/
theorem Coherent.register_eq_self (h : cat.Coherent) {t : ElementType}
    (hget : cat.get? t.className = some t) {s : Scope} (hs : s ∈ cat.scopes t.className) :
    cat.register s t = cat := by
  refine (h.register s t).ext h (h.get?_register_self hget s) fun c s' => ?_
  have hkey : ∀ u, cat.get? t.className = some u → u.key = t.key := by
    intro u hu
    rw [Option.some.inj (hu.symm.trans hget)]
  rw [h.mem_scopes_register_of_key hkey]
  split
  · next hc =>
    subst hc
    -- the class is in the scope already
    exact ⟨fun hor => hor.elim (fun heq => heq ▸ hs) id, .inr⟩
  · next hc =>
    -- the key is bound to the type already, so it is taken from no other class
    refine and_iff_left_of_imp fun hmem hdisplaced => ?_
    obtain ⟨rfl, hdoc, hu⟩ := hdisplaced
    cases s' with
    | document => exact hdoc rfl
    | container n =>
      have hown := (h.lookup_iff n t.key t.className).2 ⟨hs, t, hget, rfl⟩
      have hother := (h.lookup_iff n t.key c).2 ⟨hmem, hu⟩
      exact hc (Option.some.inj (hother.symm.trans hown))

theorem Coherent.get?_registerClassesInside (h : Coherent cat) (container? : Option NodeId)
    (cs : List ClassName) (d : ClassName) :
    (cat.registerClassesInside container? cs).get? d = cat.get? d := by
  induction cs generalizing cat with
  | nil => rfl
  | cons c rest ih =>
    rw [registerClassesInside_cons]
    cases hc : cat.get? c with
    | none => exact ih h
    | some t =>
      -- the type replaces itself, so the classes after it find what was there
      rw [Option.elim_some, ih (h.registerInside container? t)]
      cases container? with
      | none => rfl
      | some n => exact h.get?_register_self hc (.container n) d

/-- In a container a stored type takes the place of the class that had its key there. -/
theorem Coherent.mem_scopes_register_self (h : Coherent cat) {c : ClassName} {t : ElementType}
    (hc : cat.get? c = some t) (n : NodeId) {s : Scope} {d : ClassName} :
    s ∈ (cat.register (.container n) t).scopes d ↔
      if d = c then s = .container n ∨ s ∈ cat.scopes d
      else s ∈ cat.scopes d ∧ ¬ (s = .container n ∧ ∃ u, cat.get? d = some u ∧ u.key = t.key) := by
  have hclass := h.className_eq c t hc
  have hkey : ∀ u, cat.get? t.className = some u → u.key = t.key := by
    intro u hu
    rw [hclass, hc] at hu
    rw [Option.some.inj hu]
  rw [h.mem_scopes_register_of_key hkey, hclass]
  simp

/-- Some of the stored types of classes has the key of a stored type. -/
def SharesKey (cat : Catalog) (cs : List ClassName) (d : ClassName) : Prop :=
  ∃ c ∈ cs, ∃ t u, cat.get? c = some t ∧ cat.get? d = some u ∧ u.key = t.key

private theorem sharesKey_cons {c : ClassName} {cs : List ClassName} {t : ElementType}
    (hc : cat.get? c = some t) {d : ClassName} :
    cat.SharesKey (c :: cs) d ↔
      (∃ u, cat.get? d = some u ∧ u.key = t.key) ∨ cat.SharesKey cs d := by
  constructor
  · intro hshares
    obtain ⟨c', hmem, v, u, hv, hu, hkey⟩ := hshares
    rcases List.mem_cons.1 hmem with rfl | hmem
    · rw [Option.some.inj (hc.symm.trans hv)]
      exact .inl ⟨u, hu, hkey⟩
    · exact .inr ⟨c', hmem, v, u, hv, hu, hkey⟩
  · intro hor
    rcases hor with ⟨u, hu, hkey⟩ | ⟨c', hmem, hrest⟩
    · exact ⟨c, List.mem_cons_self, t, u, hc, hu, hkey⟩
    · exact ⟨c', List.mem_cons_of_mem _ hmem, hrest⟩

/-- Classes whose types have different keys all gain the container, and each takes it from the class
    that had its key there. -/
theorem Coherent.mem_scopes_registerClassesInside (h : Coherent cat) {n : NodeId}
    {cs : List ClassName}
    (hkeys : ∀ c ∈ cs, ∀ c' ∈ cs, ∀ t t', cat.get? c = some t → cat.get? c' = some t' →
      t.key = t'.key → c = c') {s : Scope} {d : ClassName} :
    s ∈ (cat.registerClassesInside (some n) cs).scopes d ↔
      if d ∈ cs ∧ cat.contains d = true then s = .container n ∨ s ∈ cat.scopes d
      else s ∈ cat.scopes d ∧ ¬ (s = .container n ∧ cat.SharesKey cs d) := by
  -- induction on the classes; a later class cannot displace an earlier one, as the keys differ
  induction cs generalizing cat with
  | nil => simp [Catalog.registerClassesInside, SharesKey]
  | cons c rest ih =>
    have hrest : ∀ a ∈ rest, ∀ b ∈ rest, ∀ t t', cat.get? a = some t → cat.get? b = some t' →
        t.key = t'.key → a = b := fun a ha b hb =>
      hkeys a (List.mem_cons_of_mem _ ha) b (List.mem_cons_of_mem _ hb)
    rw [registerClassesInside_cons]
    cases hc : cat.get? c with
    | none =>
      -- a class that is not stored neither gains a scope nor displaces anything
      have hshares : cat.SharesKey (c :: rest) d ↔ cat.SharesKey rest d := by
        simp [SharesKey, hc]
      rw [Option.elim_none, ih h hrest, hshares]
      by_cases hd : d = c
      · simp [hd, contains_eq_isSome, hc]
      · simp [hd]
    | some t =>
      -- the first class is registered; no stored type changes, so the rest is as before
      have hget := h.get?_register_self hc (.container n)
      have hshares : (cat.register (.container n) t).SharesKey rest d ↔ cat.SharesKey rest d := by
        simp only [SharesKey, hget]
      rw [Option.elim_some, registerInside_some,
        ih (h.register _ t) (by simpa only [hget] using hrest), hshares, sharesKey_cons hc,
        h.mem_scopes_register_self hc]
      simp only [contains_eq_isSome, hget]
      by_cases hd : d = c
      · -- the first class itself: none of the rest has its key, unless it comes again
        subst hd
        have hother : d ∉ rest → ¬ cat.SharesKey rest d := by
          intro hmem hshares
          obtain ⟨c', hc', v, u, hv, hu, hkey⟩ := hshares
          have heq := hkeys d List.mem_cons_self c' (List.mem_cons_of_mem _ hc') u v hu hv hkey
          exact hmem (heq ▸ hc')
        by_cases hmem : d ∈ rest
        · simp [hmem, hc]
        · simp [hmem, hc, hother hmem]
      · simp only [if_false, List.mem_cons, hd, false_or]
        by_cases hin : d ∈ rest ∧ (cat.get? d).isSome = true
        · -- registered later, whether or not the first class takes the key
          rw [if_pos hin, if_pos hin]
          constructor
          · exact Or.imp_right And.left
          · intro hs
            by_cases hsn : s = .container n
            · exact .inl hsn
            · exact .inr ⟨hs.resolve_left hsn, fun e => hsn e.1⟩
        · -- displaced by the first class or by one of the rest
          rw [if_neg hin, if_neg hin, and_assoc, ← not_or, ← and_or_left]

end MacroTypes.Catalog
