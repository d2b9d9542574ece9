import MacroTypes.Catalog.Lemmas

/-!
# Coherent catalogues

In a coherent catalogue the two records of where types are registered agree: a container binds a key
to a class exactly when the class is registered there and its type has that key. Types are stored
under their own class, and no container is kept without bindings.

`Coherent` holds of the empty catalogue (`coherent_empty`) and is kept by every operation
(`Coherent.register`, `Coherent.unregister`, `Coherent.removeContainer`). A registration in a
coherent catalogue binds the new key in every container of the class
(`Coherent.bindings_register`) and displaces by key alone (`Coherent.mem_scopes_register`). The
views are all there is: `ext_views`, `Coherent.ext`.
-/

namespace MacroTypes.Catalog

variable {cat : Catalog}

/-- The scopes of the classes and the bindings of the containers agree. -/
structure Coherent (cat : Catalog) : Prop where
  /-- A type is stored under its own class. -/
  className_eq : ∀ c t, cat.get? c = some t → t.className = c
  /-- A container binds a key to a class that is registered there and whose type has the key. -/
  lookup_iff : ∀ n k c, (cat.bindings n).lookup k = some c ↔
    .container n ∈ cat.scopes c ∧ ∃ t, cat.get? c = some t ∧ t.key = k
  /-- A container that is kept has bindings. -/
  ne_empty : ∀ n : NodeId, cat.containers[n]? ≠ some ∅

theorem coherent_empty : Coherent ∅ where
  className_eq c t h := by simp at h
  lookup_iff n k c := by simp
  ne_empty n := by simp [show (∅ : Catalog).containers = ∅ from rfl]

/-! ## Containers without bindings -/

private theorem bind_ne_empty (b : Bindings) (key : QName) (c : ClassName) :
    (b.bind key c).2 ≠ ∅ := by
  intro h
  have hkey := Bindings.lookup_bind b key c key
  simp [h] at hkey

private theorem bindIn_ne_empty (h : ∀ n : NodeId, cat.containers[n]? ≠ some ∅) (key : QName)
    (c : ClassName) (s : Scope) (n : NodeId) : (bindIn key c cat s).containers[n]? ≠ some ∅ := by
  cases s with
  | document => exact h n
  | container m =>
    have hc : (bindIn key c cat (.container m)).containers =
        cat.containers.insert m ((cat.bindings m).bind key c).2 := by
      simp only [bindIn]
      cases ((cat.bindings m).bind key c).1 <;> rfl
    rw [hc, Std.ExtTreeMap.getElem?_insert]
    split
    · exact fun e => bind_ne_empty _ key c (Option.some.inj e)
    · exact h n

private theorem foldl_bindIn_ne_empty (h : ∀ n : NodeId, cat.containers[n]? ≠ some ∅) (key : QName)
    (c : ClassName) (ss : List Scope) (n : NodeId) :
    (ss.foldl (bindIn key c) cat).containers[n]? ≠ some ∅ := by
  induction ss generalizing cat with
  | nil => exact h n
  | cons s rest ih => exact ih (bindIn_ne_empty h key c s)

private theorem foldl_unbindIn_ne_empty {containers : Std.ExtTreeMap NodeId Bindings}
    (h : ∀ n : NodeId, containers[n]? ≠ some ∅) (c : ClassName) (ss : List Scope) (n : NodeId) :
    (ss.foldl (unbindIn c) containers)[n]? ≠ some ∅ := by
  induction ss generalizing containers with
  | nil => exact h n
  | cons s rest ih =>
    refine ih fun m => ?_
    cases s with
    | document => exact h m
    | container k =>
      simp only [unbindIn, Std.ExtTreeMap.getElem?_alter]
      split
      · intro e
        -- what is kept is not empty
        have := (Option.filter_eq_some_iff.1 e).2
        simp [Bindings.isEmpty_iff.2 rfl] at this
      · exact h m

/-! ## Registering in a coherent catalogue -/

/-- A container that binds a name has bindings. -/
private theorem hasBindings_of_lookup {n : NodeId} {k : QName} {c : ClassName}
    (h : (cat.bindings n).lookup k = some c) : cat.hasBindings (.container n) = true := by
  rw [hasBindings, Std.ExtTreeMap.contains_eq_isSome_getElem?]
  cases hn : cat.containers[n]? with
  | none => simp [bindings, hn] at h
  | some b => rfl

/-- The containers of a class have bindings. -/
private theorem Coherent.hasBindings_of_mem_scopes (h : Coherent cat) {n : NodeId} {c : ClassName}
    (hs : .container n ∈ cat.scopes c) : cat.hasBindings (.container n) = true := by
  obtain ⟨t, ht⟩ := exists_get?_of_mem_scopes hs
  exact hasBindings_of_lookup ((h.lookup_iff n t.key c).2 ⟨hs, t, ht, rfl⟩)

/-- A container of a class in which a key is not bound anew binds it already. -/
private theorem Coherent.lookup_of_not_mem_toBind (h : Coherent cat) {s : Scope} {t : ElementType}
    {n : NodeId} (hs : .container n = s ∨ .container n ∈ cat.scopes t.className)
    (hn : .container n ∉ cat.toBind s t) : (cat.bindings n).lookup t.key = some t.className := by
  rw [toBind, List.mem_cons, not_or] at hn
  have hmem := hs.resolve_left hn.1
  obtain ⟨u, hu⟩ := exists_get?_of_mem_scopes hmem
  refine (h.lookup_iff n t.key _).2 ⟨hmem, u, hu, Decidable.byContradiction fun hkey => hn.2 ?_⟩
  have hne : ¬ s = .container n := fun heq => hn.1 heq.symm
  -- if the key were another one, the container would be among those in which it is bound anew
  simp [hu, hkey, Std.ExtTreeSet.mem_erase, hne, hmem, h.hasBindings_of_mem_scopes hmem]

/-- A container binds a class under one key. -/
private theorem Coherent.eq_of_lookup (h : Coherent cat) {n : NodeId} {k k' : QName} {c : ClassName}
    (hk : (cat.bindings n).lookup k = some c) (hk' : (cat.bindings n).lookup k' = some c) :
    k = k' := by
  obtain ⟨-, t, ht, rfl⟩ := (h.lookup_iff n k c).1 hk
  obtain ⟨-, t', ht', rfl⟩ := (h.lookup_iff n k' c).1 hk'
  rw [Option.some.inj (ht.symm.trans ht')]

/-- In every container of the class its name is the key of the new type. -/
theorem Coherent.bindings_register (h : Coherent cat) (s : Scope) (t : ElementType) (n : NodeId) :
    (cat.register s t).bindings n =
      if .container n = s ∨ .container n ∈ cat.scopes t.className then
        ((cat.bindings n).bind t.key t.className).2
      else cat.bindings n := by
  rw [Catalog.bindings_register]
  by_cases hn : .container n ∈ cat.toBind s t
  · rw [if_pos hn, if_pos (mem_scopes_of_mem_toBind hn)]
  · rw [if_neg hn]
    split
    · next hs =>
      -- the class keeps its key, so that binding it once more would change nothing
      have hl := h.lookup_of_not_mem_toBind hs hn
      exact (Bindings.bind_of_lookup hl fun k hk => h.eq_of_lookup hk hl).symm
    · rfl

/-- Another class loses the containers among them in which it had the key. -/
theorem Coherent.mem_scopes_register (h : Coherent cat) {s s' : Scope} {t : ElementType}
    {d : ClassName} (hd : d ≠ t.className) :
    s' ∈ (cat.register s t).scopes d ↔
      s' ∈ cat.scopes d ∧ ¬ (s' ≠ .document ∧ (s' = s ∨ s' ∈ cat.scopes t.className) ∧
        ∃ u, cat.get? d = some u ∧ u.key = t.key) := by
  -- a binding in a container says that the class is registered there with that key
  rw [Catalog.mem_scopes_register, if_neg hd]
  refine and_congr_right fun hmem => not_congr ?_
  constructor
  · rintro ⟨hs, n, rfl, hl⟩
    exact ⟨by simp, mem_scopes_of_mem_toBind hs, ((h.lookup_iff n t.key d).1 hl).2⟩
  · rintro ⟨hdoc, hs, hu⟩
    cases s' with
    | document => exact absurd rfl hdoc
    | container n =>
      have hl := (h.lookup_iff n t.key d).2 ⟨hmem, hu⟩
      refine ⟨Decidable.byContradiction fun hn => ?_, n, rfl, hl⟩
      rw [h.lookup_of_not_mem_toBind hs hn] at hl
      exact hd (Option.some.inj hl).symm

/-! ## The operations keep a catalogue coherent -/

/-- The class of the new type is bound under its key wherever it is registered, and nowhere else. -/
private theorem Coherent.lookup_register_own (h : Coherent cat) (s : Scope) (t : ElementType)
    (n : NodeId) (k : QName) :
    ((cat.register s t).bindings n).lookup k = some t.className ↔
      .container n ∈ (cat.register s t).scopes t.className ∧ t.key = k := by
  rw [h.bindings_register, Catalog.mem_scopes_register, if_pos rfl]
  by_cases hn : .container n = s ∨ .container n ∈ cat.scopes t.className
  · -- a container of the class: the binding is the new one
    rw [if_pos hn, Bindings.lookup_bind, and_iff_right hn]
    by_cases hk : k = t.key
    · simp [hk]
    · simp [hk, Ne.symm hk]
  · -- any other container did not bind the class before, and it is left alone
    rw [if_neg hn]
    simp only [hn, false_and, iff_false]
    intro hl
    exact hn (.inr ((h.lookup_iff n k _).1 hl).1)

/-- Another class is bound where it is still registered. -/
private theorem Coherent.lookup_register_of_ne (h : Coherent cat) (s : Scope) {t : ElementType}
    {c : ClassName} (hc : c ≠ t.className) (n : NodeId) (k : QName) :
    ((cat.register s t).bindings n).lookup k = some c ↔
      .container n ∈ (cat.register s t).scopes c ∧ ∃ u, cat.get? c = some u ∧ u.key = k := by
  rw [h.bindings_register, h.mem_scopes_register hc]
  by_cases hn : .container n = s ∨ .container n ∈ cat.scopes t.className
  · -- in a container of the new type its key is taken from all others, and no other key is
    rw [if_pos hn, Bindings.lookup_bind]
    by_cases hk : k = t.key
    · -- whoever has the key is not registered here any more
      simp only [if_pos hk, Option.some.injEq, Ne.symm hc, false_iff]
      rintro ⟨⟨-, hfree⟩, hu⟩
      exact hfree ⟨by simp, hn, hk ▸ hu⟩
    · -- another key keeps its class unless that is the class of the new type
      have hfilter : ((cat.bindings n).lookup k).filter (· ≠ t.className) = some c ↔
          (cat.bindings n).lookup k = some c := by
        simp only [Option.filter_eq_some_iff, decide_eq_true_eq]
        exact ⟨And.left, fun e => ⟨e, hc⟩⟩
      rw [if_neg hk, hfilter, h.lookup_iff n k c]
      constructor
      · rintro ⟨hmem, u, hu, huk⟩
        refine ⟨⟨hmem, ?_⟩, u, hu, huk⟩
        rintro ⟨-, -, v, hv, hvk⟩
        exact hk (by rw [← huk, ← hvk, Option.some.inj (hu.symm.trans hv)])
      · rintro ⟨⟨hmem, _⟩, hu⟩
        exact ⟨hmem, hu⟩
  · -- nothing changes in the other containers
    rw [if_neg hn, h.lookup_iff n k c]
    constructor
    · rintro ⟨hmem, hu⟩
      exact ⟨⟨hmem, fun hand => hn hand.2.1⟩, hu⟩
    · rintro ⟨⟨hmem, _⟩, hu⟩
      exact ⟨hmem, hu⟩

theorem Coherent.register (h : Coherent cat) (s : Scope) (t : ElementType) :
    Coherent (cat.register s t) where
  className_eq c u hu := by
    rw [get?_register] at hu
    split at hu
    · next hc => rw [hc, Option.some.inj hu]
    · exact h.className_eq c u hu
  lookup_iff n k c := by
    rw [get?_register]
    by_cases hc : c = t.className
    · subst hc
      rw [if_pos rfl, h.lookup_register_own]
      simp only [Option.some.injEq, exists_eq_left']
    · rw [if_neg hc, h.lookup_register_of_ne s hc]
  ne_empty n := foldl_bindIn_ne_empty h.ne_empty t.key t.className _ n

theorem Coherent.unregister (h : Coherent cat) (c : ClassName) :
    Coherent (cat.unregister c).2 where
  className_eq d u hu := by
    rw [get?_unregister] at hu
    split at hu
    · simp at hu
    · exact h.className_eq d u hu
  lookup_iff n k d := by
    rw [bindings_unregister, scopes_unregister, get?_unregister]
    by_cases hd : d = c
    · -- the class itself: nothing of it is left, neither a binding nor a scope
      subst hd
      have hright : ¬ (Scope.container n ∈ (∅ : Std.ExtTreeSet Scope) ∧
          ∃ t : ElementType, none = some t ∧ t.key = k) := by simp
      simp only [if_true, hright, iff_false]
      split
      · -- the containers of the class drop its bindings
        simp [Bindings.lookup_unbindClass]
      · -- other containers never had one
        next hn => exact fun hl => hn ((h.lookup_iff n k d).1 hl).1
    · -- another class: taking out the bindings of the one leaves those of the other
      simp only [if_neg hd]
      rw [← h.lookup_iff n k d]
      split
      · rw [Bindings.lookup_unbindClass]
        simp only [Option.filter_eq_some_iff, decide_eq_true_eq]
        exact ⟨And.left, fun e => ⟨e, hd⟩⟩
      · rfl
  ne_empty := by
    unfold Catalog.unregister
    split
    · exact h.ne_empty
    · exact foldl_unbindIn_ne_empty h.ne_empty c _

private theorem foldl_dropScope_containers (s : Scope) (bs : List (QName × ClassName)) :
    (bs.foldl (fun cat b => cat.dropScope s b.2) cat).containers = cat.containers := by
  induction bs generalizing cat with
  | nil => rfl
  | cons b rest ih => rw [List.foldl_cons, ih]; rfl

theorem Coherent.removeContainer (h : Coherent cat) (n : NodeId) :
    Coherent (cat.removeContainer n) where
  className_eq d u hu := h.className_eq d u (by rwa [get?_removeContainer] at hu)
  lookup_iff m k d := by
    rw [bindings_removeContainer, mem_scopes_removeContainer, get?_removeContainer]
    by_cases hm : m = n
    · -- the container has no bindings left, and whoever was bound there has lost the scope
      subst hm
      simp only [if_true, Bindings.lookup_empty, reduceCtorEq, true_and, false_iff]
      rintro ⟨⟨hmem, hfree⟩, u, hu, _⟩
      exact hfree ⟨u.key, (h.lookup_iff m u.key d).2 ⟨hmem, u, hu, rfl⟩⟩
    · -- the other containers are not touched
      simp only [Scope.container.injEq, hm, false_and, not_false_eq_true, and_true]
      exact h.lookup_iff m k d
  ne_empty m := by
    rw [Catalog.removeContainer, foldl_dropScope_containers, Std.ExtTreeMap.getElem?_erase]
    split
    · simp
    · exact h.ne_empty m

/-! ## The views are all there is -/

/-- An entry is the type and the scopes, and both are views. -/
private theorem entries_eq_of_views {a b : Catalog} (hget : ∀ c, a.get? c = b.get? c)
    (hscopes : ∀ c, a.scopes c = b.scopes c) : a.entries = b.entries := by
  apply Std.ExtTreeMap.ext_getElem?
  intro c
  have hg := hget c
  have hs := hscopes c
  simp only [get?, scopes] at hg hs
  cases hac : a.entries[c]? with
  | none =>
    -- a class without an entry has no type
    cases hbc : b.entries[c]? with
    | none => rfl
    | some f => simp [hac, hbc] at hg
  | some e =>
    cases hbc : b.entries[c]? with
    | none => simp [hac, hbc] at hg
    | some f =>
      -- both have one, and it is the same field by field
      cases e; cases f
      simp only [hac, hbc, Option.map_some, Option.some.injEq, Option.getD_some] at hg hs
      rw [hg, hs]

/-- The views take a container that is missing for an empty one, but none is kept empty. -/
private theorem containers_eq_of_views {a b : Catalog}
    (ha : ∀ n : NodeId, a.containers[n]? ≠ some ∅) (hb : ∀ n : NodeId, b.containers[n]? ≠ some ∅)
    (hbindings : ∀ n, a.bindings n = b.bindings n) : a.containers = b.containers := by
  apply Std.ExtTreeMap.ext_getElem?
  intro n
  have hn := hbindings n
  simp only [bindings] at hn
  cases han : a.containers[n]? with
  | none =>
    cases hbn : b.containers[n]? with
    | none => rfl
    | some y =>
      simp only [han, hbn, Option.getD_none, Option.getD_some] at hn
      exact absurd hbn (hn ▸ hb n)
  | some x =>
    cases hbn : b.containers[n]? with
    | none =>
      simp only [han, hbn, Option.getD_none, Option.getD_some] at hn
      exact absurd han (hn ▸ ha n)
    | some y => simpa [han, hbn] using hn

/-- Two catalogues without empty containers that look the same are the same. -/
theorem ext_views {a b : Catalog} (ha : ∀ n : NodeId, a.containers[n]? ≠ some ∅)
    (hb : ∀ n : NodeId, b.containers[n]? ≠ some ∅) (hget : ∀ c, a.get? c = b.get? c)
    (hscopes : ∀ c, a.scopes c = b.scopes c) (hbindings : ∀ n, a.bindings n = b.bindings n) :
    a = b := by
  have hentries := entries_eq_of_views hget hscopes
  have hcontainers := containers_eq_of_views ha hb hbindings
  -- entries and containers are all the fields there are
  exact congr (congrArg mk hentries) hcontainers

/-- Coherent catalogues with the same types in the same scopes are the same. -/
theorem Coherent.ext {cat' : Catalog} (h : cat.Coherent) (h' : cat'.Coherent)
    (hget : ∀ c, cat.get? c = cat'.get? c)
    (hscopes : ∀ c s, s ∈ cat.scopes c ↔ s ∈ cat'.scopes c) : cat = cat' := by
  have hscopes' : ∀ c, cat.scopes c = cat'.scopes c := fun c => Std.ExtTreeSet.ext_mem (hscopes c)
  refine ext_views h.ne_empty h'.ne_empty hget hscopes' fun n => ?_
  -- the bindings follow from the types and their scopes
  apply Bindings.ext_lookup
  intro k
  apply Option.ext
  intro c
  rw [h.lookup_iff, h'.lookup_iff, hscopes', hget]

end MacroTypes.Catalog
