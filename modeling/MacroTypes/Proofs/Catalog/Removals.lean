import Mathlib.Data.List.Sort
import MacroTypes.Proofs.Catalog.Resolution

/-!
# The exact effect of removing

Taking a class out and forgetting a container are described by what is left (`UnregistersTo`,
`RemovesContainerTo`). Taking a class out finds its bindings through its scopes, forgetting a
container finds the scopes through the bindings, and the descriptions show neither: each is exact
because the two records agree after every history (`removals_run`). Taking out undoes registering
exactly if the class was new and displaced nothing (`Coherent.unregister_register_iff`).
-/

namespace MacroTypes.Catalog

variable {cat cat' : Catalog} {c : ClassName} {s : Scope} {t : ElementType}

/-! ## Lists of scopes -/

/-- What a scope lists is known from what is in the list, as the list is sorted. -/
theorem scopeTypes_eq_of_mem_iff {l : List (QName × ClassName)}
    (hsorted : l.Pairwise fun a b => bindingOrder a b = .lt)
    (hmem : ∀ k c, (k, c) ∈ cat.scopeTypes s ↔ (k, c) ∈ l) : cat.scopeTypes s = l := by
  -- a strict order is irreflexive and asymmetric, which is what two sorted lists are compared by
  have hirrefl : Std.Irrefl fun a b => bindingOrder a b = .lt :=
    ⟨fun a hlt => nomatch Std.ReflCmp.compare_self.symm.trans hlt⟩
  have hantisymm : Std.Antisymm fun a b => bindingOrder a b = .lt :=
    ⟨fun a b hab hba => nomatch (Std.OrientedCmp.gt_of_lt hab).symm.trans hba⟩
  exact (scopeTypes_sorted cat s).eq_of_mem_iff hsorted fun (k, c) => hmem k c

/-! ## Taking a class out -/

/-- What is left of a catalogue after a class was taken out. -/
structure UnregistersTo (cat : Catalog) (c : ClassName) (cat' : Catalog) : Prop where
  /-- The class is not stored. -/
  get?_own : cat'.get? c = none
  /-- It has no scope. -/
  scopes_own : cat'.scopes c = ∅
  /-- Other classes keep their types. -/
  get?_other : ∀ d, d ≠ c → cat'.get? d = cat.get? d
  /-- They keep their scopes. -/
  scopes_other : ∀ d, d ≠ c → cat'.scopes d = cat.scopes d
  /-- Every scope lists what it listed before, without the class. -/
  scopeTypes_eq : ∀ s, cat'.scopeTypes s = (cat.scopeTypes s).filter fun b => b.2 ≠ c

theorem Coherent.unregistersTo_unregister (h : cat.Coherent) (c : ClassName) :
    cat.UnregistersTo c (cat.unregister c).2 where
  get?_own := by rw [get?_unregister, if_pos rfl]
  scopes_own := by rw [scopes_unregister, if_pos rfl]
  get?_other d hd := by rw [get?_unregister, if_neg hd]
  scopes_other d hd := by rw [scopes_unregister, if_neg hd]
  scopeTypes_eq s := by
    refine scopeTypes_eq_of_mem_iff ((scopeTypes_sorted cat s).filter _) fun k d => ?_
    rw [(h.unregister c).mem_scopeTypes, List.mem_filter, h.mem_scopeTypes, get?_unregister,
      scopes_unregister, decide_eq_true_eq]
    by_cases hd : d = c
    · simp [hd]
    · simp [hd]

/-- A class that is not stored cannot be taken out. -/
private theorem unregister_of_get?_eq_none (hc : cat.get? c = none) :
    cat.unregister c = (none, cat) := by
  rw [unregister, Option.map_eq_none_iff.1 hc]

/-! ## Forgetting a container -/

/-- What is left of a catalogue after a container was forgotten. -/
structure RemovesContainerTo (cat : Catalog) (n : NodeId) (cat' : Catalog) : Prop where
  /-- Every class keeps its type, and none enters or leaves. -/
  get?_eq : ∀ c, cat'.get? c = cat.get? c
  /-- Every class keeps its scopes but for the container. -/
  mem_scopes : ∀ c s, s ∈ cat'.scopes c ↔ s ∈ cat.scopes c ∧ s ≠ .container n
  /-- The container lists nothing. -/
  scopeTypes_own : cat'.scopeTypes (.container n) = []
  /-- Other scopes list what they listed before. -/
  scopeTypes_other : ∀ s, s ≠ .container n → cat'.scopeTypes s = cat.scopeTypes s

/-- The classes bound in a container are those registered there, so none of them keeps it. -/
theorem Coherent.mem_scopes_removeContainer (h : cat.Coherent) (n : NodeId) (c : ClassName)
    (s : Scope) : s ∈ (cat.removeContainer n).scopes c ↔ s ∈ cat.scopes c ∧ s ≠ .container n := by
  rw [Catalog.mem_scopes_removeContainer]
  refine and_congr_right fun hs => not_congr (and_iff_left_of_imp fun heq => ?_)
  subst heq
  obtain ⟨t, ht⟩ := exists_get?_of_mem_scopes hs
  exact ⟨t.key, (h.lookup_iff n t.key c).2 ⟨hs, t, ht, rfl⟩⟩

theorem Coherent.removesContainerTo_removeContainer (h : cat.Coherent) (n : NodeId) :
    cat.RemovesContainerTo n (cat.removeContainer n) where
  get?_eq := get?_removeContainer n
  mem_scopes := h.mem_scopes_removeContainer n
  scopeTypes_own := by
    refine scopeTypes_eq_of_mem_iff .nil fun k c => ?_
    rw [(h.removeContainer n).mem_scopeTypes, h.mem_scopes_removeContainer]
    simp
  scopeTypes_other s hs := by
    refine scopeTypes_eq_of_mem_iff (scopeTypes_sorted cat s) fun k c => ?_
    rw [(h.removeContainer n).mem_scopeTypes, h.mem_scopeTypes, get?_removeContainer,
      h.mem_scopes_removeContainer, and_iff_left hs]

/-! ## Undoing a registration -/

/-- A class that is new and whose key is free is registered without a trace in the others. -/
private theorem Coherent.scopes_register_of_new (h : cat.Coherent)
    (hnew : cat.get? t.className = none)
    (hfree : ∀ n, s = .container n → (cat.bindings n).lookup t.key = none) {d : ClassName}
    (hd : d ≠ t.className) : (cat.register s t).scopes d = cat.scopes d := by
  apply Std.ExtTreeSet.ext_mem
  intro s'
  rw [h.mem_scopes_register hd]
  refine and_iff_left_of_imp fun hmem hdisplaced => ?_
  obtain ⟨hdocument, hs', hkey⟩ := hdisplaced
  cases s' with
  | document => exact hdocument rfl
  | container n =>
    rcases hs' with heq | hs'
    · -- a class with the key in the scope of the registration is bound there
      have hbound := (h.lookup_iff n t.key d).2 ⟨hmem, hkey⟩
      exact nomatch (hfree n heq.symm).symm.trans hbound
    · -- the class has no scopes yet
      obtain ⟨u, hu⟩ := exists_get?_of_mem_scopes hs'
      exact nomatch hnew.symm.trans hu

/-- Taking out the class of a type gives back the catalogue before its registration exactly if the
    class was not stored and its key was free. -/
theorem Coherent.unregister_register_iff (h : cat.Coherent) :
    (cat.register s t).unregister t.className = (some t, cat) ↔
      cat.get? t.className = none ∧
        ∀ n, s = .container n → (cat.bindings n).lookup t.key = none := by
  have hresult : ((cat.register s t).unregister t.className).1 = some t := by
    rw [fst_unregister, get?_register, if_pos rfl]
  constructor
  · intro heq
    have hcat : ((cat.register s t).unregister t.className).2 = cat := congrArg Prod.snd heq
    -- the class is not stored after it was taken out, so it was not stored before
    have hnew : cat.get? t.className = none := by
      rw [← hcat, get?_unregister, if_pos rfl]
    refine ⟨hnew, fun n hs => Option.eq_none_iff_forall_ne_some.2 fun d hd => ?_⟩
    -- a class that is displaced does not get its scope back
    obtain ⟨hmem, u, hu, hkey⟩ := (h.lookup_iff n t.key d).1 hd
    have hne : d ≠ t.className := by
      rintro rfl
      exact nomatch hnew.symm.trans hu
    have hmem' := hmem
    rw [← hcat, scopes_unregister, if_neg hne, h.mem_scopes_register hne] at hmem'
    exact hmem'.2 ⟨by simp, .inl hs.symm, u, hu, hkey⟩
  · rintro ⟨hnew, hfree⟩
    refine Prod.ext hresult (((h.register s t).unregister _).ext h (fun d => ?_) fun d s' => ?_)
    · -- the stored types: the class had none
      rw [get?_unregister, get?_register]
      by_cases hd : d = t.className
      · rw [if_pos hd, hd, hnew]
      · rw [if_neg hd, if_neg hd]
    · -- the scopes: a class that is not stored has none, and no other class lost one
      rw [scopes_unregister]
      by_cases hd : d = t.className
      · rw [if_pos hd, hd]
        refine iff_of_false (by simp) fun hs' => ?_
        obtain ⟨u, hu⟩ := exists_get?_of_mem_scopes hs'
        exact nomatch hnew.symm.trans hu
      · rw [if_neg hd, h.scopes_register_of_new hnew hfree hd]

/-- After every history of a catalogue, taking a class out returns its type and leaves what the
    description says, all of it unchanged if the class is not stored. Forgetting a container leaves
    what its description says. And taking out undoes a registration, down to the last container,
    exactly if the class was not stored and, in a container, its key was not bound. -/
theorem removals_run (changes : List Change) :
    (∀ c, ((run changes).unregister c).1 = (run changes).get? c ∧
      (run changes).UnregistersTo c ((run changes).unregister c).2 ∧
      ((run changes).get? c = none → ((run changes).unregister c).2 = run changes)) ∧
    (∀ n, (run changes).RemovesContainerTo n ((run changes).removeContainer n)) ∧
    ∀ s t, ((run changes).register s t).unregister t.className = (some t, run changes) ↔
      (run changes).get? t.className = none ∧
        ∀ n, s = .container n → ((run changes).bindings n).lookup t.key = none := by
  have h := coherent_run changes
  refine ⟨fun c => ⟨fst_unregister c, h.unregistersTo_unregister c, fun hc => ?_⟩,
    h.removesContainerTo_removeContainer, fun s t => h.unregister_register_iff⟩
  -- only the last part about taking a class out is not one of the lemmas
  rw [unregister_of_get?_eq_none hc]

/-- A class that takes a name in a container does not give it back. -/
example :
    let cat := run [.register (.container ⟨1⟩) { key := ⟨"a", none⟩, className := ⟨"A"⟩ }]
    let t : ElementType := { key := ⟨"a", none⟩, className := ⟨"B"⟩ }
    (((cat.register (.container ⟨1⟩) t).unregister t.className).2.scopes ⟨"A"⟩).toList = [] ∧
      (cat.scopes ⟨"A"⟩).toList = [.container ⟨1⟩] := by
  decide +kernel

end MacroTypes.Catalog
