import MacroTypes.Catalog.Change
import MacroTypes.Catalog.Resolve
import MacroTypes.Proofs.Catalog.Registration

/-!
# Scopes and bindings agree after every history

A catalogue records twice where a type is usable: each class has its scopes, each container its
bindings. `scopeTypes_agree_run` says that after any history of registrations and removals the two
records hold the same facts, and `Absent` collects the ways in which a class can no longer be met.
-/

namespace MacroTypes.Catalog

variable {cat : Catalog}

/-- What a container lists are the types registered there, each under its key. -/
theorem Coherent.mem_scopeTypes_container (h : Coherent cat) {n : NodeId} {k : QName}
    {c : ClassName} :
    (k, c) ∈ cat.scopeTypes (.container n) ↔
      ∃ t, cat.get? c = some t ∧ t.key = k ∧ .container n ∈ cat.scopes c := by
  show (k, c) ∈ (cat.bindings n).toList ↔ _
  rw [Bindings.mem_toList, h.lookup_iff n k c]
  constructor
  · intro hand
    obtain ⟨hs, t, ht, hk⟩ := hand
    exact ⟨t, ht, hk, hs⟩
  · intro hex
    obtain ⟨t, ht, hk, hs⟩ := hex
    exact ⟨hs, t, ht, hk⟩

/-- After every history of registrations and removals, types are stored under their own class, a
    container lists a class under a key exactly if the class is stored with that key and registered
    there, and no container is kept without bindings. So nothing listed is missing from the store,
    no class has two names in one container, and every class registered in a container is listed
    there. -/
theorem scopeTypes_agree_run (changes : List Change) :
    (∀ c t, (run changes).get? c = some t → t.className = c) ∧
    (∀ n k c, (k, c) ∈ (run changes).scopeTypes (.container n) ↔
      ∃ t, (run changes).get? c = some t ∧ t.key = k ∧ .container n ∈ (run changes).scopes c) ∧
    (∀ n k c, (k, c) ∈ (run changes).scopeTypes (.container n) →
      (run changes).contains c = true) ∧
    (∀ n k k' c, (k, c) ∈ (run changes).scopeTypes (.container n) →
      (k', c) ∈ (run changes).scopeTypes (.container n) → k = k') ∧
    (∀ n c, .container n ∈ (run changes).scopes c →
      ∃ k, (k, c) ∈ (run changes).scopeTypes (.container n)) ∧
    (∀ (n : NodeId) (b : Bindings), (run changes).containers[n]? = some b → b.isEmpty = false) := by
  have h := coherent_run changes
  have hlist := fun n k c => h.mem_scopeTypes_container (n := n) (k := k) (c := c)
  -- the first two facts are the invariant; the others follow from the description of the lists
  refine ⟨h.className_eq, hlist, ?_, ?_, ?_, ?_⟩
  · intro n k c hmem
    -- what is listed is stored
    obtain ⟨t, ht, -⟩ := (hlist n k c).1 hmem
    rw [contains_eq_isSome, ht, Option.isSome_some]
  · intro n k k' c hmem hmem'
    -- its names are the key of one type
    obtain ⟨t, ht, hk, -⟩ := (hlist n k c).1 hmem
    obtain ⟨t', ht', hk', -⟩ := (hlist n k' c).1 hmem'
    rw [← hk, ← hk', Option.some.inj (ht.symm.trans ht')]
  · intro n c hs
    -- what is registered is stored, so it has a key to be listed under
    obtain ⟨t, ht⟩ := exists_get?_of_mem_scopes hs
    exact ⟨t.key, (hlist n t.key c).2 ⟨t, ht, rfl, hs⟩⟩
  · intro n b hb
    -- a container without bindings is not kept
    cases he : b.isEmpty with
    | false => rfl
    | true =>
      rw [Bindings.isEmpty_iff.1 he] at hb
      exact absurd hb (h.ne_empty n)

/-! ## Classes that are gone -/

/-- What the document scope lists are the types registered there, each under its key. -/
theorem mem_scopeTypes_document {k : QName} {c : ClassName} :
    (k, c) ∈ cat.scopeTypes .document ↔
      ∃ t, cat.get? c = some t ∧ t.key = k ∧ .document ∈ cat.scopes c := by
  -- the document scope has no bindings of its own: it is read off the entries
  show (k, c) ∈ cat.documentTypes.toList ↔ _
  rw [Std.ExtTreeSet.mem_toList, documentTypes, Std.ExtTreeSet.mem_ofList, List.contains_iff_mem,
    List.mem_map]
  constructor
  · intro hex
    -- what is listed comes from an entry that is in the document
    obtain ⟨⟨d, e⟩, hmem, heq⟩ := hex
    obtain ⟨hentry, hdoc⟩ := List.mem_filter.1 hmem
    rw [Std.ExtTreeMap.mem_toList_iff_getElem?_eq_some] at hentry
    obtain ⟨hk, rfl⟩ := Prod.mk.inj heq
    refine ⟨e.type, by simp [get?, hentry], hk, ?_⟩
    simpa [scopes, hentry, Entry.isIn] using hdoc
  · intro hex
    obtain ⟨t, ht, hk, hs⟩ := hex
    -- the stored type is that of an entry, which passes the filter
    obtain ⟨e, he, rfl⟩ := Option.map_eq_some_iff.1 ht
    refine ⟨(c, e), ?_, Prod.ext hk rfl⟩
    rw [List.mem_filter, Std.ExtTreeMap.mem_toList_iff_getElem?_eq_some]
    exact ⟨he, by simpa [scopes, he, Entry.isIn] using hs⟩

/-- A class that is not stored, not listed in any scope and not the meaning of any name. -/
structure Absent (cat : Catalog) (c : ClassName) : Prop where
  contains : cat.contains c = false
  not_listed : ∀ s k, (k, c) ∉ cat.scopeTypes s
  not_resolved : ∀ chain k t, cat.resolve chain k = some t → t.className ≠ c

/-- Only stored types are listed. -/
private theorem Coherent.contains_of_mem_scopeTypes (h : Coherent cat) {s : Scope} {k : QName}
    {c : ClassName} (hmem : (k, c) ∈ cat.scopeTypes s) : cat.contains c = true := by
  have hstored : ∃ t, cat.get? c = some t := by
    cases s with
    | document =>
      obtain ⟨t, ht, -⟩ := mem_scopeTypes_document.1 hmem
      exact ⟨t, ht⟩
    | container n =>
      obtain ⟨t, ht, -⟩ := h.mem_scopeTypes_container.1 hmem
      exact ⟨t, ht⟩
  obtain ⟨t, ht⟩ := hstored
  rw [contains_eq_isSome, ht, Option.isSome_some]

/-- Only stored types are the meaning of names. -/
private theorem Coherent.get?_of_resolve (h : Coherent cat) {chain : List Scope} {k : QName}
    {t : ElementType} (hres : cat.resolve chain k = some t) : cat.get? t.className = some t := by
  obtain ⟨s, -, hs⟩ := List.exists_of_findSome?_eq_some hres
  cases s with
  | document =>
    -- the document reads the type off an entry
    obtain ⟨⟨c, e⟩, hfind, rfl⟩ := Option.map_eq_some_iff.1 hs
    have hentry := List.mem_of_find?_eq_some hfind
    rw [Std.ExtTreeMap.mem_toList_iff_getElem?_eq_some] at hentry
    have hget : cat.get? c = some e.type := by simp [get?, hentry]
    rw [h.className_eq c e.type hget, hget]
  | container n =>
    -- a container finds a class, and the type is looked up under it
    obtain ⟨c, -, hget⟩ := Option.bind_eq_some_iff.1 hs
    rw [h.className_eq c t hget, hget]

/-- A class that is not stored is nowhere to be met. -/
theorem Coherent.absent_iff (h : Coherent cat) {c : ClassName} :
    Absent cat c ↔ cat.contains c = false := by
  refine ⟨Absent.contains, fun hc => ⟨hc, fun s k hmem => ?_, fun chain k t hres heq => ?_⟩⟩
  · rw [h.contains_of_mem_scopeTypes hmem] at hc
    simp at hc
  · rw [contains_eq_isSome, ← heq, h.get?_of_resolve hres] at hc
    simp at hc

end MacroTypes.Catalog
