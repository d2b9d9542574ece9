import MacroTypes.Proofs.Catalog.Agreement

/-!
# Resolving names and listing them

A catalogue answers two questions about a scope: which classes it lists under which names, and which
type a name stands for. The answers come from different records, for the document from the entries
and for a container from its bindings, and yet they agree: a scope gives a name to the smallest
class that it lists under the name (`Coherent.prefers_of_resolveIn`), and a chain of scopes leaves
the choice to the first one that lists the name (`resolve_agrees_run`).
-/

namespace MacroTypes

/-- The first entry of a sorted list that passes a test is the smallest one that passes. -/
private theorem find?_eq_some_of_sorted {α : Type} {r : α → α → Prop} {p : α → Bool} {l : List α}
    (hsorted : l.Pairwise r) {a : α} (h : l.find? p = some a) :
    p a = true ∧ a ∈ l ∧ ∀ b ∈ l, p b = true → b = a ∨ r a b := by
  refine ⟨List.find?_some h, List.mem_of_find?_eq_some h, fun b hb hpb => ?_⟩
  obtain ⟨-, before, after, rfl, hbefore⟩ := List.find?_eq_some_iff_append.1 h
  have hafter := (List.pairwise_append.1 hsorted).2.1
  rcases List.mem_append.1 hb with hb | hb
  · -- what stands before the first entry does not pass
    have hnot := hbefore b hb
    simp [hpb] at hnot
  · -- what stands after it is greater
    rcases List.mem_cons.1 hb with rfl | hb
    · exact .inl rfl
    · exact .inr (List.rel_of_pairwise_cons hafter hb)

namespace Catalog

variable {cat : Catalog}

/-! ## Lists of scopes -/

/-- A scope lists the types registered there, each under its key. -/
theorem Coherent.mem_scopeTypes (h : cat.Coherent) {s : Scope} {k : QName} {c : ClassName} :
    (k, c) ∈ cat.scopeTypes s ↔ ∃ t, cat.get? c = some t ∧ t.key = k ∧ s ∈ cat.scopes c := by
  cases s with
  | document => exact mem_scopeTypes_document
  | container n => exact h.mem_scopeTypes_container

/-- Names stand in order, and classes of one name in the order of classes. -/
theorem scopeTypes_sorted (cat : Catalog) (s : Scope) :
    (cat.scopeTypes s).Pairwise fun a b => bindingOrder a b = .lt := by
  cases s with
  | document => exact Std.ExtTreeSet.ordered_toList
  | container n => exact (cat.bindings n).toList_sorted

/-! ## One scope -/

/-- The name is listed in the scope, and the class is the smallest one listed under it. -/
def Prefers (cat : Catalog) (s : Scope) (k : QName) (c : ClassName) : Prop :=
  (k, c) ∈ cat.scopeTypes s ∧ ∀ d, (k, d) ∈ cat.scopeTypes s → (compare c d).isLE = true

/-- What the document lists are the entries that pass the test for the name. -/
private theorem mem_scopeTypes_document_iff_entry {k : QName} {c : ClassName} :
    (k, c) ∈ cat.scopeTypes .document ↔ ∃ e : Entry, cat.entries[c]? = some e ∧
      (e.isIn .document && e.type.key = k) = true := by
  rw [mem_scopeTypes_document]
  constructor
  · intro hex
    obtain ⟨t, ht, hkey, hdoc⟩ := hex
    obtain ⟨e, he, rfl⟩ := Option.map_eq_some_iff.1 ht
    have hin : e.isIn .document = true := by simpa [scopes, he, Entry.isIn] using hdoc
    exact ⟨e, he, by simp [hin, hkey]⟩
  · intro hex
    obtain ⟨e, he, htest⟩ := hex
    rw [Bool.and_eq_true, decide_eq_true_eq] at htest
    refine ⟨e.type, by simp [get?, he], htest.2, ?_⟩
    simpa [scopes, he, Entry.isIn] using htest.1

/-- A type that a scope gives to a name is that of the smallest class listed under it. -/
theorem Coherent.prefers_of_resolveIn (h : cat.Coherent) {s : Scope} {k : QName} {t : ElementType}
    (hres : cat.resolveIn k s = some t) :
    cat.get? t.className = some t ∧ cat.Prefers s k t.className := by
  cases s with
  | document =>
    obtain ⟨⟨c, e⟩, hfind, rfl⟩ := Option.map_eq_some_iff.1 hres
    -- entries stand in the order of their classes
    obtain ⟨htest, hmem, hfirst⟩ :=
      find?_eq_some_of_sorted Std.ExtTreeMap.ordered_keys_toList hfind
    rw [Std.ExtTreeMap.mem_toList_iff_getElem?_eq_some] at hmem
    have hget : cat.get? c = some e.type := by simp [get?, hmem]
    rw [h.className_eq c e.type hget]
    refine ⟨hget, mem_scopeTypes_document_iff_entry.2 ⟨e, hmem, htest⟩, fun d hd => ?_⟩
    -- any other class that is listed has an entry that passes, and it stands later
    obtain ⟨f, hf, hftest⟩ := mem_scopeTypes_document_iff_entry.1 hd
    rw [← Std.ExtTreeMap.mem_toList_iff_getElem?_eq_some] at hf
    rcases hfirst (d, f) hf hftest with heq | hlt
    · rw [(Prod.mk.inj heq).1]
      exact Std.ReflCmp.isLE_rfl
    · exact Ordering.isLE_of_eq_lt hlt
  | container n =>
    obtain ⟨c, hlookup, hget⟩ := Option.bind_eq_some_iff.1 hres
    rw [h.className_eq c t hget]
    refine ⟨hget, Bindings.mem_toList.2 hlookup, fun d hd => ?_⟩
    -- no other class has the name
    rw [Option.some.inj (hlookup.symm.trans (Bindings.mem_toList.1 hd))]
    exact Std.ReflCmp.isLE_rfl

/-- A scope that lists a name gives a type to it. -/
private theorem Coherent.isSome_resolveIn (h : cat.Coherent) {s : Scope} {k : QName} {c : ClassName}
    (hc : (k, c) ∈ cat.scopeTypes s) : (cat.resolveIn k s).isSome = true := by
  cases s with
  | document =>
    obtain ⟨f, hf, htest⟩ := mem_scopeTypes_document_iff_entry.1 hc
    -- its entry passes the test, so some entry is found
    rw [resolveIn, Option.isSome_map, List.find?_isSome]
    exact ⟨(c, f), Std.ExtTreeMap.mem_toList_iff_getElem?_eq_some.2 hf, htest⟩
  | container n =>
    obtain ⟨u, hu, -⟩ := h.mem_scopeTypes_container.1 hc
    rw [resolveIn, Bindings.mem_toList.1 hc, Option.bind_some, hu]
    rfl

/-- A scope gives no type to a name exactly if it does not list the name. -/
private theorem Coherent.resolveIn_eq_none_iff (h : cat.Coherent) {s : Scope} {k : QName} :
    cat.resolveIn k s = none ↔ ∀ c, (k, c) ∉ cat.scopeTypes s := by
  constructor
  · intro hnone c hc
    have hsome := h.isSome_resolveIn hc
    simp [hnone] at hsome
  · intro hlist
    rw [Option.eq_none_iff_forall_ne_some]
    intro t ht
    exact hlist t.className (h.prefers_of_resolveIn ht).2.1

/-! ## Chains of scopes -/

/-- The first scope of a chain that lists a name. -/
def Decides (cat : Catalog) (chain : List Scope) (k : QName) (s : Scope) : Prop :=
  ∃ before after, chain = before ++ s :: after ∧ (∀ s' ∈ before, ∀ c, (k, c) ∉ cat.scopeTypes s') ∧
    ∃ c, (k, c) ∈ cat.scopeTypes s

/-- Scopes that do not list the name are passed over. -/
private theorem Coherent.resolve_of_decides (h : cat.Coherent) {chain : List Scope} {k : QName}
    {s : Scope} (hs : cat.Decides chain k s) : cat.resolve chain k = cat.resolveIn k s := by
  obtain ⟨before, after, rfl, hbefore, c, hc⟩ := hs
  obtain ⟨t, ht⟩ := Option.isSome_iff_exists.1 (h.isSome_resolveIn hc)
  -- the scopes before give no type, as they do not list the name
  rw [ht, resolve, List.findSome?_eq_some_iff]
  exact ⟨before, s, after, rfl, ht, fun s' hs' => h.resolveIn_eq_none_iff.2 (hbefore s' hs')⟩

/-- A name with a meaning is listed by some scope of the chain, and so by a first one. -/
private theorem Coherent.exists_decides (h : cat.Coherent) {chain : List Scope} {k : QName}
    {t : ElementType} (ht : cat.resolve chain k = some t) : ∃ s, cat.Decides chain k s := by
  obtain ⟨before, s, after, hchain, hres, hbefore⟩ := List.findSome?_eq_some_iff.1 ht
  refine ⟨s, before, after, hchain, fun s' hs' => ?_, t.className, ?_⟩
  · exact h.resolveIn_eq_none_iff.1 (hbefore s' hs')
  · exact (h.prefers_of_resolveIn hres).2.1

theorem Coherent.resolve_eq_none_iff (h : cat.Coherent) {chain : List Scope} {k : QName} :
    cat.resolve chain k = none ↔ ∀ s ∈ chain, ∀ c, (k, c) ∉ cat.scopeTypes s := by
  rw [resolve, List.findSome?_eq_none_iff]
  exact forall_congr' fun s => imp_congr_right fun _ => h.resolveIn_eq_none_iff

/-- After every history of registrations and removals, the meaning of a name can be read off the
    lists of the scopes. A chain of scopes gives no type to a name exactly if none of them lists it.
    Otherwise the first scope that lists it decides, and the type is the one stored under the
    smallest class listed there; it has the name as its key and is registered in that scope. The
    list of a scope is strictly sorted by name and then by class, and it holds exactly the classes
    that are registered in the scope, each under the key of its stored type. -/
theorem resolve_agrees_run (changes : List Change) :
    (∀ chain k, (run changes).resolve chain k = none ↔
      ∀ s ∈ chain, ∀ c, (k, c) ∉ (run changes).scopeTypes s) ∧
    (∀ chain k t, (run changes).resolve chain k = some t → ∃ s, (run changes).Decides chain k s) ∧
    (∀ chain k s, (run changes).Decides chain k s → ∃ t, (run changes).resolve chain k = some t ∧
      (run changes).get? t.className = some t ∧ (run changes).Prefers s k t.className ∧
      t.key = k ∧ (run changes).isRegisteredIn t.className s = true) ∧
    ∀ s, ((run changes).scopeTypes s).Pairwise (fun a b => bindingOrder a b = .lt) ∧
      ∀ k c, (k, c) ∈ (run changes).scopeTypes s ↔
        (run changes).isRegisteredIn c s = true ∧
          ∃ t, (run changes).get? c = some t ∧ t.key = k := by
  have h := coherent_run changes
  refine ⟨fun _ _ => h.resolve_eq_none_iff, fun _ _ _ => h.exists_decides,
    fun chain k s hs => ?_, fun s => ?_⟩
  · -- the scope that decides lists the name, so it gives a type
    have ⟨_, _, _, _, c, hc⟩ := hs
    obtain ⟨t, ht⟩ := Option.isSome_iff_exists.1 (h.isSome_resolveIn hc)
    obtain ⟨hget, hprefers⟩ := h.prefers_of_resolveIn ht
    -- what is listed is registered under the key of its type
    obtain ⟨u, hu, hkey, hmem⟩ := h.mem_scopeTypes.1 hprefers.1
    obtain rfl := Option.some.inj (hget.symm.trans hu)
    exact ⟨t, (h.resolve_of_decides hs).trans ht, hget, hprefers, hkey,
      Std.ExtTreeSet.contains_iff_mem.2 hmem⟩
  · -- the list: being registered is having the scope
    refine ⟨scopeTypes_sorted _ s, fun k c => ?_⟩
    rw [h.mem_scopeTypes, isRegisteredIn, Std.ExtTreeSet.contains_iff_mem]
    constructor
    · intro hex
      obtain ⟨t, ht, hkey, hs⟩ := hex
      exact ⟨hs, t, ht, hkey⟩
    · intro hand
      obtain ⟨hs, t, ht, hkey⟩ := hand
      exact ⟨t, ht, hkey, hs⟩

end Catalog

end MacroTypes
