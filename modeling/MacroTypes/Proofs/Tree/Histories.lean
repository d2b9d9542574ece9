import MacroTypes.Proofs.Tree.EditViews

/-!
# Histories of a tree

Every history of edits leaves a well-linked tree (`linked_run`), and from one tree of a history to a
later one the numbers in use only grow while the nodes that stay keep kind and parent
(`Linked.precedes_change`).
-/

namespace MacroTypes.Tree

/-! ## Every edit keeps the links in agreement -/

private theorem parent?_nextId (t : Tree) : t.parent? t.nextId = none := by
  simp [parent?, getElem?_nextId]

/-- The next identifier may close any sorted list of nodes that are there. -/
private theorem sorted_append_nextId {t : Tree} {ns : List NodeId}
    (hsorted : ns.Pairwise fun a b => a.index < b.index) (hlt : ∀ n ∈ ns, n.index < t.next) :
    (ns ++ [t.nextId]).Pairwise fun a b => a.index < b.index := by
  rw [List.pairwise_append]
  refine ⟨hsorted, List.pairwise_singleton _ _, fun a ha b hb => ?_⟩
  rw [List.mem_singleton.1 hb]
  exact hlt a ha

theorem Linked.addRoot {t : Tree} (h : Linked t) (e : Element) : Linked (t.addRoot e).2 where
  mem_roots_iff n := by
    rw [roots_addRoot, List.mem_append, List.mem_singleton, h.mem_roots_iff n, contains_addRoot,
      parent?_addRoot]
    -- the new root is there, and nothing else becomes a root
    constructor
    · intro hor
      rcases hor with ⟨hn, hp⟩ | rfl
      · exact ⟨.inr hn, hp⟩
      · exact ⟨.inl rfl, parent?_nextId t⟩
    · intro hand
      obtain ⟨hor, hp⟩ := hand
      rcases hor with rfl | hn
      · exact .inr rfl
      · exact .inl ⟨hn, hp⟩
  mem_children_iff p n := by
    rw [children_addRoot, parent?_addRoot]
    exact h.mem_children_iff p n
  isStructured_parent p n hp := by
    rw [parent?_addRoot] at hp
    obtain ⟨k, hk, hs⟩ := h.isStructured_parent p n hp
    -- the parent was there before, so it is not the new root
    obtain ⟨d, hd, -⟩ := Option.map_eq_some_iff.1 hk
    exact ⟨k, by rw [kind?_addRoot, if_neg (ne_nextId hd), hk], hs⟩
  roots_sorted := by
    rw [roots_addRoot]
    -- every number in use is smaller than the next one
    refine sorted_append_nextId h.roots_sorted fun n hn => ?_
    exact index_lt_of_contains ((h.mem_roots_iff n).1 hn).1
  children_sorted p := by
    rw [children_addRoot]
    exact h.children_sorted p

/-- The new node is a child of its parent only, and the children of before are those of before. -/
private theorem Linked.mem_children_appendChild {t : Tree} (h : Linked t) {parent : NodeId}
    {d : Node} (hd : t.nodes[parent]? = some d) (e : Element) (p n : NodeId) :
    n ∈ (t.appendChild parent d hd e).children p ↔
      (t.appendChild parent d hd e).parent? n = some p := by
  rw [children_appendChild, parent?_appendChild]
  by_cases hn : n = t.nextId
  · -- its number was free, so no node had it as a child
    subst hn
    have hfree : t.nextId ∉ t.children p := by
      rw [h.mem_children_iff p, parent?_nextId]
      simp
    by_cases hp : p = parent
    · simp [hp]
    · simp [hp, hfree, Ne.symm hp]
  · -- the list of the parent grows by the new node only
    rw [if_neg hn, ← h.mem_children_iff p n]
    by_cases hp : p = parent
    · simp [hp, hn]
    · simp [hp]

theorem Linked.appendChild {t : Tree} (h : Linked t) {parent : NodeId} {d : Node}
    (hd : t.nodes[parent]? = some d) (hs : d.element.kind.isStructured = true) (e : Element) :
    Linked (t.appendChild parent d hd e) where
  mem_roots_iff n := by
    rw [roots_appendChild, h.mem_roots_iff n, contains_appendChild, parent?_appendChild]
    by_cases hn : n = t.nextId
    · -- the new node is no root, and before it was not there
      simp [hn, contains_eq_isSome, getElem?_nextId]
    · simp [hn]
  mem_children_iff := h.mem_children_appendChild hd e
  isStructured_parent p n hp := by
    rw [parent?_appendChild] at hp
    rw [kind?_appendChild]
    split at hp
    · -- the new node went below a node that takes children
      obtain rfl := Option.some.inj hp
      exact ⟨_, by rw [if_neg (ne_nextId hd), kind?, hd]; rfl, hs⟩
    · -- every other node keeps its parent, which keeps its kind
      obtain ⟨k, hk, hks⟩ := h.isStructured_parent p n hp
      obtain ⟨f, hf, -⟩ := Option.map_eq_some_iff.1 hk
      exact ⟨k, by rw [if_neg (ne_nextId hf), hk], hks⟩
  roots_sorted := by
    rw [roots_appendChild]
    exact h.roots_sorted
  children_sorted p := by
    rw [children_appendChild]
    split
    · -- every number in use is smaller than the next one
      refine sorted_append_nextId (h.children_sorted p) fun n hn => ?_
      exact index_lt_of_contains (contains_of_parent? ((h.mem_children_iff p n).1 hn))
    · exact h.children_sorted p

theorem Linked.rename {t : Tree} (h : Linked t) (n : NodeId) (name? : Option String) :
    Linked ((Tree.rename n name?).after t) := by
  -- no link and no kind changes
  have hviews := views_rename t n name?
  have hroots := (roots_rename t n name?).1
  exact
    { mem_roots_iff := fun m => by
        rw [hroots, (hviews m).1, (hviews m).2.2.2]
        exact h.mem_roots_iff m
      mem_children_iff := fun p m => by
        rw [(hviews p).2.1, (hviews m).1]
        exact h.mem_children_iff p m
      isStructured_parent := fun p m hp => by
        rw [(hviews m).1] at hp
        rw [(hviews p).2.2.1]
        exact h.isStructured_parent p m hp
      roots_sorted := by
        rw [hroots]
        exact h.roots_sorted
      children_sorted := fun p => by
        rw [(hviews p).2.1]
        exact h.children_sorted p }

private theorem contains_of_mem_children {t : Tree} {p c : NodeId} (h : c ∈ t.children p) :
    t.contains p = true := by
  rw [contains_eq_isSome]
  cases hp : t.nodes[p]? with
  | none => simp [children, hp] at h
  | some d => rfl

section Remove

variable {t : Tree} (h : Linked t) {n : NodeId} {d : Node} (hn : t.nodes[n]? = some d)

include h hn

private theorem Linked.roots_remove :
    ((Tree.remove n).after t).roots = t.roots.filter (· ≠ n) := by
  rw [(after_remove hn).2.1, h.roots_unlink hn]

/-- What stays has lost only the removed node of its children, and what went has none any more. -/
private theorem Linked.children_remove (p : NodeId) :
    ((Tree.remove n).after t).children p =
      if ((Tree.remove n).after t).contains p then (t.children p).filter (· ≠ n) else [] := by
  split
  · next hp => exact (h.views_remove hn hp).2.2
  · next hp =>
    rw [List.eq_nil_iff_forall_not_mem]
    exact fun c hc => hp (contains_of_mem_children hc)

/-- The roots that are left are the nodes that are left without a parent. -/
private theorem Linked.mem_roots_remove (m : NodeId) :
    m ∈ ((Tree.remove n).after t).roots ↔
      ((Tree.remove n).after t).contains m = true ∧
        ((Tree.remove n).after t).parent? m = none := by
  have hstay := h.contains_remove hn m
  rw [h.roots_remove hn, List.mem_filter, h.mem_roots_iff m, decide_eq_true_eq]
  constructor
  · -- a root other than the removed node has no parent that could go
    intro hand
    obtain ⟨⟨hm, hp⟩, hmn⟩ := hand
    have hleft := hstay.2 ⟨hm, hmn, by simp [hp]⟩
    exact ⟨hleft, by rw [(h.views_remove hn hleft).1, hp]⟩
  · -- a node that is left has the parent of before
    intro hand
    obtain ⟨hleft, hp⟩ := hand
    obtain ⟨hm, hmn, -⟩ := hstay.1 hleft
    rw [(h.views_remove hn hleft).1] at hp
    exact ⟨⟨hm, hp⟩, hmn⟩

/-- A node goes exactly if its parent goes, the removed node apart, so the links that are left
    agree. -/
private theorem Linked.mem_children_remove (p m : NodeId) :
    m ∈ ((Tree.remove n).after t).children p ↔
      ((Tree.remove n).after t).parent? m = some p := by
  have hstay := h.contains_remove hn m
  constructor
  · -- a child that is listed has a parent that stays, so it stays itself
    intro hm
    have hp := contains_of_mem_children hm
    rw [h.children_remove hn, if_pos hp, List.mem_filter, h.mem_children_iff p m,
      decide_eq_true_eq] at hm
    obtain ⟨hparent, hmn⟩ := hm
    have hleft := hstay.2 ⟨contains_of_parent? hparent, hmn, fun q hq => by
      rwa [Option.some.inj (hq.symm.trans hparent)]⟩
    rw [(h.views_remove hn hleft).1, hparent]
  · -- a node that is left is not the removed one, and its parent is left too
    intro hp
    have hleft := contains_of_parent? hp
    rw [(h.views_remove hn hleft).1] at hp
    obtain ⟨-, hmn, hparent⟩ := hstay.1 hleft
    rw [h.children_remove hn, if_pos (hparent p hp), List.mem_filter, h.mem_children_iff p m]
    exact ⟨hp, decide_eq_true hmn⟩

private theorem Linked.remove_of_getElem? : Linked ((Tree.remove n).after t) where
  mem_roots_iff := h.mem_roots_remove hn
  mem_children_iff := h.mem_children_remove hn
  isStructured_parent p m hp := by
    -- the parent of a node that is left is left, with its kind
    have hleft := contains_of_parent? hp
    rw [(h.views_remove hn hleft).1] at hp
    have hparent := ((h.contains_remove hn m).1 hleft).2.2 p hp
    rw [(h.views_remove hn hparent).2.1]
    exact h.isStructured_parent p m hp
  roots_sorted := by
    rw [h.roots_remove hn]
    exact h.roots_sorted.filter _
  children_sorted p := by
    rw [h.children_remove hn]
    split
    · exact (h.children_sorted p).filter _
    · exact List.Pairwise.nil

end Remove

theorem Linked.remove {t : Tree} (h : Linked t) (n : NodeId) :
    Linked ((Tree.remove n).after t) := by
  cases hn : t.nodes[n]? with
  | none =>
    rw [TreeM.after, remove_of_none hn]
    exact h
  | some d => exact h.remove_of_getElem? hn

theorem Linked.change {t : Tree} (h : Linked t) (x : Change) : Linked (t.change x) := by
  cases x with
  | addRoot e => exact h.addRoot e
  | addChild parent e =>
    show Linked ((Tree.addChild parent e).after t)
    rcases after_addChild t parent e with heq | ⟨d, hd, hs, heq⟩
    · rw [heq]
      exact h
    · rw [heq]
      exact h.appendChild hd hs e
  | rename n name? => exact h.rename n name?
  | remove n => exact h.remove n

/-- Every history of edits leaves a well-linked tree. -/
theorem linked_run (changes : List Change) : Linked (run changes) := by
  suffices h : ∀ {t : Tree}, Linked t → Linked (changes.foldl Tree.change t) from h linked_empty
  induction changes with
  | nil => exact fun h => h
  | cons x rest ih => exact fun h => ih (h.change x)

/-! ## What no edit changes -/

/-- A later tree of the same history: numbers are given out once, and a node that was given one
    before keeps its kind and its parent as long as it stays. -/
structure Precedes (t t' : Tree) : Prop where
  next_le : t.next ≤ t'.next
  kept : ∀ n : NodeId, n.index < t.next → t'.contains n = true →
    t'.parent? n = t.parent? n ∧ t'.kind? n = t.kind? n

theorem Precedes.refl (t : Tree) : Precedes t t :=
  ⟨Nat.le_refl _, fun _ _ _ => ⟨rfl, rfl⟩⟩

/-- What is there later under a number given out before was there before, since it has a kind. -/
theorem Precedes.contains_of_lt {t t' : Tree} (h : Precedes t t') {n : NodeId}
    (hlt : n.index < t.next) (hn : t'.contains n = true) : t.contains n = true := by
  have hkind := congrArg Option.isSome (h.kept n hlt hn).2
  rw [kind?, kind?, Option.isSome_map, Option.isSome_map] at hkind
  rw [contains_eq_isSome] at hn ⊢
  rw [← hkind, hn]

private theorem ne_nextId_of_lt {t : Tree} {n : NodeId} (h : n.index < t.next) : n ≠ t.nextId := by
  intro heq
  rw [heq] at h
  exact Nat.lt_irrefl _ h

theorem Linked.precedes_change {t : Tree} (h : Linked t) (x : Change) :
    Precedes t (t.change x) := by
  cases x with
  | addRoot e =>
    -- only the next number is new
    refine ⟨Nat.le_succ _, fun n hn _ => ?_⟩
    show (t.addRoot e).2.parent? n = _ ∧ (t.addRoot e).2.kind? n = _
    rw [parent?_addRoot, kind?_addRoot, if_neg (ne_nextId_of_lt hn)]
    exact ⟨rfl, rfl⟩
  | addChild parent e =>
    show Precedes t ((Tree.addChild parent e).after t)
    rcases after_addChild t parent e with heq | ⟨d, hd, -, heq⟩
    · rw [heq]
      exact .refl t
    · rw [heq]
      refine ⟨Nat.le_succ _, fun n hn _ => ?_⟩
      -- a number given out before is not that of the new node
      rw [parent?_appendChild, kind?_appendChild, if_neg (ne_nextId_of_lt hn),
        if_neg (ne_nextId_of_lt hn)]
      exact ⟨rfl, rfl⟩
  | rename n name? =>
    refine ⟨Nat.le_of_eq (roots_rename t n name?).2.symm, fun m _ _ => ?_⟩
    have hviews := views_rename t n name? m
    exact ⟨hviews.1, hviews.2.2.1⟩
  | remove n =>
    show Precedes t ((Tree.remove n).after t)
    cases hn : t.nodes[n]? with
    | none =>
      rw [TreeM.after, remove_of_none hn]
      exact .refl t
    | some d =>
      refine ⟨Nat.le_of_eq (after_remove hn).2.2.symm, fun m _ hm => ?_⟩
      -- what is left of a removal is as it was
      have hviews := h.views_remove hn hm
      exact ⟨hviews.1, hviews.2.1⟩

end MacroTypes.Tree
