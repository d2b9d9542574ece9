import MacroTypes.Tree.Basic

/-!
# Well-linked trees

In a well-linked tree the links up, the links down and the list of roots say the same, every parent
is there and may have children, and siblings stand in the order in which they were added.
-/

namespace MacroTypes.Tree

/-- The links of a tree agree with each other. -/
structure Linked (t : Tree) : Prop where
  /-- The roots are the nodes without a parent. -/
  mem_roots_iff : ∀ n, n ∈ t.roots ↔ t.contains n = true ∧ t.parent? n = none
  /-- The children of a node are the nodes with that parent. -/
  mem_children_iff : ∀ p n, n ∈ t.children p ↔ t.parent? n = some p
  /-- A parent is there and is not text. -/
  isStructured_parent : ∀ p n, t.parent? n = some p →
    ∃ k, t.kind? p = some k ∧ k.isStructured = true
  /-- Roots stand in the order in which they were added. -/
  roots_sorted : t.roots.Pairwise fun a b => a.index < b.index
  /-- Siblings stand in the order in which they were added. -/
  children_sorted : ∀ p, (t.children p).Pairwise fun a b => a.index < b.index

theorem linked_empty : Linked ∅ where
  mem_roots_iff n := by simp [show (∅ : Tree).roots = [] from rfl, contains,
    show (∅ : Tree).nodes = ∅ from rfl]
  mem_children_iff p n := by simp [children, parent?, show (∅ : Tree).nodes = ∅ from rfl]
  isStructured_parent p n h := by simp [parent?, show (∅ : Tree).nodes = ∅ from rfl] at h
  roots_sorted := .nil
  children_sorted p := by simp [children, show (∅ : Tree).nodes = ∅ from rfl]

end MacroTypes.Tree
