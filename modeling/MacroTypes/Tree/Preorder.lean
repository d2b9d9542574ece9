import MacroTypes.Tree.Basic

/-!
# What is below a node

`Reaches` follows the links to children, `Preorder` lists what some nodes and the links below them
hold, each node before what is below it and in document order. `Preorder.unique` says that there is
one such list at most.
-/

namespace MacroTypes.Tree

/-- The second node is the first or lies below it. -/
inductive Reaches (t : Tree) : NodeId → NodeId → Prop where
  /-- A node that is there reaches itself. -/
  | refl {n : NodeId} : t.contains n = true → Reaches t n n
  /-- A node reaches what its children reach. -/
  | step {p c n : NodeId} : c ∈ t.children p → Reaches t c n → Reaches t p n

/-- The nodes at and below some nodes, each before what is below it, in document order. -/
inductive Preorder (t : Tree) : List NodeId → List NodeId → Prop where
  /-- There is nothing at and below no nodes. -/
  | nil : Preorder t [] []
  /-- A node comes first, then what is below it, then the rest. -/
  | cons {n : NodeId} {below rest after : List NodeId} : t.contains n = true →
      Preorder t (t.children n) below → Preorder t rest after →
      Preorder t (n :: rest) (n :: (below ++ after))

/-- Some nodes have one listing at most. -/
theorem Preorder.unique {t : Tree} {ns xs ys : List NodeId} (hx : Preorder t ns xs)
    (hy : Preorder t ns ys) : xs = ys := by
  induction hx generalizing ys with
  | nil => cases hy; rfl
  | cons _ _ _ ihbelow ihafter =>
    cases hy with
    | cons _ hbelow hafter => rw [ihbelow hbelow, ihafter hafter]

end MacroTypes.Tree
