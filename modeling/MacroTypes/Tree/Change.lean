import MacroTypes.Tree.Edit
import MacroTypes.Tree.Linked
import MacroTypes.Tree.Preorder

/-!
# Changes of a tree

A history of a tree is a list of edits, made one after the other from the empty tree. An edit that
fails leaves behind the tree that its failure carries.
-/

namespace MacroTypes

/-- The tree that a step leaves behind, whether or not it fails. -/
def TreeM.after {α : Type} (step : TreeM α) (t : Tree) : Tree :=
  match step t with
  | .ok _ t => t
  | .error _ t => t

namespace Tree

/-- An edit of a tree. -/
inductive Change where
  /-- Adds a root. -/
  | addRoot (e : Element)
  /-- Adds a child. -/
  | addChild (parent : NodeId) (e : Element)
  /-- Changes or clears a name. -/
  | rename (n : NodeId) (name? : Option String)
  /-- Removes a node and what is below it. -/
  | remove (n : NodeId)
deriving DecidableEq, Repr

/-- The tree after an edit. -/
def change (t : Tree) : Change → Tree
  | .addRoot e => (t.addRoot e).2
  | .addChild parent e => (Tree.addChild parent e).after t
  | .rename n name? => (Tree.rename n name?).after t
  | .remove n => (Tree.remove n).after t

/-- The tree after a history of edits. -/
def run (changes : List Change) : Tree :=
  changes.foldl change ∅

end Tree

end MacroTypes
