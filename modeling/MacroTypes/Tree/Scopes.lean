import MacroTypes.Scope
import MacroTypes.Tree.Basic

/-!
# The scopes seen from a node

A node sees the scopes of the projects and task containers around it, itself included, innermost
first, and last the document.
-/

namespace MacroTypes

/-- Whether the inside of a node of this kind is a scope. -/
def NodeKind.isScope : NodeKind → Bool
  | .project | .tasksContainer => true
  | .element | .text => false

namespace Tree

/-- The scopes seen from a node, innermost first. -/
def scopeChain (t : Tree) (n : NodeId) : List Scope :=
  ((n :: t.ancestors n).filter fun a => (t.kind? a).any NodeKind.isScope).map .container ++
    [.document]

end Tree

end MacroTypes
