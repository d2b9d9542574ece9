import MacroTypes.NodeId

/-!
# Scopes

An element type is registered in the document as a whole or in a container, an element whose
children may be elements of that type. The document comes first in the order of scopes; containers
follow in the order of their identifiers.
-/

namespace MacroTypes

/-- A place where element types are registered. -/
inductive Scope where
  /-- The whole document. -/
  | document
  /-- The inside of one element. -/
  | container (node : NodeId)
deriving DecidableEq, Repr

namespace Scope

/-- The text of a scope. -/
def display : Scope → String
  | document => "document"
  | container n => "container " ++ n.display

instance : ToString Scope := ⟨display⟩

/-- The element of a container scope. -/
def node? : Scope → Option NodeId
  | document => none
  | container n => some n

private theorem node?_inj {s t : Scope} : s.node? = t.node? ↔ s = t := by
  cases s <;> cases t <;> simp [node?]

/-- The document first, then containers by identifier. -/
instance : Ord Scope := ⟨compareOn node?⟩

instance : Std.TransOrd Scope := inferInstanceAs (Std.TransCmp (compareOn node?))

instance : Std.LawfulEqOrd Scope where
  eq_of_compare h := node?_inj.1 (Std.LawfulEqOrd.eq_of_compare (α := Option NodeId) h)

end Scope

end MacroTypes
