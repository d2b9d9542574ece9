import Std.Data.ExtTreeMap

/-!
# Node identifiers

The elements of a tree are named by numbers that are never given out twice. Identifiers are ordered
by number, so that finite maps over them list their entries in the order of creation.
-/

namespace MacroTypes

/-- The identifier of a node. -/
structure NodeId where
  /-- The number that the tree gave the node. -/
  index : Nat
deriving DecidableEq, Repr

namespace NodeId

/-- The text of an identifier: `n` and the number. -/
def display (n : NodeId) : String :=
  "n" ++ toString n.index

instance : ToString NodeId := ⟨display⟩

instance : Ord NodeId := ⟨compareOn index⟩

instance : Std.TransOrd NodeId := inferInstanceAs (Std.TransCmp (compareOn index))

instance : Std.LawfulEqOrd NodeId where
  eq_of_compare {a b} h := by
    cases a; cases b
    exact congrArg mk (Std.LawfulEqOrd.eq_of_compare (α := Nat) h)

end NodeId

end MacroTypes
