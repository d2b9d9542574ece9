import Std.Data.ExtTreeMap

/-!
# Qualified names

An element type is used under a name, either plain or inside a namespace. A namespace with an empty
text is still a namespace. Names are ordered by their local part; of two names with one local part,
the plain one comes first and the others follow in the order of their namespaces.
-/

namespace MacroTypes

/-- The name under which an element type is used. -/
structure QName where
  /-- The local part. -/
  name : String
  /-- The namespace, if there is one. -/
  ns? : Option String := none
deriving DecidableEq, Repr

namespace QName

/-- The text of a name: the namespace and a colon, if there is a namespace, and the local part. -/
def display : QName → String
  | ⟨name, none⟩ => name
  | ⟨name, some ns⟩ => ns ++ ":" ++ name

instance : ToString QName := ⟨display⟩

/-- By local part, then by namespace, no namespace first. -/
instance : Ord QName := ⟨compareLex (compareOn name) (compareOn ns?)⟩

instance : Std.TransOrd QName :=
  inferInstanceAs (Std.TransCmp (compareLex (compareOn name) (compareOn ns?)))

instance : Std.LawfulEqOrd QName where
  eq_of_compare {a b} h := by
    cases a; cases b
    have h := compareLex_eq_eq.1 h
    simp only [compareOn] at h
    simp [Std.LawfulEqOrd.eq_of_compare h.1, Std.LawfulEqOrd.eq_of_compare h.2]

end QName

end MacroTypes
