import MacroTypes.ClassName.Basic
import MacroTypes.NodeId
import MacroTypes.QName
import MacroTypes.Text.Lowercase

/-!
# Element types

An element type says how elements of one kind are written: the name they are used under, the
attributes they take and the types of the elements nested in them. Attributes are kept under
lower-cased names and looked up without regard to case.
-/

namespace MacroTypes

/-- The type of an attribute's value. -/
inductive AttrType where
  /-- Free text. -/
  | string
  /-- A whole number. -/
  | integer
  /-- A truth value. -/
  | boolean
  /-- A reference to the identifier of an element. -/
  | reference
deriving DecidableEq, Repr

/-- How elements of one kind are written. -/
structure ElementType where
  /-- The name under which the type is used. -/
  key : QName
  /-- The identity of the type. -/
  className : ClassName
  /-- Whether the elements are tasks. -/
  isTask : Bool := false
  /-- Whether every task may be nested in the elements. -/
  acceptsTasks : Bool := false
  /-- The types of the attributes, by lower-cased name. -/
  attributes : Std.ExtTreeMap String AttrType := ∅
  /-- The classes of the nested elements, by name. -/
  nested : Std.ExtTreeMap QName ClassName := ∅
  /-- The element whose declaration defines the type, if there is one. -/
  definingNode? : Option NodeId := none
deriving DecidableEq

namespace ElementType

/-- The type of an attribute, whatever the case of its name. -/
def attr? (t : ElementType) (name : String) : Option AttrType :=
  t.attributes[Text.lowercase name]?

/-- Whether the type has an attribute of this name. -/
def hasAttr (t : ElementType) (name : String) : Bool :=
  (t.attr? name).isSome

/-- The class of the elements nested under a name. -/
def nestedClass? (t : ElementType) (key : QName) : Option ClassName :=
  t.nested[key]?

end ElementType

end MacroTypes
