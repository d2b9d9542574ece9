import MacroTypes.ElementType.Basic
import MacroTypes.Text.Blank

/-!
# Building element types

A builder collects the attributes and the nested elements of a type in the order in which they are
given. Building refuses a blank class name, then an attribute whose lower-cased name was given
before, then a nested element whose name was given before.
-/

namespace MacroTypes

/-- Why a type cannot be built. -/
inductive BuildError where
  /-- Two attributes have this lower-cased name. -/
  | duplicateAttribute (className : ClassName) (name : String)
  /-- Two nested elements have this name. -/
  | duplicateNested (className : ClassName) (key : QName)
  /-- The type used under this name has a blank class name. -/
  | blankClassName (key : QName)
deriving DecidableEq, Repr

/-- The wording of the error. -/
def BuildError.message : BuildError → String
  | .duplicateAttribute className name => s!"Duplicate attribute '{name}' on {className}"
  | .duplicateNested className key => s!"Duplicate nested element '{key}' on {className}"
  | .blankClassName key => s!"Blank class name for type '{key}'"

namespace ElementType

/-- Adds an entry to a map, unless its key is there already. -/
def insertNew {κ ν ε : Type} [Ord κ] [Std.TransOrd κ] (duplicate : κ → ε)
    (m : Std.ExtTreeMap κ ν) (entry : κ × ν) : Except ε (Std.ExtTreeMap κ ν) :=
  if entry.1 ∈ m then .error (duplicate entry.1) else .ok (m.insert entry.1 entry.2)

/-- Makes a map of entries; the first key that is given again is the error. -/
def collectDistinct {κ ν ε : Type} [Ord κ] [Std.TransOrd κ] (duplicate : κ → ε)
    (entries : List (κ × ν)) : Except ε (Std.ExtTreeMap κ ν) :=
  entries.foldlM (insertNew duplicate) ∅

/-- A type under construction. -/
structure Builder where
  /-- The name under which the type is used. -/
  key : QName
  /-- The identity of the type. -/
  className : ClassName
  /-- Whether the elements are tasks. -/
  isTask : Bool := false
  /-- Whether every task may be nested in the elements. -/
  acceptsTasks : Bool := false
  /-- The attributes given so far, with lower-cased names. -/
  attributes : List (String × AttrType) := []
  /-- The nested elements given so far. -/
  nested : List (QName × ClassName) := []
deriving DecidableEq, Repr

namespace Builder

/-- Gives an attribute. -/
def addAttr (b : Builder) (name : String) (type : AttrType) : Builder :=
  { b with attributes := b.attributes ++ [(Text.lowercase name, type)] }

/-- Gives a nested element. -/
def addNested (b : Builder) (key : QName) (className : ClassName) : Builder :=
  { b with nested := b.nested ++ [(key, className)] }

/-- Makes the elements tasks. -/
def asTask (b : Builder) : Builder :=
  { b with isTask := true }

/-- Lets every task be nested in the elements. -/
def acceptingTasks (b : Builder) : Builder :=
  { b with acceptsTasks := true }

/-- One thing said about the type under construction. -/
inductive Part where
  /-- It has this attribute. -/
  | attr (name : String) (type : AttrType)
  /-- It has this nested element. -/
  | nested (key : QName) (className : ClassName)
  /-- Its elements are tasks. -/
  | task
  /-- Every task may be nested in its elements. -/
  | allTasks
deriving DecidableEq, Repr

/-- Says one more thing about the type. -/
def add (b : Builder) : Part → Builder
  | .attr name type => b.addAttr name type
  | .nested key className => b.addNested key className
  | .task => b.asTask
  | .allTasks => b.acceptingTasks

/-- A builder of which these things were said, in order. -/
def ofParts (key : QName) (className : ClassName) (parts : List Part) : Builder :=
  parts.foldl add { key, className }

/-- The finished type. -/
def build (b : Builder) : Except BuildError ElementType := do
  if Text.isBlank b.className.text then
    throw (.blankClassName b.key)
  let attributes ← collectDistinct (.duplicateAttribute b.className) b.attributes
  let nested ← collectDistinct (.duplicateNested b.className) b.nested
  return { b with attributes, nested, definingNode? := none }

end Builder

end ElementType

end MacroTypes
