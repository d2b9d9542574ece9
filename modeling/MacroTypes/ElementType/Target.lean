import MacroTypes.ElementType.Builder

/-!
# The type of targets

A declared element may hold whatever a target may hold, so the type of a target is the template
from which the types of declared elements are made.
-/

namespace MacroTypes.ElementType

/-- The class of the type of targets. -/
def targetClass : ClassName :=
  ⟨"org.apache.tools.ant.Target"⟩

/-- The attributes of a target. -/
def targetAttributes : List String :=
  ["name", "depends", "if", "unless", "description", "extensionof", "onmissingextensionpoint"]

/-- The type of targets: every attribute is text, and every task may be nested. -/
def target : Except BuildError ElementType :=
  (Builder.ofParts ⟨"target", none⟩ targetClass
    (.allTasks :: targetAttributes.map (.attr · .string))).build

end MacroTypes.ElementType
