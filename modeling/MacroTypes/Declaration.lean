import MacroTypes.Dialect
import MacroTypes.Tree.Basic

/-!
# Declarations

What a declaration says is read off the tree: the name it declares, the project around it, its body
and the attributes and nested elements that its children declare. A name counts only if it is not
blank, and a node without such a name declares nothing.
-/

namespace MacroTypes

namespace Tree

/-- The declared name of a node, if it is not blank. -/
def declaredName? (t : Tree) (n : NodeId) : Option String :=
  (t.name? n).filter (!Text.isBlank ·)

/-- The children with a tag and a declared name, in document order. -/
def declaredChildren (t : Tree) (n : NodeId) (tag : String) : List (NodeId × String) :=
  (t.children n).filterMap fun c =>
    if (t.kind? c).any NodeKind.isStructured && t.tag? c = some tag then
      (t.declaredName? c).map (c, ·)
    else none

end Tree

/-- What a declaration says. -/
structure Declaration where
  /-- The node of the declaration. -/
  node : NodeId
  /-- The declared name. -/
  name : String
  /-- The project around the declaration. -/
  project? : Option NodeId := none
  /-- The body, the first child that is a task container. -/
  body? : Option NodeId := none
  /-- The names of the declared attributes in document order. -/
  attributes : List String := []
  /-- The nodes and names of the declared nested elements in document order. -/
  elements : List (NodeId × String) := []
deriving DecidableEq, Repr

/-- What the node of a tree declares. -/
def Tree.declaration? (t : Tree) (d : Dialect) (n : NodeId) : Option Declaration :=
  (t.declaredName? n).map fun name =>
    { node := n
      name
      project? := t.enclosingProject? n
      body? := t.firstChild? n .tasksContainer
      attributes := (t.declaredChildren n d.attributeTag).map Prod.snd
      elements := t.declaredChildren n d.elementTag }

namespace Declaration

/-- The class of the type that the declaration defines. -/
def className (decl : Declaration) (d : Dialect) : ClassName :=
  .ofDeclaration d.kind decl.name

/-- The attributes of the type that the declaration defines. -/
def attributeTypes (decl : Declaration) (d : Dialect) : Std.ExtTreeMap String AttrType :=
  decl.attributes.foldl (fun m name => m.insert (Text.lowercase name) d.attributeType) ∅

/-- The type that the declaration defines, a task, when its nested elements have these classes. -/
def elementType (decl : Declaration) (d : Dialect) (nested : Std.ExtTreeMap QName ClassName) :
    ElementType where
  key := ⟨decl.name, none⟩
  className := decl.className d
  isTask := true
  acceptsTasks := false
  attributes := decl.attributeTypes d
  nested := nested
  definingNode? := some decl.node

/-- The type that the declaration makes of a stored type, in which everything that the declaration
says is said anew. -/
def redefine (decl : Declaration) (d : Dialect) (nested : Std.ExtTreeMap QName ClassName)
    (stored : ElementType) : ElementType :=
  { stored with
    key := ⟨decl.name, none⟩
    className := decl.className d
    isTask := true
    acceptsTasks := false
    attributes := decl.attributeTypes d
    nested := nested
    definingNode? := some decl.node }

/-- The type that the declaration defines, made of the stored type of its class if there is one. -/
def typeOver (decl : Declaration) (d : Dialect) (nested : Std.ExtTreeMap QName ClassName)
    (stored? : Option ElementType) : ElementType :=
  stored?.elim (decl.elementType d nested) (decl.redefine d nested)

/-- A declaration says all there is to a type, so nothing of the stored type is left. -/
theorem typeOver_eq (decl : Declaration) (d : Dialect) (nested : Std.ExtTreeMap QName ClassName)
    (stored? : Option ElementType) :
    decl.typeOver d nested stored? = decl.elementType d nested := by
  cases stored? with
  | none => rfl
  | some stored => rfl

end Declaration

end MacroTypes
