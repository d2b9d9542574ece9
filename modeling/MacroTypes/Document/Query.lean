import MacroTypes.Declaration
import MacroTypes.Document.Basic
import MacroTypes.Tree.Scopes

/-!
# Questions about the nodes of a script

What a name stands for at a node, what part a node plays in the script, and which class it would
define.
-/

namespace MacroTypes

/-- The part that a node plays in a script. -/
inductive Role where
  /-- A project. -/
  | project
  /-- A target. -/
  | target
  /-- A task. -/
  | task
  /-- A declaration. -/
  | declaration
  /-- Any other part. -/
  | other
deriving DecidableEq, Repr

namespace Document

/-- The type that a name stands for at a node. -/
def resolveAt (doc : Document) (t : Tree) (n : NodeId) (key : QName) : Option ElementType :=
  doc.catalog.resolve (t.scopeChain n) key

/-- Whether a node is written as a declaration. -/
def isDeclaration (doc : Document) (t : Tree) (n : NodeId) : Bool :=
  t.tag? n = some doc.dialect.declarationTag

/-- The part that a node plays. -/
def role (doc : Document) (t : Tree) (n : NodeId) : Role :=
  if doc.isDeclaration t n then .declaration
  else match t.kind? n with
    | some .project => .project
    | some .tasksContainer => .task
    | _ => if t.tag? n = some "target" then .target else .other

/-- The class that a node defines by its name, whether or not it was defined. -/
def declaredClass? (doc : Document) (t : Tree) (n : NodeId) : Option ClassName :=
  (t.declaredName? n).map (.ofDeclaration doc.dialect.kind)

end Document

end MacroTypes
