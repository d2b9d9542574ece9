import MacroTypes.Tree.Edit
import Std.Data.ExtTreeSet

/-!
# Sample scripts

A sample script is a project with declarations in it, written part by part. Declarations added
through the script are remembered by name; of two with the same name the later one counts.
-/

namespace MacroTypes

/-- One child of a declaration. -/
inductive MacroPart where
  /-- An attribute of this name. -/
  | attribute (name : String)
  /-- A nested element of this name. -/
  | element (name : String)
  /-- A body. -/
  | sequential
  /-- A child with this tag and no name. -/
  | unnamed (tag : String)
  /-- Some text. -/
  | text
deriving DecidableEq, Repr

/-- The node that a part becomes. -/
def MacroPart.toElement : MacroPart → Element
  | .attribute name => { tag := "attribute", name? := some name }
  | .element name => { tag := "element", name? := some name }
  | .sequential => { kind := .tasksContainer, tag := "sequential" }
  | .unnamed tag => { tag }
  | .text => .text

/-- The nodes of a declaration. -/
structure MacroNodes where
  /-- The declaration itself. -/
  node : NodeId
  /-- The attributes in document order. -/
  attributes : List NodeId := []
  /-- The nested elements in document order. -/
  elements : List NodeId := []
  /-- The first body. -/
  sequential? : Option NodeId := none
deriving DecidableEq, Repr

/-- Notes the node that a part has become. -/
def MacroNodes.note (nodes : MacroNodes) (part : MacroPart) (n : NodeId) : MacroNodes :=
  match part with
  | .attribute _ => { nodes with attributes := nodes.attributes ++ [n] }
  | .element _ => { nodes with elements := nodes.elements ++ [n] }
  | .sequential => { nodes with sequential? := nodes.sequential?.or (some n) }
  | .unnamed _ | .text => nodes

/-- Adds a part to a declaration. -/
def Tree.addPart (nodes : MacroNodes) (part : MacroPart) : TreeM MacroNodes :=
  nodes.note part <$> addChild nodes.node part.toElement

/-- Adds a declaration as the last child of a node, with its parts as children. -/
def Tree.addMacro (parent : NodeId) (name? : Option String) (parts : List MacroPart) :
    TreeM MacroNodes := do
  let node ← addChild parent { tag := "macrodef", name? }
  parts.foldlM addPart { node }

/-- A project and the declarations added to it by name. -/
structure Script where
  /-- The tree of the script. -/
  tree : Tree
  /-- The project. -/
  project : NodeId
  /-- The nodes of the declarations known by name. -/
  macros : Std.ExtTreeMap String MacroNodes := ∅

/-- Why a script cannot answer. -/
inductive ScriptError where
  /-- The tree cannot be edited. -/
  | tree (e : TreeError)
  /-- No declaration is known by this name. -/
  | unknownMacro (name : String)
deriving DecidableEq, Repr

/-- The wording of the error. -/
def ScriptError.message : ScriptError → String
  | .tree e => s!"fixture error: {e.message}"
  | .unknownMacro name => s!"no macro '{name}' in fixture"

namespace Script

/-- A script with an empty project. -/
def new (projectName : String) : Script :=
  let added := (∅ : Tree).addRoot { kind := .project, tag := "project", name? := some projectName }
  { tree := added.2, project := added.1 }

/-- Adds a named declaration to the project. -/
def declare (s : Script) (name : String) (parts : List MacroPart) : Except ScriptError Script :=
  match Tree.addMacro s.project (some name) parts s.tree with
  | .ok nodes tree => .ok { s with tree, macros := s.macros.insert name nodes }
  | .error e _ => .error (.tree e)

/-- The declaration known by a name. -/
def declaration (s : Script) (name : String) : Except ScriptError NodeId :=
  match s.macros[name]? with
  | some nodes => .ok nodes.node
  | none => .error (.unknownMacro name)

/-- The declarations known by name, in order. -/
def declarations (s : Script) : List NodeId :=
  (Std.ExtTreeSet.ofList (s.macros.values.map MacroNodes.node)).toList

end Script

end MacroTypes
