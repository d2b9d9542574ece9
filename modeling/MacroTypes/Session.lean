import MacroTypes.Document.Define
import MacroTypes.Tree.Change

/-!
# Sessions

A session is a tree and the document that follows it. Its history is a list of events: edits of the
tree, a new tree in place of the old, another template, and the operations of the document on the
tree as it is at that moment.
-/

namespace MacroTypes

/-- A tree and its document. -/
structure Session where
  /-- The tree. -/
  tree : Tree := ∅
  /-- The document. -/
  document : Document

namespace Session

/-- Something that happens in a session. -/
inductive Event where
  /-- The tree is edited. -/
  | edit (change : Tree.Change)
  /-- A new tree takes the place of the old. -/
  | newTree
  /-- The template is replaced. -/
  | setTemplate (template? : Option ElementType)
  /-- A declaration is defined over what it holds. -/
  | update (n : NodeId)
  /-- A declaration is released and defined anew. -/
  | refresh (n : NodeId)
  /-- Declarations are released and then defined anew. -/
  | refreshAll (ns : List NodeId)
  /-- A declaration is released. -/
  | release (n : NodeId)
  /-- A removed declaration is forgotten. -/
  | forget (n : NodeId)
deriving DecidableEq

/-- The session after an event. -/
def next (s : Session) : Event → Session
  | .edit change => { s with tree := s.tree.change change }
  | .newTree => { s with tree := ∅ }
  | .setTemplate template? => { s with document := s.document.withTemplate template? }
  | .update n => { s with document := (s.document.update s.tree n).2 }
  | .refresh n => { s with document := (s.document.refresh s.tree n).2 }
  | .refreshAll ns => { s with document := s.document.refreshAll s.tree ns }
  | .release n => { s with document := s.document.release n }
  | .forget n => { s with document := s.document.forget n }

/-- The session after a history of events. -/
def run (s : Session) (events : List Event) : Session :=
  events.foldl next s

/-! ## An example -/

/-- A project with a declaration that declares an attribute, a nested element and a body. -/
def sample : List Event :=
  [ .edit (.addRoot { kind := .project, tag := "project" }),
    .edit (.addChild ⟨1⟩ { tag := "macrodef", name? := some "Foo" }),
    .edit (.addChild ⟨2⟩ { tag := "attribute", name? := some "Bar" }),
    .edit (.addChild ⟨2⟩ { tag := "element", name? := some "Baz" }),
    .edit (.addChild ⟨2⟩ { kind := .tasksContainer, tag := "sequential" }),
    .update ⟨2⟩ ]

example : (Document.new {}).toOption.map (fun d =>
    (run { document := d } sample).document.catalog.classNames) =
    some [⟨"AntMacroDef[Foo]"⟩, ⟨"AntMacroDef[Foo]$Baz"⟩] := by decide +kernel

end Session

end MacroTypes
