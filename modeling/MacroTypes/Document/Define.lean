import MacroTypes.Document.Release

/-!
# Defining types

Defining a declaration registers the types of its declared elements in the document, each made from
the stored type of its class or else from the template, and its own type in the project. Inside the
body the type and the types of its elements are registered too, so that a declaration can use
itself. Nested classes that an earlier definition had and this one lacks leave the catalogue.

`update` defines a declaration over what it holds, `refresh` releases it first.
-/

namespace MacroTypes

/-- The type of a declared element: that of its class, or else the template, under the declared
name. -/
def Catalog.declaredElement? (cat : Catalog) (template? : Option ElementType) (owner : ClassName)
    (element : NodeId × String) : Option ElementType :=
  ((cat.get? (owner.nested element.2)).or template?).map fun seed =>
    { seed with
      key := ⟨element.2, none⟩
      className := owner.nested element.2
      isTask := false
      definingNode? := some element.1 }

/-- Registers the type of a declared element in the document and notes its class. -/
def Catalog.registerElement (template? : Option ElementType) (owner : ClassName)
    (state : Std.ExtTreeMap QName ClassName × Catalog) (element : NodeId × String) :
    Std.ExtTreeMap QName ClassName × Catalog :=
  match state.2.declaredElement? template? owner element with
  | none => state
  | some t => (state.1.insert t.key t.className, state.2.register .document t)

/-- Registers the types of declared elements one after the other. The result is their classes by
name and the new catalogue. -/
def Catalog.registerElements (cat : Catalog) (template? : Option ElementType) (owner : ClassName)
    (elements : List (NodeId × String)) : Std.ExtTreeMap QName ClassName × Catalog :=
  elements.foldl (registerElement template? owner) (∅, cat)

/-- Registers a type in a container, if there is one. -/
def Catalog.registerInside (cat : Catalog) (container? : Option NodeId) (t : ElementType) :
    Catalog :=
  container?.elim cat fun n => cat.register (.container n) t

/-- Registers the stored types of some classes in a container, if there is one. -/
def Catalog.registerClassesInside (cat : Catalog) (container? : Option NodeId)
    (cs : List ClassName) : Catalog :=
  cs.foldl (fun cat c => (cat.get? c).elim cat (cat.registerInside container?)) cat

namespace Document

/-- Registers the type of a declaration and those of its elements, and holds the definition. -/
def define (doc : Document) (decl : Declaration) : Document :=
  let kept := doc.releaseStale decl
  let stored? := kept.2.catalog.get? (decl.className doc.dialect)
  -- the elements come first, since the type lists the classes that they get
  let elements := kept.2.catalog.registerElements doc.template? (decl.className doc.dialect)
    decl.elements
  let t := decl.typeOver doc.dialect elements.1 stored?
  -- the type is placed in the project before the classes that it lacks leave
  let catalog := elements.2.registerInside decl.project? t
  let catalog := catalog.unregisterAll (kept.1.filter (· ∉ elements.1.values))
  -- in the body the type comes first: an element of its name takes that name from it
  let catalog := catalog.registerInside decl.body? t
  { kept.2 with
    catalog := catalog.registerClassesInside decl.body? elements.1.values
    held := kept.2.held.insert decl.node
      { type := t, project? := decl.project?, body? := decl.body? } }

/-- Defines a declaration from what it says now. A declaration without a name is released, if it
holds a definition. The result is the class defined and the new document. -/
def update (doc : Document) (t : Tree) (n : NodeId) : Option ClassName × Document :=
  match t.declaration? doc.dialect n with
  | none => (none, if n ∈ doc.held then doc.release n else doc)
  | some decl => (some (decl.className doc.dialect), doc.define decl)

/-- Releases a declaration and defines it anew. -/
def refresh (doc : Document) (t : Tree) (n : NodeId) : Option ClassName × Document :=
  (doc.release n).update t n

/-- Releases declarations and then defines them anew. -/
def refreshAll (doc : Document) (t : Tree) (ns : List NodeId) : Document :=
  -- all releases come first, so that no update meets what another node is about to lose
  ns.foldl (fun doc n => (doc.update t n).2) (ns.foldl release doc)

end Document

end MacroTypes
