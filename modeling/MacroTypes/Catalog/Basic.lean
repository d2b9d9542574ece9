import MacroTypes.Bindings
import MacroTypes.ElementType.Basic
import MacroTypes.Scope
import Std.Data.ExtTreeSet

/-!
# The catalogue of element types

A catalogue keeps element types by class, each with the scopes in which it is registered, and for
every container the bindings of the classes registered there. The two sides say the same: a
container binds the key of each type registered in it to the class of that type, and nothing else.

Registering a type replaces the stored type of its class and keeps its other scopes; in every
container among them the class is bound under the key of the new type. A class that had the key in
such a container loses that scope and stays in the catalogue; only `unregister` takes a class out.

The catalogue is a canonical value: two catalogues with the same entries and bindings are equal.
-/

namespace MacroTypes

/-- A type and the scopes in which it is registered. -/
structure Entry where
  /-- The stored type. -/
  type : ElementType
  /-- The scopes of its class. -/
  scopes : Std.ExtTreeSet Scope := ∅
deriving DecidableEq

/-- Whether the type is registered in a scope. -/
def Entry.isIn (e : Entry) (s : Scope) : Bool :=
  e.scopes.contains s

/-- The element types of a document and where they are registered. -/
structure Catalog where
  /-- The stored types, by class. -/
  entries : Std.ExtTreeMap ClassName Entry := ∅
  /-- The bindings of the containers that have any. -/
  containers : Std.ExtTreeMap NodeId Bindings := ∅
deriving DecidableEq

namespace Catalog

instance : EmptyCollection Catalog := ⟨{}⟩

/-! ## Views -/

/-- The stored type of a class. -/
def get? (cat : Catalog) (c : ClassName) : Option ElementType :=
  cat.entries[c]?.map Entry.type

/-- Whether a class is stored. -/
def contains (cat : Catalog) (c : ClassName) : Bool :=
  cat.entries.contains c

/-- The scopes of a class, none if the class is not stored. -/
def scopes (cat : Catalog) (c : ClassName) : Std.ExtTreeSet Scope :=
  (cat.entries[c]?.map Entry.scopes).getD ∅

/-- Whether a class is registered in a scope. -/
def isRegisteredIn (cat : Catalog) (c : ClassName) (s : Scope) : Bool :=
  (cat.scopes c).contains s

/-- The stored classes in order. -/
def classNames (cat : Catalog) : List ClassName :=
  cat.entries.keys

/-- The number of stored classes. -/
def size (cat : Catalog) : Nat :=
  cat.entries.size

/-- Whether no class is stored. -/
def isEmpty (cat : Catalog) : Bool :=
  cat.entries.isEmpty

/-- The bindings of a container. -/
def bindings (cat : Catalog) (n : NodeId) : Bindings :=
  cat.containers[n]?.getD ∅

/-! ## Registering -/

/-- Takes a scope from a class. -/
def dropScope (cat : Catalog) (s : Scope) (c : ClassName) : Catalog :=
  { cat with entries := cat.entries.modify c fun e => { e with scopes := e.scopes.erase s } }

/-- Binds a name to a class in a scope, if the scope is a container. The class that the name stood
for before loses the scope. -/
def bindIn (key : QName) (c : ClassName) (cat : Catalog) : Scope → Catalog
  | .document => cat
  | .container n =>
    let bound := (cat.bindings n).bind key c
    let cat := { cat with containers := cat.containers.insert n bound.2 }
    bound.1.elim cat (cat.dropScope (.container n))

/-- Whether a scope is a container that has bindings. -/
def hasBindings (cat : Catalog) : Scope → Bool
  | .document => false
  | .container n => cat.containers.contains n

/-- Where the key of a type has to be bound when the type is registered in a scope: there, and in
the other containers of its class if the class is stored under another key. Containers without
bindings are left out. Binding the key in one container leaves the others as they are, so all of
them can be told beforehand. -/
def toBind (cat : Catalog) (s : Scope) (t : ElementType) : List Scope :=
  s :: if (cat.get? t.className).any (·.key ≠ t.key) then
    ((cat.scopes t.className).erase s).toList.filter cat.hasBindings
  else []

/-- Registers a type in a scope, beside the scopes that its class has already. -/
def register (cat : Catalog) (s : Scope) (t : ElementType) : Catalog :=
  let bound := (cat.toBind s t).foldl (bindIn t.key t.className) cat
  { bound with
    entries := bound.entries.insert t.className ⟨t, (cat.scopes t.className).insert s⟩ }

/-! ## Removing -/

/-- Takes the name of a class away in a scope, if the scope is a container. A container left without
bindings is forgotten. -/
def unbindIn (c : ClassName) (containers : Std.ExtTreeMap NodeId Bindings) :
    Scope → Std.ExtTreeMap NodeId Bindings
  | .document => containers
  | .container n => containers.alter n fun bindings? =>
      (bindings?.map fun b => (b.unbindClass c).2).filter (!·.isEmpty)

/-- Takes a class out of the catalogue and out of all its scopes. The result is the type that was
stored and the new catalogue. -/
def unregister (cat : Catalog) (c : ClassName) : Option ElementType × Catalog :=
  match cat.entries[c]? with
  | none => (none, cat)
  | some e => (some e.type,
      { entries := cat.entries.erase c,
        containers := e.scopes.toList.foldl (unbindIn c) cat.containers })

/-- Takes classes out of the catalogue, one after the other. -/
def unregisterAll (cat : Catalog) (cs : List ClassName) : Catalog :=
  cs.foldl (fun cat c => (cat.unregister c).2) cat

/-- Forgets a container: every class bound there loses that scope. -/
def removeContainer (cat : Catalog) (n : NodeId) : Catalog :=
  (cat.bindings n).toList.foldl (fun cat binding => cat.dropScope (.container n) binding.2)
    { cat with containers := cat.containers.erase n }

end Catalog

end MacroTypes
