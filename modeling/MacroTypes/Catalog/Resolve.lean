import MacroTypes.Catalog.Basic

/-!
# Resolving names

A name is resolved through a chain of scopes, innermost first. In a container a name stands for at
most one class; in the document it may be the key of several, and the smallest of them is meant.
-/

namespace MacroTypes

namespace Catalog

/-- The keys and classes of the types registered in the document. -/
def documentTypes (cat : Catalog) : Std.ExtTreeSet (QName × ClassName) bindingOrder :=
  .ofList ((cat.entries.toList.filter (·.2.isIn .document)).map fun (c, e) => (e.type.key, c))
    bindingOrder

/-- The names that a scope gives to classes, sorted by name and then by class. -/
def scopeTypes (cat : Catalog) : Scope → List (QName × ClassName)
  | .document => cat.documentTypes.toList
  | .container n => (cat.bindings n).toList

/-- The type that a name stands for in one scope. -/
def resolveIn (cat : Catalog) (key : QName) : Scope → Option ElementType
  | .document => (cat.entries.toList.find? fun (_, e) =>
      e.isIn .document && e.type.key = key).map (·.2.type)
  | .container n => ((cat.bindings n).lookup key).bind cat.get?

/-- The type that a name stands for in the first scope of a chain that gives it one. -/
def resolve (cat : Catalog) (chain : List Scope) (key : QName) : Option ElementType :=
  chain.findSome? (cat.resolveIn key)

end Catalog

end MacroTypes
