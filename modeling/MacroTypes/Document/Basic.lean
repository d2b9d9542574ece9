import MacroTypes.Catalog.Resolve
import MacroTypes.Dialect
import MacroTypes.ElementType.Target

/-!
# Documents

A document keeps the types that the declarations of a script define. For every declaration it holds
what the declaration defined last: the type and the containers in which it was registered. The
types themselves are in the catalogue, where another declaration of the same class may replace them.

The generation counts how often a declaration was released.
-/

namespace MacroTypes

/-- What a declaration defined. -/
structure Definition where
  /-- The type. -/
  type : ElementType
  /-- The project in which the type was registered. -/
  project? : Option NodeId
  /-- The body in which the type was made usable. -/
  body? : Option NodeId
deriving DecidableEq

/-- The types of a script. -/
structure Document where
  /-- How declarations are written. -/
  dialect : Dialect
  /-- Nothing is wrong with the dialect. -/
  dialect_ok : dialect.problem? = none
  /-- The type from which the types of declared elements are made. -/
  template? : Option ElementType
  /-- The stored types. -/
  catalog : Catalog := ∅
  /-- What each declaration defined last. -/
  held : Std.ExtTreeMap NodeId Definition := ∅
  /-- How often a declaration was released. -/
  generation : Nat := 0

namespace Document

/-- A document without types, whose declared elements are made like targets. -/
def new (d : Dialect) : Except DialectError Document :=
  match h : d.problem? with
  | some e => .error e
  | none => .ok { dialect := d, dialect_ok := h, template? := ElementType.target.toOption }

/-- The document with another template. -/
def withTemplate (doc : Document) (template? : Option ElementType) : Document :=
  { doc with template? }

/-- The type that a definition stands for: the stored type of its class, or the type that was
defined if the class is not stored. -/
def current (doc : Document) (d : Definition) : ElementType :=
  (doc.catalog.get? d.type.className).getD d.type

/-- The type that a declaration defines at present. -/
def definedType? (doc : Document) (n : NodeId) : Option ElementType :=
  doc.held[n]?.map doc.current

/-- The declarations that hold a definition, in order. -/
def declarations (doc : Document) : List NodeId :=
  doc.held.keys

end Document

end MacroTypes
