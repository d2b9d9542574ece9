import MacroTypes.Catalog.Basic

/-!
# Expectations about a catalogue

An expectation says of one class that it is not stored, or that it is, with such attributes, nested
elements and scopes. Checking stops at the first thing that is not as expected: presence,
attributes, nested elements, being a task, scopes in the order given.
-/

namespace MacroTypes

/-- What is expected of a class. -/
structure Expectation where
  /-- The class. -/
  className : ClassName
  /-- Whether the class is to be stored. -/
  isPresent : Bool := true
  /-- The attributes it is to have. -/
  attributes? : Option (Std.ExtTreeMap String AttrType) := none
  /-- The nested elements it is to have. -/
  nested? : Option (Std.ExtTreeMap QName ClassName) := none
  /-- Whether its elements are to be tasks. -/
  isTask? : Option Bool := none
  /-- Scopes in which it is to be registered. -/
  scopes : List Scope := []

/-- What is not as expected of a stored class. -/
inductive Mismatch where
  /-- The attributes differ. -/
  | attributes
  /-- The nested elements differ. -/
  | nested
  /-- Being a task was expected to be so. -/
  | isTask (expected : Bool)
  /-- The class is not registered in this scope. -/
  | notIn (s : Scope)
deriving DecidableEq, Repr

/-- The wording of the mismatch. -/
def Mismatch.message : Mismatch → String
  | .attributes => "expected attributes"
  | .nested => "expected nested"
  | .isTask expected => s!"expected is_task = {expected}"
  | .notIn s => s!"not registered in {s}"

/-- Why an expectation fails. -/
inductive CheckError where
  /-- The class is not stored. -/
  | missing (c : ClassName)
  /-- The class is still stored, with these scopes. -/
  | stillRegistered (c : ClassName) (scopes : List Scope)
  /-- The class is stored, but not as expected. -/
  | mismatch (c : ClassName) (what : Mismatch)
deriving DecidableEq, Repr

/-- The wording of the error. -/
def CheckError.message : CheckError → String
  | .missing c => s!"'{c}' is not registered"
  | .stillRegistered c scopes =>
    let listed := ", ".intercalate (scopes.map Scope.display)
    s!"'{c}' is still registered in {listed}"
  | .mismatch c what => s!"assertion failed for '{c}': {what.message}"

namespace Expectation

/-- Expects attributes of these names and no others, all of them text. -/
def withAttributes (e : Expectation) (names : List String) : Expectation :=
  { e with attributes? := some (.ofList (names.map (·, AttrType.string))) }

/-- Expects nested elements of these names and classes and no others. -/
def withNested (e : Expectation) (entries : List (String × ClassName)) : Expectation :=
  { e with nested? := some (.ofList (entries.map fun (name, c) => ((⟨name, none⟩ : QName), c))) }

/-- The first thing that is not as expected of a stored class. -/
def mismatch? (e : Expectation) (cat : Catalog) (t : ElementType) : Option Mismatch :=
  if e.attributes?.any (· ≠ t.attributes) then some .attributes
  else if e.nested?.any (· ≠ t.nested) then some .nested
  else match e.isTask?.filter (· ≠ t.isTask) with
    | some expected => some (.isTask expected)
    | none => (e.scopes.find? (!cat.isRegisteredIn e.className ·)).map .notIn

/-- Checks an expectation against a catalogue. -/
def check (e : Expectation) (cat : Catalog) : Except CheckError Unit :=
  match cat.get? e.className, e.isPresent with
  | none, true => .error (.missing e.className)
  | none, false => .ok ()
  | some _, false => .error (.stillRegistered e.className (cat.scopes e.className).toList)
  | some t, true => (e.mismatch? cat t).elim (.ok ()) (.error <| .mismatch e.className ·)

end Expectation

end MacroTypes
