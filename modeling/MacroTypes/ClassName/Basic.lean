import Std.Data.ExtTreeMap

/-!
# Class names

A class name is the identity of an element type. Any text may be a class name; the ones made here
are `kind[name]` for the type of a declaration and `class$nested` for a type nested in another.

Main statements: `isNestedIn_iff` reads the prefix test as "the parent, a dollar sign and at least
one more character".
-/

namespace MacroTypes

/-- The identity of an element type. -/
structure ClassName where
  /-- The text that identifies the type. -/
  text : String
deriving DecidableEq, Repr

namespace ClassName

instance : ToString ClassName := ⟨text⟩

instance : Ord ClassName := ⟨compareOn text⟩

instance : Std.TransOrd ClassName := inferInstanceAs (Std.TransCmp (compareOn text))

instance : Std.LawfulEqOrd ClassName where
  eq_of_compare {a b} h := by
    cases a; cases b
    exact congrArg mk (Std.LawfulEqOrd.eq_of_compare (α := String) h)

/-- The class of the type that a declaration of this kind and name defines. -/
def ofDeclaration (kind name : String) : ClassName :=
  ⟨kind ++ "[" ++ name ++ "]"⟩

/-- The class of the type nested in another under a name. -/
def nested (c : ClassName) (name : String) : ClassName :=
  ⟨c.text ++ "$" ++ name⟩

theorem nested_inj {c : ClassName} {x y : String} : c.nested x = c.nested y ↔ x = y := by
  simp [nested]

/-- A class is not nested in itself. -/
theorem nested_ne (c : ClassName) (x : String) : c.nested x ≠ c := by
  intro h
  -- a nested class is longer
  have hlen := congrArg (·.text.toList.length) h
  simp [nested] at hlen

/-- Nesting twice is nesting once under both names with a dollar sign between them. -/
theorem nested_nested (c : ClassName) (x y : String) :
    (c.nested x).nested y = c.nested (x ++ "$" ++ y) := by
  simp [nested, String.append_assoc]

/-- Whether a text starts with a dollar sign and at least one more character. -/
def startsNested : List Char → Bool
  | '$' :: _ :: _ => true
  | _ => false

/-- Whether the class continues `parent` by a dollar sign and at least one more character. -/
def isNestedIn (c parent : ClassName) : Bool :=
  parent.text.toList.isPrefixOf c.text.toList &&
    startsNested (c.text.toList.drop parent.text.toList.length)

private theorem startsNested_iff {cs : List Char} :
    startsNested cs = true ↔ ∃ rest, rest ≠ [] ∧ cs = '$' :: rest := by
  constructor
  · intro h
    unfold startsNested at h
    split at h
    · next d rest => exact ⟨d :: rest, by simp, rfl⟩
    · simp at h
  · rintro ⟨rest, hne, rfl⟩
    obtain ⟨d, rest, rfl⟩ := List.exists_cons_of_ne_nil hne
    rfl

/-- A class is nested in another exactly when it is the other's nested class of a non-empty name. -/
theorem isNestedIn_iff {c parent : ClassName} :
    c.isNestedIn parent = true ↔ ∃ name, name ≠ "" ∧ c = parent.nested name := by
  simp only [isNestedIn, Bool.and_eq_true, List.isPrefixOf_iff_prefix, startsNested_iff]
  constructor
  · rintro ⟨hpre, rest, hne, hdrop⟩
    refine ⟨String.ofList rest, by simpa [← String.toList_inj] using hne, ?_⟩
    cases c
    -- the class text is the parent's text and what the drop leaves
    have htext := List.prefix_iff_eq_append.1 hpre
    rw [hdrop] at htext
    simp only [nested, mk.injEq, ← String.toList_inj, String.toList_append, String.toList_ofList]
    simp [← htext]
  · rintro ⟨name, hne, rfl⟩
    exact ⟨by simp [nested], name.toList, by simpa using hne, by simp [nested]⟩

end ClassName

end MacroTypes
