import MacroTypes.ElementType.Basic
import MacroTypes.Text.Blank

/-!
# Dialects

A dialect says how declarations are written in a script and how the types that they define are
named. None of its words may be blank, and the children that declare attributes must differ by their
tag from those that declare nested elements.
-/

namespace MacroTypes

/-- How declarations are written. -/
structure Dialect where
  /-- The kind in the class names of declared types. -/
  kind : String := "AntMacroDef"
  /-- The tag of declarations. -/
  declarationTag : String := "macrodef"
  /-- The tag of children that declare attributes. -/
  attributeTag : String := "attribute"
  /-- The tag of children that declare nested elements. -/
  elementTag : String := "element"
  /-- The type of declared attributes. -/
  attributeType : AttrType := .string
deriving DecidableEq, Repr

/-- What is wrong with a dialect. -/
inductive DialectError where
  /-- The setting of this name is blank. -/
  | blank (setting : String)
  /-- Attributes and nested elements are declared by one tag. -/
  | sameTags (tag : String)
deriving DecidableEq, Repr

/-- The wording of the error. -/
def DialectError.message : DialectError → String
  | .blank setting => s!"Blank configuration value: {setting}"
  | .sameTags tag => s!"Attribute and element tags are both '{tag}'"

namespace Dialect

/-- The words of a dialect and the names of their settings, in the order in which they are
checked. -/
def words (d : Dialect) : List (String × String) :=
  [("kind", d.kind), ("declaration_tag", d.declarationTag), ("attribute_tag", d.attributeTag),
    ("element_tag", d.elementTag)]

/-- The first thing that is wrong with a dialect. -/
def problem? (d : Dialect) : Option DialectError :=
  match d.words.find? (Text.isBlank ·.2) with
  | some (setting, _) => some (.blank setting)
  | none => if d.attributeTag = d.elementTag then some (.sameTags d.attributeTag) else none

/-- Nothing is wrong exactly when no word is blank and the two tags differ. -/
theorem problem?_eq_none_iff {d : Dialect} :
    d.problem? = none ↔
      (∀ w ∈ d.words, Text.isBlank w.2 = false) ∧ d.attributeTag ≠ d.elementTag := by
  unfold problem?
  split
  · next setting word h =>
    -- a word is blank
    have hmem := List.mem_of_find?_eq_some h
    have hblank := List.find?_some h
    simp only [reduceCtorEq, false_iff, not_and]
    intro hall
    exact absurd (hall _ hmem) (by simpa using hblank)
  · next h =>
    -- no word is, so the tags decide
    rw [List.find?_eq_none] at h
    simp only [Bool.not_eq_true] at h
    simp only [ite_eq_right_iff, reduceCtorEq, imp_false]
    exact ⟨fun hne => ⟨h, hne⟩, And.right⟩

end Dialect

end MacroTypes
