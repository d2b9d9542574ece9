import MacroTypes.Text.Cased
import MacroTypes.Text.LowercaseMap

/-!
# Lower-casing

Attribute names are compared without regard to case, through the full lower-case mapping of
Unicode. One rule looks at context: a capital sigma that ends a word becomes `ς`, any other becomes
`σ`. It ends a word when a cased letter precedes it and none follows, marks that may stand inside a
word left aside.
-/

namespace MacroTypes.Text

/-- Whether the first character that is not case-ignorable is cased. -/
def meetsCased (cs : List Char) : Bool :=
  (cs.find? (!isCaseIgnorable ·)).any isCased

/-- The lower-case form of a capital sigma between the characters `before`, nearest first, and
`after`. -/
def lowercaseSigma (before after : List Char) : Char :=
  if meetsCased before && !meetsCased after then 'ς' else 'σ'

/-- The lower-case form of a list of characters that follows `before`, nearest first. -/
def lowercaseAfter (before : List Char) : List Char → List Char
  | [] => []
  | 'Σ' :: rest => lowercaseSigma before rest :: lowercaseAfter ('Σ' :: before) rest
  | c :: rest => lowercaseChar c ++ lowercaseAfter (c :: before) rest

/-- The lower-case form of a text. -/
def lowercase (s : String) : String :=
  String.ofList (lowercaseAfter [] s.toList)

@[simp] theorem lowercase_empty : lowercase "" = "" := rfl

example : lowercase "ΟΔΥΣΣΕΥΣ ΣΑΣ." = "οδυσσευς σας." := by decide +kernel

end MacroTypes.Text
