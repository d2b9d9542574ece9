import MacroTypes.Text.CodePoints

/-!
# Blank text

Names, tags and class names must not be blank: a text is blank when it holds nothing but characters
with the Unicode property `White_Space`. The set is wider than the blanks of ASCII and than core's
`Char.isWhitespace`.
-/

namespace MacroTypes.Text

/-- The characters with the property `White_Space`. -/
def whiteSpace : CodePoints :=
  [(0x0009, 0x000D), (0x0020, 0x0020), (0x0085, 0x0085), (0x00A0, 0x00A0), (0x1680, 0x1680),
   (0x2000, 0x200A), (0x2028, 0x2029), (0x202F, 0x202F), (0x205F, 0x205F), (0x3000, 0x3000)]

example : whiteSpace.foldl (fun n r => n + (r.2 - r.1 + 1)) 0 = 25 := by decide +kernel

example : (whiteSpace.zip whiteSpace.tail).all (fun (r, next) => r.2 < next.1) = true := by
  decide +kernel

/-- Whether a character is white space. -/
def isBlankChar (c : Char) : Bool :=
  whiteSpace.contains c

/-- Whether a text is empty or all white space. -/
def isBlank (s : String) : Bool :=
  s.toList.all isBlankChar

@[simp] theorem isBlank_empty : isBlank "" = true := rfl

end MacroTypes.Text
