import MacroTypes.ClassName.Basic
import MacroTypes.Text.Blank

/-!
# Generated class names

A generated class name is read back into its parts. The kind is the text before the first bracket
and holds no bracket; the name runs from there to the next closing bracket; what follows is nothing
or a dollar sign and the nested part, which is one line and not empty. The kind must not be blank.

Main statements: `split?_eq_some_iff` says that reading accepts exactly what `toClassName` writes of
parts that are `Shaped`, and `parse_eq_ok_iff` adds the kind.
-/

namespace MacroTypes

/-- The parts of a generated class name. -/
structure GeneratedName where
  /-- The kind of the declaration. -/
  kind : String
  /-- The declared name. -/
  name : String
  /-- The nested part, if the class is that of a nested type. -/
  nested? : Option String := none
deriving DecidableEq, Repr

/-- Why a text is not a generated class name. -/
inductive NameError where
  /-- The text does not have the shape of a generated class name. -/
  | malformed (text : String)
  /-- The text has the shape, but its kind is blank. -/
  | blankKind (text : String)
deriving DecidableEq, Repr

/-- The wording of the error. -/
def NameError.message : NameError → String
  | .malformed text => s!"Not a generated class name: {text}"
  | .blankKind text => s!"Blank kind in class name: {text}"

namespace GeneratedName

/-- The class name with these parts. -/
def toClassName (g : GeneratedName) : ClassName :=
  match g.nested? with
  | none => .ofDeclaration g.kind g.name
  | some nested => (ClassName.ofDeclaration g.kind g.name).nested nested

/-- Reads what follows the closing bracket. -/
def readNested? : List Char → Option (Option String)
  | [] => some none
  | '$' :: rest => if rest = [] ∨ '\n' ∈ rest then none else some (some (String.ofList rest))
  | _ => none

/-- Reads what follows the opening bracket. -/
def readName? (kind : String) (cs : List Char) : Option GeneratedName :=
  match cs.dropWhile (· ≠ ']') with
  | ']' :: rest => (readNested? rest).map (⟨kind, String.ofList (cs.takeWhile (· ≠ ']')), ·⟩)
  | _ => none

/-- Whether a character is a bracket. -/
def isBracket (c : Char) : Bool :=
  c = '[' || c = ']'

/-- The parts of a text that has the shape of a generated class name, whatever its kind. -/
def split? (s : String) : Option GeneratedName :=
  match s.toList.dropWhile (!isBracket ·) with
  | '[' :: rest => readName? (String.ofList (s.toList.takeWhile (!isBracket ·))) rest
  | _ => none

/-- Reads a generated class name. -/
def parse (s : String) : Except NameError GeneratedName :=
  match split? s with
  | none => .error (.malformed s)
  | some g => if Text.isBlank g.kind then .error (.blankKind s) else .ok g

example : (parse "AntMacroDef[Foo]$Baz").toOption = some ⟨"AntMacroDef", "Foo", some "Baz"⟩ := by
  decide +kernel

example : (parse "AntMacroDef[Foo]$").toOption = none := by decide +kernel

/-! ## Reading is the inverse of writing -/

/-- Parts that can be told apart in the class name made of them. -/
structure Shaped (g : GeneratedName) : Prop where
  /-- The kind holds no bracket. -/
  kind : ∀ c ∈ g.kind.toList, isBracket c = false
  /-- The name holds no closing bracket. -/
  name : ']' ∉ g.name.toList
  /-- The nested part is not empty and is one line. -/
  nested : ∀ x, g.nested? = some x → x ≠ "" ∧ '\n' ∉ x.toList

/-- How a nested part is written. -/
def nestedChars : Option String → List Char
  | none => []
  | some x => '$' :: x.toList

theorem toList_toClassName (g : GeneratedName) :
    g.toClassName.text.toList =
      g.kind.toList ++ '[' :: (g.name.toList ++ ']' :: nestedChars g.nested?) := by
  unfold toClassName
  split <;> simp [ClassName.ofDeclaration, ClassName.nested, nestedChars, *]

private theorem readNested?_eq_some_iff {cs : List Char} {nested? : Option String} :
    readNested? cs = some nested? ↔
      cs = nestedChars nested? ∧ ∀ x, nested? = some x → x ≠ "" ∧ '\n' ∉ x.toList := by
  constructor
  · intro h
    unfold readNested? at h
    split at h
    · cases h
      exact ⟨rfl, by simp⟩
    · -- after the dollar sign stands the nested part, which must not be empty or go over the line
      next rest =>
      split at h
      · simp at h
      · next hrest =>
        cases h
        rw [not_or] at hrest
        refine ⟨by simp [nestedChars], ?_⟩
        rintro x ⟨rfl⟩
        exact ⟨by simpa [← String.toList_inj] using hrest.1, by simpa using hrest.2⟩
    · simp at h
  · rintro ⟨rfl, h⟩
    cases nested? with
    | none => rfl
    | some x =>
      obtain ⟨hne, hline⟩ := h x rfl
      have hne' : x.toList ≠ [] := by simpa using hne
      simp [nestedChars, readNested?, hne', hline]

private theorem readName?_eq_some_iff {kind : String} {cs : List Char} {g : GeneratedName} :
    readName? kind cs = some g ↔
      g.kind = kind ∧ cs = g.name.toList ++ ']' :: nestedChars g.nested? ∧ ']' ∉ g.name.toList ∧
        ∀ x, g.nested? = some x → x ≠ "" ∧ '\n' ∉ x.toList := by
  constructor
  · intro h
    unfold readName? at h
    split at h
    · next rest hrest =>
      obtain ⟨nested?, hnested, rfl⟩ := Option.map_eq_some_iff.1 h
      obtain ⟨rfl, hx⟩ := readNested?_eq_some_iff.1 hnested
      -- the name is what stands before the first closing bracket
      have hsplit := List.takeWhile_append_dropWhile (p := (· ≠ ']')) (l := cs)
      have hname := List.all_takeWhile (p := (· ≠ ']')) (l := cs)
      rw [hrest] at hsplit
      refine ⟨rfl, by simpa using hsplit.symm, ?_, hx⟩
      intro hmem
      simpa using List.all_eq_true.1 hname ']' (by simpa using hmem)
    · simp at h
  · rintro ⟨rfl, rfl, hname, hx⟩
    -- a name without closing brackets is taken whole
    have hall : ∀ c ∈ g.name.toList, decide (c ≠ ']') = true := by
      intro c hc
      simpa using fun e : c = ']' => hname (e ▸ hc)
    simp only [readName?, List.takeWhile_append_of_pos hall, List.dropWhile_append_of_pos hall]
    simp [readNested?_eq_some_iff.2 ⟨rfl, hx⟩]

/-- A text has the shape of a generated class name exactly when it is written of shaped parts, and
these are the parts read. -/
theorem split?_eq_some_iff {s : String} {g : GeneratedName} :
    split? s = some g ↔ g.Shaped ∧ g.toClassName.text = s := by
  rw [← String.toList_inj, toList_toClassName]
  constructor
  · intro h
    unfold split? at h
    split at h
    · next rest hrest =>
      obtain ⟨hkind, rfl, hname, hx⟩ := readName?_eq_some_iff.1 h
      -- the kind is what stands before the first bracket
      have hsplit := List.takeWhile_append_dropWhile (p := (!isBracket ·)) (l := s.toList)
      have hall := List.all_takeWhile (p := (!isBracket ·)) (l := s.toList)
      rw [hrest] at hsplit
      refine ⟨⟨?_, hname, hx⟩, by rw [hkind]; simpa using hsplit⟩
      intro c hc
      rw [hkind, String.toList_ofList] at hc
      simpa using List.all_eq_true.1 hall c hc
    · simp at h
  · rintro ⟨hg, hs⟩
    have hall : ∀ c ∈ g.kind.toList, (!isBracket c) = true := fun c hc => by simp [hg.kind c hc]
    -- a kind without brackets is taken whole, and the bracket after it ends it
    have hopen : (!isBracket '[') = false := rfl
    simp only [split?, ← hs, List.takeWhile_append_of_pos hall, List.dropWhile_append_of_pos hall,
      List.takeWhile_cons, List.dropWhile_cons, hopen, List.append_nil, Bool.false_eq_true,
      if_false]
    exact readName?_eq_some_iff.2 ⟨by simp, rfl, hg.name, hg.nested⟩

/-- Reading succeeds exactly on what is written of shaped parts whose kind is not blank. -/
theorem parse_eq_ok_iff {s : String} {g : GeneratedName} :
    parse s = .ok g ↔ g.Shaped ∧ g.toClassName.text = s ∧ Text.isBlank g.kind = false := by
  rw [← and_assoc, ← split?_eq_some_iff]
  unfold parse
  cases split? s with
  | none => simp
  | some f =>
    cases hf : Text.isBlank f.kind with
    | true =>
      -- a blank kind is refused, whatever else is read
      simp only [hf, if_true, reduceCtorEq, Option.some.injEq, false_iff]
      rintro ⟨rfl, hb⟩
      simp [hf] at hb
    | false =>
      simp only [hf, Bool.false_eq_true, if_false, Except.ok.injEq, Option.some.injEq]
      exact ⟨fun e => ⟨e, e ▸ hf⟩, And.left⟩

end GeneratedName

end MacroTypes
