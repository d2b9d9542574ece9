import MacroTypes.ClassName.Generated

/-!
# Reading and writing class names

The grammar of generated class names is said without the reader: `Spells g s` holds if the text `s`
is written of the parts `g` and these keep to the grammar. A text has one such decomposition at most
(`Spells.unique`), and the reader finds it or says what is wrong (`parse_inverts_toClassName`).
-/

namespace MacroTypes.GeneratedName

/-- The text is written of the parts, and the parts keep to the grammar, except that the kind may be
    blank. -/
structure Spells (g : GeneratedName) (s : String) : Prop where
  text_eq : g.toClassName.text = s
  /-- The kind ends where the first bracket stands. -/
  kind : '[' ∉ g.kind.toList ∧ ']' ∉ g.kind.toList
  /-- The name ends where the first closing bracket stands. -/
  name : ']' ∉ g.name.toList
  /-- A nested part has at least one character, and no line feed is among them. -/
  nested : ∀ x, g.nested? = some x → x ≠ "" ∧ '\n' ∉ x.toList

variable {g g' : GeneratedName} {s : String}

private theorem no_bracket_iff {cs : List Char} :
    (∀ c ∈ cs, isBracket c = false) ↔ '[' ∉ cs ∧ ']' ∉ cs := by
  constructor
  · intro h
    -- a bracket among the characters would be none
    exact ⟨fun hmem => by simpa [isBracket] using h _ hmem,
      fun hmem => by simpa [isBracket] using h _ hmem⟩
  · intro h c hc
    -- a character that is neither is no bracket
    have hopen : c ≠ '[' := fun heq => h.1 (heq ▸ hc)
    have hclose : c ≠ ']' := fun heq => h.2 (heq ▸ hc)
    simp [isBracket, hopen, hclose]

theorem spells_iff : g.Spells s ↔ g.Shaped ∧ g.toClassName.text = s := by
  constructor
  · intro h
    exact ⟨⟨no_bracket_iff.2 h.kind, h.name, h.nested⟩, h.text_eq⟩
  · intro h
    obtain ⟨hshaped, htext⟩ := h
    exact ⟨htext, no_bracket_iff.1 hshaped.kind, hshaped.name, hshaped.nested⟩

/-- The parts that the reader splits off are those of which the text is written. -/
theorem split?_eq_some_iff_spells : split? s = some g ↔ g.Spells s := by
  rw [split?_eq_some_iff, spells_iff]

/-- No text is written of two different lists of parts. -/
theorem Spells.unique (h : g.Spells s) (h' : g'.Spells s) : g = g' := by
  have hsplit := split?_eq_some_iff_spells.2 h
  rw [split?_eq_some_iff_spells.2 h'] at hsplit
  exact (Option.some.inj hsplit).symm

private theorem split?_eq_none_iff : split? s = none ↔ ¬ ∃ g : GeneratedName, g.Spells s := by
  rw [Option.eq_none_iff_forall_ne_some, not_exists]
  exact forall_congr' fun g => not_congr split?_eq_some_iff_spells

/-- What the reader says of a text that is written of some parts depends on their kind. -/
private theorem parse_of_spells (h : g.Spells s) :
    parse s = if Text.isBlank g.kind then .error (.blankKind s) else .ok g := by
  rw [parse, split?_eq_some_iff_spells.2 h]

private theorem parse_of_not_spells (h : ¬ ∃ g : GeneratedName, g.Spells s) :
    parse s = .error (.malformed s) := by
  rw [parse, split?_eq_none_iff.2 h]

theorem parse_eq_ok_iff_spells : parse s = .ok g ↔ g.Spells s ∧ Text.isBlank g.kind = false := by
  rw [parse_eq_ok_iff, spells_iff, and_assoc]

theorem parse_eq_blankKind_iff : parse s = .error (.blankKind s) ↔
    ∃ g : GeneratedName, g.Spells s ∧ Text.isBlank g.kind = true := by
  constructor
  · intro h
    by_cases hex : ∃ g : GeneratedName, g.Spells s
    · obtain ⟨g, hg⟩ := hex
      rw [parse_of_spells hg] at h
      -- otherwise the reader would have returned the parts
      split at h
      · next hblank => exact ⟨g, hg, hblank⟩
      · exact nomatch h
    · -- a text without parts is malformed, which is another error
      rw [parse_of_not_spells hex] at h
      exact nomatch h
  · intro h
    obtain ⟨g, hg, hblank⟩ := h
    rw [parse_of_spells hg, if_pos hblank]

theorem parse_eq_malformed_iff :
    parse s = .error (.malformed s) ↔ ¬ ∃ g : GeneratedName, g.Spells s := by
  constructor
  · intro h hex
    obtain ⟨g, hg⟩ := hex
    rw [parse_of_spells hg] at h
    split at h
    · exact nomatch h
    · exact nomatch h
  · exact parse_of_not_spells

/-- There is no third reason to fail, and an error always carries the text. -/
private theorem eq_of_parse_eq_error {e : NameError} (h : parse s = .error e) :
    e = .blankKind s ∨ e = .malformed s := by
  by_cases hex : ∃ g : GeneratedName, g.Spells s
  · obtain ⟨g, hg⟩ := hex
    rw [parse_of_spells hg] at h
    split at h
    · -- written of parts, so the kind must be blank
      exact .inl (Except.error.inj h).symm
    · exact nomatch h
  · -- not written of any
    rw [parse_of_not_spells hex] at h
    exact .inr (Except.error.inj h).symm

/-- Reading inverts writing on the grammar. A text is read as some parts exactly if it is written of
    them and their kind is not blank. Otherwise reading fails: the kind is reported as blank exactly
    if the text is written of parts with a blank kind, and every text that is not written of parts
    is malformed. There is never a choice between two decompositions. -/
theorem parse_inverts_toClassName (s : String) :
    (∀ g, parse s = .ok g ↔ g.Spells s ∧ Text.isBlank g.kind = false) ∧
    (parse s = .error (.blankKind s) ↔ ∃ g : GeneratedName, g.Spells s ∧
      Text.isBlank g.kind = true) ∧
    (parse s = .error (.malformed s) ↔ ¬ ∃ g : GeneratedName, g.Spells s) ∧
    (∀ e, parse s = .error e → e = .blankKind s ∨ e = .malformed s) ∧
    ∀ g g' : GeneratedName, g.Spells s → g'.Spells s → g = g' :=
  ⟨fun _ => parse_eq_ok_iff_spells, parse_eq_blankKind_iff, parse_eq_malformed_iff,
    fun _ => eq_of_parse_eq_error, fun _ _ h h' => h.unique h'⟩

/-- The first closing bracket ends the name, whatever follows. -/
example : (parse "AntMacroDef[Foo]$y]$z").toOption = some ⟨"AntMacroDef", "Foo", some "y]$z"⟩ := by
  decide +kernel

end MacroTypes.GeneratedName
