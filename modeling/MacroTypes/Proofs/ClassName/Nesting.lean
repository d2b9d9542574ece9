import MacroTypes.Proofs.ClassName.Reading

/-!
# Nested classes and their parts

Whether one class is nested in another is decided on the two texts, by a prefix and a dollar sign.
For classes that can be read back, the same is decided by comparing the parts that are read
(`isNestedIn_iff_parts`): kind and name stand at the beginning of the text and end at brackets that
they cannot hold, so a class and its parent have them in common (`eq_of_beginning_eq`), and all that
the prefix leaves belongs to the nested part (`nestedChars_eq_append_iff`).

On all texts, whether or not they can be read, nesting is a strict order.
-/

namespace MacroTypes

/-- A list is cut in one way only at the first occurrence of an element. -/
private theorem eq_and_eq_of_append_cons_eq {α : Type} {a : α} {xs ys rest rest' : List α}
    (hxs : a ∉ xs) (hys : a ∉ ys) (h : xs ++ a :: rest = ys ++ a :: rest') :
    xs = ys ∧ rest = rest' := by
  induction xs generalizing ys with
  | nil =>
    cases ys with
    | nil => exact ⟨rfl, (List.cons.inj h).2⟩
    | cons y ys =>
      -- the element would stand before its first occurrence
      exact absurd List.mem_cons_self ((List.cons.inj h).1 ▸ hys)
  | cons x xs ih =>
    -- both lists begin with the same element, which is not the one that is looked for
    cases ys with
    | nil => exact absurd List.mem_cons_self ((List.cons.inj h).1 ▸ hxs)
    | cons y ys =>
      obtain ⟨rfl, htail⟩ := List.cons.inj h
      obtain ⟨rfl, hrest⟩ := ih (fun hmem => hxs (List.mem_cons_of_mem x hmem))
        (fun hmem => hys (List.mem_cons_of_mem x hmem)) htail
      exact ⟨rfl, hrest⟩

namespace GeneratedName

variable {g h : GeneratedName} {c p : ClassName}

/-! ## The parts of a class and of its parent -/

/-- Kind and name are those of the beginning of a text, whatever follows them. -/
theorem eq_of_beginning_eq {s s' : String} (hg : g.Spells s) (hh : h.Spells s')
    {rest rest' : List Char}
    (heq : g.kind.toList ++ '[' :: (g.name.toList ++ ']' :: rest) =
      h.kind.toList ++ '[' :: (h.name.toList ++ ']' :: rest')) :
    g.kind = h.kind ∧ g.name = h.name ∧ rest = rest' := by
  obtain ⟨hkind, heq⟩ := eq_and_eq_of_append_cons_eq hg.kind.1 hh.kind.1 heq
  obtain ⟨hname, hrest⟩ := eq_and_eq_of_append_cons_eq hg.name hh.name heq
  exact ⟨String.toList_inj.1 hkind, String.toList_inj.1 hname, hrest⟩

/-- The nested part of the class that is nested under a name in a class with this nested part. -/
def nestedUnder (parent? : Option String) (name : String) : String :=
  parent?.elim name (· ++ "$" ++ name)

/-- Adding a name to the nested part is nesting the class under the name. -/
private theorem toClassName_nestedUnder (h : GeneratedName) (name : String) :
    toClassName { h with nested? := some (nestedUnder h.nested? name) } =
      h.toClassName.nested name := by
  unfold toClassName nestedUnder
  cases h.nested? with
  | none => rfl
  | some x => exact (ClassName.nested_nested _ x name).symm

/-- What a nested class adds to the text of its parent is what it adds to the nested part. -/
theorem nestedChars_eq_append_iff {nested? parent? : Option String} {name : String} :
    nestedChars nested? = nestedChars parent? ++ '$' :: name.toList ↔
      nested? = some (nestedUnder parent? name) := by
  have hunder : nestedChars parent? ++ '$' :: name.toList =
      nestedChars (some (nestedUnder parent? name)) := by
    cases parent? <;> simp [nestedChars, nestedUnder]
  rw [hunder]
  cases nested? with
  | none => simp [nestedChars]
  | some y => simp [nestedChars, String.toList_inj]

/-- The class of some parts is nested in another one exactly if kind and name are the same and the
    nested part goes on where that of the parent ends. -/
theorem Spells.isNestedIn_iff (hg : g.Spells c.text) (hh : h.Spells p.text) :
    c.isNestedIn p = true ↔ g.kind = h.kind ∧ g.name = h.name ∧
      ∃ name, name ≠ "" ∧ g.nested? = some (nestedUnder h.nested? name) := by
  -- both classes are written of their parts
  have hc : c = g.toClassName := congrArg ClassName.mk hg.text_eq.symm
  have hp : p = h.toClassName := congrArg ClassName.mk hh.text_eq.symm
  rw [ClassName.isNestedIn_iff]
  constructor
  · rintro ⟨name, hne, hnested⟩
    -- both texts begin with a kind, a name and their brackets
    have htext := congrArg (·.text.toList) hnested
    simp only [hc, hp, ClassName.nested, String.toList_append, toList_toClassName,
      List.append_assoc, List.cons_append] at htext
    obtain ⟨hkind, hname, hrest⟩ := eq_of_beginning_eq hg hh htext
    exact ⟨hkind, hname, name, hne, nestedChars_eq_append_iff.1 hrest⟩
  · rintro ⟨hkind, hname, name, hne, hnested⟩
    -- with the name added to the nested part the parent reads as the class
    refine ⟨name, hne, ?_⟩
    rw [hc, hp, ← toClassName_nestedUnder, ← hkind, ← hname, ← hnested]

/-- A part that is there is not empty, so a class without a nested part is the parent of all classes
    of its kind and name that have one. -/
private theorem Spells.exists_nestedUnder_iff (hg : g.Spells c.text) {parent? : Option String} :
    (∃ name, name ≠ "" ∧ g.nested? = some (nestedUnder parent? name)) ↔
      (parent? = none ∧ g.nested?.isSome = true) ∨
      ∃ x name, parent? = some x ∧ name ≠ "" ∧ g.nested? = some (x ++ "$" ++ name) := by
  cases parent? with
  | none =>
    simp only [nestedUnder, Option.elim_none, Option.isSome_iff_exists, true_and, reduceCtorEq,
      false_and, exists_false, or_false]
    constructor
    · rintro ⟨name, -, heq⟩
      exact ⟨name, heq⟩
    · -- the name is the whole nested part, and that is not empty
      rintro ⟨name, heq⟩
      exact ⟨name, (hg.nested name heq).1, heq⟩
  | some x => simp [nestedUnder]

end GeneratedName

namespace ClassName

variable {a b c : ClassName}

/-! ## Nesting is a strict order -/

theorem isNestedIn_irrefl (c : ClassName) : c.isNestedIn c = false := by
  rw [Bool.eq_false_iff]
  intro h
  obtain ⟨name, -, heq⟩ := isNestedIn_iff.1 h
  exact nested_ne c name heq.symm

theorem isNestedIn_trans (hab : a.isNestedIn b = true) (hbc : b.isNestedIn c = true) :
    a.isNestedIn c = true := by
  obtain ⟨x, -, rfl⟩ := isNestedIn_iff.1 hab
  obtain ⟨y, -, rfl⟩ := isNestedIn_iff.1 hbc
  -- the dollar sign between the two names is there in any case
  have hne : y ++ "$" ++ x ≠ "" := by simp
  exact isNestedIn_iff.2 ⟨y ++ "$" ++ x, hne, nested_nested c y x⟩

/-! ## Nesting and reading agree -/

open GeneratedName (parse parse_eq_ok_iff_spells split?_eq_some_iff_spells)

/-- Of two classes that can be read, one is nested in the other exactly if they have one kind and
    one name, and either the parent has no nested part and the class has one, or the nested part of
    the class is that of the parent, a dollar sign and at least one more character. On all texts
    nesting is irreflexive and transitive. -/
theorem isNestedIn_iff_parts :
    (∀ (c p : ClassName) (g h : GeneratedName), parse c.text = .ok g → parse p.text = .ok h →
      (c.isNestedIn p = true ↔ g.kind = h.kind ∧ g.name = h.name ∧
        ((h.nested? = none ∧ g.nested?.isSome = true) ∨
          ∃ x name, h.nested? = some x ∧ name ≠ "" ∧ g.nested? = some (x ++ "$" ++ name)))) ∧
    (∀ c : ClassName, c.isNestedIn c = false) ∧
    ∀ a b c : ClassName, a.isNestedIn b = true → b.isNestedIn c = true → a.isNestedIn c = true := by
  refine ⟨fun c p g h hc hp => ?_, isNestedIn_irrefl, fun a b c => isNestedIn_trans⟩
  -- both texts are written of the parts that are read
  obtain ⟨hg, -⟩ := parse_eq_ok_iff_spells.1 hc
  obtain ⟨hh, -⟩ := parse_eq_ok_iff_spells.1 hp
  rw [hg.isNestedIn_iff hh, hg.exists_nestedUnder_iff]

/-- A name with a bracket in it, and a nested part that goes on with a dollar sign and another
    bracket. -/
theorem isNestedIn_iff_parts_bracketed :
    parse "AntMacroDef[a[b]$x$y]" = .ok ⟨"AntMacroDef", "a[b", some "x$y]"⟩ ∧
      parse "AntMacroDef[a[b]$x" = .ok ⟨"AntMacroDef", "a[b", some "x"⟩ ∧
      (⟨"AntMacroDef[a[b]$x$y]"⟩ : ClassName).isNestedIn ⟨"AntMacroDef[a[b]$x"⟩ = true := by
  have hc : parse "AntMacroDef[a[b]$x$y]" = .ok ⟨"AntMacroDef", "a[b", some "x$y]"⟩ :=
    parse_eq_ok_iff_spells.2
      ⟨split?_eq_some_iff_spells.1 (by decide +kernel), by decide +kernel⟩
  have hp : parse "AntMacroDef[a[b]$x" = .ok ⟨"AntMacroDef", "a[b", some "x"⟩ :=
    parse_eq_ok_iff_spells.2
      ⟨split?_eq_some_iff_spells.1 (by decide +kernel), by decide +kernel⟩
  refine ⟨hc, hp, (isNestedIn_iff_parts.1 ⟨_⟩ ⟨_⟩ _ _ hc hp).2 ⟨rfl, rfl, .inr ?_⟩⟩
  exact ⟨"x", "y]", rfl, by decide, rfl⟩

end ClassName

end MacroTypes
