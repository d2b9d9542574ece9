import MacroTypes.ClassName.Basic

/-!
# Families of classes

The family of a class is the class itself and the classes nested in it. Names are written into class
names as they are, so two declarations of different names may generate one class: `Foo` with an
element `y]` and `Foo]$y` do. This takes one name that goes on where the other ends, as if it were
the class of a nested type (`eq_or_continues`).
-/

namespace MacroTypes.ClassName

/-- The family of a class: the class itself and what is nested in it. -/
def Owns (owner c : ClassName) : Prop :=
  c = owner ∨ ∃ name, c = owner.nested name

/-- A declared name continues another one if it begins with that name, a closing bracket and a
    dollar sign. -/
def Continues (a b : String) : Prop :=
  b.toList ++ [']', '$'] <+: a.toList

instance (a b : String) : Decidable (Continues a b) :=
  inferInstanceAs (Decidable (b.toList ++ [']', '$'] <+: a.toList))

/-- Class names in the family of a declaration start with the kind and the name. What follows is a
    bracket, or a bracket, a dollar sign and the nested part. -/
private theorem Owns.exists_tail {kind a : String} {c : ClassName}
    (h : (ofDeclaration kind a).Owns c) :
    ∃ tail, c.text.toList = kind.toList ++ '[' :: tail ∧
      (tail = a.toList ++ [']'] ∨ a.toList ++ [']', '$'] <+: tail) := by
  rcases h with rfl | ⟨name, rfl⟩
  · -- the class of the declaration ends with its bracket
    exact ⟨a.toList ++ [']'], by simp [ofDeclaration], .inl rfl⟩
  · -- a nested class goes on with a dollar sign
    refine ⟨a.toList ++ [']', '$'] ++ name.toList, by simp [ofDeclaration, nested], .inr ?_⟩
    exact List.prefix_append _ _

/-- What ends in a bracket continues a name only inside of the name. -/
private theorem prefix_of_prefix_concat {l m : List Char} (h : l ++ [']', '$'] <+: m ++ [']']) :
    l ++ [']', '$'] <+: m := by
  rw [List.prefix_concat_iff] at h
  refine h.resolve_left fun heq => ?_
  -- the one ends in a dollar sign, the other in a bracket
  have hlast := congrArg List.getLast? heq
  simp at hlast

/-- If one name with a bracket and a dollar sign begins another one with these, the names are the
    same or the second one continues the first. -/
private theorem eq_or_prefix_concat {l m : List Char} (h : l ++ [']', '$'] <+: m ++ [']', '$']) :
    l = m ∨ l ++ [']', '$'] <+: m := by
  rw [show m ++ [']', '$'] = (m ++ [']']) ++ ['$'] by simp, List.prefix_concat_iff] at h
  rcases h with heq | h
  · exact .inl (by simpa using heq)
  · exact .inr (prefix_of_prefix_concat h)

/-- Declarations of one kind have a class in common only if they have one name or one name continues
    the other. -/
theorem eq_or_continues {kind a b : String} {c : ClassName} (ha : (ofDeclaration kind a).Owns c)
    (hb : (ofDeclaration kind b).Owns c) : a = b ∨ Continues a b ∨ Continues b a := by
  obtain ⟨tail, htail, hatail⟩ := ha.exists_tail
  obtain ⟨tail', htail', hbtail⟩ := hb.exists_tail
  -- after the kind and the bracket one and the same text follows
  obtain rfl : tail = tail' := by
    have heq := List.append_cancel_left (htail.symm.trans htail')
    exact List.cons.inj heq |>.2
  rcases hatail with rfl | hatail
  · rcases hbtail with heq | hbtail
    · -- both are the classes of the declarations
      exact .inl (String.toList_inj.1 (List.append_cancel_right heq))
    · -- the class of the first declaration is nested in that of the second
      exact .inr (.inl (prefix_of_prefix_concat hbtail))
  · rcases hbtail with rfl | hbtail
    · -- and the other way round
      exact .inr (.inr (prefix_of_prefix_concat hatail))
    · -- both are nested classes, so the longer owner begins with the shorter one
      rcases List.prefix_or_prefix_of_prefix hatail hbtail with h | h
      · exact (eq_or_prefix_concat h).imp String.toList_inj.1 .inr
      · exact (eq_or_prefix_concat h).imp (fun heq => String.toList_inj.1 heq.symm) .inl

end MacroTypes.ClassName
