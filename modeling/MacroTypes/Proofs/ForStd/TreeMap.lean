import Std.Data.ExtTreeMap

/-!
# Tree map lemmas for the standard library

The list of values of a map is described through lookups, and lookups after a change are described
by equality of keys where keys that compare as equal are equal.
-/

namespace Std.ExtTreeMap

variable {α β : Type} {cmp : α → α → Ordering} [TransCmp cmp]

/-- The values are the second components of the entries. -/
private theorem values_eq_map_toList (m : ExtTreeMap α β cmp) :
    m.values = m.toList.map Prod.snd := by
  -- listing the values is a fold over the entries
  have hfold : m.values = m.foldr (fun _ b bs => b :: bs) [] := rfl
  rw [hfold, foldr_eq_foldr_toList, List.map_eq_foldr]

/-- A value is listed exactly when some key is mapped to it. -/
theorem mem_values [LawfulEqCmp cmp] {m : ExtTreeMap α β cmp} {b : β} :
    b ∈ m.values ↔ ∃ a : α, m[a]? = some b := by
  rw [values_eq_map_toList, List.mem_map]
  constructor
  · intro hex
    obtain ⟨⟨a, b'⟩, h, heq⟩ := hex
    exact ⟨a, heq ▸ mem_toList_iff_getElem?_eq_some.1 h⟩
  · intro hex
    obtain ⟨a, h⟩ := hex
    exact ⟨(a, b), mem_toList_iff_getElem?_eq_some.2 h, rfl⟩

/-- Keys that are never mapped to the same value have different values. -/
theorem nodup_values [LawfulEqCmp cmp] {m : ExtTreeMap α β cmp}
    (h : ∀ (a a' : α) (b : β), m[a]? = some b → m[a']? = some b → a = a') : m.values.Nodup := by
  rw [values_eq_map_toList, List.Nodup, List.pairwise_map]
  refine List.Pairwise.imp_of_mem (fun {x y} hx hy hne heq => ?_) distinct_keys_toList
  have hx := mem_toList_iff_getElem?_eq_some.1 hx
  have hy := mem_toList_iff_getElem?_eq_some.1 hy
  -- two entries of one value have one key, but a map has each key once
  have hkey := h x.1 y.1 y.2 (heq ▸ hx) hy
  exact hne (hkey ▸ ReflCmp.compare_self)

variable [LawfulEqCmp cmp] [DecidableEq α] (m : ExtTreeMap α β cmp) (a k : α)

theorem getElem?_insert_ite (b : β) : (m.insert k b)[a]? = if a = k then some b else m[a]? := by
  rw [getElem?_insert]
  by_cases h : a = k
  · rw [if_pos h, if_pos (by rw [h]; exact ReflCmp.compare_self)]
  · rw [if_neg h, if_neg fun heq => h (LawfulEqCmp.eq_of_compare heq).symm]

/-- What was under the key before makes no difference. -/
theorem insert_erase_self (b : β) : (m.erase k).insert k b = m.insert k b := by
  apply ext_getElem?
  intro a
  rw [getElem?_insert_ite, getElem?_insert_ite]
  split
  · rfl
  · next h => rw [getElem?_erase, if_neg fun heq => h (LawfulEqCmp.eq_of_compare heq).symm]

theorem getElem?_erase_ite : (m.erase k)[a]? = if a = k then none else m[a]? := by
  rw [getElem?_erase]
  by_cases h : a = k
  · rw [if_pos h, if_pos (by rw [h]; exact ReflCmp.compare_self)]
  · rw [if_neg h, if_neg fun heq => h (LawfulEqCmp.eq_of_compare heq).symm]

theorem getElem?_of_getElem?_erase {m : ExtTreeMap α β cmp} {a k : α} {b : β}
    (h : (m.erase k)[a]? = some b) : m[a]? = some b := by
  rw [getElem?_erase_ite] at h
  split at h
  · exact nomatch h
  · exact h

/-- Nothing changes where nothing is erased. -/
theorem erase_of_getElem?_eq_none {m : ExtTreeMap α β cmp} {k : α} (h : m[k]? = none) :
    m.erase k = m := by
  apply ext_getElem?
  intro a
  rw [getElem?_erase_ite]
  split
  · next heq => rw [heq, h]
  · rfl

/-- Nothing changes where the same value is put again. -/
theorem insert_of_getElem?_eq_some {m : ExtTreeMap α β cmp} {k : α} {b : β} (h : m[k]? = some b) :
    m.insert k b = m := by
  apply ext_getElem?
  intro a
  rw [getElem?_insert_ite]
  split
  · next heq => rw [heq, h]
  · rfl

/-- What is said of all entries can be checked by going through them. -/
instance decidableForall (m : ExtTreeMap α β cmp) (p : α → β → Prop) [∀ a b, Decidable (p a b)] :
    Decidable (∀ (a : α) (b : β), m[a]? = some b → p a b) :=
  decidable_of_iff (∀ x ∈ m.toList, p x.1 x.2) <| by
    constructor
    · intro h a b hab
      exact h (a, b) (mem_toList_iff_getElem?_eq_some.2 hab)
    · intro h x hx
      exact h x.1 x.2 (mem_toList_iff_getElem?_eq_some.1 hx)

end Std.ExtTreeMap
