import MacroTypes.Tree.Edit

/-!
# What the edits of a tree do

For each edit there is one equation that gives the node under every identifier afterwards, and for
the edits that may fail one statement for each way in which they end.

* `getElem?_addRoot`
* `addChild_of_none`, `addChild_of_text`, `addChild_of_structured`, `getElem?_appendChild`
* `rename_of_contains`, `rename_of_not_contains`
* `remove_of_none`, `remove_of_some`
-/

namespace MacroTypes.Tree

variable {t : Tree}

/-! ## Identifiers -/

/-- The next identifier is free. -/
theorem getElem?_nextId (t : Tree) : t.nodes[t.nextId]? = none := by
  cases h : t.nodes[t.nextId]? with
  | none => rfl
  | some d => exact absurd (t.lt_next t.nextId d h) (Nat.lt_irrefl t.next)

theorem ne_nextId {n : NodeId} {d : Node} (h : t.nodes[n]? = some d) : n ≠ t.nextId := by
  rintro rfl
  simp [getElem?_nextId] at h

/-! ## Adding nodes -/

theorem getElem?_addRoot (e : Element) (n : NodeId) :
    (t.addRoot e).2.nodes[n]? =
      if n = t.nextId then some { element := e, parent? := none } else t.nodes[n]? := by
  simp [addRoot, insertNode, Std.ExtTreeMap.getElem?_insert, @eq_comm _ n]

theorem roots_addRoot (e : Element) : (t.addRoot e).2.roots = t.roots ++ [t.nextId] := rfl

theorem addChild_of_none {parent : NodeId} (h : t.nodes[parent]? = none) (e : Element) :
    addChild parent e t = .error (.nodeNotFound parent) t := by
  unfold addChild
  split
  · rfl
  · next d hd => simp [h] at hd

theorem addChild_of_text {parent : NodeId} {d : Node} (h : t.nodes[parent]? = some d)
    (hd : d.element.kind.isStructured = false) (e : Element) :
    addChild parent e t = .error (.textHasNoChildren parent) t := by
  unfold addChild
  split
  · next hnone => simp [h] at hnone
  · next f hf =>
    cases Option.some.inj (h.symm.trans hf)
    simp [hd]

theorem addChild_of_structured {parent : NodeId} {d : Node} (h : t.nodes[parent]? = some d)
    (hd : d.element.kind.isStructured = true) (e : Element) :
    addChild parent e t = .ok t.nextId (t.appendChild parent d h e) := by
  unfold addChild
  split
  · next hnone => simp [h] at hnone
  · next f hf =>
    cases Option.some.inj (h.symm.trans hf)
    simp [hd]

theorem getElem?_appendChild {parent : NodeId} {d : Node} (h : t.nodes[parent]? = some d)
    (e : Element) (n : NodeId) :
    (t.appendChild parent d h e).nodes[n]? =
      if n = t.nextId then some { element := e, parent? := some parent }
      else if n = parent then some { d with children := d.children ++ [t.nextId] }
      else t.nodes[n]? := by
  have hne := ne_nextId h
  simp only [appendChild, modifyNode, withNodes, insertNode, Std.ExtTreeMap.getElem?_modify,
    Std.ExtTreeMap.getElem?_insert, Std.compare_eq_iff_eq]
  by_cases hn : n = t.nextId
  · -- the new node: it is not its own parent, so the second change passes it over
    subst hn
    simp [hne]
  · by_cases hp : n = parent
    · subst hp
      simp [hne, Ne.symm hne, h]
    · simp [hn, Ne.symm hn, hp, Ne.symm hp]

theorem roots_appendChild {parent : NodeId} {d : Node} (h : t.nodes[parent]? = some d)
    (e : Element) : (t.appendChild parent d h e).roots = t.roots := rfl

theorem next_appendChild {parent : NodeId} {d : Node} (h : t.nodes[parent]? = some d)
    (e : Element) : (t.appendChild parent d h e).next = t.next + 1 := rfl

/-! ## Changing names -/

theorem rename_of_not_contains {n : NodeId} (h : t.contains n = false) (name? : Option String) :
    rename n name? t = .error (.nodeNotFound n) t := by
  simp [rename, h]

/-- A change of name touches nothing but the name. -/
theorem rename_of_contains {n : NodeId} (h : t.contains n = true) (name? : Option String) :
    ∃ t', rename n name? t = .ok () t' ∧ t'.roots = t.roots ∧ t'.next = t.next ∧
      ∀ m, t'.nodes[m]? = if m = n then
        t.nodes[m]?.map fun d => { d with element := { d.element with name? } }
        else t.nodes[m]? := by
  simp only [rename, h, if_true]
  refine ⟨_, rfl, rfl, rfl, fun m => ?_⟩
  simp only [modifyNode, withNodes, Std.ExtTreeMap.getElem?_modify, Std.compare_eq_iff_eq,
    @eq_comm _ m]
  by_cases hm : n = m
  · simp [hm]
  · simp [hm]

/-! ## Removing nodes -/

private theorem next_unlink (n : NodeId) (parent? : Option NodeId) :
    (t.unlink n parent?).next = t.next := by
  cases parent? <;> rfl

theorem remove_of_none {n : NodeId} (h : t.nodes[n]? = none) :
    remove n t = .error (.nodeNotFound n) t := by
  simp [remove, h]

/-- A node that is there is removed together with what the worklist that starts with it reaches. -/
theorem remove_of_some {n : NodeId} {d : Node} (h : t.nodes[n]? = some d) :
    ∃ t', remove n t = .ok (detach (t.unlink n d.parent?).nodes [n]).1 t' ∧
      t'.nodes = (detach (t.unlink n d.parent?).nodes [n]).2 ∧
      t'.roots = (t.unlink n d.parent?).roots ∧ t'.next = t.next := by
  simp only [remove, h]
  exact ⟨_, rfl, rfl, rfl, next_unlink n d.parent?⟩

end MacroTypes.Tree
