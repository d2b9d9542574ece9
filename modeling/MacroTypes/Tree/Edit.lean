import MacroTypes.Tree.Basic

/-!
# Editing trees

Roots and children are added at the end, names are changed, and a node is removed together with
everything below it. An edit that names a node that is not there, or that adds a child to text,
fails. An edit is a step from one tree to the next that may fail on the way, and the tree that a
failure leaves behind is part of its outcome.

`getElem?_of_getElem?_detach` is what makes the remaining nodes a tree again: removal changes no
node that it keeps.
-/

namespace MacroTypes

/-- Why a tree cannot be edited. -/
inductive TreeError where
  /-- The node is not there. -/
  | nodeNotFound (n : NodeId)
  /-- The node is text and has no children. -/
  | textHasNoChildren (n : NodeId)
deriving DecidableEq, Repr

/-- The wording of the error. -/
def TreeError.message : TreeError → String
  | .nodeNotFound n => s!"Node not found: {n}"
  | .textHasNoChildren n => s!"Cannot add children to text node {n}"

/-- A step from one tree to the next, which may fail. -/
abbrev TreeM := EStateM TreeError Tree

namespace Tree

/-! ## Adding nodes -/

/-- Adds a node without children under the next identifier. -/
def insertNode (t : Tree) (e : Element) (parent? : Option NodeId)
    (hparent : ∀ p, parent? = some p → p.index < t.next) : Tree where
  nodes := t.nodes.insert t.nextId { element := e, parent? }
  roots := t.roots
  next := t.next + 1
  lt_next := by
    intro n d h
    rw [Std.ExtTreeMap.getElem?_insert] at h
    split at h
    · -- the new node has the number that was free
      next heq =>
      rw [← Std.LawfulEqOrd.eq_of_compare heq]
      exact Nat.lt_succ_self _
    · exact Nat.lt_succ_of_lt (t.lt_next n d h)
  parent_lt := by
    intro n d p h hp
    rw [Std.ExtTreeMap.getElem?_insert] at h
    split at h
    · -- the new node has its parent from the caller
      next heq =>
      rw [← Std.LawfulEqOrd.eq_of_compare heq]
      simp only [Option.some.injEq] at h
      exact hparent p (by rw [← hp, ← h])
    · exact t.parent_lt n d p h hp

/-- The tree with other nodes, each of which was there with the same parent. -/
def withNodes (t : Tree) (nodes : Std.ExtTreeMap NodeId Node) (roots : List NodeId)
    (h : ∀ (n : NodeId) (d : Node), nodes[n]? = some d →
      ∃ e : Node, t.nodes[n]? = some e ∧ e.parent? = d.parent?) : Tree where
  nodes := nodes
  roots := roots
  next := t.next
  lt_next := by
    intro n d hd
    obtain ⟨e, he, _⟩ := h n d hd
    exact t.lt_next n e he
  parent_lt := by
    intro n d p hd hp
    obtain ⟨e, he, heq⟩ := h n d hd
    exact t.parent_lt n e p he (heq.trans hp)

/-- Changing a node but not its parent keeps every node and its parent. -/
private theorem exists_of_getElem?_modify {nodes : Std.ExtTreeMap NodeId Node} {n : NodeId}
    {f : Node → Node} (hf : ∀ d : Node, (f d).parent? = d.parent?) {m : NodeId} {d : Node}
    (h : (nodes.modify n f)[m]? = some d) :
    ∃ e : Node, nodes[m]? = some e ∧ e.parent? = d.parent? := by
  rw [Std.ExtTreeMap.getElem?_modify] at h
  split at h
  · next heq =>
    obtain ⟨e, he, rfl⟩ := Option.map_eq_some_iff.1 h
    exact ⟨e, Std.LawfulEqOrd.eq_of_compare heq ▸ he, (hf e).symm⟩
  · exact ⟨d, h, rfl⟩

/-- Changes a node but not its parent. -/
def modifyNode (t : Tree) (n : NodeId) (f : Node → Node)
    (hf : ∀ d : Node, (f d).parent? = d.parent?) : Tree :=
  t.withNodes (t.nodes.modify n f) t.roots fun _ _ => exists_of_getElem?_modify hf

/-- Adds a root. The result is its identifier and the new tree. -/
def addRoot (t : Tree) (e : Element) : NodeId × Tree :=
  let t' := t.insertNode e none (by simp)
  (t.nextId, { t' with roots := t.roots ++ [t.nextId] })

/-- The tree with a last child added to a node that is there. -/
def appendChild (t : Tree) (parent : NodeId) (d : Node) (h : t.nodes[parent]? = some d)
    (e : Element) : Tree :=
  let t' := t.insertNode e (some parent) fun p hp => by
    rw [← Option.some.inj hp]
    exact t.lt_next parent d h
  t'.modifyNode parent (fun d => { d with children := d.children ++ [t.nextId] }) fun _ => rfl

/-- Adds a last child to a node. -/
def addChild (parent : NodeId) (e : Element) : TreeM NodeId := fun t =>
  match h : t.nodes[parent]? with
  | none => .error (.nodeNotFound parent) t
  | some d =>
    if d.element.kind.isStructured then .ok t.nextId (t.appendChild parent d h e)
    else .error (.textHasNoChildren parent) t

/-! ## Changing and removing nodes -/

/-- Changes or clears the declared name of a node. -/
def rename (n : NodeId) (name? : Option String) : TreeM Unit := fun t =>
  if t.contains n then
    .ok () (t.modifyNode n (fun d => { d with element := { d.element with name? } }) fun _ => rfl)
  else .error (.nodeNotFound n) t

/-- Removes the nodes of a worklist, each followed by what is below it. The result lists the nodes
removed and holds the nodes that remain. -/
def detach (nodes : Std.ExtTreeMap NodeId Node) :
    List NodeId → List NodeId × Std.ExtTreeMap NodeId Node
  | [] => ([], nodes)
  | n :: rest =>
    match _h : nodes[n]? with
    | none => detach nodes rest
    | some d =>
      -- the children go before the rest, which is the document order
      let others := detach (nodes.erase n) (d.children ++ rest)
      (n :: others.1, others.2)
termination_by worklist => (nodes.size, worklist.length)
decreasing_by
  · -- a node that is not there only shortens the worklist
    exact Prod.Lex.right _ (Nat.lt_succ_self _)
  · -- otherwise there is one node less, however long the worklist gets
    apply Prod.Lex.left
    have hmem : n ∈ nodes := Std.ExtTreeMap.mem_iff_isSome_getElem?.2 (by simp [_h])
    have hpos : nodes.size ≠ 0 := fun h => by
      rw [← Std.ExtTreeMap.eq_empty_iff_size_eq_zero] at h
      simp [h] at hmem
    rw [Std.ExtTreeMap.size_erase, if_pos (Std.ExtTreeMap.contains_iff_mem.2 hmem)]
    omega

/-- A node that remains is as it was. -/
theorem getElem?_of_getElem?_detach {nodes : Std.ExtTreeMap NodeId Node} {worklist : List NodeId}
    {m : NodeId} {d : Node} (h : (detach nodes worklist).2[m]? = some d) : nodes[m]? = some d := by
  fun_induction detach nodes worklist with
  | case1 => exact h
  | case2 nodes n rest hn ih => exact ih h
  | case3 nodes n rest e hn others ih =>
    have h := ih h
    -- erasing one node changes no other
    rw [Std.ExtTreeMap.getElem?_erase] at h
    split at h
    · simp at h
    · exact h

/-- Takes a node from the children of its parent or, if it has none, from the roots. -/
def unlink (t : Tree) (n : NodeId) : Option NodeId → Tree
  | some p =>
    t.modifyNode p (fun d => { d with children := d.children.filter (· ≠ n) }) fun _ => rfl
  | none => t.withNodes t.nodes (t.roots.filter (· ≠ n)) fun _ d h => ⟨d, h, rfl⟩

/-- Removes a node and everything below it. The result lists the nodes removed, each before what
is below it. -/
def remove (n : NodeId) : TreeM (List NodeId) := fun t =>
  match t.nodes[n]? with
  | none => .error (.nodeNotFound n) t
  | some d =>
    -- the link from above goes first: what is detached is reached from the node alone
    let t := t.unlink n d.parent?
    let detached := detach t.nodes [n]
    .ok detached.1 (t.withNodes detached.2 t.roots fun _ d h =>
      ⟨d, getElem?_of_getElem?_detach h, rfl⟩)

end Tree

end MacroTypes
