import MacroTypes.Proofs.Tree.Forest
import MacroTypes.Tree.Preorder

/-!
# What removing a node takes away

A node is removed together with everything below it, by going through a worklist that starts with
the node. The worklist loses its first node and gains the children of that node in front, and the
node is taken away before its children are looked at. On a well-linked tree this lists what the
recursion over the children lists (`Linked.preorder_detach`), because no node on the worklist is
below another one and nothing below it was taken away yet (`Pending`).

* `getElem?_detach`, `nodup_detach`: the nodes that are listed are those that go, each once
* `Linked.getElem?_unlink`: one entry among the children goes before
* `remove_run`: removal after every history of edits
-/

namespace MacroTypes.Tree

variable {t : Tree} {nodes : Std.ExtTreeMap NodeId Node} {worklist : List NodeId} {n m : NodeId}

/-! ## The nodes that are listed -/

private theorem exists_of_mem_detach (hm : m ∈ (detach nodes worklist).1) :
    ∃ d, nodes[m]? = some d := by
  fun_induction detach nodes worklist with
  | case1 => simp at hm
  | case2 nodes n rest hn ih => exact ih hm
  | case3 nodes n rest d hn others ih =>
    rcases List.mem_cons.1 hm with rfl | hm
    · exact ⟨d, hn⟩
    · obtain ⟨e, he⟩ := ih hm
      exact ⟨e, Std.ExtTreeMap.getElem?_of_getElem?_erase he⟩

/-- No node is listed twice. -/
theorem nodup_detach (nodes : Std.ExtTreeMap NodeId Node) (worklist : List NodeId) :
    (detach nodes worklist).1.Nodup := by
  fun_induction detach nodes worklist with
  | case1 => exact List.nodup_nil
  | case2 nodes n rest hn ih => exact ih
  | case3 nodes n rest d hn others ih =>
    refine List.nodup_cons.2 ⟨fun hmem => ?_, ih⟩
    -- the node was taken away before
    obtain ⟨e, he⟩ := exists_of_mem_detach hmem
    simp at he

/-- What is listed is gone, and the rest is as it was. -/
theorem getElem?_detach (nodes : Std.ExtTreeMap NodeId Node) (worklist : List NodeId) (m : NodeId) :
    (detach nodes worklist).2[m]? =
      if m ∈ (detach nodes worklist).1 then none else nodes[m]? := by
  fun_induction detach nodes worklist with
  | case1 => simp
  | case2 nodes n rest hn ih => exact ih
  | case3 nodes n rest d hn others ih =>
    show others.2[m]? = if m ∈ n :: others.1 then none else nodes[m]?
    have hothers : others.2[m]? = if m ∈ others.1 then none else (nodes.erase n)[m]? := ih
    rw [hothers, Std.ExtTreeMap.getElem?_erase_ite]
    by_cases hmn : m = n
    · simp [hmn]
    · simp [hmn]

/-! ## What nodes reach -/

private theorem Linked.index_le_of_reaches (h : t.Linked) (hr : t.Reaches n m) :
    n.index ≤ m.index := by
  induction hr with
  | refl => exact Nat.le_refl _
  | @step p c m hc _ ih =>
    have hlt := parent?_lt ((h.mem_children_iff p c).1 hc)
    omega

/-- A node does not lie below its children. -/
private theorem Linked.not_reaches_of_mem_children (h : t.Linked) {c : NodeId}
    (hc : c ∈ t.children n) :
    ¬ t.Reaches c n := by
  intro hr
  have hle := h.index_le_of_reaches hr
  have hlt := parent?_lt ((h.mem_children_iff n c).1 hc)
  omega

/-- A node does not lie below its siblings: the way down to it leads through its parent. -/
private theorem Linked.not_reaches_of_siblings (h : t.Linked) {a b : NodeId}
    (ha : a ∈ t.children n) (hb : b ∈ t.children n) (hne : a ≠ b) : ¬ t.Reaches a b := by
  intro hr
  rcases h.reaches_iff.1 hr with ⟨heq, -⟩ | ⟨p, hp, hr⟩
  · exact hne heq
  · have hparent := (h.mem_children_iff n b).1 hb
    rw [Option.some.inj (hp.symm.trans hparent)] at hr
    exact h.not_reaches_of_mem_children ha hr

/-- What is reached is there. -/
theorem Reaches.contains (hr : t.Reaches n m) : t.contains m = true := by
  induction hr with
  | refl hn => exact hn
  | step _ _ ih => exact ih

private theorem reaches_of_mem_children (h : t.Linked) {c : NodeId} (hc : c ∈ t.children n) :
    t.Reaches n c :=
  .step hc (.refl (contains_of_parent? ((h.mem_children_iff n c).1 hc)))

/-- What is listed in front of and below some nodes is what they reach. -/
theorem Preorder.mem_iff {ns xs : List NodeId} (h : t.Preorder ns xs) :
    m ∈ xs ↔ ∃ n ∈ ns, t.Reaches n m := by
  induction h with
  | nil => simp
  | @cons n below rest after hn _ _ ihbelow ihafter =>
    -- a node reaches itself and what its children reach
    have hreaches : t.Reaches n m ↔ m = n ∨ ∃ c ∈ t.children n, t.Reaches c m := by
      constructor
      · intro hr
        cases hr with
        | refl => exact .inl rfl
        | step hc hr => exact .inr ⟨_, hc, hr⟩
      · rintro (rfl | ⟨c, hc, hr⟩)
        · exact .refl hn
        · exact .step hc hr
    rw [List.mem_cons, List.mem_append, ihbelow, ihafter, List.exists_mem_cons_iff, hreaches,
      or_assoc]

/-- The listing of two lists of nodes is that of the first followed by that of the second. -/
private theorem Preorder.of_append {ns ms xs : List NodeId} (h : t.Preorder (ns ++ ms) xs) :
    ∃ ys zs, xs = ys ++ zs ∧ t.Preorder ns ys ∧ t.Preorder ms zs := by
  induction ns generalizing xs with
  | nil => exact ⟨[], xs, rfl, .nil, h⟩
  | cons n rest ih =>
    cases h with
    | cons hn hbelow hafter =>
      obtain ⟨ys, zs, rfl, hys, hzs⟩ := ih hafter
      exact ⟨_, zs, by rw [List.cons_append, List.append_assoc], .cons hn hbelow hys, hzs⟩

/-- The step of a listing, for children that are known as another list. -/
private theorem Preorder.cons_of_children {children below rest after : List NodeId}
    (hn : t.contains n = true) (hchildren : t.children n = children)
    (hbelow : t.Preorder children below) (hafter : t.Preorder rest after) :
    t.Preorder (n :: rest) (n :: (below ++ after)) := by
  subst hchildren
  exact .cons hn hbelow hafter

/-! ## The worklist -/

/-- A worklist whose nodes are still to be removed: they are there, none of them is below another
    one, and below them the nodes and their children are still those of the tree. -/
structure Pending (t : Tree) (nodes : Std.ExtTreeMap NodeId Node) (worklist : List NodeId) :
    Prop where
  contains : ∀ n ∈ worklist, t.contains n = true
  apart : worklist.Pairwise fun a b => ¬ t.Reaches a b ∧ ¬ t.Reaches b a
  kept : ∀ n ∈ worklist, ∀ m, t.Reaches n m → ∃ d, nodes[m]? = some d ∧ d.children = t.children m

/-- The node that is taken off the worklist. -/
private theorem Pending.head {rest : List NodeId} (h : t.Pending nodes (n :: rest)) :
    ∃ d, nodes[n]? = some d ∧ d.children = t.children n :=
  h.kept n List.mem_cons_self n (.refl (h.contains n List.mem_cons_self))

/-- Its children may take its place. -/
theorem Pending.step {rest : List NodeId} (h : t.Pending nodes (n :: rest)) (hlinked : t.Linked) :
    t.Pending (nodes.erase n) (t.children n ++ rest) := by
  obtain ⟨hapart, hrest⟩ := List.pairwise_cons.1 h.apart
  have hchild : ∀ c ∈ t.children n, t.parent? c = some n :=
    fun c hc => (hlinked.mem_children_iff n c).1 hc
  have herase : ∀ {m}, m ≠ n → (∃ d, nodes[m]? = some d ∧ d.children = t.children m) →
      ∃ d, (nodes.erase n)[m]? = some d ∧ d.children = t.children m := by
    intro m hm hd
    rwa [Std.ExtTreeMap.getElem?_erase_ite, if_neg hm]
  constructor
  case contains =>
    intro c hc
    rcases List.mem_append.1 hc with hc | hc
    · exact contains_of_parent? (hchild c hc)
    · exact h.contains c (List.mem_cons_of_mem _ hc)
  case apart =>
    refine List.pairwise_append.2 ⟨?_, hrest, fun c hc w hw => ⟨fun hr => ?_, fun hr => ?_⟩⟩
    · -- the children are different nodes, because they stand in order
      refine (hlinked.children_sorted n).imp_of_mem fun {a b} ha hb hlt => ?_
      have hne : a ≠ b := fun heq => Nat.lt_irrefl _ (heq ▸ hlt)
      exact ⟨hlinked.not_reaches_of_siblings ha hb hne,
        hlinked.not_reaches_of_siblings hb ha hne.symm⟩
    · -- what a child reaches, the node reaches
      exact (hapart w hw).1 (.step hc hr)
    · -- what reaches a child is the child or reaches the node
      rcases hlinked.reaches_iff.1 hr with ⟨rfl, -⟩ | ⟨p, hp, hr⟩
      · exact (hapart w hw).1 (reaches_of_mem_children hlinked hc)
      · rw [Option.some.inj (hp.symm.trans (hchild c hc))] at hr
        exact (hapart w hw).2 hr
  case kept =>
    -- nothing on the new worklist reaches the node that was taken away
    intro c hmem m hr
    rcases List.mem_append.1 hmem with hc | hc
    · refine herase (fun heq => ?_) (h.kept n List.mem_cons_self m (.step hc hr))
      exact hlinked.not_reaches_of_mem_children hc (heq ▸ hr)
    · refine herase (fun heq => ?_) (h.kept c (List.mem_cons_of_mem _ hc) m hr)
      exact (hapart c hc).2 (heq ▸ hr)

/-- The worklist is removed in the order of the recursion over the children. -/
theorem Linked.preorder_detach (hlinked : t.Linked) (h : t.Pending nodes worklist) :
    t.Preorder worklist (detach nodes worklist).1 := by
  -- induction on the run of the worklist, which is pending at every step
  fun_induction detach nodes worklist with
  | case1 => exact .nil
  | case2 nodes n rest hn ih =>
    -- the next node of a pending worklist is there
    obtain ⟨d, hd, -⟩ := h.head
    cases hn.symm.trans hd
  | case3 nodes n rest d hn others ih =>
    obtain ⟨e, he, hchildren⟩ := h.head
    obtain rfl := Option.some.inj (hn.symm.trans he)
    -- what is listed after it falls into its subtree and the rest of the worklist
    have hothers := ih (hchildren ▸ h.step hlinked)
    obtain ⟨below, after, heq, hbelow, hafter⟩ := hothers.of_append
    rw [heq]
    exact .cons_of_children (h.contains n List.mem_cons_self) hchildren.symm hbelow hafter

/-! ## What is left -/

/-- What is left of a tree after a node was removed together with the nodes of a list. -/
structure RemovesTo (t : Tree) (n : NodeId) (removed : List NodeId) (t' : Tree) : Prop where
  /-- The nodes of the list are gone, and no others. -/
  contains_iff : ∀ m, t'.contains m = true ↔ t.contains m = true ∧ m ∉ removed
  /-- The other roots stand in the same order. -/
  roots_eq : t'.roots = t.roots.filter (· ≠ n)
  /-- A node that remains has its other children in the same order. -/
  children_eq : ∀ m, m ∉ removed → t'.children m = (t.children m).filter (· ≠ n)
  /-- The node is nobody's child. -/
  not_mem_children : ∀ m, n ∉ t'.children m
  /-- A node that remains keeps its kind, -/
  kind?_eq : ∀ m, m ∉ removed → t'.kind? m = t.kind? m
  /-- its tag, -/
  tag?_eq : ∀ m, m ∉ removed → t'.tag? m = t.tag? m
  /-- its name -/
  name?_eq : ∀ m, m ∉ removed → t'.name? m = t.name? m
  /-- and its parent. -/
  parent?_eq : ∀ m, m ∉ removed → t'.parent? m = t.parent? m

/-- All views of a node are those of its entry. -/
private theorem removesTo_of_nodes {t' : Tree} {removed : List NodeId}
    (hroots : t'.roots = t.roots.filter (· ≠ n))
    (hnodes : ∀ m : NodeId, t'.nodes[m]? = if m ∈ removed then none
      else t.nodes[m]?.map fun e => { e with children := e.children.filter (· ≠ n) }) :
    t.RemovesTo n removed t' where
  contains_iff m := by
    rw [contains_eq_isSome, contains_eq_isSome, hnodes]
    by_cases hm : m ∈ removed
    · simp [hm]
    · simp [hm]
  roots_eq := hroots
  children_eq m hm := by
    -- the filter is on the children of an entry that is there
    rw [children, children, hnodes, if_neg hm]
    cases t.nodes[m]? with
    | none => rfl
    | some e => rfl
  not_mem_children m := by
    -- the filter has taken the node out
    rw [children, hnodes]
    split
    · simp
    · cases t.nodes[m]? with
      | none => simp
      | some e => simp
  kind?_eq m hm := by
    -- the other fields of the entry are as before
    rw [kind?, kind?, hnodes, if_neg hm, Option.map_map]
    rfl
  tag?_eq m hm := by
    rw [tag?, tag?, hnodes, if_neg hm, Option.map_map]
    rfl
  name?_eq m hm := by
    rw [name?, name?, hnodes, if_neg hm, Option.bind_map]
    rfl
  parent?_eq m hm := by
    rw [parent?, parent?, hnodes, if_neg hm, Option.bind_map]
    rfl

/-- The worklist starts with the removed node, which is unlinked but still there. -/
private theorem Linked.pending_unlink (h : t.Linked) {d : Node} (hn : t.nodes[n]? = some d) :
    t.Pending (t.unlink n d.parent?).nodes [n] := by
  have hpresent : t.contains n = true := by rw [contains_eq_isSome, hn, Option.isSome_some]
  refine ⟨fun m hm => List.mem_singleton.1 hm ▸ hpresent, List.pairwise_singleton _ _,
    fun w hw m hr => ?_⟩
  rw [List.mem_singleton.1 hw] at hr
  -- nothing below the node has it among its children
  have hfree : (t.children m).filter (· ≠ n) = t.children m := by
    rw [List.filter_eq_self]
    intro c hc
    have hcn : c ≠ n := fun heq => h.not_reaches_of_mem_children hc (heq ▸ hr)
    simpa using hcn
  -- so its entry has the children of before
  have hm : (t.unlink n d.parent?).contains m = true := by
    rw [(views_unlink t n d.parent? m).2.2]
    exact hr.contains
  rw [contains_eq_isSome, Option.isSome_iff_exists] at hm
  obtain ⟨e, he⟩ := hm
  refine ⟨e, he, ?_⟩
  rw [← hfree, ← h.children_unlink hn, children, he]
  rfl

/-- Removing a node of a well-linked tree succeeds with the listing of what it reaches. -/
theorem Linked.remove_eq_ok (h : t.Linked) (hn : t.contains n = true) :
    ∃ removed t', Tree.remove n t = .ok removed t' ∧ t.Preorder [n] removed ∧ removed.Nodup ∧
      t.RemovesTo n removed t' := by
  rw [contains_eq_isSome, Option.isSome_iff_exists] at hn
  obtain ⟨d, hd⟩ := hn
  obtain ⟨t', heq, hnodes, hroots, -⟩ := remove_of_some hd
  refine ⟨_, t', heq, h.preorder_detach (h.pending_unlink hd), nodup_detach _ _, ?_⟩
  refine removesTo_of_nodes (hroots.trans (h.roots_unlink hd)) fun m => ?_
  rw [hnodes, getElem?_detach, h.getElem?_unlink hd]

/-- After every history of edits, removing a node that is there succeeds. The result lists the
    node and what lies below it in the order of the recursion over the children, each node once,
    and these are all the nodes that the node reaches. What is left is as described. -/
theorem remove_run (changes : List Change) {n : NodeId} (hn : (run changes).contains n = true) :
    ∃ removed t', Tree.remove n (run changes) = .ok removed t' ∧
      (run changes).Preorder [n] removed ∧ removed.Nodup ∧
      (∀ m, m ∈ removed ↔ (run changes).Reaches n m) ∧ (run changes).RemovesTo n removed t' := by
  obtain ⟨removed, t', heq, hpreorder, hnodup, hleft⟩ := (linked_run changes).remove_eq_ok hn
  refine ⟨removed, t', heq, hpreorder, hnodup, fun m => ?_, hleft⟩
  rw [hpreorder.mem_iff]
  simp

/-- A project with two children, the first of which has three children and a grandchild. -/
def branching : List Change :=
  [ .addRoot { kind := .project, tag := "project" },
    .addChild ⟨1⟩ { tag := "macrodef", name? := some "Foo" },
    .addChild ⟨2⟩ { tag := "element", name? := some "Baz" },
    .addChild ⟨2⟩ { kind := .tasksContainer, tag := "sequential" },
    .addChild ⟨3⟩ { tag := "description" },
    .addChild ⟨1⟩ { kind := .tasksContainer, tag := "target" },
    .addChild ⟨2⟩ .text ]

private theorem preorder_branching :
    (run branching).Preorder [⟨2⟩] [⟨2⟩, ⟨3⟩, ⟨5⟩, ⟨4⟩, ⟨7⟩] := by
  have h7 : (run branching).Preorder [⟨7⟩] [⟨7⟩] :=
    .cons_of_children (by decide +kernel) (by decide +kernel) .nil .nil
  have h4 : (run branching).Preorder [⟨4⟩, ⟨7⟩] [⟨4⟩, ⟨7⟩] :=
    .cons_of_children (by decide +kernel) (by decide +kernel) .nil h7
  have h5 : (run branching).Preorder [⟨5⟩] [⟨5⟩] :=
    .cons_of_children (by decide +kernel) (by decide +kernel) .nil .nil
  have h3 : (run branching).Preorder [⟨3⟩, ⟨4⟩, ⟨7⟩] [⟨3⟩, ⟨5⟩, ⟨4⟩, ⟨7⟩] :=
    .cons_of_children (by decide +kernel) (by decide +kernel) h5 h4
  exact .cons_of_children (by decide +kernel) (by decide +kernel) h3 .nil

theorem remove_run_branching : (run branching).contains ⟨2⟩ = true ∧
    ∃ t', Tree.remove ⟨2⟩ (run branching) = .ok [⟨2⟩, ⟨3⟩, ⟨5⟩, ⟨4⟩, ⟨7⟩] t' ∧
      (run branching).Preorder [⟨2⟩] [⟨2⟩, ⟨3⟩, ⟨5⟩, ⟨4⟩, ⟨7⟩] ∧
      (run branching).RemovesTo ⟨2⟩ [⟨2⟩, ⟨3⟩, ⟨5⟩, ⟨4⟩, ⟨7⟩] t' := by
  have hn : (run branching).contains ⟨2⟩ = true := by decide +kernel
  obtain ⟨removed, t', heq, hpreorder, -, -, hleft⟩ := remove_run branching hn
  obtain rfl := hpreorder.unique preorder_branching
  exact ⟨hn, t', heq, preorder_branching, hleft⟩

end MacroTypes.Tree
