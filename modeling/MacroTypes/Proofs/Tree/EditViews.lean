import MacroTypes.Proofs.ForStd.TreeMap
import MacroTypes.Tree.Change
import MacroTypes.Tree.Lemmas

/-!
# What edits change

A tree is seen through four views of its nodes: `contains`, `parent?`, `children` and `kind?`. Here
is what each edit does to them, for removal on a well-linked tree.

* `parent?_addRoot`, `children_addRoot`, `kind?_addRoot`, `contains_addRoot`
* `parent?_appendChild`, `children_appendChild`, `kind?_appendChild`, `contains_appendChild`
* `views_rename`
* `Linked.contains_remove`, `Linked.views_remove`
-/

namespace MacroTypes.Tree

/-! ## Nodes that are there -/

theorem contains_eq_isSome (t : Tree) (n : NodeId) : t.contains n = t.nodes[n]?.isSome := by
  rw [contains, Std.ExtTreeMap.contains_eq_isSome_getElem?]

theorem contains_of_kind? {t : Tree} {n : NodeId} {k : NodeKind} (h : t.kind? n = some k) :
    t.contains n = true := by
  obtain ⟨d, hd, _⟩ := Option.map_eq_some_iff.1 h
  rw [contains_eq_isSome, hd]
  rfl

theorem contains_of_parent? {t : Tree} {n p : NodeId} (h : t.parent? n = some p) :
    t.contains n = true := by
  obtain ⟨d, hd, _⟩ := Option.bind_eq_some_iff.1 h
  rw [contains_eq_isSome, hd]
  rfl

theorem index_lt_of_contains {t : Tree} {n : NodeId} (h : t.contains n = true) :
    n.index < t.next := by
  rw [contains_eq_isSome] at h
  obtain ⟨d, hd⟩ := Option.isSome_iff_exists.1 h
  exact t.lt_next n d hd

/-! ## Adding and renaming -/

/-- A new root has no parent, like the free identifier before. -/
theorem parent?_addRoot (t : Tree) (e : Element) (n : NodeId) :
    (t.addRoot e).2.parent? n = t.parent? n := by
  simp only [parent?, getElem?_addRoot]
  split
  · next hn => simp [hn, getElem?_nextId]
  · rfl

theorem children_addRoot (t : Tree) (e : Element) (n : NodeId) :
    (t.addRoot e).2.children n = t.children n := by
  simp only [children, getElem?_addRoot]
  split
  · next hn => simp [hn, getElem?_nextId]
  · rfl

theorem kind?_addRoot (t : Tree) (e : Element) (n : NodeId) :
    (t.addRoot e).2.kind? n = if n = t.nextId then some e.kind else t.kind? n := by
  simp only [kind?, getElem?_addRoot]
  split <;> rfl

theorem contains_addRoot (t : Tree) (e : Element) (n : NodeId) :
    (t.addRoot e).2.contains n = true ↔ n = t.nextId ∨ t.contains n = true := by
  simp only [contains_eq_isSome, getElem?_addRoot]
  split
  · next hn => simp [hn]
  · next hn => simp [hn]

section AppendChild

variable {t : Tree} {parent : NodeId} {d : Node}

theorem parent?_appendChild (h : t.nodes[parent]? = some d) (e : Element) (n : NodeId) :
    (t.appendChild parent d h e).parent? n =
      if n = t.nextId then some parent else t.parent? n := by
  simp only [parent?, getElem?_appendChild]
  split
  · rfl
  · split
    · next hn => simp [hn, h]
    · rfl

theorem children_appendChild (h : t.nodes[parent]? = some d) (e : Element) (n : NodeId) :
    (t.appendChild parent d h e).children n =
      if n = parent then t.children n ++ [t.nextId] else t.children n := by
  have hne := ne_nextId h
  simp only [children, getElem?_appendChild]
  by_cases hn : n = t.nextId
  · have hp : n ≠ parent := fun e => hne (e ▸ hn)
    rw [if_pos hn, if_neg hp, hn, getElem?_nextId]
    rfl
  · rw [if_neg hn]
    by_cases hp : n = parent
    · simp [hp, h]
    · simp [hp]

theorem kind?_appendChild (h : t.nodes[parent]? = some d) (e : Element) (n : NodeId) :
    (t.appendChild parent d h e).kind? n = if n = t.nextId then some e.kind else t.kind? n := by
  simp only [kind?, getElem?_appendChild]
  split
  · rfl
  · split
    · next hn => simp [hn, h]
    · rfl

theorem contains_appendChild (h : t.nodes[parent]? = some d) (e : Element) (n : NodeId) :
    (t.appendChild parent d h e).contains n = true ↔ n = t.nextId ∨ t.contains n = true := by
  simp only [contains_eq_isSome, getElem?_appendChild]
  split
  · next hn => simp [hn]
  · next hn =>
    split
    · next hp => simp [hp, h]
    · simp [hn]

end AppendChild

/-- A change of name is invisible to all four views. -/
theorem views_rename (t : Tree) (n : NodeId) (name? : Option String) (m : NodeId) :
    ((rename n name?).after t).parent? m = t.parent? m ∧
      ((rename n name?).after t).children m = t.children m ∧
      ((rename n name?).after t).kind? m = t.kind? m ∧
      ((rename n name?).after t).contains m = t.contains m := by
  cases hn : t.contains n with
  | false =>
    -- a failure leaves the tree as it was
    rw [TreeM.after, rename_of_not_contains hn]
    exact ⟨rfl, rfl, rfl, rfl⟩
  | true =>
    obtain ⟨t', heq, -, -, hnodes⟩ := rename_of_contains hn name?
    rw [TreeM.after, heq]
    simp only [parent?, children, kind?, contains_eq_isSome, hnodes m]
    split
    · cases t.nodes[m]? <;> simp
    · exact ⟨rfl, rfl, rfl, rfl⟩

theorem roots_rename (t : Tree) (n : NodeId) (name? : Option String) :
    ((rename n name?).after t).roots = t.roots ∧ ((rename n name?).after t).next = t.next := by
  cases hn : t.contains n with
  | false =>
    rw [TreeM.after, rename_of_not_contains hn]
    exact ⟨rfl, rfl⟩
  | true =>
    obtain ⟨t', heq, hroots, hnext, -⟩ := rename_of_contains hn name?
    rw [TreeM.after, heq]
    exact ⟨hroots, hnext⟩

/-- Adding a child fails without a trace or appends it. -/
theorem after_addChild (t : Tree) (parent : NodeId) (e : Element) :
    (addChild parent e).after t = t ∨
      ∃ d, ∃ h : t.nodes[parent]? = some d, d.element.kind.isStructured = true ∧
        (addChild parent e).after t = t.appendChild parent d h e := by
  rcases Option.eq_none_or_eq_some t.nodes[parent]? with hp | ⟨d, hp⟩
  · left
    rw [TreeM.after, addChild_of_none hp]
  · cases hd : d.element.kind.isStructured with
    | false =>
      left
      rw [TreeM.after, addChild_of_text hp hd]
    | true =>
      right
      refine ⟨d, hp, hd, ?_⟩
      rw [TreeM.after, addChild_of_structured hp hd]

/-! ## What removal takes away -/

/-- Everything on the worklist goes. -/
private theorem detach_mem {nodes : Std.ExtTreeMap NodeId Node} {worklist : List NodeId}
    {m : NodeId} (hm : m ∈ worklist) : (detach nodes worklist).2[m]? = none := by
  fun_induction detach nodes worklist with
  | case1 => simp at hm
  | case2 nodes n rest hn ih =>
    rcases List.mem_cons.1 hm with rfl | hm
    · -- what is not there at first is not there in the end
      cases h : (detach nodes rest).2[m]? with
      | none => rfl
      | some d =>
        have hd := getElem?_of_getElem?_detach h
        simp [hn] at hd
    · exact ih hm
  | case3 nodes n rest d hn others ih =>
    rcases List.mem_cons.1 hm with rfl | hm
    · cases h : others.2[m]? with
      | none => rfl
      | some e =>
        have he := getElem?_of_getElem?_detach h
        simp at he
    · exact ih (List.mem_append_right _ hm)

/-- With a node go its children. -/
private theorem detach_children {nodes : Std.ExtTreeMap NodeId Node} {worklist : List NodeId}
    {p c : NodeId} {d : Node} (hp : nodes[p]? = some d)
    (hgone : (detach nodes worklist).2[p]? = none) (hc : c ∈ d.children) :
    (detach nodes worklist).2[c]? = none := by
  fun_induction detach nodes worklist with
  | case1 => simp [hp] at hgone
  | case2 nodes n rest hn ih => exact ih hp hgone
  | case3 nodes n rest e hn others ih =>
    by_cases hpn : p = n
    · -- the children go onto the worklist
      subst hpn
      cases Option.some.inj (hn.symm.trans hp)
      exact detach_mem (List.mem_append_left _ hc)
    · -- another node is taken off, so the parent is still there
      refine ih ?_ hgone
      rw [Std.ExtTreeMap.getElem?_erase_ite, if_neg hpn]
      exact hp

/-- A node goes because it is on the worklist or because its parent goes. -/
private theorem mem_or_of_detach {nodes : Std.ExtTreeMap NodeId Node} {worklist : List NodeId}
    {m : NodeId} {e : Node} (hm : nodes[m]? = some e)
    (hgone : (detach nodes worklist).2[m]? = none) :
    m ∈ worklist ∨ ∃ (p : NodeId) (d : Node), nodes[p]? = some d ∧
      (detach nodes worklist).2[p]? = none ∧ m ∈ d.children := by
  fun_induction detach nodes worklist with
  | case1 => simp [hm] at hgone
  | case2 nodes n rest hn ih =>
    rcases ih hm hgone with h | h
    · exact .inl (List.mem_cons_of_mem _ h)
    · exact .inr h
  | case3 nodes n rest f hn others ih =>
    by_cases hmn : m = n
    · -- it was the next one of the worklist
      exact .inl (hmn ▸ List.mem_cons_self)
    · have hm' : (nodes.erase n)[m]? = some e := by
        rw [Std.ExtTreeMap.getElem?_erase_ite, if_neg hmn]
        exact hm
      -- the node that was taken off is not there in the end
      have hn' : others.2[n]? = none := by
        cases h : others.2[n]? with
        | none => rfl
        | some g =>
          have hg := getElem?_of_getElem?_detach h
          simp at hg
      -- on the longer worklist it may be a child of the node that was taken off
      rcases ih hm' hgone with h | ⟨p, d, hp, hpgone, hc⟩
      · rcases List.mem_append.1 h with h | h
        · exact .inr ⟨n, f, hn, hn', h⟩
        · exact .inl (List.mem_cons_of_mem _ h)
      · exact .inr ⟨p, d, Std.ExtTreeMap.getElem?_of_getElem?_erase hp, hpgone, hc⟩

/-! ## What unlinking changes -/

private theorem getElem?_modifyNode (t : Tree) (n : NodeId) {f : Node → Node}
    (hf : ∀ d : Node, (f d).parent? = d.parent?) (m : NodeId) :
    (t.modifyNode n f hf).nodes[m]? = if m = n then t.nodes[m]?.map f else t.nodes[m]? := by
  simp only [modifyNode, withNodes, Std.ExtTreeMap.getElem?_modify, Std.compare_eq_iff_eq,
    @eq_comm _ m]
  split
  · next hn => rw [hn]
  · rfl

/-- Unlinking moves no node and changes no kind. -/
theorem views_unlink (t : Tree) (n : NodeId) (parent? : Option NodeId) (m : NodeId) :
    (t.unlink n parent?).parent? m = t.parent? m ∧ (t.unlink n parent?).kind? m = t.kind? m ∧
      (t.unlink n parent?).contains m = t.contains m := by
  cases parent? with
  | none => exact ⟨rfl, rfl, rfl⟩
  | some p =>
    simp only [Tree.parent?, kind?, contains_eq_isSome, unlink, getElem?_modifyNode]
    split
    · cases t.nodes[m]? <;> simp
    · exact ⟨rfl, rfl, rfl⟩

/-- Where the links agree, unlinking takes the node out of every list of children and changes
    nothing else about the nodes. -/
theorem Linked.getElem?_unlink {t : Tree} (h : Linked t) {n : NodeId} {d : Node}
    (hn : t.nodes[n]? = some d) (m : NodeId) :
    (t.unlink n d.parent?).nodes[m]? =
      t.nodes[m]?.map fun e => { e with children := e.children.filter (· ≠ n) } := by
  have hparent : t.parent? n = d.parent? := by simp [Tree.parent?, hn]
  -- a node that is not the parent does not list `n`, so the filter finds nothing
  have hfree : t.parent? n ≠ some m →
      t.nodes[m]?.map (fun e => { e with children := e.children.filter (· ≠ n) }) =
        t.nodes[m]? := by
    intro hne
    cases he : t.nodes[m]? with
    | none => rfl
    | some e =>
      have hchildren : e.children.filter (· ≠ n) = e.children := by
        rw [List.filter_eq_self]
        intro c hc
        have hmem : c ∈ t.children m := by simpa [children, he] using hc
        have hcn : c ≠ n := fun heq => hne (heq ▸ (h.mem_children_iff m c).1 hmem)
        simpa using hcn
      rw [Option.map_some, hchildren]
  cases hp : d.parent? with
  | none => exact (hfree (by rw [hparent, hp]; simp)).symm
  | some p =>
    rw [unlink, getElem?_modifyNode]
    split
    · -- the entry of the parent is the one that is edited
      rfl
    · next hm =>
      -- every other entry is as before
      have hne : t.parent? n ≠ some m := by
        rw [hparent, hp]
        exact fun e => hm (Option.some.inj e).symm
      exact (hfree hne).symm

theorem Linked.children_unlink {t : Tree} (h : Linked t) {n : NodeId} {d : Node}
    (hn : t.nodes[n]? = some d) (m : NodeId) :
    (t.unlink n d.parent?).children m = (t.children m).filter (· ≠ n) := by
  rw [children, h.getElem?_unlink hn, children]
  cases t.nodes[m]? with
  | none => rfl
  | some e => rfl

/-- After unlinking, an entry among the children of a node is a child other than `n`. -/
private theorem Linked.mem_children_iff_of_unlink {t : Tree} (h : Linked t) {n p c : NodeId}
    {d e : Node} (hn : t.nodes[n]? = some d) (he : (t.unlink n d.parent?).nodes[p]? = some e) :
    c ∈ e.children ↔ t.parent? c = some p ∧ c ≠ n := by
  have hchildren : e.children = (t.children p).filter (· ≠ n) := by
    rw [← h.children_unlink hn p, children, he]
    rfl
  rw [hchildren, List.mem_filter, h.mem_children_iff p c, decide_eq_true_eq]

/-- Where the links agree, unlinking takes the node out of the roots. -/
theorem Linked.roots_unlink {t : Tree} (h : Linked t) {n : NodeId} {d : Node}
    (hn : t.nodes[n]? = some d) :
    (t.unlink n d.parent?).roots = t.roots.filter (· ≠ n) := by
  cases hp : d.parent? with
  | none => rfl
  | some p =>
    symm
    show t.roots.filter (· ≠ n) = t.roots
    -- a node with a parent is no root
    rw [List.filter_eq_self]
    intro r hr
    have hrn : r ≠ n := by
      intro heq
      have hnone := ((h.mem_roots_iff r).1 hr).2
      simp [heq, Tree.parent?, hn, hp] at hnone
    simpa using hrn

/-! ## What removal leaves -/

/-- Removal leaves the nodes that unlinking and the worklist leave. -/
theorem after_remove {t : Tree} {n : NodeId} {d : Node} (hn : t.nodes[n]? = some d) :
    ((remove n).after t).nodes = (detach (t.unlink n d.parent?).nodes [n]).2 ∧
      ((remove n).after t).roots = (t.unlink n d.parent?).roots ∧
      ((remove n).after t).next = t.next := by
  obtain ⟨t', heq, hnodes, hroots, hnext⟩ := remove_of_some hn
  rw [TreeM.after, heq]
  exact ⟨hnodes, hroots, hnext⟩

/-- A node stays exactly if it is another one and its parent, if it has one, stays too. -/
theorem Linked.contains_remove {t : Tree} (h : Linked t) {n : NodeId} {d : Node}
    (hn : t.nodes[n]? = some d) (m : NodeId) :
    ((remove n).after t).contains m = true ↔
      t.contains m = true ∧ m ≠ n ∧
        ∀ p, t.parent? m = some p → ((remove n).after t).contains p = true := by
  have hstays : ∀ k, ((remove n).after t).contains k = true ↔
      (detach (t.unlink n d.parent?).nodes [n]).2[k]? ≠ none := by
    intro k
    rw [contains_eq_isSome, (after_remove hn).1, Option.isSome_iff_ne_none]
  have hcontains : ∀ k, t.contains k = true ↔ (t.unlink n d.parent?).nodes[k]? ≠ none := by
    intro k
    rw [← (views_unlink t n d.parent? k).2.2, contains_eq_isSome, Option.isSome_iff_ne_none]
  rw [hstays, hcontains]
  constructor
  · intro hm
    obtain ⟨e, he⟩ := Option.ne_none_iff_exists'.1 hm
    -- the worklist starts with `n`, so `n` goes
    have hmn : m ≠ n := fun heq => hm (heq ▸ detach_mem List.mem_cons_self)
    refine ⟨fun hnone => ?_, hmn, fun p hp => ?_⟩
    · -- what is there in the end was there at first
      rw [getElem?_of_getElem?_detach he] at hnone
      simp at hnone
    · -- had the parent gone, it would have taken the node with it
      rw [hstays]
      intro hgone
      obtain ⟨k, hk, -⟩ := h.isStructured_parent p m hp
      obtain ⟨f, hf⟩ := Option.ne_none_iff_exists'.1 ((hcontains p).1 (contains_of_kind? hk))
      exact hm (detach_children hf hgone ((h.mem_children_iff_of_unlink hn hf).2 ⟨hp, hmn⟩))
  · -- a node that went was `n` itself or went with its parent
    intro hand hgone
    obtain ⟨hm, hmn, hparents⟩ := hand
    obtain ⟨e, he⟩ := Option.ne_none_iff_exists'.1 hm
    rcases mem_or_of_detach he hgone with hmem | ⟨p, f, hf, hpgone, hc⟩
    · exact hmn (List.mem_singleton.1 hmem)
    · have hp := ((h.mem_children_iff_of_unlink hn hf).1 hc).1
      exact (hstays p).1 (hparents p hp) hpgone

/-- A node that stays keeps its parent, its kind and its children other than the removed node. -/
theorem Linked.views_remove {t : Tree} (h : Linked t) {n : NodeId} {d : Node}
    (hn : t.nodes[n]? = some d) {m : NodeId} (hm : ((remove n).after t).contains m = true) :
    ((remove n).after t).parent? m = t.parent? m ∧ ((remove n).after t).kind? m = t.kind? m ∧
      ((remove n).after t).children m = (t.children m).filter (· ≠ n) := by
  rw [contains_eq_isSome, Option.isSome_iff_exists] at hm
  obtain ⟨e, he⟩ := hm
  -- an entry that is left is the entry of the unlinked tree
  have hu : (t.unlink n d.parent?).nodes[m]? = some e :=
    getElem?_of_getElem?_detach ((after_remove hn).1 ▸ he)
  have hviews := views_unlink t n d.parent? m
  rw [← hviews.1, ← hviews.2.1, ← h.children_unlink hn m]
  simp only [Tree.parent?, kind?, children, he, hu, and_self]

end MacroTypes.Tree
