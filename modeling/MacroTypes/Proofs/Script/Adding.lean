import Mathlib.Data.List.Find
import MacroTypes.Proofs.Tree.EditViews
import MacroTypes.Script

/-!
# Adding declarations to a script

A declaration is added with its parts as children, one edit of the tree for each of them. Only the
first edit can fail. The declaration is new and is no text, so it takes every child
(`foldlM_addPart`). The nodes of the parts are numbered after the declaration, and what is noted of
them while they are added is what the tree says afterwards (`addMacro_all_or_nothing`).
-/

namespace MacroTypes

/-! ## Parts and their nodes -/

/-- Some parts behind the nodes that they become, numbered from `next` on. -/
def numbered (next : Nat) (parts : List MacroPart) : List (NodeId × MacroPart) :=
  (parts.zipIdx next).map fun x => (⟨x.2⟩, x.1)

private theorem numbered_cons (next : Nat) (part : MacroPart) (rest : List MacroPart) :
    numbered next (part :: rest) = (⟨next⟩, part) :: numbered (next + 1) rest := by
  rw [numbered, List.zipIdx_cons, List.map_cons, numbered]

private theorem map_fst_numbered (next : Nat) (parts : List MacroPart) :
    (numbered next parts).map Prod.fst = (List.range' next parts.length).map NodeId.mk := by
  rw [← List.zipIdx_map_snd, numbered, List.map_map, List.map_map]
  rfl

/-- The part that becomes a node. -/
def partAt? (next : Nat) (parts : List MacroPart) (n : NodeId) : Option MacroPart :=
  if next ≤ n.index then parts[n.index - next]? else none

private theorem partAt?_nil (next : Nat) (n : NodeId) : partAt? next [] n = none := by
  simp [partAt?]

private theorem partAt?_of_lt {next : Nat} {n : NodeId} (h : n.index < next)
    (parts : List MacroPart) :
    partAt? next parts n = none :=
  if_neg (Nat.not_le.2 h)

/-- The first part has the first number, and the others have the numbers after it. -/
private theorem partAt?_cons (next : Nat) (part : MacroPart) (rest : List MacroPart) (n : NodeId) :
    partAt? next (part :: rest) n =
      if n = ⟨next⟩ then some part else partAt? (next + 1) rest n := by
  obtain ⟨i⟩ := n
  simp only [partAt?, NodeId.mk.injEq]
  rcases Nat.lt_trichotomy i next with hlt | rfl | hlt
  · -- no part has a smaller number than the first
    rw [if_neg (by omega), if_neg (by omega), if_neg (by omega)]
  · simp
  · -- the parts after the first are counted from the next number
    have hindex : i - next = i - (next + 1) + 1 := by omega
    rw [if_pos (by omega), if_neg (by omega), if_pos (by omega), hindex, List.getElem?_cons_succ]

private theorem mem_numbered {next : Nat} {parts : List MacroPart} {n : NodeId} {part : MacroPart} :
    (n, part) ∈ numbered next parts ↔ partAt? next parts n = some part := by
  have hpart : partAt? next parts n = some part ↔
      next ≤ n.index ∧ parts[n.index - next]? = some part := by simp [partAt?]
  rw [hpart, ← List.mk_mem_zipIdx_iff_le_and_getElem?_sub, numbered, List.mem_map]
  -- a part stands in the list at the number that it gets
  constructor
  · rintro ⟨⟨part', i⟩, hmem, heq⟩
    obtain ⟨rfl, rfl⟩ := Prod.mk.inj heq
    exact hmem
  · intro hmem
    exact ⟨(part, n.index), hmem, rfl⟩

/-- Whether a part is an attribute. -/
def MacroPart.isAttribute : MacroPart → Bool
  | .attribute _ => true
  | .element _ | .sequential | .unnamed _ | .text => false

/-- Whether a part is a nested element. -/
def MacroPart.isElement : MacroPart → Bool
  | .element _ => true
  | .attribute _ | .sequential | .unnamed _ | .text => false

namespace MacroNodes

/-- Notes the nodes of some parts, one after the other. -/
def noteAll (nodes : MacroNodes) (placed : List (NodeId × MacroPart)) : MacroNodes :=
  placed.foldl (fun nodes x => nodes.note x.2 x.1) nodes

@[simp] theorem node_note (nodes : MacroNodes) (part : MacroPart) (n : NodeId) :
    (nodes.note part n).node = nodes.node := by
  cases part <;> rfl

/-- Attributes and nested elements are noted in order, and of the bodies only the first. -/
private theorem noteAll_eq (nodes : MacroNodes) (placed : List (NodeId × MacroPart)) :
    nodes.noteAll placed =
      { node := nodes.node
        attributes := nodes.attributes ++ (placed.filter (·.2.isAttribute)).map Prod.fst
        elements := nodes.elements ++ (placed.filter (·.2.isElement)).map Prod.fst
        sequential? := nodes.sequential?.or
          ((placed.find? (·.2 = .sequential)).map Prod.fst) } := by
  induction placed generalizing nodes with
  | nil => simp [noteAll]
  | cons x rest ih =>
    rw [noteAll, List.foldl_cons, ← noteAll, ih]
    obtain ⟨n, part⟩ := x
    -- the first of the noted parts goes in front of what the rest adds
    cases part <;> simp [note, MacroPart.isAttribute, MacroPart.isElement]

end MacroNodes

namespace Tree

variable {t : Tree} {nodes : MacroNodes} {d : Node}

/-! ## Adding parts -/

/-- A declaration takes every part as its last child. -/
private theorem addPart_eq_ok (h : t.nodes[nodes.node]? = some d)
    (hd : d.element.kind.isStructured = true) (part : MacroPart) :
    addPart nodes part t =
      .ok (nodes.note part t.nextId) (t.appendChild nodes.node d h part.toElement) := by
  show EStateM.map _ _ t = _
  rw [EStateM.map, addChild_of_structured h hd]

/-- All parts of a declaration are added. They get the next identifiers, and no other node changes
    but the declaration, which gets them as its last children. -/
theorem foldlM_addPart (nodes : MacroNodes) (h : t.nodes[nodes.node]? = some d)
    (hd : d.element.kind.isStructured = true) (parts : List MacroPart) :
    ∃ t', parts.foldlM addPart nodes t = .ok (nodes.noteAll (numbered t.next parts)) t' ∧
      t'.next = t.next + parts.length ∧ t'.roots = t.roots ∧
      ∀ m : NodeId, t'.nodes[m]? =
        if m = nodes.node then
          some { d with children := d.children ++ (numbered t.next parts).map Prod.fst }
        else ((partAt? t.next parts m).map fun part =>
          { element := part.toElement, parent? := some nodes.node }).or t.nodes[m]? := by
  induction parts generalizing t nodes d with
  | nil =>
    -- without parts nothing happens
    refine ⟨t, rfl, rfl, rfl, fun m => ?_⟩
    rw [partAt?_nil]
    split
    · next hm => simp [hm, h, numbered]
    · rfl
  | cons part rest ih =>
    -- after the first part the declaration is there with one more child
    have h' :
        (t.appendChild nodes.node d h part.toElement).nodes[(nodes.note part t.nextId).node]? =
          some { d with children := d.children ++ [t.nextId] } := by
      rw [MacroNodes.node_note, getElem?_appendChild, if_neg (ne_nextId h), if_pos rfl]
    obtain ⟨t', heq, hnext, hroots, hnodes⟩ := ih (nodes.note part t.nextId) h' hd
    rw [next_appendChild] at heq hnext hnodes
    refine ⟨t', ?_, ?_, hroots, fun m => ?_⟩
    · show EStateM.bind (addPart nodes part) _ t = _
      rw [EStateM.bind, addPart_eq_ok h hd, numbered_cons]
      exact heq
    · rw [hnext, List.length_cons]
      omega
    · rw [hnodes m, MacroNodes.node_note, getElem?_appendChild, numbered_cons, partAt?_cons]
      -- only the entry of the declaration depends on the parts that were added before it
      split
      · simp [nextId]
      · by_cases hfirst : m = ⟨t.next⟩
        · -- the others do not get the number of the first part
          have hothers : partAt? (t.next + 1) rest m = none :=
            partAt?_of_lt (hfirst ▸ Nat.lt_succ_self t.next) rest
          have hid : m = t.nextId := hfirst
          rw [hothers, if_pos hfirst, if_pos hid]
          rfl
        · have hid : m ≠ t.nextId := hfirst
          -- every other number is looked up among the rest and in the tree of before
          rw [if_neg hfirst, if_neg hid]

/-! ## Adding declarations -/

/-- Whether a node has this tag and declares a name. -/
def isNamed (t : Tree) (tag : String) (n : NodeId) : Bool :=
  t.tag? n = some tag && (t.name? n).isSome

/-- What it is to add a declaration with some parts below a node: the nodes that are reported and
    the tree afterwards. -/
structure AddsMacro (t : Tree) (parent : NodeId) (name? : Option String) (parts : List MacroPart)
    (nodes : MacroNodes) (t' : Tree) : Prop where
  /-- The declaration gets the next identifier. -/
  node_eq : nodes.node = t.nextId
  /-- It is the last child of its parent. -/
  getElem?_parent : t'.nodes[parent]? =
    t.nodes[parent]?.map fun d => { d with children := d.children ++ [nodes.node] }
  /-- Its children are numbered after it without a gap. -/
  getElem?_node : t'.nodes[nodes.node]? =
    some { element := { tag := "macrodef", name? }, parent? := some parent
           children := (List.range' (t.next + 1) parts.length).map NodeId.mk }
  /-- They are the parts in order. -/
  getElem?_part : ∀ n part, (n, part) ∈ numbered (t.next + 1) parts →
    t'.nodes[n]? = some { element := part.toElement, parent? := some nodes.node }
  /-- No other node changes. -/
  getElem?_other : ∀ m : NodeId, m.index < t.next → m ≠ parent → t'.nodes[m]? = t.nodes[m]?
  roots_eq : t'.roots = t.roots
  /-- One number is used for the declaration and one for each part. -/
  next_eq : t'.next = t.next + 1 + parts.length
  /-- All attributes that were asked for are reported, -/
  attributes_eq : nodes.attributes =
    ((numbered (t.next + 1) parts).filter (·.2.isAttribute)).map Prod.fst
  /-- all nested elements -/
  elements_eq : nodes.elements =
    ((numbered (t.next + 1) parts).filter (·.2.isElement)).map Prod.fst
  /-- and the first body. -/
  sequential?_eq : nodes.sequential? =
    ((numbered (t.next + 1) parts).find? (·.2 = .sequential)).map Prod.fst
  /-- They are the attributes that the tree shows, -/
  attributes_reported : nodes.attributes =
    (t'.children nodes.node).filter (t'.isNamed "attribute")
  /-- the elements that it shows -/
  elements_reported : nodes.elements = (t'.children nodes.node).filter (t'.isNamed "element")
  /-- and the body that it finds. -/
  sequential?_reported : nodes.sequential? = t'.firstChild? nodes.node .tasksContainer

section Reports

variable {t' : Tree} {n : NodeId} {parent? : Option NodeId} {part : MacroPart}

/-- What a filter by part finds is what a filter of the nodes finds in a tree where the parts are
    those nodes. -/
private theorem map_fst_filter_eq {placed : List (NodeId × MacroPart)} {p : MacroPart → Bool}
    {q : NodeId → Bool} (h : ∀ x ∈ placed, p x.2 = q x.1) :
    (placed.filter (p ·.2)).map Prod.fst = (placed.map Prod.fst).filter q := by
  rw [List.filter_map]
  exact congrArg _ (List.filter_congr h)

private theorem isNamed_attribute (h : t'.nodes[n]? = some { element := part.toElement, parent? }) :
    part.isAttribute = t'.isNamed "attribute" n := by
  cases part <;> simp [isNamed, tag?, name?, h, MacroPart.isAttribute, MacroPart.toElement,
    Element.text]

private theorem isNamed_element (h : t'.nodes[n]? = some { element := part.toElement, parent? }) :
    part.isElement = t'.isNamed "element" n := by
  cases part <;> simp [isNamed, tag?, name?, h, MacroPart.isElement, MacroPart.toElement,
    Element.text]

/-- Of the parts only bodies are containers. -/
private theorem kind?_part (h : t'.nodes[n]? = some { element := part.toElement, parent? }) :
    t'.kind? n = some .tasksContainer ↔ part = .sequential := by
  cases part <;> simp [kind?, h, MacroPart.toElement, Element.text]

/-- Where some parts are the children of a node, what is noted of them is what the tree shows. -/
private theorem reports_eq {placed : List (NodeId × MacroPart)}
    (hchildren : t'.children n = placed.map Prod.fst)
    (hparts : ∀ x ∈ placed, t'.nodes[x.1]? = some { element := x.2.toElement, parent? }) :
    (placed.filter (·.2.isAttribute)).map Prod.fst =
        (t'.children n).filter (t'.isNamed "attribute") ∧
      (placed.filter (·.2.isElement)).map Prod.fst =
        (t'.children n).filter (t'.isNamed "element") ∧
      (placed.find? (·.2 = .sequential)).map Prod.fst = t'.firstChild? n .tasksContainer := by
  rw [firstChild?, hchildren, List.find?_map]
  refine ⟨map_fst_filter_eq fun x hx => isNamed_attribute (hparts x hx),
    map_fst_filter_eq fun x hx => isNamed_element (hparts x hx), ?_⟩
  -- the first body is the first child that is a container
  have hbody : ∀ x ∈ placed, decide (x.2 = .sequential) =
      ((fun c => decide (t'.kind? c = some .tasksContainer)) ∘ Prod.fst) x :=
    fun x hx => decide_eq_decide.2 (kind?_part (hparts x hx)).symm
  rw [List.find?_congr hbody]

end Reports

/-- If the declaration cannot be added, none of its parts is tried. -/
private theorem addMacro_eq_error {parent : NodeId} {name? : Option String} {e : TreeError}
    (h : addChild parent { tag := "macrodef", name? } t = .error e t) (parts : List MacroPart) :
    addMacro parent name? parts t = .error e t := by
  show EStateM.bind (addChild parent { tag := "macrodef", name? }) _ t = _
  rw [EStateM.bind, h]

/-- If it can be added, all of it is, and only its parent is another node than before. -/
private theorem addMacro_of_structured {parent : NodeId} (h : t.nodes[parent]? = some d)
    (hd : d.element.kind.isStructured = true) (name? : Option String) (parts : List MacroPart) :
    ∃ t', addMacro parent name? parts t =
        .ok (MacroNodes.noteAll { node := t.nextId } (numbered (t.next + 1) parts)) t' ∧
      t'.next = t.next + 1 + parts.length ∧ t'.roots = t.roots ∧
      ∀ m : NodeId, t'.nodes[m]? =
        if m = t.nextId then
          some { element := { tag := "macrodef", name? }, parent? := some parent
                 children := (numbered (t.next + 1) parts).map Prod.fst }
        else ((partAt? (t.next + 1) parts m).map fun part =>
          { element := part.toElement, parent? := some t.nextId }).or
            (if m = parent then some { d with children := d.children ++ [t.nextId] }
            else t.nodes[m]?) := by
  -- the declaration is the next node, and it takes the parts
  have hdecl := getElem?_appendChild h { tag := "macrodef", name? }
  obtain ⟨t', heq, hnext, hroots, hnodes⟩ :=
    foldlM_addPart { node := t.nextId } ((hdecl t.nextId).trans (if_pos rfl)) rfl parts
  refine ⟨t', ?_, hnext, hroots, fun m => ?_⟩
  · show EStateM.bind (addChild parent { tag := "macrodef", name? }) _ t = _
    rw [EStateM.bind, addChild_of_structured h hd]
    exact heq
  · rw [hnodes, next_appendChild, hdecl]
    split
    · rfl
    · rfl

/-- The nodes from before have smaller numbers than the declaration, the parts have larger ones. -/
theorem addMacro_eq_ok {parent : NodeId} (h : t.nodes[parent]? = some d)
    (hd : d.element.kind.isStructured = true) (name? : Option String) (parts : List MacroPart) :
    ∃ nodes t', addMacro parent name? parts t = .ok nodes t' ∧
      t.AddsMacro parent name? parts nodes t' := by
  obtain ⟨t', heq, hnext, hroots, hnodes⟩ := addMacro_of_structured h hd name? parts
  rw [MacroNodes.noteAll_eq] at heq
  -- a number from before is neither that of the declaration nor that of a part
  have hold : ∀ m : NodeId, m.index < t.next → t'.nodes[m]? =
      if m = parent then some { d with children := d.children ++ [t.nextId] }
      else t.nodes[m]? := by
    intro m hm
    have hid : m ≠ t.nextId := fun e => Nat.ne_of_lt hm (congrArg NodeId.index e)
    rw [hnodes, if_neg hid, partAt?_of_lt (Nat.lt_succ_of_lt hm)]
    rfl
  -- the number of a part is not that of the declaration
  have hparts : ∀ x ∈ numbered (t.next + 1) parts,
      t'.nodes[x.1]? = some { element := x.2.toElement, parent? := some t.nextId } := by
    intro x hx
    have hx := mem_numbered.1 hx
    have hid : x.1 ≠ t.nextId := by
      intro e
      rw [e, partAt?_of_lt (Nat.lt_succ_self t.next)] at hx
      cases hx
    rw [hnodes, if_neg hid, hx]
    rfl
  -- the declaration lists its parts as its children
  have hnode := (hnodes t.nextId).trans (if_pos rfl)
  have hchildren : t'.children t.nextId = (numbered (t.next + 1) parts).map Prod.fst := by
    rw [children, hnode]
    rfl
  -- so what was noted on the way is what the tree shows in the end
  obtain ⟨hattributes, helements, hbody⟩ := reports_eq hchildren hparts
  exact ⟨_, t', heq, {
    node_eq := rfl
    getElem?_parent := by rw [hold parent (t.lt_next parent d h), if_pos rfl, h, Option.map_some]
    getElem?_node := by rw [hnode, map_fst_numbered]
    getElem?_part := fun n part hmem => hparts (n, part) hmem
    getElem?_other := fun m hm hne => by rw [hold m hm, if_neg hne]
    roots_eq := hroots
    next_eq := hnext
    attributes_eq := List.nil_append _
    elements_eq := List.nil_append _
    sequential?_eq := Option.none_or
    attributes_reported := hattributes
    elements_reported := helements
    sequential?_reported := Option.none_or.trans hbody }⟩

/-- A declaration is added with all its parts or not at all. It is not added exactly if there is no
    such parent or the parent is text, and then the tree is the one from before. Otherwise it is
    added, and the nodes that are reported are those that the tree shows. -/
theorem addMacro_all_or_nothing (t : Tree) (parent : NodeId) (name? : Option String)
    (parts : List MacroPart) :
    (∀ e t', addMacro parent name? parts t = .error e t' ↔
      t' = t ∧ (e = .nodeNotFound parent ∧ t.contains parent = false ∨
        e = .textHasNoChildren parent ∧ t.kind? parent = some .text)) ∧
    (t.contains parent = true → t.kind? parent ≠ some .text →
      ∃ nodes t', addMacro parent name? parts t = .ok nodes t' ∧
        t.AddsMacro parent name? parts nodes t') := by
  rw [contains_eq_isSome, kind?]
  cases h : t.nodes[parent]? with
  | none =>
    -- there is no such parent
    rw [addMacro_eq_error (addChild_of_none h _)]
    simp [eq_comm, and_comm]
  | some d =>
    by_cases hd : d.element.kind = .text
    · -- the parent is text
      have htext : d.element.kind.isStructured = false := by rw [hd]; rfl
      rw [addMacro_eq_error (addChild_of_text h htext _)]
      simp [hd, eq_comm, and_comm]
    · -- the declaration is added, so there is no error
      obtain ⟨nodes, t', heq, hadds⟩ := addMacro_eq_ok h (decide_eq_true hd) name? parts
      rw [heq]
      refine ⟨fun e t'' => ⟨fun herror => ?_, ?_⟩, fun _ _ => ⟨nodes, t', rfl, hadds⟩⟩
      · cases herror
      · rintro ⟨-, ⟨-, hnone⟩ | ⟨-, htext⟩⟩
        · simp at hnone
        · exact absurd (Option.some.inj htext) hd

/-- Two attributes of one name, an element, text, two bodies and a child without a name. -/
theorem addMacro_all_or_nothing_mixed :
    ∃ nodes t', addMacro ⟨1⟩ (some "m")
        [.unnamed "attribute", .sequential, .attribute "a", .text, .element "a", .sequential,
          .attribute "a"] (Script.new "build").tree = .ok nodes t' ∧
      t'.children ⟨1⟩ = [⟨2⟩] ∧ t'.next = 10 ∧ nodes.attributes = [⟨5⟩, ⟨9⟩] ∧
      nodes.elements = [⟨7⟩] ∧ nodes.sequential? = some ⟨4⟩ := by
  obtain ⟨nodes, t', heq, hadds⟩ :=
    (addMacro_all_or_nothing (Script.new "build").tree ⟨1⟩ (some "m")
      [.unnamed "attribute", .sequential, .attribute "a", .text, .element "a", .sequential,
        .attribute "a"]).2 (by decide) (by decide)
  have hnode : nodes.node = ⟨2⟩ := hadds.node_eq
  refine ⟨nodes, t', heq, ?_, hadds.next_eq, hadds.attributes_eq.trans (by decide),
    hadds.elements_eq.trans (by decide), hadds.sequential?_eq.trans (by decide)⟩
  rw [children, hadds.getElem?_parent, hnode]
  rfl

end Tree

end MacroTypes
