import MacroTypes.NodeId

/-!
# Trees of elements

A tree holds the elements of a script under identifiers that are given out in increasing order and
never again. Links are kept both ways: every node knows its parent and, in document order, its
children; the nodes without a parent are listed as roots.

Two facts are part of the type. All identifiers are below the next one, and a parent has a smaller
identifier than its child. So every way up ends, which `ancestors` is built on. `ancestors_eq` is
its equation, and `lt_of_mem_ancestors` says that the way up descends in number.
-/

namespace MacroTypes

/-- What a node of a script is. -/
inductive NodeKind where
  /-- A project, whose inside is a scope for the tasks declared in it. -/
  | project
  /-- A container that runs the tasks in it, such as the body of a declaration. -/
  | tasksContainer
  /-- Any other element. -/
  | element
  /-- Text, comments and the like, which have no children. -/
  | text
deriving DecidableEq, Repr

/-- Whether nodes of this kind may have children. -/
def NodeKind.isStructured (k : NodeKind) : Bool :=
  k ≠ .text

/-- What a node says about itself. -/
structure Element where
  /-- What the node is. -/
  kind : NodeKind := .element
  /-- The tag. -/
  tag : String
  /-- The declared name, if there is one. -/
  name? : Option String := none
deriving DecidableEq, Repr

/-- A piece of text. -/
def Element.text : Element :=
  { kind := .text, tag := "#text" }

/-- A node and its links. -/
structure Node where
  /-- What the node says about itself. -/
  element : Element
  /-- The parent, none for a root. -/
  parent? : Option NodeId
  /-- The children in document order. -/
  children : List NodeId := []
deriving DecidableEq, Repr

/-- A script as a forest of nodes. -/
structure Tree where
  /-- The nodes that are there. -/
  nodes : Std.ExtTreeMap NodeId Node := ∅
  /-- The nodes without a parent, in the order in which they were added. -/
  roots : List NodeId := []
  /-- The number of the next node. -/
  next : Nat := 1
  /-- Numbers from `next` on are free. -/
  lt_next : ∀ (n : NodeId) (d : Node), nodes[n]? = some d → n.index < next := by simp
  /-- A parent was there before its child. -/
  parent_lt : ∀ (n : NodeId) (d : Node) (p : NodeId), nodes[n]? = some d →
    d.parent? = some p → p.index < n.index := by simp

namespace Tree

instance : EmptyCollection Tree := ⟨{}⟩

/-! ## Looking at nodes -/

/-- What a node is. -/
def kind? (t : Tree) (n : NodeId) : Option NodeKind :=
  t.nodes[n]?.map (·.element.kind)

/-- The declared name of a node. -/
def name? (t : Tree) (n : NodeId) : Option String :=
  t.nodes[n]?.bind (·.element.name?)

/-- The tag of a node. -/
def tag? (t : Tree) (n : NodeId) : Option String :=
  t.nodes[n]?.map (·.element.tag)

/-- The children of a node in document order. -/
def children (t : Tree) (n : NodeId) : List NodeId :=
  (t.nodes[n]?.map Node.children).getD []

/-- The parent of a node. -/
def parent? (t : Tree) (n : NodeId) : Option NodeId :=
  t.nodes[n]?.bind Node.parent?

/-- Whether a node is there. -/
def contains (t : Tree) (n : NodeId) : Bool :=
  t.nodes.contains n

/-- The nodes that are there, in order. -/
def ids (t : Tree) : List NodeId :=
  t.nodes.keys

/-- The number of nodes. -/
def size (t : Tree) : Nat :=
  t.nodes.size

/-- Whether there are no nodes. -/
def isEmpty (t : Tree) : Bool :=
  t.nodes.isEmpty

/-- The identifier of the next node. -/
def nextId (t : Tree) : NodeId :=
  ⟨t.next⟩

/-- The first child of a kind. -/
def firstChild? (t : Tree) (n : NodeId) (k : NodeKind) : Option NodeId :=
  (t.children n).find? fun c => t.kind? c = some k

/-! ## The way up -/

theorem parent?_lt {t : Tree} {n p : NodeId} (h : t.parent? n = some p) : p.index < n.index := by
  obtain ⟨d, hd, hp⟩ := Option.bind_eq_some_iff.1 h
  exact t.parent_lt n d p hd hp

/-- The parent of a node, the parent's parent and so on. -/
def ancestors (t : Tree) (n : NodeId) : List NodeId :=
  match _h : t.parent? n with
  | none => []
  | some p => p :: t.ancestors p
termination_by n.index
decreasing_by exact parent?_lt _h

theorem ancestors_eq (t : Tree) (n : NodeId) :
    t.ancestors n = (t.parent? n).elim [] fun p => p :: t.ancestors p := by
  rw [ancestors]
  split <;> simp [*]

/-- Every ancestor has a smaller number than the node. -/
theorem lt_of_mem_ancestors {t : Tree} {n a : NodeId} (h : a ∈ t.ancestors n) :
    a.index < n.index := by
  fun_induction ancestors t n with
  | case1 => simp at h
  | case2 n p hp ih =>
    have hlt := parent?_lt hp
    -- the parent itself, or an ancestor of it
    rcases List.mem_cons.1 h with rfl | h
    · exact hlt
    · exact Nat.lt_trans (ih h) hlt

/-- The closest project around a node. -/
def enclosingProject? (t : Tree) (n : NodeId) : Option NodeId :=
  (t.ancestors n).find? fun a => t.kind? a = some .project

end Tree

end MacroTypes
