import Mathlib.Data.List.Find
import MacroTypes.Proofs.Tree.Forest
import MacroTypes.Tree.Scopes

/-!
# Ways up

Two loops go from a node to its parent, the parent's parent and so on: one collects the scopes on
the way (`CollectsScopes`), the other looks for a project (`FindsProject`). Neither has a bound of
its own. As relations they say what a loop comes to if it ends, and a loop that does not end comes
to nothing. Both end because identifiers get smaller on the way, and they come to `scopeChain` and
`enclosingProject?` (`collectsScopes_iff`, `findsProject_iff`).

The loops start at different nodes and ask different questions, and yet the project is the first
one in the chain that is not the node itself (`enclosingProject?_eq_find?`). `walks_run` says all of
this of every history of edits.
-/

namespace MacroTypes.Tree

variable {t : Tree} {n : NodeId}

/-! ## The way itself -/

/-- A loop that starts at a node, if there is one, goes on to the parent as long as there is one,
    and visits the nodes of a list. -/
inductive Ascends (t : Tree) : Option NodeId → List NodeId → Prop where
  /-- Without a node the loop ends. -/
  | stop : Ascends t none []
  /-- A node is visited, and the loop goes on from its parent. -/
  | up {n : NodeId} {path : List NodeId} : Ascends t (t.parent? n) path →
      Ascends t (some n) (n :: path)

/-- Going up from the parent of a node ends and visits the ancestors. -/
private theorem ascends_iff (t : Tree) (n : NodeId) {path : List NodeId} :
    t.Ascends (t.parent? n) path ↔ path = t.ancestors n := by
  -- induction on the way up, which is as long as the list of ancestors
  induction n using ancestors.induct t generalizing path with
  | case1 n hp =>
    rw [ancestors_eq, hp]
    constructor
    · rintro ⟨⟩
      rfl
    · rintro rfl
      exact .stop
  | case2 n p hp ih =>
    rw [ancestors_eq, hp]
    constructor
    · rintro ⟨⟩
      next rest hrest => rw [ih.1 hrest, Option.elim_some]
    · rintro rfl
      exact .up (ih.2 rfl)

/-- Identifiers get smaller and smaller on the way up. -/
private theorem descending_ancestors (t : Tree) (n : NodeId) :
    (n :: t.ancestors n).Pairwise fun a b => b.index < a.index := by
  induction n using ancestors.induct t with
  | case1 n hp =>
    rw [ancestors_eq, hp]
    exact List.pairwise_singleton _ _
  | case2 n p hp ih =>
    refine List.pairwise_cons.2 ⟨fun a ha => lt_of_mem_ancestors ha, ?_⟩
    rw [ancestors_eq, hp]
    exact ih

/-- On a well-linked tree a node and its ancestors are the nodes that reach it. -/
theorem Linked.reaches_iff_mem_ancestors (h : t.Linked) (hn : t.contains n = true) {a : NodeId} :
    t.Reaches a n ↔ a ∈ n :: t.ancestors n := by
  induction n using ancestors.induct t with
  | case1 n hp =>
    rw [h.reaches_iff, ancestors_eq, hp]
    simp [hn]
  | case2 n p hp ih =>
    rw [h.reaches_iff, ancestors_eq, hp, List.mem_cons, Option.elim_some,
      ← ih (h.contains_parent hp)]
    simp [hn]

/-! ## The scopes on the way -/

/-- Whether the inside of a node is a scope: the node is a project or a task container. -/
def hasScope (t : Tree) (n : NodeId) : Prop :=
  t.kind? n = some .project ∨ t.kind? n = some .tasksContainer

instance (t : Tree) (n : NodeId) : Decidable (t.hasScope n) :=
  inferInstanceAs (Decidable (_ ∨ _))

private theorem hasScope_iff : t.hasScope n ↔ (t.kind? n).any NodeKind.isScope = true := by
  rw [hasScope]
  cases t.kind? n with
  | none => simp
  | some k => cases k <;> simp [NodeKind.isScope]

/-- A loop that goes up and collects scopes, and adds the document in the end. -/
inductive CollectsScopes (t : Tree) : Option NodeId → List Scope → Prop where
  /-- Without a node the loop ends. -/
  | stop : CollectsScopes t none [.document]
  /-- A node with a scope is collected. -/
  | collect {n : NodeId} {chain : List Scope} : t.hasScope n →
      CollectsScopes t (t.parent? n) chain → CollectsScopes t (some n) (.container n :: chain)
  /-- Any other node is passed over. -/
  | pass {n : NodeId} {chain : List Scope} : ¬ t.hasScope n →
      CollectsScopes t (t.parent? n) chain → CollectsScopes t (some n) chain

/-- The chain of a node is that of its parent, with the node in front if it has a scope. -/
private theorem scopeChain_eq (t : Tree) (n : NodeId) :
    t.scopeChain n = (if t.hasScope n then [.container n] else []) ++
      (t.parent? n).elim [.document] t.scopeChain := by
  have hparent : (t.parent? n).elim [.document] t.scopeChain =
      ((t.ancestors n).filter fun a => (t.kind? a).any NodeKind.isScope).map .container ++
        [.document] := by
    rw [ancestors_eq]
    cases t.parent? n with
    | none => rfl
    | some p => rfl
  rw [hparent, scopeChain, List.filter_cons]
  simp only [hasScope_iff]
  split
  · rfl
  · rfl

/-- The loop of the scopes ends with the chain of a node if it does so from the parent. -/
private theorem collectsScopes_iff_of_parent
    (hparent : ∀ {chain}, t.CollectsScopes (t.parent? n) chain ↔
      chain = (t.parent? n).elim [.document] t.scopeChain)
    {chain : List Scope} :
    t.CollectsScopes (some n) chain ↔ chain = t.scopeChain n := by
  rw [scopeChain_eq]
  by_cases hn : t.hasScope n
  · rw [if_pos hn]
    constructor
    · rintro (_ | ⟨_, hchain⟩ | ⟨hnot, _⟩)
      · rw [hparent.1 hchain]
        rfl
      · exact absurd hn hnot
    · rintro rfl
      exact .collect hn (hparent.2 rfl)
  · rw [if_neg hn]
    constructor
    · rintro (_ | ⟨hscope, _⟩ | ⟨_, hchain⟩)
      · exact absurd hscope hn
      · exact hparent.1 hchain
    · rintro rfl
      exact .pass hn (hparent.2 rfl)

/-- The loop of the scopes ends with the chain of the node. -/
theorem collectsScopes_iff (t : Tree) (n : NodeId) {chain : List Scope} :
    t.CollectsScopes (some n) chain ↔ chain = t.scopeChain n := by
  induction n using ancestors.induct t generalizing chain with
  | case1 n hp =>
    refine collectsScopes_iff_of_parent fun {chain} => ?_
    rw [hp, Option.elim_none]
    -- above a root comes the document
    constructor
    · rintro ⟨⟩
      rfl
    · rintro rfl
      exact .stop
  | case2 n p hp ih =>
    refine collectsScopes_iff_of_parent fun {chain} => ?_
    rw [hp, Option.elim_some]
    -- the rest of the chain is that of the parent
    exact ih

/-! ## The project on the way -/

/-- A loop that goes up and stops at the first project. -/
inductive FindsProject (t : Tree) : Option NodeId → Option NodeId → Prop where
  /-- Without a node the loop ends and has found nothing. -/
  | stop : FindsProject t none none
  /-- At a project the loop ends. -/
  | found {n : NodeId} : t.kind? n = some .project → FindsProject t (some n) (some n)
  /-- From any other node it goes on. -/
  | pass {n : NodeId} {p? : Option NodeId} : t.kind? n ≠ some .project →
      FindsProject t (t.parent? n) p? → FindsProject t (some n) p?

/-- The project around a node is its parent, or the one around the parent. -/
private theorem enclosingProject?_eq (t : Tree) (n : NodeId) :
    t.enclosingProject? n = (t.parent? n).bind fun p =>
      if t.kind? p = some .project then some p else t.enclosingProject? p := by
  rw [enclosingProject?, ancestors_eq]
  cases t.parent? n with
  | none => rfl
  | some p =>
    rw [Option.elim_some, List.find?_cons, Option.bind_some]
    -- the ancestors start with the parent
    by_cases hp : t.kind? p = some .project
    · rw [if_pos hp, decide_eq_true hp]
    · rw [if_neg hp, decide_eq_false hp]
      rfl

/-- The loop that looks for a project ends with the one around the node. -/
theorem findsProject_iff (t : Tree) (n : NodeId) {p? : Option NodeId} :
    t.FindsProject (t.parent? n) p? ↔ p? = t.enclosingProject? n := by
  induction n using ancestors.induct t generalizing p? with
  | case1 n hp =>
    rw [enclosingProject?_eq, hp, Option.bind_none]
    -- above a root there is nothing to find
    constructor
    · rintro ⟨⟩
      rfl
    · rintro rfl
      exact .stop
  | case2 n p hp ih =>
    rw [enclosingProject?_eq, hp, Option.bind_some]
    by_cases hproject : t.kind? p = some .project
    · rw [if_pos hproject]
      -- the parent is a project, and the loop ends there
      constructor
      · rintro (_ | _ | ⟨hnot, _⟩)
        · rfl
        · exact absurd hproject hnot
      · rintro rfl
        exact .found hproject
    · rw [if_neg hproject]
      -- it is none, and the loop goes on from it
      constructor
      · rintro (_ | hfound | ⟨_, hrest⟩)
        · exact absurd hfound hproject
        · exact ih.1 hrest
      · rintro rfl
        exact .pass hproject (ih.2 rfl)

/-! ## Both together -/

/-- The containers in the chain of a node are the nodes on the way that have a scope. -/
private theorem filterMap_node?_scopeChain (t : Tree) (n : NodeId) :
    (t.scopeChain n).filterMap Scope.node? = (n :: t.ancestors n).filter t.hasScope := by
  rw [scopeChain, List.filterMap_append, List.filterMap_map]
  have hnode : Scope.node? ∘ Scope.container = some := rfl
  rw [hnode, List.filterMap_some]
  simp [hasScope_iff, Scope.node?]

/-- The project around a node is the first in its chain that is not the node itself. -/
theorem enclosingProject?_eq_find? (t : Tree) (n : NodeId) :
    t.enclosingProject? n = ((t.scopeChain n).filterMap Scope.node?).find? fun a =>
      a ≠ n ∧ t.kind? a = some .project := by
  rw [filterMap_node?_scopeChain, List.find?_filter]
  -- the node is the first on the way and is passed over
  rw [List.find?_cons_of_neg (by simp), enclosingProject?]
  refine List.find?_congr fun a ha => ?_
  -- an ancestor is not the node, and a project has a scope
  have hne : a ≠ n := fun heq => Nat.lt_irrefl _ (heq ▸ lt_of_mem_ancestors ha)
  by_cases hproject : t.kind? a = some .project
  · simp [hproject, hne, hasScope]
  · simp [hproject]

/-- The two loops of a node with the given nodes above it, nearest first. -/
structure Walks (t : Tree) (n : NodeId) (above : List NodeId) : Prop where
  /-- Going up from the parent ends and visits the nodes above, in this order. -/
  ascends_iff : ∀ path, t.Ascends (t.parent? n) path ↔ path = above
  /-- Identifiers get smaller and smaller, so that no node is visited twice. -/
  descending : (n :: above).Pairwise fun a b => b.index < a.index
  /-- The node and those above it are the nodes that the node lies below. -/
  mem_iff : t.contains n = true → ∀ a, a ∈ n :: above ↔ t.Reaches a n
  /-- The loop of the scopes ends with the chain. -/
  collectsScopes_iff : ∀ chain, t.CollectsScopes (some n) chain ↔ chain = t.scopeChain n
  /-- The chain has the nodes with a scope among these, in the same order, and then the document. -/
  scopeChain_eq : t.scopeChain n = ((n :: above).filter t.hasScope).map .container ++ [.document]
  /-- The loop that looks for a project ends with the one around the node. -/
  findsProject_iff : ∀ p?, t.FindsProject (t.parent? n) p? ↔ p? = t.enclosingProject? n
  /-- That is the first project in the chain that is not the node itself. -/
  enclosingProject?_eq : t.enclosingProject? n =
    ((t.scopeChain n).filterMap Scope.node?).find? fun a => a ≠ n ∧ t.kind? a = some .project
  /-- Both loops end at once at a node that is not there. -/
  of_not_contains : t.contains n = false →
    above = [] ∧ t.scopeChain n = [.document] ∧ t.enclosingProject? n = none

theorem Linked.walks (h : t.Linked) (n : NodeId) : t.Walks n (t.ancestors n) where
  ascends_iff _ := Tree.ascends_iff t n
  descending := descending_ancestors t n
  mem_iff hn _ := (h.reaches_iff_mem_ancestors hn).symm
  collectsScopes_iff _ := Tree.collectsScopes_iff t n
  scopeChain_eq := by
    simp only [scopeChain, hasScope_iff, Bool.decide_eq_true]
  findsProject_iff _ := Tree.findsProject_iff t n
  enclosingProject?_eq := enclosingProject?_eq_find? t n
  of_not_contains hn := by
    have hget : t.nodes[n]? = none := by
      rwa [contains_eq_isSome, Option.isSome_eq_false_iff, Option.isNone_iff_eq_none] at hn
    -- a node that is not there has neither a parent nor a scope
    have hparent : t.parent? n = none := by rw [parent?, hget, Option.bind_none]
    have hscope : ¬ t.hasScope n := by simp [hasScope, kind?, hget]
    refine ⟨?_, ?_, ?_⟩
    · rw [ancestors_eq, hparent, Option.elim_none]
    · rw [Tree.scopeChain_eq, if_neg hscope, hparent]
      rfl
    · rw [enclosingProject?_eq, hparent, Option.bind_none]

/-- After every history of edits, both loops end at every node, whether it is there or not. One
    comes to the projects and task containers on the way up from the node, and the document after
    them; the other comes to the first project among these that is not the node. -/
theorem walks_run (changes : List Change) (n : NodeId) :
    ∃ above, (run changes).Walks n above :=
  ⟨_, (linked_run changes).walks n⟩

example :
    let t := run
      [ .addRoot { kind := .project, tag := "project" },
        .addChild ⟨1⟩ { kind := .project, tag := "project" },
        .addChild ⟨2⟩ { tag := "macrodef" },
        .addChild ⟨3⟩ { kind := .tasksContainer, tag := "sequential" } ]
    t.scopeChain ⟨4⟩ = [.container ⟨4⟩, .container ⟨2⟩, .container ⟨1⟩, .document] ∧
      t.enclosingProject? ⟨4⟩ = some ⟨2⟩ ∧ t.enclosingProject? ⟨2⟩ = some ⟨1⟩ := by
  decide +kernel

end MacroTypes.Tree
