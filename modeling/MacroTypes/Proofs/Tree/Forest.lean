import Mathlib.Data.List.Nodup
import Mathlib.Logic.ExistsUnique
import MacroTypes.Proofs.Tree.Histories

/-!
# Trees are forests

Whatever edits are made, in whatever order and whether or not they fail, a tree stays a forest: its
links up, its links down and its list of roots agree, and every node lies below exactly one root
(`Forest`). Identifiers are given out one after the other and once only, and an edit that fails
leaves no trace (`forest_run`).
-/

namespace MacroTypes

/-- What a step reports, whether or not it fails. -/
def TreeM.result {α : Type} (step : TreeM α) (t : Tree) : Except TreeError α :=
  match step t with
  | .ok a _ => .ok a
  | .error e _ => .error e

namespace Tree

/-! ## What edits report -/

/-- What an edit reports: the identifier of the node that it adds, if it adds one, or why it
    fails. -/
def outcome (t : Tree) : Change → Except TreeError (Option NodeId)
  | .addRoot e => .ok (some (t.addRoot e).1)
  | .addChild parent e => ((addChild parent e).result t).map some
  | .rename n name? => ((rename n name?).result t).map fun _ => none
  | .remove n => ((remove n).result t).map fun _ => none

/-- The identifiers that a history of edits gives out, in order. -/
def givenOut (t : Tree) : List Change → List NodeId
  | [] => []
  | x :: rest => (t.outcome x).toOption.join.toList ++ (t.change x).givenOut rest

/-- An edit gives out the next identifier, or none, or it fails and leaves the tree as it was. -/
private theorem outcome_cases (t : Tree) (x : Change) :
    (t.outcome x = .ok (some t.nextId) ∧ (t.change x).next = t.next + 1) ∨
    (t.outcome x = .ok none ∧ (t.change x).next = t.next) ∨
    ∃ e, t.outcome x = .error e ∧ t.change x = t := by
  cases x with
  | addRoot e => exact .inl ⟨rfl, rfl⟩
  | addChild parent e =>
    simp only [outcome, change, TreeM.result, TreeM.after]
    cases hp : t.nodes[parent]? with
    | none =>
      rw [addChild_of_none hp]
      -- there is no such parent
      exact .inr (.inr ⟨_, rfl, rfl⟩)
    | some d =>
      cases hd : d.element.kind.isStructured with
      | false =>
        -- the parent is text
        rw [addChild_of_text hp hd]
        exact .inr (.inr ⟨_, rfl, rfl⟩)
      | true =>
        -- the child gets the next identifier
        rw [addChild_of_structured hp hd]
        exact .inl ⟨rfl, next_appendChild hp e⟩
  | rename n name? =>
    simp only [outcome, change, TreeM.result, TreeM.after]
    cases hn : t.contains n with
    | false =>
      rw [rename_of_not_contains hn]
      exact .inr (.inr ⟨_, rfl, rfl⟩)
    | true =>
      obtain ⟨t', heq, -, hnext, -⟩ := rename_of_contains hn name?
      -- a node that is there is renamed in place
      rw [heq]
      exact .inr (.inl ⟨rfl, hnext⟩)
  | remove n =>
    simp only [outcome, change, TreeM.result, TreeM.after]
    cases hn : t.nodes[n]? with
    | none =>
      rw [remove_of_none hn]
      exact .inr (.inr ⟨_, rfl, rfl⟩)
    | some d =>
      obtain ⟨t', heq, -, -, hnext⟩ := remove_of_some hn
      -- removal gives no identifier back
      rw [heq]
      exact .inr (.inl ⟨rfl, hnext⟩)

/-- A failing edit leaves the tree as it was, the next identifier included. -/
private theorem change_of_outcome_eq_error {t : Tree} {x : Change} {e : TreeError}
    (h : t.outcome x = .error e) : t.change x = t := by
  rcases t.outcome_cases x with ⟨hok, -⟩ | ⟨hok, -⟩ | ⟨_, -, heq⟩
  · exact nomatch h.symm.trans hok
  · exact nomatch h.symm.trans hok
  · exact heq

/-- A history starts by giving out the next identifier or none. -/
private theorem givenOut_cons_cases (t : Tree) (x : Change) (rest : List Change) :
    (t.givenOut (x :: rest) = t.nextId :: (t.change x).givenOut rest ∧
      (t.change x).next = t.next + 1) ∨
    (t.givenOut (x :: rest) = (t.change x).givenOut rest ∧ (t.change x).next = t.next) := by
  rw [givenOut]
  rcases t.outcome_cases x with ⟨hout, hnext⟩ | ⟨hout, hnext⟩ | ⟨e, hout, hsame⟩
  · rw [hout]
    exact .inl ⟨rfl, hnext⟩
  · rw [hout]
    exact .inr ⟨rfl, hnext⟩
  · rw [hout]
    exact .inr ⟨rfl, congrArg Tree.next hsame⟩

/-- A history gives out the identifiers from the next one on, one after the other. -/
private theorem givenOut_eq (t : Tree) (changes : List Change) :
    t.givenOut changes = (List.range' t.next (t.givenOut changes).length).map NodeId.mk ∧
      (changes.foldl change t).next = t.next + (t.givenOut changes).length := by
  induction changes generalizing t with
  | nil => exact ⟨rfl, rfl⟩
  | cons x rest ih =>
    obtain ⟨hlist, hnext⟩ := ih (t.change x)
    rcases t.givenOut_cons_cases x rest with ⟨hcons, hx⟩ | ⟨hsame, hx⟩
    · -- the next identifier goes first, and the rest goes on after it
      rw [hx] at hlist hnext
      rw [hcons, List.length_cons, List.range'_succ, List.map_cons, ← hlist]
      refine ⟨rfl, ?_⟩
      rw [List.foldl_cons, hnext]
      omega
    · -- nothing is given out, and the rest starts where the whole does
      rw [hx] at hlist hnext
      rw [hsame, List.foldl_cons]
      exact ⟨hlist, hnext⟩

/-- No identifier is given out twice. -/
theorem nodup_givenOut (t : Tree) (changes : List Change) : (t.givenOut changes).Nodup := by
  rw [(t.givenOut_eq changes).1]
  have hinj : Function.Injective NodeId.mk := fun _ _ heq => congrArg NodeId.index heq
  exact List.Nodup.map hinj List.nodup_range'

/-! ## Roots -/

variable {t : Tree}

theorem Linked.contains_parent (h : t.Linked) {n p : NodeId} (hp : t.parent? n = some p) :
    t.contains p = true := by
  obtain ⟨k, hk, -⟩ := h.isStructured_parent p n hp
  exact contains_of_kind? hk

/-- What a node reaches is the node itself, or it lies below a parent that the node reaches. -/
theorem Linked.reaches_iff (h : t.Linked) {a n : NodeId} : t.Reaches a n ↔
    (a = n ∧ t.contains n = true) ∨ ∃ p, t.parent? n = some p ∧ t.Reaches a p := by
  constructor
  · intro hr
    induction hr with
    | refl hn => exact .inl ⟨rfl, hn⟩
    | @step a c n hc _ ih =>
      right
      -- the way down starts at `a` and ends with the link to `n`
      have hparent := (h.mem_children_iff a c).1 hc
      rcases ih with ⟨rfl, -⟩ | ⟨p, hp, hreach⟩
      · exact ⟨a, hparent, .refl (h.contains_parent hparent)⟩
      · exact ⟨p, hp, .step hc hreach⟩
  · intro hor
    rcases hor with ⟨rfl, hn⟩ | ⟨p, hp, hreach⟩
    · exact .refl hn
    · -- the last link is added at the end of the way down
      have hchild := (h.mem_children_iff p n).2 hp
      have hn := contains_of_parent? hp
      clear hp
      induction hreach with
      | refl _ => exact .step hchild (.refl hn)
      | step hc _ ih => exact .step hc (ih hchild)

/-- A root reaches a node exactly if it reaches the parent of the node. -/
private theorem Linked.reaches_iff_of_parent (h : t.Linked) {r n p : NodeId} (hr : r ∈ t.roots)
    (hp : t.parent? n = some p) : t.Reaches r n ↔ t.Reaches r p := by
  rw [h.reaches_iff]
  constructor
  · intro hor
    rcases hor with ⟨rfl, -⟩ | ⟨q, hq, hreach⟩
    · -- a root has no parent
      exact nomatch ((h.mem_roots_iff r).1 hr).2.symm.trans hp
    · exact Option.some.inj (hq.symm.trans hp) ▸ hreach
  · intro hreach
    exact .inr ⟨p, hp, hreach⟩

/-- Going up from a node ends at the one root that reaches it. -/
theorem Linked.existsUnique_root (h : t.Linked) {n : NodeId} (hn : t.contains n = true) :
    ∃! r, r ∈ t.roots ∧ t.Reaches r n := by
  induction n using ancestors.induct t with
  | case1 n hp =>
    -- a root is reached from itself only
    refine ⟨n, ⟨(h.mem_roots_iff n).2 ⟨hn, hp⟩, .refl hn⟩, fun r hr => ?_⟩
    rcases h.reaches_iff.1 hr.2 with ⟨heq, -⟩ | ⟨q, hq, -⟩
    · exact heq
    · exact nomatch hp.symm.trans hq
  | case2 n p hp ih =>
    -- the roots that reach the node are those that reach its parent
    have hsame : ∀ r, (r ∈ t.roots ∧ t.Reaches r n) ↔ (r ∈ t.roots ∧ t.Reaches r p) :=
      fun r => and_congr_right fun hr => h.reaches_iff_of_parent hr hp
    rw [existsUnique_congr hsame]
    exact ih (h.contains_parent hp)

/-! ## Forests -/

/-- The three records of the links of a tree agree, and every node lies below one root. -/
structure Forest (t : Tree) : Prop where
  /-- The roots are the nodes that are there without a parent. -/
  mem_roots_iff : ∀ n, n ∈ t.roots ↔ t.contains n = true ∧ t.parent? n = none
  /-- Each root is listed once, in the order of identifiers. -/
  roots_sorted : t.roots.Pairwise fun a b => a.index < b.index
  /-- The children of a node are the nodes that are there with that parent. -/
  mem_children_iff : ∀ p c, c ∈ t.children p ↔ t.contains c = true ∧ t.parent? c = some p
  /-- Each child is listed once, in the order of identifiers. -/
  children_sorted : ∀ p, (t.children p).Pairwise fun a b => a.index < b.index
  /-- A parent is there, is not text and has a smaller identifier than its child. -/
  parent : ∀ n p, t.parent? n = some p →
    t.contains p = true ∧ t.kind? p ≠ some .text ∧ p.index < n.index
  /-- Every node that is there is reached from exactly one root. -/
  existsUnique_root : ∀ n, t.contains n = true → ∃! r, r ∈ t.roots ∧ t.Reaches r n

theorem Linked.forest (h : t.Linked) : t.Forest where
  mem_roots_iff := h.mem_roots_iff
  roots_sorted := h.roots_sorted
  mem_children_iff p c := by
    rw [h.mem_children_iff p c]
    exact ⟨fun hp => ⟨contains_of_parent? hp, hp⟩, And.right⟩
  children_sorted := h.children_sorted
  parent n p hp := by
    obtain ⟨k, hk, hs⟩ := h.isStructured_parent p n hp
    refine ⟨contains_of_kind? hk, fun htext => ?_, parent?_lt hp⟩
    -- text has no children
    rw [Option.some.inj (hk.symm.trans htext)] at hs
    exact nomatch hs
  existsUnique_root n hn := h.existsUnique_root hn

/-- After every history of edits, failing ones included, the tree is a forest. The identifiers
    given out on the way are 1, 2, 3 and so on, each of them once, and the next one to be given out
    follows on them whatever was removed in between. An edit that fails leaves the tree exactly as
    it was. -/
theorem forest_run (changes : List Change) :
    (run changes).Forest ∧
    givenOut ∅ changes = (List.range' 1 (givenOut ∅ changes).length).map NodeId.mk ∧
    (givenOut ∅ changes).Nodup ∧
    (run changes).next = 1 + (givenOut ∅ changes).length ∧
    ∀ x e, (run changes).outcome x = .error e → (run changes).change x = run changes :=
  ⟨(linked_run changes).forest, (givenOut_eq ∅ changes).1, nodup_givenOut ∅ changes,
    (givenOut_eq ∅ changes).2, fun _ _ => change_of_outcome_eq_error⟩

end Tree

end MacroTypes
