import MacroTypes.Proofs.Document.Generations
import MacroTypes.Proofs.Session.Contents
import MacroTypes.Proofs.Session.Invariants

/-!
# What the generation tells

Each event of a session raises the generation by the number of its releases (`releases`,
`generation_next`), and a definition is lost or replaced by one of another class, project or body
only if the generation grows (`retains_next`). So two moments of one generation have the same
definitions up to their types.

Which nodes hold a definition is decided by the last event that concerns each of them
(`mem_declarations_run`).
-/

namespace MacroTypes.Session

variable {s : Session} {n : NodeId}

/-! ## How often a declaration is released -/

/-- How many releases an event is. -/
def releases (s : Session) : Event → Nat
  | .edit _ | .newTree | .setTemplate _ => 0
  | .update n => if s.document.Outdated s.tree n then 1 else 0
  | .refresh _ | .release _ | .forget _ => 1
  | .refreshAll ns => ns.length

/-- How many releases there are in a history. -/
def releasesIn (s : Session) : List Event → Nat
  | [] => 0
  | e :: rest => s.releases e + (s.next e).releasesIn rest

theorem generation_next (s : Session) (e : Event) :
    (s.next e).document.generation = s.document.generation + s.releases e := by
  cases e with
  | edit | newTree | setTemplate => rfl
  | update n => exact s.document.generation_update s.tree n
  | refresh n => exact s.document.generation_refresh s.tree n
  | refreshAll ns => exact s.document.generation_refreshAll s.tree ns
  | release n => rfl
  | forget n => exact s.document.generation_forget n

theorem generation_run (s : Session) (events : List Event) :
    (s.run events).document.generation = s.document.generation + s.releasesIn events := by
  induction events generalizing s with
  | nil => rfl
  | cons e rest ih =>
    rw [releasesIn, ← Nat.add_assoc, ← generation_next]
    exact ih (s.next e)

/-! ## What one generation has in common -/

/-- What is held in a session is still held in a later one, with the same class and in the same
    containers. -/
def Retains (s s' : Session) : Prop :=
  ∀ (n : NodeId) (d : Definition), s.document.held[n]? = some d →
    ∃ d', s'.document.held[n]? = some d' ∧ d'.Succeeds d

theorem Retains.refl (s : Session) : s.Retains s := fun _ d hd => ⟨d, hd, .refl d⟩

theorem Retains.trans {s' s'' : Session} (h : s.Retains s') (h' : s'.Retains s'') :
    s.Retains s'' := by
  intro n d hd
  obtain ⟨d', hd', hsucc⟩ := h n d hd
  obtain ⟨d'', hd'', hsucc'⟩ := h' n d' hd'
  exact ⟨d'', hd'', hsucc.trans hsucc'⟩

/-- A step without a release loses no definition. -/
theorem retains_next {e : Event} (he : e.isSingle = true) (hreleases : s.releases e = 0) :
    s.Retains (s.next e) := by
  cases e with
  | refresh | refreshAll => exact nomatch he
  | release | forget => exact nomatch hreleases
  | edit | newTree | setTemplate => exact .refl s
  | update m =>
    have hdate : ¬ s.document.Outdated s.tree m := by
      intro houtdated
      rw [releases, if_pos houtdated] at hreleases
      exact nomatch hreleases
    intro n d hd
    by_cases hn : n = m
    · -- the node that is updated holds what the update makes of it
      exact hn ▸ Document.succeeds_update hdate (hn ▸ hd)
    · -- the others hold what they held
      refine ⟨d, ?_, .refl d⟩
      rw [← hd]
      exact (s.document.getElem?_held_update s.tree m n).trans (if_neg hn)

/-- The generation never falls, and as long as it stays what it is no definition is lost. -/
theorem le_generation_and_retains_run (s : Session) (events : List Event) :
    s.document.generation ≤ (s.run events).document.generation ∧
      ((s.run events).document.generation = s.document.generation → s.Retains (s.run events)) := by
  -- every step keeps both
  refine run_of_every_step (s := s)
    (P := fun s' => s.document.generation ≤ s'.document.generation ∧
      (s'.document.generation = s.document.generation → s.Retains s'))
    ⟨Nat.le_refl _, fun _ => .refl s⟩ events fun s' e he h => ?_
  rw [generation_next]
  refine ⟨Nat.le_add_right_of_le h.1, fun heq => ?_⟩
  -- neither this step nor an earlier one was a release
  have hle := h.1
  exact (h.2 (by omega)).trans (retains_next he (by omega))

/-! ## Who holds a definition -/

/-- Whether an event defines what a node declares. -/
def Event.defines (n : NodeId) : Event → Bool
  | .update m | .refresh m => m = n
  | .refreshAll ns => n ∈ ns
  | .edit _ | .newTree | .setTemplate _ | .release _ | .forget _ => false

/-- Whether an event releases a node for good. -/
def Event.drops (n : NodeId) : Event → Bool
  | .release m | .forget m => m = n
  | .edit _ | .newTree | .setTemplate _ | .update _ | .refresh _ | .refreshAll _ => false

/-- Whether an event concerns what a node holds. -/
def Event.concerns (n : NodeId) (e : Event) : Bool :=
  e.defines n || e.drops n

/-- After an event that defines a node, the node holds a definition if it has a name. Otherwise it
    does so if it did before and is not released. -/
private theorem isSome_held_next (s : Session) (e : Event) (n : NodeId) :
    (s.next e).document.held[n]?.isSome =
      if e.defines n then (s.tree.declaredName? n).isSome
      else s.document.held[n]?.isSome && !e.drops n := by
  have hupdate : ∀ (doc : Document) (m : NodeId), (doc.update s.tree m).2.held[n]?.isSome =
      if n = m then (s.tree.declaredName? n).isSome else doc.held[n]?.isSome := fun doc m =>
    (doc.isSome_held_foldl_update s.tree [m] n).trans (by simp)
  -- one case an event; where a release comes before a definition, the definition decides
  cases e with
  | edit | newTree | setTemplate => simp [next, Event.defines, Event.drops, Document.withTemplate]
  | update m => simp [next, Event.defines, Event.drops, hupdate, @eq_comm _ m]
  | refresh m =>
    -- the release is followed by an update of the same node
    show ((s.document.release m).update s.tree m).2.held[n]?.isSome = _
    rw [hupdate, Document.getElem?_held_release]
    by_cases hn : n = m
    · simp [Event.defines, hn]
    · simp [Event.defines, Event.drops, hn, Ne.symm hn]
  | refreshAll ns =>
    show (s.document.refreshAll s.tree ns).held[n]?.isSome = _
    -- all are released before the first is updated
    rw [Document.refreshAll, Document.isSome_held_foldl_update, Document.held_foldl_release]
    by_cases hn : n ∈ ns
    · simp [Event.defines, hn]
    · simp [Event.defines, Event.drops, hn]
  | release m =>
    show (s.document.release m).held[n]?.isSome = _
    rw [Document.getElem?_held_release]
    by_cases hn : n = m
    · simp [Event.defines, Event.drops, hn]
    · simp [Event.defines, Event.drops, hn, Ne.symm hn]
  | forget m =>
    show (s.document.forget m).held[n]?.isSome = _
    -- forgetting is a release and empties the body
    rw [Document.getElem?_held_forget]
    by_cases hn : n = m
    · simp [Event.defines, Event.drops, hn]
    · simp [Event.defines, Event.drops, hn, Ne.symm hn]

/-- The last event of a history that concerns a node defines it, and finds a name. -/
def DefinedLast (s : Session) (events : List Event) (n : NodeId) : Prop :=
  ∃ before e after, events = before ++ e :: after ∧ e.defines n = true ∧
    ((s.run before).tree.declaredName? n).isSome = true ∧ ∀ e' ∈ after, e'.concerns n = false

/-- The last event of a longer history is the last one of the rest, unless that does not concern the
    node. -/
private theorem definedLast_cons {e : Event} {rest : List Event} :
    s.DefinedLast (e :: rest) n ↔ (s.next e).DefinedLast rest n ∨
      (e.defines n = true ∧ (s.tree.declaredName? n).isSome = true ∧
        ∀ e' ∈ rest, e'.concerns n = false) := by
  constructor
  · rintro ⟨before, e', after, heq, hdefines, hname, hafter⟩
    cases before with
    | nil =>
      -- the first event is that last one
      obtain ⟨rfl, rfl⟩ := List.cons.inj heq
      exact .inr ⟨hdefines, hname, hafter⟩
    | cons e₀ before =>
      -- that last one is among the rest
      obtain ⟨rfl, rfl⟩ := List.cons.inj heq
      exact .inl ⟨before, e', after, rfl, hdefines, hname, hafter⟩
  · rintro (⟨before, e', after, rfl, hdefines, hname, hafter⟩ | ⟨hdefines, hname, hafter⟩)
    · exact ⟨e :: before, e', after, rfl, hdefines, hname, hafter⟩
    · exact ⟨[], e, rest, rfl, hdefines, hname, hafter⟩

/-- A node holds a definition if the last event that concerns it found a name, or if it held one in
    the beginning and no event concerns it. -/
theorem mem_declarations_run (s : Session) (events : List Event) (n : NodeId) :
    n ∈ (s.run events).document.declarations ↔ s.DefinedLast events n ∨
      (n ∈ s.document.declarations ∧ ∀ e ∈ events, e.concerns n = false) := by
  -- induction from the front: the rest of the history starts in the next session
  induction events generalizing s with
  | nil => simp [DefinedLast, run]
  | cons e rest ih =>
    have hnext := ih (s.next e)
    rw [show (s.next e).run rest = s.run (e :: rest) from rfl] at hnext
    rw [hnext, definedLast_cons, or_assoc]
    refine or_congr_right ?_
    rw [Document.mem_declarations_iff, Document.mem_declarations_iff, isSome_held_next,
      List.forall_mem_cons, Event.concerns, Bool.or_eq_false_iff]
    -- the first event decides if none of the rest concerns the node
    cases hdefines : e.defines n with
    | true => simp
    | false => simp [and_assoc]

/-- After every history of a new document, each event raises the generation by the number of its
    releases. Whatever follows, the generation is higher by the releases among it, and if there are
    none, no definition is lost. And the nodes that hold a definition are those for which the last
    event that concerns them defines them and finds a name. -/
theorem releases_are_counted {dialect : Dialect} {doc : Document}
    (hnew : Document.new dialect = .ok doc) (template? : Option ElementType) (events : List Event)
    {s : Session} (hs : (opened doc template?).run events = s) :
    (∀ e, (s.next e).document.generation = s.document.generation + s.releases e) ∧
    (∀ more, (s.run more).document.generation = s.document.generation + s.releasesIn more ∧
      ((s.run more).document.generation = s.document.generation → s.Retains (s.run more))) ∧
    (∀ n, n ∈ s.document.declarations ↔ (opened doc template?).DefinedLast events n) := by
  refine ⟨s.generation_next, fun more => ?_, fun n => ?_⟩
  · exact ⟨s.generation_run more, (s.le_generation_and_retains_run more).2⟩
  · -- nothing is held in the beginning
    have hheld : (opened doc template?).document.held = ∅ := (empty_of_new hnew).2
    have hnone : n ∉ (opened doc template?).document.declarations := by
      rw [Document.mem_declarations_iff, hheld]
      simp
    rw [← hs, mem_declarations_run, or_iff_left fun hand => hnone hand.1]

/-- A declaration that is renamed and updated, a release of a node that holds nothing, and a refresh
    that goes through one node twice. -/
def restless : List Event := sample ++
  [ .edit (.rename ⟨2⟩ (some "Quux")),
    .update ⟨2⟩,
    .release ⟨7⟩,
    .refreshAll [⟨2⟩, ⟨2⟩] ]

/-- The update, the release and the two parts of the refresh count, and so will an update once the
    name is gone. -/
theorem releases_are_counted_restless : ∃ s,
    (opened sampleDocument sampleDocument.template?).run restless = s ∧
      s.document.generation = 4 ∧ s.document.declarations = [⟨2⟩] ∧
      s.releases (.update ⟨2⟩) = 0 ∧
      (s.next (.edit (.rename ⟨2⟩ none))).releases (.update ⟨2⟩) = 1 ∧
      (s.next (.update ⟨2⟩)).document.generation =
        s.document.generation + s.releases (.update ⟨2⟩) ∧
      (opened sampleDocument sampleDocument.template?).DefinedLast restless ⟨2⟩ := by
  refine ⟨_, rfl, by decide +kernel, by decide +kernel, by decide +kernel, by decide +kernel, ?_⟩
  have hcounted := releases_are_counted new_sampleDocument sampleDocument.template? restless rfl
  exact ⟨hcounted.1 _, (hcounted.2.2 ⟨2⟩).1 (by decide +kernel)⟩

end MacroTypes.Session
