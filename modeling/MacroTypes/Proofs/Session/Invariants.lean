import MacroTypes.Proofs.Document.Stages
import MacroTypes.Proofs.Tree.Histories
import MacroTypes.Session

/-!
# Invariants of sessions

A refresh is a release and an update, and refreshing several declarations is all their releases
followed by all their updates (`Event.steps`, `run_steps`). A history is as long as its steps, so
what every single step keeps holds after every history (`run_of_steps`), and what the operations on
a document keep holds of the document (`Document.Invariant.run`). What is demanded of an update may
depend on the document and the tree that it meets (`EveryUpdate`).
-/

namespace MacroTypes

namespace Session

/-! ## Steps -/

/-- An event as a list of steps, each of which updates one declaration at most. -/
def Event.steps : Event → List Event
  | .refresh n => [.release n, .update n]
  | .refreshAll ns => ns.map .release ++ ns.map .update
  | e => [e]

/-- Whether an event is a step of its own. -/
def Event.isSingle : Event → Bool
  | .refresh _ | .refreshAll _ => false
  | _ => true

/-- A step is the event itself, or a release or an update that a refresh is made of. -/
theorem Event.cases_of_mem_steps {e e' : Event} (h : e' ∈ e.steps) :
    (e' = e ∧ e.isSingle = true) ∨ ∃ n, e' = .release n ∨ e' = .update n := by
  cases e with
  | refresh n =>
    simp only [steps, List.mem_cons, List.not_mem_nil, or_false] at h
    exact .inr ⟨n, h⟩
  | refreshAll ns =>
    simp only [steps, List.mem_append, List.mem_map] at h
    rcases h with ⟨n, -, rfl⟩ | ⟨n, -, rfl⟩
    · exact .inr ⟨n, .inl rfl⟩
    · exact .inr ⟨n, .inr rfl⟩
  | edit | newTree | setTemplate | update | release | forget =>
    exact .inl ⟨List.mem_singleton.1 h, rfl⟩

theorem isSingle_of_mem_flatMap {e : Event} {events : List Event}
    (h : e ∈ events.flatMap Event.steps) : e.isSingle = true := by
  obtain ⟨e', -, hmem⟩ := List.mem_flatMap.1 h
  rcases Event.cases_of_mem_steps hmem with ⟨rfl, he⟩ | ⟨n, rfl | rfl⟩
  · exact he
  · rfl
  · rfl

private theorem run_append (s : Session) (events events' : List Event) :
    s.run (events ++ events') = (s.run events).run events' :=
  List.foldl_append

private theorem run_map_release (s : Session) (ns : List NodeId) :
    s.run (ns.map .release) = { s with document := ns.foldl Document.release s.document } := by
  induction ns generalizing s with
  | nil => rfl
  | cons n rest ih => exact ih (s.next (.release n))

private theorem run_map_update (s : Session) (ns : List NodeId) :
    s.run (ns.map .update) = { s with
      document := ns.foldl (fun doc n => (doc.update s.tree n).2) s.document } := by
  induction ns generalizing s with
  | nil => rfl
  | cons n rest ih => exact ih (s.next (.update n))

/-- The steps of an event do together what the event does. -/
private theorem run_event_steps (s : Session) (e : Event) : s.run e.steps = s.next e := by
  cases e with
  | refreshAll ns =>
    -- all releases come before all updates
    show s.run (ns.map .release ++ ns.map .update) = _
    rw [run_append, run_map_release, run_map_update]
    rfl
  | _ => rfl

theorem run_steps (s : Session) (events : List Event) :
    s.run (events.flatMap Event.steps) = s.run events := by
  induction events generalizing s with
  | nil => rfl
  | cons e rest ih =>
    rw [List.flatMap_cons, run_append, run_event_steps, ih]
    rfl

/-! ## Conditions on updates -/

/-- The node that a step updates. -/
def Event.updated? : Event → Option NodeId
  | .update n => some n
  | _ => none

/-- Every update among some steps meets a document and a tree on which it is allowed. -/
def UpdatesAllowed (allowed : Document → Tree → NodeId → Prop) (s : Session) : List Event → Prop
  | [] => True
  | e :: rest => (∀ n ∈ e.updated?, allowed s.document s.tree n) ∧
      (s.next e).UpdatesAllowed allowed rest

instance decidableUpdatesAllowed (allowed : Document → Tree → NodeId → Prop)
    [∀ doc t n, Decidable (allowed doc t n)] :
    (s : Session) → (steps : List Event) → Decidable (s.UpdatesAllowed allowed steps)
  | _, [] => inferInstanceAs (Decidable True)
  | s, e :: rest =>
    have := decidableUpdatesAllowed allowed (s.next e) rest
    inferInstanceAs (Decidable ((∀ n ∈ e.updated?, allowed s.document s.tree n) ∧
      (s.next e).UpdatesAllowed allowed rest))

/-- Every update in a history, alone or as a part of refreshing, meets a document and a tree on
    which it is allowed. -/
def EveryUpdate (allowed : Document → Tree → NodeId → Prop) (s : Session) (events : List Event) :
    Prop :=
  s.UpdatesAllowed allowed (events.flatMap Event.steps)

instance (allowed : Document → Tree → NodeId → Prop) [∀ doc t n, Decidable (allowed doc t n)]
    (s : Session) (events : List Event) : Decidable (s.EveryUpdate allowed events) :=
  inferInstanceAs (Decidable (s.UpdatesAllowed allowed (events.flatMap Event.steps)))

variable {allowed : Document → Tree → NodeId → Prop} {s : Session} {events : List Event}

/-- If nothing is demanded of an update, every history will do. -/
theorem everyUpdate_true (s : Session) (events : List Event) :
    s.EveryUpdate (fun _ _ _ => True) events := by
  unfold EveryUpdate
  induction events.flatMap Event.steps generalizing s with
  | nil => trivial
  | cons e rest ih => exact ⟨fun _ _ => trivial, ih (s.next e)⟩

private theorem updatesAllowed_append {steps steps' : List Event} :
    s.UpdatesAllowed allowed (steps ++ steps') ↔
      s.UpdatesAllowed allowed steps ∧ (s.run steps).UpdatesAllowed allowed steps' := by
  induction steps generalizing s with
  | nil => exact (and_iff_right trivial).symm
  | cons e rest ih => exact (and_congr_right fun _ => ih).trans and_assoc.symm

/-- The updates of a history and of what follows on it. -/
theorem everyUpdate_append {events' : List Event} : s.EveryUpdate allowed (events ++ events') ↔
    s.EveryUpdate allowed events ∧ (s.run events).EveryUpdate allowed events' := by
  unfold EveryUpdate
  rw [List.flatMap_append, updatesAllowed_append, run_steps]

/-! ## Invariants -/

/-- What every allowed step keeps holds after every history whose updates are allowed. -/
theorem run_of_steps {P : Session → Prop} (h : P s) (hallowed : s.EveryUpdate allowed events)
    (hstep : ∀ s e, e ∈ events.flatMap Event.steps →
      (∀ n ∈ e.updated?, allowed s.document s.tree n) → P s → P (s.next e)) :
    P (s.run events) := by
  rw [← run_steps]
  unfold EveryUpdate at hallowed
  generalize events.flatMap Event.steps = steps at hallowed hstep
  induction steps generalizing s with
  | nil => exact h
  | cons e rest ih =>
    obtain ⟨hfirst, hrest⟩ := hallowed
    exact ih (hstep s e List.mem_cons_self hfirst h) hrest
      fun s' e' he' => hstep s' e' (List.mem_cons_of_mem _ he')

/-- What every step keeps holds after every history. -/
theorem run_of_every_step {P : Session → Prop} (h : P s) (events : List Event)
    (hstep : ∀ s e, e.isSingle = true → P s → P (s.next e)) : P (s.run events) :=
  run_of_steps h (s.everyUpdate_true events) fun s e he _ => hstep s e (isSingle_of_mem_flatMap he)

/-! ## New documents -/

/-- A new document with a template of its own, and an empty tree. -/
def opened (doc : Document) (template? : Option ElementType) : Session :=
  { document := doc.withTemplate template? }

/-- Nothing is stored or held at first. -/
theorem empty_of_new {d : Dialect} {doc : Document} (hnew : Document.new d = .ok doc) :
    doc.catalog = ∅ ∧ doc.held = ∅ := by
  unfold Document.new at hnew
  split at hnew
  · exact nomatch hnew
  · rw [← Except.ok.inj hnew]
    exact ⟨rfl, rfl⟩

/-! ## What is kept throughout -/

/-- Every history leaves a well-linked tree. -/
theorem linked_tree_run (h : s.tree.Linked) (events : List Event) :
    (s.run events).tree.Linked := by
  refine run_of_every_step (P := fun s => s.tree.Linked) h events fun s e he h => ?_
  cases e with
  | refresh | refreshAll => exact nomatch he
  | edit change => exact h.change change
  | newTree => exact Tree.linked_empty
  | setTemplate | update | release | forget => exact h

end Session

/-! ## Invariants of the document -/

namespace Document.Invariant

variable {allowed : Document → Tree → NodeId → Prop} {P : Document → Prop}

theorem next (h : Invariant allowed P) {s : Session} (hdoc : P s.document) {e : Session.Event}
    (he : e.isSingle = true) (hallowed : ∀ n ∈ e.updated?, allowed s.document s.tree n) :
    P (s.next e).document := by
  cases e with
  | refresh | refreshAll => exact nomatch he
  | edit | newTree => exact hdoc
  | setTemplate template? => exact h.withTemplate hdoc template?
  | update n => exact h.update hdoc (hallowed n rfl)
  | release n => exact h.release hdoc n
  | forget n => exact h.forget hdoc n

/-- What the operations on a document keep holds after every history. -/
theorem run (h : Invariant allowed P) {s : Session} (hdoc : P s.document)
    {events : List Session.Event} (hallowed : s.EveryUpdate allowed events) :
    P (s.run events).document :=
  Session.run_of_steps (P := fun s => P s.document) hdoc hallowed fun _ _ he hn hdoc =>
    h.next hdoc (Session.isSingle_of_mem_flatMap he) hn

end Document.Invariant

namespace Session

/-- The dialect stays what it is. -/
theorem dialect_run (s : Session) (events : List Event) :
    (s.run events).document.dialect = s.document.dialect := by
  have hinvariant : Document.Invariant (fun _ _ _ => True)
      fun doc => doc.dialect = s.document.dialect :=
    { withTemplate := fun h _ => h
      release := fun h _ => h
      emptied := fun h _ => h
      define := fun {doc _ _ decl} h _ _ => (doc.settings_define decl).1.trans h }
  exact hinvariant.run rfl (s.everyUpdate_true events)

end Session

end MacroTypes
