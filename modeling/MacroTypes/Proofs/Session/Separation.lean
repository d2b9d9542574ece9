import MacroTypes.Proofs.Document.Owning
import MacroTypes.Proofs.Session.Invariants

/-!
# Sessions whose declarations keep their classes apart

Two declarations of one name define one class, and the one defined last has it. Whether a history
stays clear of that is said update by update: an update is separate if it generates no class of what
is held for another node (`Document.SeparateAt`), and a history is if all its updates are
(`Session.Separated`).

The conditions are decidable, so that they can be checked for a given history.
-/

namespace MacroTypes

/-- Updating a node would generate no class of what is held for another one. -/
def Document.SeparateAt (doc : Document) (t : Tree) (n : NodeId) : Prop :=
  ∀ decl ∈ t.declaration? doc.dialect n, doc.Avoids decl.node (decl.classes doc.dialect)

instance (doc : Document) (t : Tree) (n : NodeId) : Decidable (doc.SeparateAt t n) :=
  inferInstanceAs (Decidable (∀ decl ∈ t.declaration? doc.dialect n,
    doc.Avoids decl.node (decl.classes doc.dialect)))

namespace Session

/-- No update in a history, alone or as a part of refreshing, generates a class of what is held for
    another node at that moment. -/
def Separated (s : Session) (events : List Event) : Prop :=
  s.EveryUpdate Document.SeparateAt events

instance (s : Session) (events : List Event) : Decidable (s.Separated events) :=
  inferInstanceAs (Decidable (s.EveryUpdate Document.SeparateAt events))

/-- Whether an event leaves the tree in its place and the template as it is. -/
def Event.isSteady : Event → Bool
  | .newTree | .setTemplate _ => false
  | _ => true

/-- A steady event is made of steady steps. -/
theorem isSteady_of_mem_flatMap {events : List Event} (hsteady : ∀ e ∈ events, e.isSteady = true)
    {e : Event} (h : e ∈ events.flatMap Event.steps) : e.isSteady = true := by
  obtain ⟨e', he', hmem⟩ := List.mem_flatMap.1 h
  rcases Event.cases_of_mem_steps hmem with ⟨rfl, -⟩ | ⟨n, rfl | rfl⟩
  · exact hsteady e he'
  · rfl
  · rfl

end Session

end MacroTypes
