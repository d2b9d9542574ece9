import MacroTypes.Catalog.Coherent

/-!
# Changes of a catalogue

A history of a catalogue is a list of changes, made one after the other from the empty catalogue.
Whatever the history, the catalogue is coherent: `coherent_run`.
-/

namespace MacroTypes.Catalog

/-- A change of a catalogue. -/
inductive Change where
  /-- Registers a type in a scope. -/
  | register (s : Scope) (t : ElementType)
  /-- Takes a class out. -/
  | unregister (c : ClassName)
  /-- Forgets a container. -/
  | removeContainer (n : NodeId)
deriving DecidableEq

/-- The catalogue after a change. -/
def change (cat : Catalog) : Change → Catalog
  | .register s t => cat.register s t
  | .unregister c => (cat.unregister c).2
  | .removeContainer n => cat.removeContainer n

/-- The catalogue after a history of changes. -/
def run (changes : List Change) : Catalog :=
  changes.foldl change ∅

theorem Coherent.change {cat : Catalog} (h : Coherent cat) (x : Change) :
    Coherent (cat.change x) :=
  match x with
  | .register s t => h.register s t
  | .unregister c => h.unregister c
  | .removeContainer n => h.removeContainer n

private theorem coherent_foldl_change {cat : Catalog} (h : Coherent cat) (changes : List Change) :
    Coherent (changes.foldl Catalog.change cat) := by
  induction changes generalizing cat with
  | nil => exact h
  | cons x rest ih => exact ih (h.change x)

theorem coherent_run (changes : List Change) : Coherent (run changes) :=
  coherent_foldl_change coherent_empty changes

end MacroTypes.Catalog
