import MacroTypes.Proofs.Document.Settling
import MacroTypes.Proofs.Session.Contents
import MacroTypes.Proofs.Session.Soundness

/-!
# Updating twice

Updating a node a second time, with nothing changed in between, changes nothing if the definition is
up to date after the first time, and only then (`update_again_iff`). A definition without a project
and a body is not stored, and another declaration of the name may be: the second update then removes
the nested classes of that other declaration (`removes_when_updated_again`).
-/

namespace MacroTypes.Session

/-- After every history of a new document, updating a node a second time reports the same class, and
    it changes nothing, the generation included, exactly if the definition that the node holds is up
    to date after the first time. The tree may be any tree. -/
theorem update_again_iff {dialect : Dialect} {doc : Document}
    (hnew : Document.new dialect = .ok doc) (template? : Option ElementType) (events : List Event)
    {s : Session} (hs : (opened doc template?).run events = s) (t : Tree) (n : NodeId) :
    ((s.document.update t n).2.update t n).1 = (s.document.update t n).1 ∧
      (((s.document.update t n).2.update t n).2 = (s.document.update t n).2 ↔
        ∀ d ∈ (s.document.update t n).2.held[n]?,
          (s.document.update t n).2.catalog.UpToDate d) := by
  have h : s.document.Sound := hs ▸ sound_run hnew template? events
  refine ⟨?_, Document.update_update_iff h.coherent t n⟩
  rw [Document.fst_update, Document.fst_update, (s.document.settings_update t n).1]

/-- The session of the sample. -/
def sampleSession : Session :=
  (opened sampleDocument sampleDocument.template?).run sample

/-- With a project and a body the second update changes nothing. -/
theorem update_again_sample :
    (∀ d ∈ (sampleSession.document.update sampleSession.tree ⟨2⟩).2.held[(⟨2⟩ : NodeId)]?,
      (sampleSession.document.update sampleSession.tree ⟨2⟩).2.catalog.UpToDate d) ∧
    ((sampleSession.document.update sampleSession.tree ⟨2⟩).2.update sampleSession.tree ⟨2⟩).2 =
      (sampleSession.document.update sampleSession.tree ⟨2⟩).2 := by
  have hdate : ∀ d ∈ (sampleSession.document.update sampleSession.tree ⟨2⟩).2.held[(⟨2⟩ : NodeId)]?,
      (sampleSession.document.update sampleSession.tree ⟨2⟩).2.catalog.UpToDate d := by
    decide +kernel
  exact ⟨hdate, (update_again_iff new_sampleDocument _ sample rfl _ ⟨2⟩).2.2 hdate⟩

/-- A declaration with an element in a project, and one of the same name outside of it. -/
def lonelyRival : List Event :=
  [ .edit (.addRoot { kind := .project, tag := "project" }),
    .edit (.addChild ⟨1⟩ { tag := "macrodef", name? := some "Foo" }),
    .edit (.addChild ⟨2⟩ { tag := "element", name? := some "x" }),
    .edit (.addRoot { tag := "macrodef", name? := some "Foo" }),
    .update ⟨2⟩ ]

/-- The session in which the declaration in the project is defined. -/
def lonelySession : Session :=
  (opened sampleDocument sampleDocument.template?).run lonelyRival

/-- The second update of the declaration outside removes the element of the other one. -/
theorem removes_when_updated_again :
    (lonelySession.document.update lonelySession.tree ⟨4⟩).2.catalog.contains
        ⟨"AntMacroDef[Foo]$x"⟩ = true ∧
      ((lonelySession.document.update lonelySession.tree ⟨4⟩).2.update
        lonelySession.tree ⟨4⟩).2.catalog.contains ⟨"AntMacroDef[Foo]$x"⟩ = false ∧
      ((lonelySession.document.update lonelySession.tree ⟨4⟩).2.update lonelySession.tree ⟨4⟩).2 ≠
        (lonelySession.document.update lonelySession.tree ⟨4⟩).2 := by
  have hfirst : (lonelySession.document.update lonelySession.tree ⟨4⟩).2.catalog.contains
      ⟨"AntMacroDef[Foo]$x"⟩ = true := by
    decide +kernel
  have hsecond : ((lonelySession.document.update lonelySession.tree ⟨4⟩).2.update
      lonelySession.tree ⟨4⟩).2.catalog.contains ⟨"AntMacroDef[Foo]$x"⟩ = false := by
    decide +kernel
  refine ⟨hfirst, hsecond, fun heq => ?_⟩
  -- a document that did not change would still store the element
  rw [heq, hfirst] at hsecond
  exact nomatch hsecond

end MacroTypes.Session
