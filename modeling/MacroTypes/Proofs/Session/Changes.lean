import MacroTypes.Catalog.Change
import MacroTypes.Proofs.Document.Orders
import MacroTypes.Proofs.Session.Soundness

/-!
# The changes behind a session

Whatever a document does to its catalogue is made of registrations and removals (`Becomes`), so what
is proved of every history of a catalogue holds of the catalogue of every session (`becomes_run`).
-/

namespace MacroTypes

namespace Catalog

/-- Some changes, made one after the other, lead from one catalogue to another. -/
def Becomes (cat cat' : Catalog) : Prop :=
  ∃ changes : List Change, changes.foldl change cat = cat'

theorem Becomes.refl (cat : Catalog) : cat.Becomes cat :=
  ⟨[], rfl⟩

theorem Becomes.trans {cat cat' cat'' : Catalog} (h : cat.Becomes cat') (h' : cat'.Becomes cat'') :
    cat.Becomes cat'' := by
  obtain ⟨changes, rfl⟩ := h
  obtain ⟨changes', rfl⟩ := h'
  exact ⟨changes ++ changes', List.foldl_append⟩

private theorem becomes_change (cat : Catalog) (x : Change) : cat.Becomes (cat.change x) :=
  ⟨[x], rfl⟩

/-! ## Several changes -/

private theorem becomes_unregisterAll (cat : Catalog) (cs : List ClassName) :
    cat.Becomes (cat.unregisterAll cs) :=
  ⟨cs.map .unregister, List.foldl_map⟩

private theorem becomes_registerInside (cat : Catalog) (container? : Option NodeId)
    (t : ElementType) :
    cat.Becomes (cat.registerInside container? t) := by
  cases container? with
  | none => exact .refl cat
  | some n => exact cat.becomes_change (.register (.container n) t)

private theorem becomes_placeOutside (cat : Catalog) (project? : Option NodeId) (t : ElementType)
    (old : List ClassName) : cat.Becomes (cat.placeOutside project? t old) :=
  (cat.becomes_registerInside project? t).trans (becomes_unregisterAll _ _)

private theorem becomes_registerClassesInside (cat : Catalog) (container? : Option NodeId)
    (cs : List ClassName) : cat.Becomes (cat.registerClassesInside container? cs) :=
  registerClassesInside_invariant (P := cat.Becomes)
    (fun _ _ h => h.trans (becomes_registerInside _ container? _)) (.refl cat)

private theorem becomes_registerElements (cat : Catalog) (template? : Option ElementType)
    (owner : ClassName) (elements : List (NodeId × String)) :
    cat.Becomes (cat.registerElements template? owner elements).2 :=
  registerElements_invariant (P := cat.Becomes)
    (fun _ _ h => h.trans (becomes_change _ (.register .document _))) _ (.refl cat)

end Catalog

namespace Document

variable (doc : Document)

private theorem becomes_release (n : NodeId) : doc.catalog.Becomes (doc.release n).catalog :=
  doc.catalog.becomes_unregisterAll _

private theorem becomes_releaseStale (decl : Declaration) :
    doc.catalog.Becomes (doc.releaseStale decl).2.catalog :=
  snd_releaseStale_cases (P := fun doc' => doc.catalog.Becomes doc'.catalog) (.refl _)
    (doc.becomes_release decl.node)

private theorem becomes_readied (decl : Declaration) (old : List ClassName) :
    doc.catalog.Becomes (doc.readied decl old) := by
  have helements := doc.catalog.becomes_registerElements doc.template?
    (decl.className doc.dialect) decl.elements
  have houtside :=
    (doc.withElements decl).becomes_placeOutside decl.project? (doc.made decl).type old
  have hbody := (doc.outside decl old).becomes_registerInside decl.body? (doc.made decl).type
  exact (helements.trans houtside).trans hbody

theorem becomes_beforeBody (decl : Declaration) : doc.catalog.Becomes (doc.beforeBody decl) :=
  (doc.becomes_releaseStale decl).trans (becomes_readied _ decl _)

private theorem becomes_define (decl : Declaration) :
    doc.catalog.Becomes (doc.define decl).catalog := by
  rw [define_eq_defineAlong]
  exact (doc.becomes_beforeBody decl).trans (Catalog.becomes_registerClassesInside _ decl.body? _)

/-- Every operation changes the catalogue by registering and removing only. -/
theorem becomes_invariant (cat : Catalog) :
    Invariant (fun _ _ _ => True) fun doc => cat.Becomes doc.catalog where
  withTemplate h _ := h
  release {doc} h n := h.trans (doc.becomes_release n)
  emptied h b := h.trans (Catalog.becomes_change _ (.removeContainer b))
  define {doc _ _ decl} h _ _ := h.trans (doc.becomes_define decl)

end Document

namespace Session

theorem becomes_run (s : Session) (events : List Event) :
    s.document.catalog.Becomes (s.run events).document.catalog :=
  (Document.becomes_invariant _).run (.refl _) (s.everyUpdate_true events)

/-- What the catalogue of a session becomes has a history of its own. -/
theorem exists_changes_run {dialect : Dialect} {doc : Document}
    (hnew : Document.new dialect = .ok doc) (template? : Option ElementType) {events : List Event}
    {s : Session} (hs : (opened doc template?).run events = s) {cat : Catalog}
    (hcat : s.document.catalog.Becomes cat) : ∃ changes, Catalog.run changes = cat := by
  have hempty : (opened doc template?).document.catalog = ∅ := (empty_of_new hnew).1
  have hrun := becomes_run (opened doc template?) events
  rw [hs, hempty] at hrun
  exact hrun.trans hcat

end Session

end MacroTypes
