import MacroTypes.Proofs.Document.Clearing
import MacroTypes.Proofs.Session.Invariants

/-!
# What holds after every history

Whatever happens in a session, declarations of one name included, its document stays sound: the
catalogue is coherent, and no type is nested in itself (`sound_run`).
-/

namespace MacroTypes

/-- What holds of a document after every history, however its declarations get in each other's
    way. -/
structure Document.Sound (doc : Document) : Prop where
  coherent : doc.catalog.Coherent
  own_not_nested : ∀ (n : NodeId) (d : Definition), doc.held[n]? = some d →
    d.type.className ∉ d.type.nested.values

namespace Document

variable {doc : Document}

theorem Sound.release (h : doc.Sound) (n : NodeId) : (doc.release n).Sound where
  coherent := h.coherent.unregisterAll _
  own_not_nested m d hd := h.own_not_nested m d (Std.ExtTreeMap.getElem?_of_getElem?_erase hd)

theorem Sound.emptied (h : doc.Sound) (b : NodeId) : (doc.emptied b).Sound where
  coherent := h.coherent.removeContainer b
  own_not_nested := h.own_not_nested

theorem Sound.define (h : doc.Sound) (decl : Declaration) : (doc.define decl).Sound where
  coherent := (settled_define h.coherent decl).coherent
  own_not_nested m d hd := by
    rcases held_define_cases hd with ⟨rfl, rfl⟩ | ⟨-, hd⟩
    · -- the nested classes are nested in the own class
      intro hmem
      obtain ⟨k, hk⟩ := Std.ExtTreeMap.mem_values.1 hmem
      obtain ⟨e, _, _, hc, _⟩ := (Catalog.getElem?_fst_registerElements _ _ _ _ _ _).1 hk
      exact ClassName.nested_ne _ _ hc.symm
    · exact h.own_not_nested m d hd

/-- Whatever is updated, documents stay sound. -/
theorem sound_invariant : Invariant (fun _ _ _ => True) Sound where
  withTemplate h _ := ⟨h.coherent, h.own_not_nested⟩
  release h n := h.release n
  emptied h b := h.emptied b
  define {_ _ _ decl} h _ _ := h.define decl

end Document

namespace Session

theorem sound_run {d : Dialect} {doc : Document} (hnew : Document.new d = .ok doc)
    (template? : Option ElementType) (events : List Event) :
    ((opened doc template?).run events).document.Sound := by
  obtain ⟨hcatalog, hheld⟩ := empty_of_new hnew
  have hstart : (opened doc template?).document.Sound :=
    { coherent := show doc.catalog.Coherent from hcatalog ▸ Catalog.coherent_empty
      own_not_nested := fun n d hd => by
        have hd : doc.held[n]? = some d := hd
        simp [hheld] at hd }
  exact Document.sound_invariant.run hstart (everyUpdate_true _ events)

end Session

end MacroTypes
