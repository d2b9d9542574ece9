import MacroTypes.Proofs.Document.Defining.Inside

/-!
# Updating and refreshing come to the same

Updating a declaration patches what the document has of it, refreshing takes that out and starts
anew. If the declaration can stand beside the others, the document reflects the same declarations
after both (`Reflects.update`, `Reflects.refresh`), so the two leave the same document but for the
generation (`Reflects.update_eq_refresh`).
-/

namespace MacroTypes.Document

variable {doc : Document} {decls : Std.ExtTreeMap NodeId Declaration} {decl : Declaration}

theorem Reflects.define (h : doc.Reflects decls)
    (hbeside : decl.Beside doc.dialect doc.template? decls) :
    (doc.define decl).Reflects (decls.insert decl.node decl) := by
  -- a stale definition is released, which makes no difference to the declarations at the end
  have hstale : ∃ decls', (doc.releaseStale decl).2.Reflects decls' ∧
      decl.Beside (doc.releaseStale decl).2.dialect (doc.releaseStale decl).2.template? decls' ∧
      decls'.insert decl.node decl = decls.insert decl.node decl :=
    snd_releaseStale_cases (P := fun doc' => ∃ decls', doc'.Reflects decls' ∧
        decl.Beside doc'.dialect doc'.template? decls' ∧
        decls'.insert decl.node decl = decls.insert decl.node decl)
      ⟨decls, h, hbeside, rfl⟩
      ⟨decls.erase decl.node, h.release decl.node, hbeside.erase decl.node,
        decls.insert_erase_self decl.node decl⟩
  obtain ⟨decls', hreflects, hbeside', heq⟩ := hstale
  rw [define_eq_defineAlong, ← heq]
  exact Ready.reflects_defineAlong { hbeside', h.owned.kept decl with reflects := hreflects }

/-! ## Updating a node -/

/-- The declarations after that of a node was read again. -/
def redeclare (decls : Std.ExtTreeMap NodeId Declaration) (n : NodeId) :
    Option Declaration → Std.ExtTreeMap NodeId Declaration
  | none => decls.erase n
  | some decl => decls.insert n decl

/-- Nothing remains of what the node declared before. -/
private theorem redeclare_erase (decls : Std.ExtTreeMap NodeId Declaration) (n : NodeId)
    (decl? : Option Declaration) : redeclare (decls.erase n) n decl? = redeclare decls n decl? := by
  cases decl? with
  | none => exact Std.ExtTreeMap.erase_of_getElem?_eq_none Std.ExtTreeMap.getElem?_erase_self
  | some decl => exact decls.insert_erase_self n decl

theorem Reflects.update (h : doc.Reflects decls) {t : Tree} {n : NodeId}
    (hbeside : ∀ decl, t.declaration? doc.dialect n = some decl →
      decl.Beside doc.dialect doc.template? decls) :
    (doc.update t n).2.Reflects (redeclare decls n (t.declaration? doc.dialect n)) := by
  cases hdecl : t.declaration? doc.dialect n with
  | some decl =>
    -- the node declares something, and that is defined
    obtain rfl := Declaration.node_eq_of_declaration? hdecl
    rw [snd_update_of_some hdecl]
    exact h.define (hbeside decl hdecl)
  | none =>
    rw [snd_update_of_none hdecl]
    -- it declares nothing any more, and what it declared is released
    show Reflects _ (decls.erase n)
    split
    · exact h.release n
    · next hn =>
      -- nothing is held, so nothing was declared
      have hnone : decls[n]? = none := by
        have hheld := h.held_eq n
        rw [Std.ExtTreeMap.getElem?_eq_none hn] at hheld
        exact Option.map_eq_none_iff.1 hheld.symm
      rw [Std.ExtTreeMap.erase_of_getElem?_eq_none hnone]
      exact h

theorem Reflects.refresh (h : doc.Reflects decls) {t : Tree} {n : NodeId}
    (hbeside : ∀ decl, t.declaration? doc.dialect n = some decl →
      decl.Beside doc.dialect doc.template? decls) :
    (doc.refresh t n).2.Reflects (redeclare decls n (t.declaration? doc.dialect n)) := by
  -- a refresh updates the document without what the node declared
  rw [← redeclare_erase]
  exact (h.release n).update fun decl hdecl => (hbeside decl hdecl).erase n

/-- If the declaration can stand beside the others, updating and refreshing report one class and
    leave one document but for the generation. -/
theorem Reflects.update_eq_refresh (h : doc.Reflects decls) {t : Tree} {n : NodeId}
    (hbeside : ∀ decl, t.declaration? doc.dialect n = some decl →
      decl.Beside doc.dialect doc.template? decls) :
    (doc.update t n).1 = (doc.refresh t n).1 ∧
      (doc.update t n).2 =
        { (doc.refresh t n).2 with generation := (doc.update t n).2.generation } := by
  have hupdate := settings_update doc t n
  have hrefresh := settings_update (doc.release n) t n
  have hd : (doc.update t n).2.dialect = (doc.refresh t n).2.dialect :=
    hupdate.1.trans hrefresh.1.symm
  have ht : (doc.update t n).2.template? = (doc.refresh t n).2.template? :=
    hupdate.2.trans hrefresh.2.symm
  -- both reflect the same declarations, which determine catalogue and definitions
  obtain ⟨hcatalog, hheld⟩ := (h.update hbeside).unique (h.refresh hbeside) hd ht
  exact ⟨(fst_update doc t n).trans (fst_update (doc.release n) t n).symm,
    eq_but_generation hd ht hcatalog hheld⟩

end MacroTypes.Document
