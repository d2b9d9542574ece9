import MacroTypes.Proofs.Session.Placement

/-!
# Separate histories reflect declarations

As long as the declarations of a session keep their classes apart, its document reflects what the
nodes declared when they were last defined. The invariant ties tree and document together: the tree
is well linked, the document reflects some declarations, and these are placed in the tree. One step
keeps it (`Reflects.next`), so every separate history does (`reflects_run`).
-/

namespace MacroTypes.Session

/-- A session whose document reflects declarations that are placed in its tree. -/
structure Reflects (s : Session) (decls : Std.ExtTreeMap NodeId Declaration) : Prop where
  linked : s.tree.Linked
  document : s.document.Reflects decls
  placed : ∀ (n : NodeId) (a : Declaration), decls[n]? = some a → a.Placed s.tree n

variable {s : Session} {decls : Std.ExtTreeMap NodeId Declaration}

/-- A node whose update is separate declares what can stand beside the others. -/
theorem Reflects.beside (h : s.Reflects decls) {n : NodeId}
    (hsep : s.document.SeparateAt s.tree n) (decl : Declaration)
    (hdecl : s.tree.declaration? s.document.dialect n = some decl) :
    decl.Beside s.document.dialect s.document.template? decls :=
  decl.beside_of_placed h.document h.linked h.placed hdecl (hsep decl hdecl)

/-- Erasing keeps the others placed. -/
private theorem Reflects.placed_erase (h : s.Reflects decls) (n : NodeId) (m : NodeId)
    (a : Declaration) (hm : (decls.erase n)[m]? = some a) : a.Placed s.tree m :=
  h.placed m a (Std.ExtTreeMap.getElem?_of_getElem?_erase hm)

/-- Reading a node again keeps all placed. -/
theorem Reflects.placed_redeclare (h : s.Reflects decls) {d : Dialect} (n m : NodeId)
    (a : Declaration)
    (hm : (Document.redeclare decls n (s.tree.declaration? d n))[m]? = some a) :
    a.Placed s.tree m := by
  cases hdecl : s.tree.declaration? d n with
  | none =>
    rw [hdecl] at hm
    exact h.placed_erase n m a hm
  | some decl =>
    rw [hdecl, Document.redeclare, Std.ExtTreeMap.getElem?_insert_ite] at hm
    split at hm
    · next hmn =>
      rw [hmn, ← Option.some.inj hm]
      exact Declaration.placed_of_declaration? h.linked hdecl
    · exact h.placed m a hm

/-- One separate step leaves a session that reflects declarations again. -/
theorem Reflects.next (h : s.Reflects decls) {e : Event} (he : e.isSingle = true)
    (hsteady : e.isSteady = true) (hsep : ∀ n ∈ e.updated?, s.document.SeparateAt s.tree n) :
    ∃ decls', (s.next e).Reflects decls' := by
  cases e with
  | refresh | refreshAll => exact nomatch he
  | newTree | setTemplate => exact nomatch hsteady
  | edit change =>
    -- the document does not see the edit, and the containers stay placed
    have hprecedes := h.linked.precedes_change change
    exact ⟨decls, h.linked.change change, h.document,
      fun n a hn => (h.placed n a hn).precedes hprecedes⟩
  | update n =>
    exact ⟨_, h.linked, h.document.update (h.beside (hsep n rfl)), h.placed_redeclare n⟩
  | release n => exact ⟨_, h.linked, h.document.release n, h.placed_erase n⟩
  | forget n => exact ⟨_, h.linked, h.document.forget n, h.placed_erase n⟩

/-- Every separate history of a new document leaves one that reflects declarations. -/
theorem reflects_run {d : Dialect} {doc : Document} (hnew : Document.new d = .ok doc)
    (template? : Option ElementType) {events : List Event}
    (hsteady : ∀ e ∈ events, e.isSteady = true) (hsep : (opened doc template?).Separated events) :
    ∃ decls, ((opened doc template?).run events).Reflects decls := by
  obtain ⟨hcatalog, hheld⟩ := empty_of_new hnew
  have hstart : (opened doc template?).Reflects ∅ :=
    { linked := Tree.linked_empty
      document := Document.reflects_empty hcatalog hheld
      placed := by simp }
  refine run_of_steps (P := fun s => ∃ decls, s.Reflects decls) ⟨∅, hstart⟩ hsep ?_
  intro s e he hallowed ⟨decls, h⟩
  exact h.next (isSingle_of_mem_flatMap he) (isSteady_of_mem_flatMap hsteady he) hallowed

/-- Steady events leave the template as it is. -/
theorem template?_run (s : Session) {events : List Event}
    (hsteady : ∀ e ∈ events, e.isSteady = true) :
    (s.run events).document.template? = s.document.template? := by
  refine run_of_steps (P := fun s' => s'.document.template? = s.document.template?) rfl
    (s.everyUpdate_true events) fun s' e he _ h => ?_
  have hsingle := isSingle_of_mem_flatMap he
  have hsteady := isSteady_of_mem_flatMap hsteady he
  cases e with
  | refresh | refreshAll => exact nomatch hsingle
  | newTree | setTemplate => exact nomatch hsteady
  | edit | release => exact h
  | update n => exact (s'.document.settings_update s'.tree n).2.trans h
  | forget n =>
    show (s'.document.forget n).template? = _
    rw [Document.forget_eq]
    exact h

end MacroTypes.Session
