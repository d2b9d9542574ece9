import MacroTypes.Proofs.Document.Refreshing
import MacroTypes.Proofs.Session.Contents
import MacroTypes.Proofs.Session.Invariants

/-!
# Refreshing everything

As long as no update generates a class of what is held for another node, a document owns what it
stores (`owned_run`). Refreshing all that it holds then leaves what a new document would have after
refreshing the same nodes. If the nodes keep their classes apart, their order makes no difference,
either (`refreshAll_starts_anew`).
-/

namespace MacroTypes

/-! ## The declarations of several nodes -/

namespace Tree

/-- Different nodes declare different classes. -/
def KeepsApart (t : Tree) (d : Dialect) (ns : List NodeId) : Prop :=
  ∀ m ∈ ns, ∀ n ∈ ns, m ≠ n → ∀ a ∈ t.declaration? d m, ∀ b ∈ t.declaration? d n,
    ∀ c ∈ a.classes d, c ∉ b.classes d

instance (t : Tree) (d : Dialect) (ns : List NodeId) : Decidable (t.KeepsApart d ns) :=
  inferInstanceAs (Decidable (∀ m ∈ ns, ∀ n ∈ ns, m ≠ n → ∀ a ∈ t.declaration? d m,
    ∀ b ∈ t.declaration? d n, ∀ c ∈ a.classes d, c ∉ b.classes d))

/-- The declarations after some nodes were read one after the other. -/
def redeclareAll (t : Tree) (d : Dialect) (decls : Std.ExtTreeMap NodeId Declaration)
    (ns : List NodeId) : Std.ExtTreeMap NodeId Declaration :=
  ns.foldl (fun decls n => Document.redeclare decls n (t.declaration? d n)) decls

end Tree

namespace Document

private theorem getElem?_redeclare (decls : Std.ExtTreeMap NodeId Declaration) (n m : NodeId)
    (decl? : Option Declaration) :
    (redeclare decls n decl?)[m]? = if m = n then decl? else decls[m]? := by
  cases decl? with
  | none => exact decls.getElem?_erase_ite m n
  | some decl => exact decls.getElem?_insert_ite m n decl

end Document

namespace Tree

/-- A node that was read declares what the tree says, whenever it was read. -/
private theorem getElem?_redeclareAll (t : Tree) (d : Dialect)
    (decls : Std.ExtTreeMap NodeId Declaration) (ns : List NodeId) (m : NodeId) :
    (t.redeclareAll d decls ns)[m]? = if m ∈ ns then t.declaration? d m else decls[m]? := by
  induction ns generalizing decls with
  | nil => simp [redeclareAll]
  | cons n rest ih =>
    show (t.redeclareAll d (Document.redeclare decls n (t.declaration? d n)) rest)[m]? = _
    rw [ih, Document.getElem?_redeclare]
    by_cases hm : m = n
    · simp [hm]
    · simp [hm]

/-- So the order does not matter. -/
private theorem redeclareAll_perm (t : Tree) (d : Dialect)
    (decls : Std.ExtTreeMap NodeId Declaration) {ns ns' : List NodeId} (hperm : ns.Perm ns') :
    t.redeclareAll d decls ns = t.redeclareAll d decls ns' := by
  apply Std.ExtTreeMap.ext_getElem?
  intro m
  simp only [getElem?_redeclareAll, hperm.mem_iff]

end Tree

namespace Session

/-! ## Updating several nodes -/

variable {s : Session} {decls : Std.ExtTreeMap NodeId Declaration}

/-- If what is reflected are declarations of the tree as it is, a node that keeps its classes apart
    from theirs is updated separately. -/
private theorem Reflects.separateAt (h : s.Reflects decls) {all : List NodeId}
    (hapart : s.tree.KeepsApart s.document.dialect all)
    (hdecls : ∀ (m : NodeId) (a : Declaration), decls[m]? = some a →
      m ∈ all ∧ s.tree.declaration? s.document.dialect m = some a) {n : NodeId} (hn : n ∈ all) :
    s.document.SeparateAt s.tree n := by
  intro decl hdecl m d hd hm c hc hmem
  obtain rfl := Declaration.node_eq_of_declaration? hdecl
  -- what is held for the other node is what that node declares
  obtain ⟨a, ha, rfl⟩ := h.document.exists_of_held hd
  obtain ⟨hall, hread⟩ := hdecls m a ha
  exact hapart _ hn m hall hm.symm decl hdecl a hread c hc
    (Declaration.mem_classes_of_mem_definition hmem)

/-- Updating nodes that keep their classes apart leaves a document that reflects what they
    declare. -/
theorem Reflects.foldl_update (h : s.Reflects decls) {all : List NodeId}
    (hapart : s.tree.KeepsApart s.document.dialect all)
    (hdecls : ∀ (m : NodeId) (a : Declaration), decls[m]? = some a →
      m ∈ all ∧ s.tree.declaration? s.document.dialect m = some a) {ns : List NodeId}
    (hns : ∀ n ∈ ns, n ∈ all) :
    (ns.foldl (fun doc n => (doc.update s.tree n).2) s.document).Reflects
      (s.tree.redeclareAll s.document.dialect decls ns) := by
  induction ns generalizing s decls with
  | nil => exact h.document
  | cons n rest ih =>
    have hn := hns n List.mem_cons_self
    -- the first node stands apart from those that are declared, so its update is reflected
    have hnext : (s.next (.update n)).Reflects _ :=
      ⟨h.linked, h.document.update (h.beside (h.separateAt hapart hdecls hn)), h.placed_redeclare n⟩
    have hdialect : (s.next (.update n)).document.dialect = s.document.dialect :=
      (s.document.settings_update s.tree n).1
    -- the others are still apart from it
    have hrest := ih hnext (hdialect ▸ hapart) ?_ fun m hm => hns m (List.mem_cons_of_mem _ hm)
    · rw [hdialect] at hrest
      exact hrest
    · -- the node that was read declares what the tree says, like those read before
      intro m a hm
      rw [hdialect]
      rw [Document.getElem?_redeclare] at hm
      split at hm
      · next heq =>
        subst heq
        exact ⟨hn, hm⟩
      · exact hdecls m a hm

/-- Refreshing all that is held leaves a document that reflects what the nodes declare, if they keep
    their classes apart. -/
theorem reflects_refreshAll (hlinked : s.tree.Linked) (howned : s.document.Owned)
    {ns : List NodeId} (hall : ∀ n ∈ s.document.declarations, n ∈ ns)
    (hapart : s.tree.KeepsApart s.document.dialect ns) :
    (s.document.refreshAll s.tree ns).Reflects
      (s.tree.redeclareAll s.document.dialect ∅ ns) := by
  -- all that was held is released first
  obtain ⟨hcatalog, hheld⟩ := howned.foldl_release_eq_empty hall
  have hdialect := (s.document.settings_foldl_release ns).1
  -- the updates start on an empty document
  have hempty : ({ s with document := ns.foldl Document.release s.document } : Session).Reflects
      ∅ := ⟨hlinked, Document.reflects_empty hcatalog hheld, by simp⟩
  have hfold := hempty.foldl_update (hdialect.symm ▸ hapart) (by simp) fun n hn => hn
  rw [show ({ s with document := ns.foldl Document.release s.document } : Session).document.dialect
    = s.document.dialect from hdialect] at hfold
  exact hfold

/-! ## Histories without conflicts -/

/-- A document owns what it stores as long as no update is in conflict with what is held. -/
theorem owned_run {d : Dialect} {doc : Document} (hnew : Document.new d = .ok doc)
    (template? : Option ElementType) {events : List Event}
    (hclear : (opened doc template?).EveryUpdate Document.ClearAt events) :
    ((opened doc template?).run events).document.Owned := by
  obtain ⟨hcatalog, hheld⟩ := empty_of_new hnew
  exact Document.owned_invariant.run (Document.owned_empty hcatalog hheld) hclear

/-- After every history of a new document in which no update generated a class of what was held for
    another node, refreshing a list of nodes that covers the declarations leaves the types and
    definitions that it leaves in a new document with the template. If the nodes keep their classes
    apart, so does refreshing them in any other order. -/
theorem refreshAll_starts_anew {d : Dialect} {doc : Document} (hnew : Document.new d = .ok doc)
    (template? : Option ElementType) {events : List Event}
    (hclear : (opened doc template?).EveryUpdate Document.ClearAt events) {s : Session}
    (hs : (opened doc template?).run events = s) {ns : List NodeId}
    (hall : ∀ n ∈ s.document.declarations, n ∈ ns) :
    ((s.document.refreshAll s.tree ns).catalog =
        ((doc.withTemplate s.document.template?).refreshAll s.tree ns).catalog ∧
      (s.document.refreshAll s.tree ns).held =
        ((doc.withTemplate s.document.template?).refreshAll s.tree ns).held) ∧
    (s.tree.KeepsApart doc.dialect ns → ∀ ns', ns.Perm ns' →
      (s.document.refreshAll s.tree ns').catalog = (s.document.refreshAll s.tree ns).catalog ∧
        (s.document.refreshAll s.tree ns').held = (s.document.refreshAll s.tree ns).held) := by
  obtain ⟨hcatalog, hheld⟩ := empty_of_new hnew
  have howned : s.document.Owned := hs ▸ owned_run hnew template? hclear
  have hlinked : s.tree.Linked := hs ▸ linked_tree_run Tree.linked_empty events
  have hdialect : s.document.dialect = doc.dialect := hs ▸ dialect_run _ events
  constructor
  · -- both documents are empty after the releases
    have hfresh : (doc.withTemplate s.document.template?).Owned :=
      Document.owned_empty hcatalog hheld
    have hagrees := howned.agrees_refreshAll hfresh hdialect rfl s.tree hall fun n hn => by
      simp [Document.declarations, Document.withTemplate, hheld] at hn
    exact ⟨hagrees.catalog_eq, hagrees.held_eq⟩
  · intro hapart ns' hperm
    have hall' : ∀ n ∈ s.document.declarations, n ∈ ns' := fun n hn => hperm.mem_iff.1 (hall n hn)
    have hapart' : s.tree.KeepsApart doc.dialect ns' := fun m hm n hn =>
      hapart m (hperm.mem_iff.2 hm) n (hperm.mem_iff.2 hn)
    rw [← hdialect] at hapart hapart'
    -- both orders reflect the same declarations
    have h := reflects_refreshAll hlinked howned hall hapart
    have h' := reflects_refreshAll hlinked howned hall' hapart'
    rw [← s.tree.redeclareAll_perm _ _ hperm] at h'
    -- one list of declarations determines the types and the definitions
    have hsettings := s.document.settings_refreshAll s.tree ns
    have hsettings' := s.document.settings_refreshAll s.tree ns'
    exact h'.unique h (hsettings'.1.trans hsettings.1.symm) (hsettings'.2.trans hsettings.2.symm)

/-- Two declarations that change their names after they were defined. -/
def swappedSample : List Event :=
  [ .edit (.addRoot { kind := .project, tag := "project" }),
    .edit (.addChild ⟨1⟩ { tag := "macrodef", name? := some "Foo" }),
    .edit (.addChild ⟨2⟩ { tag := "element", name? := some "x" }),
    .edit (.addChild ⟨1⟩ { tag := "macrodef", name? := some "Qux" }),
    .edit (.addChild ⟨4⟩ { tag := "element", name? := some "y" }),
    .update ⟨2⟩,
    .update ⟨4⟩,
    .edit (.rename ⟨2⟩ (some "Qux")),
    .edit (.rename ⟨4⟩ (some "Foo")) ]

/-- The session in which the names are swapped. -/
def swappedSession : Session :=
  (opened sampleDocument sampleDocument.template?).run swappedSample

theorem refreshAll_starts_anew_swappedSample :
    (opened sampleDocument sampleDocument.template?).EveryUpdate Document.ClearAt swappedSample ∧
      swappedSession.document.declarations = [⟨2⟩, ⟨4⟩] ∧
      swappedSession.tree.KeepsApart sampleDocument.dialect [⟨2⟩, ⟨4⟩] ∧
      (swappedSession.document.refreshAll swappedSession.tree [⟨2⟩, ⟨4⟩]).catalog =
        ((sampleDocument.withTemplate swappedSession.document.template?).refreshAll
          swappedSession.tree [⟨2⟩, ⟨4⟩]).catalog ∧
      (swappedSession.document.refreshAll swappedSession.tree [⟨4⟩, ⟨2⟩]).catalog =
        (swappedSession.document.refreshAll swappedSession.tree [⟨2⟩, ⟨4⟩]).catalog := by
  have hclear : (opened sampleDocument sampleDocument.template?).EveryUpdate Document.ClearAt
      swappedSample := by
    decide +kernel
  have hdeclarations : swappedSession.document.declarations = [⟨2⟩, ⟨4⟩] := by decide +kernel
  have hapart : swappedSession.tree.KeepsApart sampleDocument.dialect [⟨2⟩, ⟨4⟩] := by
    decide +kernel
  have hall : ∀ n ∈ swappedSession.document.declarations, n ∈ [⟨2⟩, ⟨4⟩] :=
    fun n hn => hdeclarations ▸ hn
  obtain ⟨hanew, hperm⟩ := refreshAll_starts_anew new_sampleDocument _ hclear rfl hall
  exact ⟨hclear, hdeclarations, hapart, hanew.1, (hperm hapart _ (.swap _ _ _)).1⟩

end Session

end MacroTypes
