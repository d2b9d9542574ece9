import MacroTypes.Proofs.Document.Owning
import MacroTypes.Proofs.Document.Settling

/-!
# Defining without conflicts

A document keeps owning what it stores as long as no definition generates a class of what is held
for another node (`ClearAt`, `Owned.define`, `owned_invariant`). The template may change: it matters
for the nested types and not for whose they are.
-/

namespace MacroTypes.Document

/-- Updating a node defines no class of what is held for another one. -/
def ClearAt (doc : Document) (t : Tree) (n : NodeId) : Prop :=
  ∀ decl ∈ t.declaration? doc.dialect n, doc.Avoids decl.node (doc.defined decl).classes

instance (doc : Document) (t : Tree) (n : NodeId) : Decidable (doc.ClearAt t n) :=
  inferInstanceAs (Decidable (∀ decl ∈ t.declaration? doc.dialect n,
    doc.Avoids decl.node (doc.defined decl).classes))

variable {doc : Document}

/-- A class that the definition does not have is stored as before, unless it is an old one. -/
private theorem get?_define_of_not_mem (h : doc.catalog.Coherent) {decl : Declaration}
    {c : ClassName} (hc : c ∉ (doc.defined decl).classes) :
    (doc.define decl).catalog.get? c =
      if c ∈ (doc.releaseStale decl).1 then none
      else (doc.releaseStale decl).2.catalog.get? c := by
  rw [← made_releaseStale] at hc
  rw [catalog_define, get?_inside_of_not_mem (coherent_releaseStale h decl) hc]

/-- Without a place the class of the definition is not stored. -/
private theorem Owned.hasPlace_of_get?_define (h : doc.Owned) {decl : Declaration}
    (hclear : doc.Avoids decl.node (doc.defined decl).classes) {u : ElementType}
    (hu : (doc.define decl).catalog.get? (doc.defined decl).type.className = some u) :
    (doc.defined decl).hasPlace = true := by
  have hkept := h.kept decl
  have hdialect := (doc.settings_releaseStale decl).1
  rw [← Bool.not_eq_false]
  intro hplace
  obtain ⟨hproject, hbody⟩ : decl.project? = none ∧ decl.body? = none := by
    simpa [Definition.hasPlace, defined] using hplace
  -- nothing new is stored, so the class was stored before
  have hold :
      (doc.releaseStale decl).2.catalog.get? (doc.defined decl).type.className = some u := by
    rw [catalog_define, ← made_releaseStale] at hu
    rw [← made_releaseStale]
    exact get?_of_get?_inside_own hproject hbody hu
  obtain ⟨m, d, hd, hc⟩ := hkept.owned.exists_held _ u hold
  -- it belongs to this node, as the definition avoids the others
  have hm : m = decl.node := by
    refine Decidable.byContradiction fun hne => ?_
    rw [doc.held_releaseStale_of_ne hne] at hd
    exact hclear m d hd hne _ List.mem_cons_self hc
  subst hm
  -- so the node had a definition without a place, and nothing is stored for such a one
  obtain ⟨hclass, hproject', hbody'⟩ := hkept.fits d hd
  rw [hdialect] at hclass
  have hplace' := (hkept.owned.own _ d u hd (hclass ▸ hold)).1
  rw [Definition.hasPlace, hproject', hbody', hproject, hbody] at hplace'
  simp at hplace'

/-- What is stored afterwards belongs to the new definition or to what is held for another node. -/
private theorem Owned.exists_held_define (h : doc.Owned) {decl : Declaration} {c : ClassName}
    {u : ElementType} (hu : (doc.define decl).catalog.get? c = some u) :
    ∃ (n : NodeId) (d : Definition), (doc.define decl).held[n]? = some d ∧ c ∈ d.classes := by
  by_cases hc : c ∈ (doc.defined decl).classes
  · exact ⟨_, _, doc.held_define decl, hc⟩
  · rw [get?_define_of_not_mem h.coherent hc] at hu
    split at hu
    · exact nomatch hu
    · next hold =>
      -- what is not new is still held for the node that it was held for
      have hkept := h.kept decl
      obtain ⟨m, d, hd, hmem⟩ := hkept.owned.exists_held c u hu
      have hm : m ≠ decl.node := by
        rintro rfl
        -- the classes of a kept definition are the own one and the old ones
        rcases List.mem_cons.1 hmem with heq | hmem
        · rw [heq, (hkept.fits d hd).1, (doc.settings_releaseStale decl).1] at hc
          exact hc List.mem_cons_self
        · exact hold ((hkept.mem_old_iff c).2 ⟨d, hd, hmem⟩)
      refine ⟨m, d, ?_, hmem⟩
      rw [doc.held_define_of_ne hm, ← doc.held_releaseStale_of_ne hm, hd]

/-- The definition that was made shares no class with what is held for the other nodes. -/
private theorem Owned.disjoint_define (h : doc.Owned) {decl : Declaration}
    (hclear : doc.Avoids decl.node (doc.defined decl).classes) {m n : NodeId} {d e : Definition}
    (hne : m ≠ n) (hd : (doc.define decl).held[m]? = some d)
    (he : (doc.define decl).held[n]? = some e) : ∀ c ∈ d.classes, c ∉ e.classes := by
  rcases held_define_cases hd with ⟨rfl, rfl⟩ | ⟨hm, hd⟩
  · -- the first is the new one, so the second is not
    rcases held_define_cases he with ⟨hn, -⟩ | ⟨hn, he⟩
    · exact absurd hn.symm hne
    · exact hclear n e he hn
  · rcases held_define_cases he with ⟨rfl, rfl⟩ | ⟨-, he⟩
    · -- the second is the new one
      exact fun c hcd hce => hclear m d hd hm c hce hcd
    · exact h.disjoint m n d e hne hd he

theorem Owned.define (h : doc.Owned) {decl : Declaration}
    (hclear : doc.Avoids decl.node (doc.defined decl).classes) : (doc.define decl).Owned where
  coherent := (settled_define h.coherent decl).coherent
  own m d u hd hu := by
    rcases held_define_cases hd with ⟨rfl, rfl⟩ | ⟨hm, hd⟩
    · have hplace := h.hasPlace_of_get?_define hclear hu
      exact ⟨hplace, (settled_define h.coherent decl).own hplace u hu⟩
    · -- the class of another definition is stored as before, if it is stored at all
      have hother : d.type.className ∉ (doc.defined decl).classes :=
        fun hc => hclear m d hd hm _ hc List.mem_cons_self
      rw [get?_define_of_not_mem h.coherent hother] at hu
      split at hu
      · exact nomatch hu
      · exact (h.kept decl).owned.own m d u (doc.held_releaseStale_of_ne hm ▸ hd) hu
  exists_held _ _ hu := h.exists_held_define hu
  disjoint _ _ _ _ hne hd he := h.disjoint_define hclear hne hd he

/-- Owning is kept throughout. -/
theorem owned_invariant : Invariant ClearAt Owned where
  withTemplate h template? := h.withTemplate template?
  release h n := h.release n
  emptied h b := h.emptied b
  define h hclear hdecl := h.define (hclear _ hdecl)

end MacroTypes.Document
