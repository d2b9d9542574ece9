import MacroTypes.Proofs.Declaration.Contents
import MacroTypes.Proofs.Document.Operations

/-!
# Documents that own what they store

A document owns what it stores if every stored class belongs to exactly one held definition
(`Owned`). Then a release takes out the classes of the definition and no others
(`Owned.mem_classesAt`), and a document that holds nothing stores nothing
(`Owned.catalog_eq_empty`). A definition that is not released before its declaration is defined
again has the class and the containers of the new one (`Owned.kept`).

Whether a definition would take a class from what is held for another node can be decided
(`Avoids`).
-/

namespace MacroTypes.Document

/-- What is held for other nodes than this one has none of some classes. -/
def Avoids (doc : Document) (n : NodeId) (cs : List ClassName) : Prop :=
  ∀ (m : NodeId) (d : Definition), doc.held[m]? = some d → m ≠ n → ∀ c ∈ cs, c ∉ d.classes

instance (doc : Document) (n : NodeId) (cs : List ClassName) : Decidable (doc.Avoids n cs) :=
  Std.ExtTreeMap.decidableForall doc.held _

/-! ## Owning -/

/-- A document in which every stored class belongs to one held definition. -/
structure Owned (doc : Document) : Prop where
  coherent : doc.catalog.Coherent
  /-- The class of a definition holds its type, and only if there is a place for it. -/
  own : ∀ (n : NodeId) (d : Definition) (u : ElementType), doc.held[n]? = some d →
    doc.catalog.get? d.type.className = some u → d.hasPlace = true ∧ u = d.type
  exists_held : ∀ (c : ClassName) (u : ElementType), doc.catalog.get? c = some u →
    ∃ (n : NodeId) (d : Definition), doc.held[n]? = some d ∧ c ∈ d.classes
  disjoint : ∀ (m n : NodeId) (d e : Definition), m ≠ n → doc.held[m]? = some d →
    doc.held[n]? = some e → ∀ c ∈ d.classes, c ∉ e.classes

variable {doc : Document}

/-- A document without types owns what it stores. -/
theorem owned_empty (hcatalog : doc.catalog = ∅) (hheld : doc.held = ∅) : doc.Owned where
  coherent := hcatalog ▸ Catalog.coherent_empty
  own n d u hd := by simp [hheld] at hd
  exists_held c u hu := by simp [hcatalog] at hu
  disjoint m n d e _ hd := by simp [hheld] at hd

/-- The template has no part in it. -/
theorem Owned.withTemplate (h : doc.Owned) (template? : Option ElementType) :
    (doc.withTemplate template?).Owned :=
  ⟨h.coherent, h.own, h.exists_held, h.disjoint⟩

/-- If nothing is held, nothing is stored. -/
theorem Owned.catalog_eq_empty (h : doc.Owned) (hheld : doc.held = ∅) : doc.catalog = ∅ := by
  apply h.coherent.eq_empty
  intro c
  rw [Option.eq_none_iff_forall_ne_some]
  intro u hu
  obtain ⟨n, d, hd, -⟩ := h.exists_held c u hu
  simp [hheld] at hd

/-- The type that a definition stands for is its own. -/
theorem Owned.current_eq (h : doc.Owned) {n : NodeId} {d : Definition}
    (hd : doc.held[n]? = some d) : doc.current d = d.type := by
  rw [current]
  cases hget : doc.catalog.get? d.type.className with
  | none => rfl
  | some u => exact (h.own n d u hd hget).2

/-- A release takes out the classes of the definition. -/
theorem Owned.mem_classesAt (h : doc.Owned) {n : NodeId} {c : ClassName} :
    c ∈ doc.classesAt n ↔ ∃ d, doc.held[n]? = some d ∧ c ∈ d.classes := by
  rw [classesAt]
  cases hd : doc.held[n]? with
  | none => simp
  | some d =>
    simp only [Option.map_some, Option.getD_some, Option.some.injEq, exists_eq_left']
    -- the stored type is the definition's own, so its nested classes are, too
    rw [classesOf, h.current_eq hd, Definition.classes, List.mem_append, List.mem_singleton,
      List.mem_cons, or_comm]

theorem Owned.release (h : doc.Owned) (n : NodeId) : (doc.release n).Owned where
  coherent := h.coherent.unregisterAll _
  own m d u hd hu := by
    rw [get?_release] at hu
    split at hu
    · exact nomatch hu
    · -- what is still stored was stored before, and what is still held was held before
      exact h.own m d u (Std.ExtTreeMap.getElem?_of_getElem?_erase hd) hu
  exists_held c u hu := by
    rw [get?_release] at hu
    split at hu
    · exact nomatch hu
    · next hc =>
      obtain ⟨m, d, hd, hmem⟩ := h.exists_held c u hu
      -- a class that is still stored was not released, so another node holds it
      have hne : m ≠ n := fun heq => hc (h.mem_classesAt.2 ⟨d, heq ▸ hd, hmem⟩)
      exact ⟨m, d, (doc.held_release_of_ne hne).trans hd, hmem⟩
  disjoint m k d e hne hd he :=
    h.disjoint m k d e hne (Std.ExtTreeMap.getElem?_of_getElem?_erase hd)
      (Std.ExtTreeMap.getElem?_of_getElem?_erase he)

/-- Emptying a container changes no stored type. -/
theorem Owned.emptied (h : doc.Owned) (b : NodeId) : (doc.emptied b).Owned where
  coherent := h.coherent.removeContainer b
  own n d u hd hu := h.own n d u hd ((doc.catalog.get?_removeContainer b _).symm.trans hu)
  exists_held c u hu := h.exists_held c u ((doc.catalog.get?_removeContainer b c).symm.trans hu)
  disjoint := h.disjoint

/-! ## Definitions that are kept -/

/-- A document that is about to define a declaration: what it holds for the node already, if
    anything, has the class, the project and the body of the declaration, and `old` lists the nested
    classes of it. -/
structure Kept (doc : Document) (decl : Declaration) (old : List ClassName) : Prop where
  owned : doc.Owned
  fits : ∀ d, doc.held[decl.node]? = some d → d.type.className = decl.className doc.dialect ∧
    d.project? = decl.project? ∧ d.body? = decl.body?
  mem_old_iff : ∀ c, c ∈ old ↔ ∃ d, doc.held[decl.node]? = some d ∧ c ∈ d.type.nested.values

/-- That is so after the release of a stale definition. -/
theorem Owned.kept (h : doc.Owned) (decl : Declaration) :
    Kept (doc.releaseStale decl).2 decl (doc.releaseStale decl).1 := by
  refine releaseStale_cases (P := fun old doc' => Kept doc' decl old) (fun hn => ?_)
    (fun d hd hfits => ?_) ?_
  · -- nothing was held for the node
    exact ⟨h, by simp [hn], by simp [hn]⟩
  · -- one definition is held for the node, and it fits
    have hfits := fits_iff.1 hfits
    exact ⟨h, by simpa [hd] using hfits, by simp [hd, h.current_eq hd]⟩
  · -- a definition that does not fit is released, and nothing is held any more
    have hn := doc.held_release_self decl.node
    exact ⟨h.release decl.node, by simp [hn], by simp [hn]⟩

end MacroTypes.Document
