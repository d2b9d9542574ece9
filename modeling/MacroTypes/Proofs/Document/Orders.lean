import MacroTypes.Proofs.Catalog.Orders
import MacroTypes.Proofs.Document.Stages

/-!
# The order of nested types

The operations on a document go through the nested classes of a type in three places: they are taken
out when a definition is released, those that the new definition lacks are taken out when a
declaration is defined again, and they are registered in the body. Here each walk may take any order
(`ReleasesTo`, `ReleasesStaleTo`, `DefinesTo`), and every order leads to the same document
(`releasesTo_iff`, `releasesStaleTo_iff`, `definesTo_iff`).
-/

namespace MacroTypes.Document

variable {doc doc' : Document} {n : NodeId} {decl : Declaration}

/-! ## Releasing -/

/-- Releasing a node, where the nested classes of what it holds are taken out in some order. -/
inductive ReleasesTo (doc : Document) (n : NodeId) : Document → Prop where
  /-- Nothing is held for the node. -/
  | nothing : doc.held[n]? = none → ReleasesTo doc n
      { doc with
        held := doc.held.erase n
        generation := doc.generation + 1 }
  /-- The nested classes go first, and then the own one. -/
  | held {d : Definition} {walk : List ClassName} : doc.held[n]? = some d →
      walk.Perm (doc.current d).nested.values → ReleasesTo doc n
      { doc with
        catalog := doc.catalog.unregisterAll (walk ++ [(doc.current d).className])
        held := doc.held.erase n
        generation := doc.generation + 1 }

private theorem releasesTo_release (doc : Document) (n : NodeId) :
    doc.ReleasesTo n (doc.release n) := by
  rw [release]
  cases hn : doc.held[n]? with
  | none => exact .nothing hn
  | some d => exact .held hn (.refl _)

theorem releasesTo_iff (h : doc.catalog.Coherent) :
    doc.ReleasesTo n doc' ↔ doc' = doc.release n := by
  constructor
  · intro hto
    cases hto with
    | nothing hn =>
      rw [release, hn]
      rfl
    | @held d walk hn hperm =>
      have hcatalog : doc.catalog.unregisterAll (walk ++ [(doc.current d).className]) =
          doc.catalog.unregisterAll (doc.classesOf d) :=
        h.unregisterAll_congr fun c => (hperm.append_right _).mem_iff
      rw [release, hn, hcatalog]
      rfl
  · intro heq
    exact heq ▸ releasesTo_release doc n

/-- Forgetting a node, which releases it first. -/
inductive ForgetsTo (doc : Document) (n : NodeId) : Document → Prop where
  /-- There is no body to forget. -/
  | bodiless {released : Document} : doc.held[n]?.bind Definition.body? = none →
      doc.ReleasesTo n released → ForgetsTo doc n released
  /-- The body is forgotten. -/
  | body {released : Document} {b : NodeId} : doc.held[n]?.bind Definition.body? = some b →
      doc.ReleasesTo n released →
      ForgetsTo doc n { released with catalog := released.catalog.removeContainer b }

theorem forgetsTo_iff (h : doc.catalog.Coherent) : doc.ForgetsTo n doc' ↔ doc' = doc.forget n := by
  constructor
  · intro hto
    cases hto with
    | bodiless hn hrelease =>
      rw [(releasesTo_iff h).1 hrelease, forget, hn]
    | body hn hrelease =>
      rw [(releasesTo_iff h).1 hrelease, forget, hn]
  · intro heq
    subst heq
    rw [forget]
    -- the body that is held decides which loop is run
    cases hn : doc.held[n]?.bind Definition.body? with
    | none => exact .bodiless hn (doc.releasesTo_release n)
    | some b => exact .body hn (doc.releasesTo_release n)

/-! ## Defining -/

/-- Releasing what does not fit a declaration. The nested classes of a definition that is kept are
    listed in some order. -/
inductive ReleasesStaleTo (doc : Document) (decl : Declaration) :
    List ClassName → Document → Prop where
  /-- Nothing is held for the declaration. -/
  | nothing : doc.held[decl.node]? = none → ReleasesStaleTo doc decl [] doc
  /-- The definition is kept. -/
  | kept {d : Definition} {old : List ClassName} : doc.held[decl.node]? = some d →
      doc.fits decl d = true → old.Perm (doc.current d).nested.values →
      ReleasesStaleTo doc decl old doc
  /-- The definition is released. -/
  | released {d : Definition} {doc' : Document} : doc.held[decl.node]? = some d →
      doc.fits decl d = false → doc.ReleasesTo decl.node doc' → ReleasesStaleTo doc decl [] doc'

/-- What is computed is one of the outcomes, and so is every other order of its classes. -/
private theorem releasesStaleTo_of_perm {old : List ClassName}
    (hperm : old.Perm (doc.releaseStale decl).1) :
    doc.ReleasesStaleTo decl old (doc.releaseStale decl).2 := by
  rw [releaseStale] at hperm ⊢
  -- what is held and whether it fits decides which of the three ways is taken
  cases hn : doc.held[decl.node]? with
  | none =>
    rw [hn] at hperm
    rw [List.perm_nil.1 hperm]
    exact .nothing hn
  | some d =>
    cases hfits : doc.fits decl d with
    | true =>
      simp only [hn, hfits, if_true] at hperm ⊢
      exact .kept hn hfits hperm
    | false =>
      simp only [hn, hfits, Bool.false_eq_true, if_false] at hperm ⊢
      rw [List.perm_nil.1 hperm]
      exact .released hn hfits (doc.releasesTo_release decl.node)

theorem releasesStaleTo_iff (h : doc.catalog.Coherent) {old : List ClassName} :
    doc.ReleasesStaleTo decl old doc' ↔
      old.Perm (doc.releaseStale decl).1 ∧ doc' = (doc.releaseStale decl).2 := by
  constructor
  · -- whatever the order, the list is a permutation of the one that is computed
    rw [releaseStale]
    intro hto
    cases hto with
    | nothing hn =>
      rw [hn]
      exact ⟨.refl _, rfl⟩
    | kept hn hfits hperm =>
      simp only [hn, hfits, if_true]
      exact ⟨hperm, trivial⟩
    | released hn hfits hrelease =>
      simp only [hn, hfits, Bool.false_eq_true, if_false]
      exact ⟨.refl _, (releasesTo_iff h).1 hrelease⟩
  · intro hand
    obtain ⟨hperm, heq⟩ := hand
    exact heq ▸ releasesStaleTo_of_perm hperm

/-- Defining a declaration, where nested classes are gone through in some order. -/
inductive DefinesTo (doc : Document) (decl : Declaration) : Document → Prop where
  | along {old walk : List ClassName} {kept : Document} : doc.ReleasesStaleTo decl old kept →
      walk.Perm (kept.made decl).type.nested.values →
      DefinesTo doc decl (kept.defineAlong decl old walk)

/-- The order of neither the old nested classes nor the new ones matters. -/
private theorem defineAlong_perm (h : doc.catalog.Coherent) {old old' walk : List ClassName}
    (hold : old.Perm old') (hwalk : walk.Perm (doc.made decl).type.nested.values) :
    doc.defineAlong decl old walk =
      doc.defineAlong decl old' (doc.made decl).type.nested.values := by
  -- the old classes only tell which classes are stale
  have houtside : doc.outside decl old = doc.outside decl old' :=
    (coherent_withElements h decl).placeOutside_perm decl.project? (doc.made decl).type hold
  have hreadied : doc.readied decl old = doc.readied decl old' := by
    rw [readied, readied, houtside]
  -- the new ones are registered under different keys
  have hwalks := (doc.storesNested_readied decl old').registerClassesInside_perm
    (coherent_readied h decl old') decl.body? hwalk
  rw [defineAlong, defineAlong, hreadied, hwalks]

theorem definesTo_iff (h : doc.catalog.Coherent) :
    doc.DefinesTo decl doc' ↔ doc' = doc.define decl := by
  rw [define_eq_defineAlong]
  constructor
  · intro hto
    obtain ⟨hstale, hwalk⟩ := hto
    obtain ⟨hold, rfl⟩ := (releasesStaleTo_iff h).1 hstale
    exact defineAlong_perm (coherent_releaseStale h decl) hold hwalk
  · intro heq
    -- the computed orders are orders
    rw [heq]
    exact .along ((releasesStaleTo_iff h).2 ⟨.refl _, rfl⟩) (.refl _)

/-! ## What the body gains -/

/-- The catalogue in which defining registers the nested types in the body. -/
def beforeBody (doc : Document) (decl : Declaration) : Catalog :=
  (doc.releaseStale decl).2.readied decl (doc.releaseStale decl).1

private theorem coherent_beforeBody (h : doc.catalog.Coherent) (decl : Declaration) :
    (doc.beforeBody decl).Coherent :=
  coherent_readied (coherent_releaseStale h decl) decl _

theorem storesNested_beforeBody (doc : Document) (decl : Declaration) :
    (doc.beforeBody decl).StoresNested (doc.defined decl).type := by
  rw [← made_releaseStale]
  exact storesNested_readied _ decl _

/-- Defining ends by registering in the body what is looked up for the nested classes, in whatever
    order these are gone through. -/
theorem catalog_define_eq (h : doc.catalog.Coherent) {b : NodeId} (hb : decl.body? = some b)
    {walk : List ClassName} (hwalk : walk.Perm (doc.defined decl).type.nested.values) :
    (doc.define decl).catalog = (doc.beforeBody decl).registerAll (.container b)
      (walk.filterMap (doc.beforeBody decl).get?) := by
  have hcatalog := coherent_beforeBody h decl
  -- the loop over the classes registers the types that are looked up for them
  rw [← hcatalog.registerClassesInside_eq,
    (doc.storesNested_beforeBody decl).registerClassesInside_perm hcatalog (some b) hwalk, ← hb,
    define_eq_defineAlong, made_releaseStale]
  rfl

/-! ## Updating -/

/-- Updating a node, which defines what it declares. -/
inductive UpdatesTo (doc : Document) (t : Tree) (n : NodeId) : Document → Prop where
  /-- The node declares nothing and holds nothing. -/
  | nothing : t.declaration? doc.dialect n = none → n ∉ doc.held → UpdatesTo doc t n doc
  /-- The node declares nothing any more. -/
  | released {doc' : Document} : t.declaration? doc.dialect n = none → n ∈ doc.held →
      doc.ReleasesTo n doc' → UpdatesTo doc t n doc'
  /-- The node declares something. -/
  | defined {decl : Declaration} {doc' : Document} : t.declaration? doc.dialect n = some decl →
      doc.DefinesTo decl doc' → UpdatesTo doc t n doc'

theorem updatesTo_iff (h : doc.catalog.Coherent) {t : Tree} :
    doc.UpdatesTo t n doc' ↔ doc' = (doc.update t n).2 := by
  constructor
  · intro hto
    -- each way to update comes to what is computed
    cases hto with
    | nothing hnone hn => rw [snd_update_of_none hnone, if_neg hn]
    | released hnone hn hrelease =>
      rw [snd_update_of_none hnone, if_pos hn]
      exact (releasesTo_iff h).1 hrelease
    | defined hsome hdefine =>
      rw [snd_update_of_some hsome]
      exact (definesTo_iff h).1 hdefine
  · intro heq
    subst heq
    -- what the node declares and holds decides which way is taken
    cases hdecl : t.declaration? doc.dialect n with
    | none =>
      rw [snd_update_of_none hdecl]
      split
      · next hn => exact .released hdecl hn (doc.releasesTo_release n)
      · next hn => exact .nothing hdecl hn
    | some decl =>
      rw [snd_update_of_some hdecl]
      exact .defined hdecl ((definesTo_iff h).2 rfl)

end MacroTypes.Document
