import MacroTypes.Proofs.Document.Stages

/-!
# What defining leaves, whatever was there

Defining a declaration leaves a catalogue that is settled for it: its elements are declared and its
body is furnished (`settled_define`). No assumption is made on other declarations, which may have
the same classes, so in the project the type is sure to be registered only as long as its class is
stored at all.

Defining a declaration for which the catalogue is settled changes nothing exactly if its definition
is up to date there (`update_update_iff`). If the type under its class is that of another
declaration, it need not be: nested classes of that type are then taken for stale ones.
-/

namespace MacroTypes

/-- A catalogue in which everything is registered that a definition of some elements registers, the
    project excepted. -/
structure Catalog.Settled (cat : Catalog) (template? : Option ElementType)
    (elements : List (NodeId × String)) (d : Definition) : Prop where
  coherent : cat.Coherent
  storesNested : cat.StoresNested d.type
  elements : cat.registerElements template? d.type.className elements = (d.type.nested, cat)
  own : d.hasPlace = true → ∀ u, cat.get? d.type.className = some u → u = d.type
  body : ∀ b, d.body? = some b → cat.Furnished b d.type

/-- What a catalogue has of a definition is what the definition says: its type is registered in the
    project, and the type that stands for it has no other nested class that is stored. -/
structure Catalog.UpToDate (cat : Catalog) (d : Definition) : Prop where
  mem_scopes : ∀ p ∈ d.project?, .container p ∈ cat.scopes d.type.className
  mem_nested : ∀ c ∈ ((cat.get? d.type.className).getD d.type).nested.values,
    cat.contains c = true → c ∈ d.type.nested.values

instance (cat : Catalog) (d : Definition) : Decidable (cat.UpToDate d) :=
  decidable_of_iff
    ((∀ p ∈ d.project?, .container p ∈ cat.scopes d.type.className) ∧
      ∀ c ∈ ((cat.get? d.type.className).getD d.type).nested.values,
        cat.contains c = true → c ∈ d.type.nested.values)
    ⟨fun h => ⟨h.1, h.2⟩, fun h => ⟨h.mem_scopes, h.mem_nested⟩⟩

namespace Catalog

variable {cat : Catalog} {template? : Option ElementType} {elements : List (NodeId × String)}
  {d : Definition}

/-- Registering the elements of a definition and placing its type settles the catalogue. -/
private theorem Coherent.settled_place (h : cat.Coherent)
    (ht : (cat.registerElements template? d.type.className elements).1 = d.type.nested)
    (old : List ClassName) :
    (((cat.registerElements template? d.type.className elements).2.placeOutside d.project? d.type
      old).placeInside d.body? d.type).Settled template? elements d := by
  -- the elements come first, and what they declare stays while the type is placed
  have hcat := h.registerElements template? d.type.className elements
  have hstores := cat.storesNested_registerElements template? ht
  have hdeclares := cat.declares_registerElements template? d.type.className elements
  have hagain := cat.fst_registerElements_registerElements template? d.type.className elements
  have ht' := hagain.trans ht
  generalize (cat.registerElements template? d.type.className elements).2 = cat' at *
  have houtside := hcat.placeOutside d.project? d.type old
  have hinside := houtside.placeInside d.body? d.type
  exact
    { coherent := hinside
      storesNested := (hstores.placeOutside d.project? old).placeInside houtside d.body?
      elements := by
        refine Prod.ext ?_ ((hdeclares.place hcat ht' _ _ old).registerElements_eq hinside)
        -- the same elements have a seed
        rw [← ht']
        refine fst_registerElements_congr fun e he => ?_
        rw [seed?, hcat.get?_place_nested ht' _ _ old he]
        rfl
      -- the own class is stored last in the body, or else in the project
      own := fun hplace u hu => by
        rw [houtside.get?_placeInside, get?_placeOutside] at hu
        simp only [and_true] at hu
        split at hu
        · exact (Option.some.inj hu).symm
        · next hbody =>
          -- without a body the project is the place
          have hproject : d.project?.isSome = true :=
            (Bool.or_eq_true_iff.1 hplace).resolve_right hbody
          rw [if_pos hproject] at hu
          split at hu
          · simp at hu
          · exact (Option.some.inj hu).symm
      body := fun b hb => by
        rw [hb]
        exact houtside.furnished_placeInside (hstores.placeOutside d.project? old) b }

/-- The type that stands for a definition with a place is that of the definition. -/
private theorem Settled.getD_eq (h : cat.Settled template? elements d)
    (hplace : d.hasPlace = true) :
    (cat.get? d.type.className).getD d.type = d.type := by
  cases hget : cat.get? d.type.className with
  | none => rfl
  | some u => exact h.own hplace u hget

private theorem Settled.declares (h : cat.Settled template? elements d) :
    cat.Declares template? d.type.className elements := by
  have hdeclares := cat.declares_registerElements template? d.type.className elements
  rwa [h.elements] at hdeclares

/-- The nested elements are those with a seed. -/
theorem Settled.exists_of_nested (h : cat.Settled template? elements d) {k : QName} {c : ClassName}
    (hk : d.type.nested[k]? = some c) :
    ∃ e ∈ elements, k = ⟨e.2, none⟩ ∧ c = d.type.className.nested e.2 ∧
      (cat.seed? template? (d.type.className.nested e.2)).isSome = true := by
  have hnested : (cat.registerElements template? d.type.className elements).1 = d.type.nested :=
    congrArg Prod.fst h.elements
  rwa [← hnested, getElem?_fst_registerElements] at hk

/-- The types of the elements are stored as the elements declare them. -/
theorem Settled.get?_nested (h : cat.Settled template? elements d) {k : QName} {c : ClassName}
    (hk : d.type.nested[k]? = some c) :
    ∃ (e : NodeId × String) (t : ElementType), k = ⟨e.2, none⟩ ∧
      c = d.type.className.nested e.2 ∧ cat.get? c = some (t.declaredAs d.type.className e) := by
  obtain ⟨e, he, rfl, rfl, hseed⟩ := h.exists_of_nested hk
  obtain ⟨t, ht⟩ := Option.isSome_iff_exists.1 hseed
  -- the last element of the name is declared
  obtain ⟨e', hlast⟩ := exists_last_of_mem he
  have hname : e'.2 = e.2 := by simpa using List.find?_some hlast
  -- its type is what is stored under the class
  exact ⟨e', t, by rw [hname], by rw [hname], h.declares.get?_last e.2 e' t hlast ht⟩

/-- They are registered in the document. -/
theorem Settled.document_mem_scopes (h : cat.Settled template? elements d) {k : QName}
    {c : ClassName} (hk : d.type.nested[k]? = some c) : .document ∈ cat.scopes c := by
  obtain ⟨e, he, rfl, rfl, hseed⟩ := h.exists_of_nested hk
  exact h.declares.document_mem e he hseed

/-- Without other old classes than the nested ones nothing is stale. -/
private theorem placeOutside_nested (cat : Catalog) (project? : Option NodeId) (t : ElementType) :
    cat.placeOutside project? t t.nested.values = cat.registerInside project? t := by
  have hstale : t.nested.values.filter (· ∉ t.nested.values) = [] := by
    rw [List.filter_eq_nil_iff]
    intro c hc
    simpa using hc
  rw [placeOutside, hstale]
  rfl

/-- If placing the type changes nothing, the type is registered in the project. -/
private theorem Settled.mem_scopes_of_place_eq (h : cat.Settled template? elements d) {p : NodeId}
    (hp : d.project? = some p) (hne : d.body? ≠ some p)
    (heq : (cat.placeOutside d.project? d.type
      ((cat.get? d.type.className).getD d.type).nested.values).placeInside d.body? d.type = cat) :
    .container p ∈ cat.scopes d.type.className := by
  -- with a project nothing is stale
  have hplace : d.hasPlace = true := by rw [Definition.hasPlace, hp]; rfl
  rw [h.getD_eq hplace, placeOutside_nested, hp, registerInside_some] at heq
  have hreg : .container p ∈ (cat.register (.container p) d.type).scopes d.type.className := by
    rw [mem_scopes_register, if_pos rfl]
    exact .inl rfl
  -- and the body, which is another container, leaves the type in the project
  cases hb : d.body? with
  | none =>
    rw [hb, placeInside_none] at heq
    rwa [heq] at hreg
  | some b =>
    have hpb : Scope.container p ≠ .container b := by
      intro heq'
      exact hne (hb.trans (congrArg some (Scope.container.inj heq').symm))
    -- where registering has put it
    have hin := (h.coherent.register (.container p) d.type).mem_scopes_placeInside_own
      (h.storesNested.register _) (b := b) (s := .container p)
    rw [hb] at heq
    rw [heq] at hin
    exact hin.2 ⟨.inr hreg, fun hand => hpb hand.1⟩

/-- If placing the type changes nothing, no stored class is stale. -/
private theorem Settled.mem_nested_of_place_eq (h : cat.Settled template? elements d)
    (heq : (cat.placeOutside d.project? d.type
      ((cat.get? d.type.className).getD d.type).nested.values).placeInside d.body? d.type = cat)
    {c : ClassName} (hc : c ∈ ((cat.get? d.type.className).getD d.type).nested.values)
    (hstored : cat.contains c = true) : c ∈ d.type.nested.values := by
  refine Decidable.byContradiction fun hmem => ?_
  cases hplace : d.hasPlace with
  | true =>
    -- with a place the type that stands for the definition is its own
    rw [h.getD_eq hplace] at hc
    exact hmem hc
  | false =>
    -- without one nothing is placed, and all that is done is to remove what is stale
    have hnone := Bool.or_eq_false_iff.1 hplace
    rw [Option.isSome_eq_false_iff, Option.isSome_eq_false_iff, Option.isNone_iff_eq_none,
      Option.isNone_iff_eq_none] at hnone
    have hget := get?_placeOutside cat d.project? d.type
      ((cat.get? d.type.className).getD d.type).nested.values c
    rw [hnone.2, placeInside_none] at heq
    rw [heq, if_pos ⟨hc, hmem⟩] at hget
    rw [contains_eq_isSome, hget] at hstored
    exact nomatch hstored

/-- Placing the type of a definition that is up to date changes nothing outside of the body. -/
private theorem Settled.placeOutside_eq (h : cat.Settled template? elements d)
    (hdate : cat.UpToDate d) :
    cat.placeOutside d.project? d.type
      ((cat.get? d.type.className).getD d.type).nested.values = cat := by
  have hregister : cat.registerInside d.project? d.type = cat := by
    cases hp : d.project? with
    | none => rfl
    | some p =>
      -- the type is stored and registered in the project
      have hs := hdate.mem_scopes p hp
      obtain ⟨u, hu⟩ := exists_get?_of_mem_scopes hs
      have hplace : d.hasPlace = true := by rw [Definition.hasPlace, hp]; rfl
      exact h.coherent.register_eq_self (hu.trans (congrArg some (h.own hplace u hu))) hs
  -- what is stale is not stored
  rw [placeOutside, hregister]
  apply unregisterAll_eq_self
  intro c hc
  obtain ⟨hc, hmem⟩ := List.mem_filter.1 hc
  rw [← Option.not_isSome_iff_eq_none, ← contains_eq_isSome]
  exact fun hstored => of_decide_eq_true hmem (hdate.mem_nested c hc hstored)

/-- Placing the type of a definition in a settled catalogue changes nothing exactly if the
    definition is up to date there. -/
private theorem Settled.place_eq_iff (h : cat.Settled template? elements d)
    (hne : ∀ p, d.project? = some p → d.body? ≠ some p) :
    (cat.placeOutside d.project? d.type
        ((cat.get? d.type.className).getD d.type).nested.values).placeInside d.body? d.type = cat ↔
      cat.UpToDate d := by
  constructor
  · intro heq
    exact
      { mem_scopes := fun p hp => h.mem_scopes_of_place_eq hp (hne p hp) heq
        mem_nested := fun c => h.mem_nested_of_place_eq heq }
  · intro hdate
    rw [h.placeOutside_eq hdate]
    -- the body is furnished already
    cases hb : d.body? with
    | none => exact placeInside_none cat d.type
    | some b => exact (h.body b hb).placeInside_eq h.coherent h.storesNested

end Catalog

namespace Document

variable {doc : Document} {decl : Declaration}

/-- After all stages the catalogue is settled for the declaration. -/
private theorem settled_inside (h : doc.catalog.Coherent) (decl : Declaration)
    (old : List ClassName) :
    (doc.inside decl old).Settled doc.template? decl.elements (doc.made decl) :=
  h.settled_place (d := doc.made decl) rfl old

/-- So it is once a declaration was defined. -/
theorem settled_define (h : doc.catalog.Coherent) (decl : Declaration) :
    (doc.define decl).catalog.Settled doc.template? decl.elements (doc.defined decl) := by
  have hsettled := settled_inside (coherent_releaseStale h decl) decl (doc.releaseStale decl).1
  rwa [← catalog_define, made_releaseStale, (doc.settings_releaseStale decl).2] at hsettled

/-- A declaration that was just defined keeps its definition when it is defined again. -/
private theorem releaseStale_define (doc : Document) (decl : Declaration) :
    (doc.define decl).releaseStale decl =
      (((doc.define decl).current (doc.defined decl)).nested.values, doc.define decl) := by
  have hfits : (doc.define decl).fits decl (doc.defined decl) = true := by
    rw [fits_iff, (doc.settings_define decl).1]
    exact ⟨rfl, rfl, rfl⟩
  rw [releaseStale, held_define]
  exact if_pos hfits

/-- It makes the same definition as before and places it where it is. -/
private theorem define_define_eq (h : doc.catalog.Coherent) (decl : Declaration) :
    (doc.define decl).define decl = { doc.define decl with
      catalog := ((doc.define decl).catalog.placeOutside decl.project? (doc.defined decl).type
        ((doc.define decl).current (doc.defined decl)).nested.values).placeInside decl.body?
          (doc.defined decl).type } := by
  obtain ⟨hdialect, htemplate⟩ := doc.settings_define decl
  have helements : (doc.define decl).catalog.registerElements (doc.define decl).template?
      (decl.className (doc.define decl).dialect) decl.elements =
        ((doc.defined decl).type.nested, (doc.define decl).catalog) := by
    rw [hdialect, htemplate]
    exact (settled_define h decl).elements
  -- so the elements change nothing, and the definition is the same
  have hcatalog : (doc.define decl).withElements decl = (doc.define decl).catalog :=
    congrArg Prod.snd helements
  have hmade : (doc.define decl).made decl = doc.defined decl := by
    rw [made, helements, hdialect]
    rfl
  -- what is left to do is to place its type
  rw [define_eq_defineAlong (doc.define decl), releaseStale_define, defineAlong, readied, outside,
    hcatalog, hmade, Std.ExtTreeMap.insert_of_getElem?_eq_some (doc.held_define decl)]
  rfl

/-- Defining a declaration again changes nothing exactly if the definition is up to date. -/
theorem define_define_iff (h : doc.catalog.Coherent)
    (hne : ∀ p, decl.project? = some p → decl.body? ≠ some p) :
    (doc.define decl).define decl = doc.define decl ↔
      (doc.define decl).catalog.UpToDate (doc.defined decl) := by
  rw [define_define_eq h]
  -- only the catalogue could change
  refine Iff.trans ⟨congrArg catalog, fun heq => ?_⟩ ((settled_define h decl).place_eq_iff hne)
  exact congrArg (fun cat => { doc.define decl with catalog := cat }) heq

/-- Updating a node again changes nothing exactly if the definition that it holds is up to date. -/
theorem update_update_iff (h : doc.catalog.Coherent) (t : Tree) (n : NodeId) :
    ((doc.update t n).2.update t n).2 = (doc.update t n).2 ↔
      ∀ d ∈ (doc.update t n).2.held[n]?, (doc.update t n).2.catalog.UpToDate d := by
  have hdialect := (doc.settings_update t n).1
  cases hdecl : t.declaration? doc.dialect n with
  | none =>
    -- without a declaration nothing is held, and there is nothing to do
    have hheld := held_update_of_none hdecl
    rw [← hdialect] at hdecl
    rw [snd_update_of_held_eq_none hdecl hheld, hheld]
    simp
  | some decl =>
    have hagain := hdecl
    rw [← hdialect] at hagain
    obtain rfl := Declaration.node_eq_of_declaration? hdecl
    rw [snd_update_of_some hagain, snd_update_of_some hdecl, held_define,
      define_define_iff h fun p hp => Declaration.project_ne_body_of_declaration? hdecl hp]
    -- the definition held is the one just made
    simp

end Document

end MacroTypes
