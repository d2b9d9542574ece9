import MacroTypes.Proofs.Session.Reflection

/-!
# What a separate history leaves

After a history in which declarations keep their classes apart, the catalogue of a document can be
read off the definitions that it holds (`Document.Exact`, `exact_run`), and it makes no difference
whether a declaration is updated or refreshed next (`update_agrees_with_refresh`).
-/

namespace MacroTypes

/-- A document that stores and registers exactly what the definitions that it holds say. -/
structure Document.Exact (doc : Document) : Prop where
  /-- The bindings follow from the types and their scopes. -/
  coherent : doc.catalog.Coherent
  /-- The stored classes are the nested ones, and the own ones of definitions that have a place. -/
  contains_iff : ∀ c, doc.catalog.contains c = true ↔
    ∃ (n : NodeId) (d : Definition), doc.held[n]? = some d ∧ (c ∈ d.type.nested.values ∨
      (c = d.type.className ∧ (d.project?.isSome = true ∨ d.body?.isSome = true)))
  /-- A definition with a place has its type stored. -/
  get?_own : ∀ (n : NodeId) (d : Definition), doc.held[n]? = some d →
    d.project?.isSome = true ∨ d.body?.isSome = true →
      doc.catalog.get? d.type.className = some d.type
  /-- Nested types are made from the template. -/
  get?_nested : ∀ (n : NodeId) (d : Definition) (k : QName) (c : ClassName),
    doc.held[n]? = some d → d.type.nested[k]? = some c → ∃ t node, doc.template? = some t ∧
      doc.catalog.get? c = some { t with
        key := k
        className := c
        isTask := false
        definingNode? := some node }
  /-- Nested types are registered in the document and in the body. -/
  mem_scopes_nested : ∀ (n : NodeId) (d : Definition) (c : ClassName) (s : Scope),
    doc.held[n]? = some d → c ∈ d.type.nested.values → (s ∈ doc.catalog.scopes c ↔
      s = .document ∨ ∃ b, d.body? = some b ∧ s = .container b)
  /-- The type is registered in the project, and in the body unless a nested type has its key. -/
  mem_scopes_own : ∀ (n : NodeId) (d : Definition) (s : Scope), doc.held[n]? = some d →
    (s ∈ doc.catalog.scopes d.type.className ↔
      (∃ p, d.project? = some p ∧ s = .container p) ∨
      (d.type.key ∉ d.type.nested ∧ ∃ b, d.body? = some b ∧ s = .container b))

namespace Document

variable {doc : Document} {decls : Std.ExtTreeMap NodeId Declaration}

/-- A document that reflects declarations stores and registers exactly what it holds. -/
theorem Reflects.exact (h : doc.Reflects decls) : doc.Exact where
  coherent := h.coherent
  contains_iff c := by
    rw [Catalog.contains_eq_isSome, Option.isSome_iff_exists]
    -- a class is stored if some declaration provides it, and that depends on its definition
    constructor
    · intro hex
      obtain ⟨t, ht⟩ := hex
      obtain ⟨n, a, ha, hprovides⟩ := (h.get?_iff c t).1 ht
      exact ⟨n, _, h.held_of_getElem? ha, Declaration.exists_provides_iff.1 ⟨t, hprovides⟩⟩
    · intro hex
      obtain ⟨n, d, hd, hc⟩ := hex
      obtain ⟨a, ha, rfl⟩ := h.exists_of_held hd
      obtain ⟨t, ht⟩ := Declaration.exists_provides_iff.2 hc
      exact ⟨t, (h.get?_iff c t).2 ⟨n, a, ha, ht⟩⟩
  get?_own n d hd hplace := by
    obtain ⟨a, ha, rfl⟩ := h.exists_of_held hd
    -- a declaration with a place provides its type
    exact (h.get?_iff _ _).2 ⟨n, a, ha, .own hplace⟩
  get?_nested n d k c hd hk := by
    obtain ⟨a, ha, rfl⟩ := h.exists_of_held hd
    -- the name belongs to an element, and the last one of that name defines the type
    obtain ⟨_, e, _, hkey, hc⟩ := Declaration.getElem?_nestedClasses.1 hk
    subst hkey hc
    have hmem := Std.ExtTreeMap.mem_values.2 ⟨_, hk⟩
    obtain ⟨t, ht⟩ := Declaration.exists_provides_iff.2 (.inl hmem)
    obtain ⟨u, e', hu, he', heq⟩ := Declaration.provides_nested.1 ht
    refine ⟨u, e'.1, hu, (h.get?_iff _ _).2 ⟨n, a, ha, ?_⟩⟩
    -- it is the template but for the name, the class and the node
    rw [← (Declaration.mem_elements_of_find? he').2] at ht ⊢
    rw [heq] at ht
    exact ht
  mem_scopes_nested n d c s hd hc := by
    obtain ⟨a, ha, rfl⟩ := h.exists_of_held hd
    -- what is registered of a class is what its declaration places
    rw [h.mem_scopes_iff_places ha (List.mem_cons_of_mem _ hc)]
    exact Declaration.places_nested_iff hc
  mem_scopes_own n d s hd := by
    obtain ⟨a, ha, rfl⟩ := h.exists_of_held hd
    rw [h.mem_scopes_iff_places ha List.mem_cons_self]
    exact Declaration.places_own_iff

end Document

namespace Session

/-- After every separate history of a new document the catalogue contains exactly what the held
    definitions stand for: their nested classes, made from the template, in the document and in the
    bodies, and the types themselves where there is a project or a body for them. -/
theorem exact_run {d : Dialect} {doc : Document} (hnew : Document.new d = .ok doc)
    (template? : Option ElementType) {events : List Event}
    (hsteady : ∀ e ∈ events, e.isSteady = true) (hsep : (opened doc template?).Separated events) :
    ((opened doc template?).run events).document.Exact ∧
      ((opened doc template?).run events).document.template? = template? := by
  obtain ⟨_, h⟩ := reflects_run hnew template? hsteady hsep
  exact ⟨h.document.exact, template?_run _ hsteady⟩

/-- Two declarations, the first of which takes an element of its own name before both are
    refreshed. -/
def sampleOfTwo : List Event := sample ++
  [ .edit (.addChild ⟨1⟩ { tag := "macrodef", name? := some "Qux" }),
    .edit (.addChild ⟨6⟩ { tag := "element", name? := some "Baz" }),
    .update ⟨6⟩,
    .edit (.rename ⟨4⟩ (some "Foo")),
    .refreshAll [⟨2⟩, ⟨6⟩] ]

/-- The document of the samples. -/
def sampleDocument : Document where
  dialect := {}
  dialect_ok := by decide +kernel
  template? := ElementType.target.toOption

theorem new_sampleDocument : Document.new {} = .ok sampleDocument := by
  unfold Document.new
  split
  · next heq => exact nomatch heq.symm.trans sampleDocument.dialect_ok
  · rfl

theorem exact_sampleOfTwo : (∀ e ∈ sampleOfTwo, e.isSteady = true) ∧
    (opened sampleDocument sampleDocument.template?).Separated sampleOfTwo ∧
    ((opened sampleDocument sampleDocument.template?).run sampleOfTwo).document.Exact ∧
    ((opened sampleDocument sampleDocument.template?).run sampleOfTwo).document.template? =
      sampleDocument.template? := by
  have hsteady : ∀ e ∈ sampleOfTwo, e.isSteady = true := by decide
  have hsep : (opened sampleDocument sampleDocument.template?).Separated sampleOfTwo := by
    decide +kernel
  exact ⟨hsteady, hsep, exact_run new_sampleDocument _ hsteady hsep⟩

/-- After every separate history of a new document, updating a node and refreshing it report one
    class and leave one document but for the generation, provided that this update is separate,
    too. -/
theorem update_agrees_with_refresh {d : Dialect} {doc : Document} (hnew : Document.new d = .ok doc)
    (template? : Option ElementType) {events : List Event}
    (hsteady : ∀ e ∈ events, e.isSteady = true) (hsep : (opened doc template?).Separated events)
    {n : NodeId} {s : Session} (hs : (opened doc template?).run events = s)
    (hn : s.document.SeparateAt s.tree n) :
    (s.document.update s.tree n).1 = (s.document.refresh s.tree n).1 ∧
      (s.document.update s.tree n).2 = { (s.document.refresh s.tree n).2 with
        generation := (s.document.update s.tree n).2.generation } := by
  obtain ⟨_, h⟩ := reflects_run hnew template? hsteady hsep
  rw [hs] at h
  exact h.document.update_eq_refresh (h.beside hn)

/-- An element takes the name of its declaration after it was defined. -/
def renamedSample : List Event := sample ++ [.edit (.rename ⟨4⟩ (some "Foo"))]

theorem update_agrees_with_refresh_renamedSample :
    ∃ s, (opened sampleDocument sampleDocument.template?).run renamedSample = s ∧
      s.document.SeparateAt s.tree ⟨2⟩ ∧
      (s.document.update s.tree ⟨2⟩).1 = (s.document.refresh s.tree ⟨2⟩).1 ∧
      (s.document.update s.tree ⟨2⟩).2 = { (s.document.refresh s.tree ⟨2⟩).2 with
        generation := (s.document.update s.tree ⟨2⟩).2.generation } := by
  refine ⟨_, rfl, ?_⟩
  have hn : Document.SeparateAt
      ((opened sampleDocument sampleDocument.template?).run renamedSample).document
      ((opened sampleDocument sampleDocument.template?).run renamedSample).tree ⟨2⟩ := by
    decide +kernel
  have hsep : (opened sampleDocument sampleDocument.template?).Separated renamedSample := by
    decide +kernel
  exact ⟨hn, update_agrees_with_refresh new_sampleDocument _ (by decide) hsep rfl hn⟩

end Session

end MacroTypes
