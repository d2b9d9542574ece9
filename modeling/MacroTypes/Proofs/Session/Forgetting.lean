import MacroTypes.Proofs.Catalog.Removals
import MacroTypes.Proofs.Document.Generations
import MacroTypes.Proofs.Session.Releasing

/-!
# What a release leaves

Releasing a node and forgetting it drop what its definition stands for (`Definition.StandsFor`) and
nothing else. `Document.DropsTo` describes what is left, with the container that is emptied if the
node is forgotten. The classes are read from one type and taken out one after the other, whoever
else declares them and wherever they are registered; the description holds of every history, also
of one in which declarations share classes (`drops_run`).
-/

namespace MacroTypes

/-- A class that a definition stands for: its own class, and the nested classes of the type that is
    stored under it, or of the type that was defined if none is stored. -/
def Definition.StandsFor (d : Definition) (doc : Document) (c : ClassName) : Prop :=
  c = d.type.className ∨ c ∈ (doc.current d).nested.values

instance (d : Definition) (doc : Document) (c : ClassName) : Decidable (d.StandsFor doc c) :=
  inferInstanceAs (Decidable (_ ∨ _))

private theorem Catalog.contains_removeContainer (cat : Catalog) (n : NodeId) (c : ClassName) :
    (cat.removeContainer n).contains c = cat.contains c := by
  rw [contains_eq_isSome, get?_removeContainer, ← contains_eq_isSome]

namespace Document

variable {doc doc' : Document} {n : NodeId} {d : Definition}

/-- What is left of a document after the definition of a node was dropped, and a container emptied
    if one is given. -/
structure DropsTo (doc : Document) (n : NodeId) (d : Definition) (emptied? : Option NodeId)
    (doc' : Document) : Prop where
  /-- Stored are the classes that were stored and that the definition does not stand for. -/
  contains_iff : ∀ c, doc'.catalog.contains c = true ↔
    doc.catalog.contains c = true ∧ ¬ d.StandsFor doc c
  /-- The classes that it stands for are nowhere to be met. -/
  absent : ∀ c, d.StandsFor doc c → doc'.catalog.Absent c
  /-- Other classes keep their types. -/
  get?_other : ∀ c, ¬ d.StandsFor doc c → doc'.catalog.get? c = doc.catalog.get? c
  /-- They keep their scopes but for the emptied container. -/
  mem_scopes_other : ∀ c, ¬ d.StandsFor doc c → ∀ s, s ∈ doc'.catalog.scopes c ↔
    s ∈ doc.catalog.scopes c ∧ ∀ b, emptied? = some b → s ≠ .container b
  /-- The emptied container lists nothing. -/
  scopeTypes_emptied : ∀ b, emptied? = some b → doc'.catalog.scopeTypes (.container b) = []
  /-- Other scopes list what they listed before, without the classes that are gone. -/
  scopeTypes_other : ∀ s, (∀ b, emptied? = some b → s ≠ .container b) →
    doc'.catalog.scopeTypes s = (doc.catalog.scopeTypes s).filter fun b => ¬ d.StandsFor doc b.2
  /-- The node holds nothing. -/
  held_own : doc'.held[n]? = none
  /-- Other nodes hold what they held before. -/
  held_other : ∀ m, m ≠ n → doc'.held[m]? = doc.held[m]?
  dialect_eq : doc'.dialect = doc.dialect
  template?_eq : doc'.template? = doc.template?
  /-- One more release is counted. -/
  generation_eq : doc'.generation = doc.generation + 1

/-! ## Releasing -/

theorem Sound.mem_classesAt (h : doc.Sound) (hd : doc.held[n]? = some d) {c : ClassName} :
    c ∈ doc.classesAt n ↔ d.StandsFor doc c := by
  rw [classesAt, hd, Option.map_some, Option.getD_some, h.mem_classesOf, Definition.StandsFor,
    or_comm]

private theorem Sound.get?_release_of_held (h : doc.Sound) (hd : doc.held[n]? = some d)
    (c : ClassName) :
    (doc.release n).catalog.get? c =
      if d.StandsFor doc c then none else doc.catalog.get? c := by
  simp only [get?_release, h.mem_classesAt hd]

private theorem Sound.scopes_release_of_held (h : doc.Sound) (hd : doc.held[n]? = some d)
    (c : ClassName) :
    (doc.release n).catalog.scopes c = if d.StandsFor doc c then ∅ else doc.catalog.scopes c := by
  simp only [scopes_release, h.mem_classesAt hd]

private theorem Sound.contains_release_iff (h : doc.Sound) (hd : doc.held[n]? = some d)
    (c : ClassName) :
    (doc.release n).catalog.contains c = true ↔
      doc.catalog.contains c = true ∧ ¬ d.StandsFor doc c := by
  rw [Catalog.contains_eq_isSome, Catalog.contains_eq_isSome, h.get?_release_of_held hd]
  by_cases hc : d.StandsFor doc c
  · simp [hc]
  · simp [hc]

/-- A release drops the definition of the node and empties no container. -/
theorem Sound.dropsTo_release (h : doc.Sound) (hd : doc.held[n]? = some d) :
    doc.DropsTo n d none (doc.release n) where
  contains_iff := h.contains_release_iff hd
  absent c hc := (h.absent_release_iff hd).2 fun _ => h.mem_classesOf.2 (Or.symm hc)
  get?_other c hc := by rw [h.get?_release_of_held hd, if_neg hc]
  mem_scopes_other c hc s := by
    rw [h.scopes_release_of_held hd, if_neg hc, and_iff_left nofun]
  scopeTypes_emptied := nofun
  scopeTypes_other s _ := by
    -- both lists are sorted, so it is enough that they have the same entries
    refine Catalog.scopeTypes_eq_of_mem_iff
      ((Catalog.scopeTypes_sorted doc.catalog s).filter _) fun k c => ?_
    rw [(h.release n).coherent.mem_scopeTypes, List.mem_filter, h.coherent.mem_scopeTypes,
      h.get?_release_of_held hd, h.scopes_release_of_held hd, decide_eq_true_eq]
    by_cases hc : d.StandsFor doc c
    · simp [hc]
    · simp [hc]
  held_own := by rw [getElem?_held_release, if_pos rfl]
  held_other m hm := by rw [getElem?_held_release, if_neg hm]
  dialect_eq := rfl
  template?_eq := rfl
  generation_eq := rfl

/-- Where nothing is held, a release changes the generation only. -/
private theorem release_of_not_held (hn : doc.held[n]? = none) :
    doc.release n = { doc with generation := doc.generation + 1 } := by
  rw [release, hn, Std.ExtTreeMap.erase_of_getElem?_eq_none hn]
  rfl

/-! ## Forgetting -/

/-- A container may be emptied after the definition was dropped. -/
theorem DropsTo.removeContainer (h : doc.DropsTo n d none doc') (hc : doc'.catalog.Coherent)
    (body : NodeId) : doc.DropsTo n d (some body)
      { doc' with catalog := doc'.catalog.removeContainer body } where
  contains_iff c := by
    rw [Catalog.contains_removeContainer]
    exact h.contains_iff c
  absent c hstands := by
    rw [(hc.removeContainer body).absent_iff, Catalog.contains_removeContainer]
    exact (h.absent c hstands).contains
  get?_other c hother := by
    -- emptying a container leaves the stored types alone
    rw [Catalog.get?_removeContainer]
    exact h.get?_other c hother
  mem_scopes_other c hother s := by
    rw [hc.mem_scopes_removeContainer, h.mem_scopes_other c hother]
    simp
  scopeTypes_emptied b hb := by
    -- the container that is given is the one that is emptied
    rw [← Option.some.inj hb]
    exact (hc.removesContainerTo_removeContainer body).scopeTypes_own
  scopeTypes_other s hs := by
    rw [(hc.removesContainerTo_removeContainer body).scopeTypes_other s (hs body rfl)]
    exact h.scopeTypes_other s nofun
  held_own := h.held_own
  held_other := h.held_other
  dialect_eq := h.dialect_eq
  template?_eq := h.template?_eq
  generation_eq := h.generation_eq

/-- Forgetting a node drops its definition and empties the container of the body. -/
theorem Sound.dropsTo_forget (h : doc.Sound) (hd : doc.held[n]? = some d) :
    doc.DropsTo n d d.body? (doc.forget n) := by
  have hrelease := h.dropsTo_release hd
  rw [Document.forget, hd, Option.bind_some]
  cases d.body? with
  | none => exact hrelease
  | some body => exact hrelease.removeContainer (h.release n).coherent body

private theorem forget_of_not_held (hn : doc.held[n]? = none) : doc.forget n = doc.release n := by
  rw [forget, hn]
  rfl

end Document

namespace Session

/-- After every history of a new document, releasing a node drops what its definition stands for and
    nothing else. Forgetting the node does the same and empties the container of the body that the
    definition has. If the node holds nothing, both change the generation only. -/
theorem drops_run {dialect : Dialect} {doc : Document} (hnew : Document.new dialect = .ok doc)
    (template? : Option ElementType) (events : List Event) {s : Session}
    (hs : (opened doc template?).run events = s) (n : NodeId) :
    (∀ d, s.document.held[n]? = some d →
      s.document.DropsTo n d none (s.document.release n) ∧
      s.document.DropsTo n d d.body? (s.document.forget n)) ∧
    (s.document.held[n]? = none →
      s.document.release n = { s.document with generation := s.document.generation + 1 } ∧
      s.document.forget n = { s.document with generation := s.document.generation + 1 }) := by
  have h : s.document.Sound := hs ▸ sound_run hnew template? events
  refine ⟨fun d hd => ⟨h.dropsTo_release hd, h.dropsTo_forget hd⟩, fun hn => ?_⟩
  have hrelease := Document.release_of_not_held hn
  exact ⟨hrelease, (Document.forget_of_not_held hn).trans hrelease⟩

/-- Two declarations of one name. The first one has an element and a body, the second one is defined
    last. -/
def bodiedRivals : List Event :=
  [ .edit (.addRoot { kind := .project, tag := "project" }),
    .edit (.addChild ⟨1⟩ { tag := "macrodef", name? := some "Foo" }),
    .edit (.addChild ⟨2⟩ { tag := "element", name? := some "x" }),
    .edit (.addChild ⟨2⟩ { kind := .tasksContainer, tag := "sequential" }),
    .edit (.addChild ⟨1⟩ { tag := "macrodef", name? := some "Foo" }),
    .update ⟨2⟩,
    .update ⟨5⟩ ]

/-- The session in which the rivals are defined. -/
def bodiedSession : Session :=
  (opened sampleDocument sampleDocument.template?).run bodiedRivals

/-- The element of the first rival stays stored when that is forgotten, and is lost in the body. -/
theorem drops_run_bodiedRivals : ∃ d,
    bodiedSession.document.held[(⟨2⟩ : NodeId)]? = some d ∧ d.body? = some ⟨4⟩ ∧
      (bodiedSession.document.catalog.scopes ⟨"AntMacroDef[Foo]$x"⟩).toList =
        [.document, .container ⟨4⟩] ∧
      ((bodiedSession.document.forget ⟨2⟩).catalog.scopes ⟨"AntMacroDef[Foo]$x"⟩).toList =
        [.document] ∧
      bodiedSession.document.DropsTo ⟨2⟩ d none (bodiedSession.document.release ⟨2⟩) ∧
      bodiedSession.document.DropsTo ⟨2⟩ d d.body? (bodiedSession.document.forget ⟨2⟩) := by
  have hbody : (bodiedSession.document.held[(⟨2⟩ : NodeId)]?.bind Definition.body?) = some ⟨4⟩ := by
    decide +kernel
  obtain ⟨d, hd, hbody⟩ := Option.bind_eq_some_iff.1 hbody
  have hdrops := (drops_run new_sampleDocument _ bodiedRivals rfl ⟨2⟩).1 d hd
  exact ⟨d, hd, hbody, by decide +kernel, by decide +kernel, hdrops⟩

end Session

end MacroTypes
