import MacroTypes.Proofs.Catalog.Agreement
import MacroTypes.Proofs.Session.Contents
import MacroTypes.Proofs.Session.Soundness

/-!
# What a release takes away

A release takes out the class of a definition and the nested classes of the type that is stored
under it. Which classes of the definition are gone afterwards is said in full by
`absent_after_release`, for every history: if another declaration of the name was defined since,
nested classes that it does not have stay behind (`remains_after_release`). After a separate history
nothing stays behind (`Document.Reflects.absent_release`).
-/

namespace MacroTypes

namespace Document

variable {doc : Document}

/-! ## The classes of a released definition -/

/-- The stored type of a definition has the class of the definition. -/
theorem Sound.mem_classesOf (h : doc.Sound) {d : Definition} {c : ClassName} :
    c ∈ doc.classesOf d ↔ c ∈ (doc.current d).nested.values ∨ c = d.type.className := by
  have hclass : (doc.current d).className = d.type.className := by
    unfold Document.current
    cases ht : doc.catalog.get? d.type.className with
    | none => rfl
    | some t => exact h.coherent.className_eq _ t ht
  rw [classesOf, List.mem_append, List.mem_singleton, hclass]

/-- Classes that are not stored are absent, and so are those that a release takes out. -/
theorem Sound.absent_release_iff (h : doc.Sound) {n : NodeId} {d : Definition}
    (hd : doc.held[n]? = some d) {c : ClassName} :
    (doc.release n).catalog.Absent c ↔ (doc.catalog.contains c = true → c ∈ doc.classesOf d) := by
  have hclasses : doc.classesAt n = doc.classesOf d := by
    rw [classesAt, hd]
    rfl
  -- on a coherent catalogue a class is absent as soon as it is not stored
  rw [(h.release n).coherent.absent_iff, Catalog.contains_eq_isSome, Catalog.contains_eq_isSome,
    get?_release, hclasses]
  by_cases hc : c ∈ doc.classesOf d
  · simp [hc]
  · simp [hc]

private theorem not_mem_declarations_release (doc : Document) (n : NodeId) :
    n ∉ (doc.release n).declarations := by
  intro hn
  have hmem : n ∈ doc.held.erase n := Std.ExtTreeMap.mem_keys.1 hn
  simp at hmem

/-- A document that reflects declarations loses every class of what it releases. -/
theorem Reflects.absent_release {decls : Std.ExtTreeMap NodeId Declaration}
    (h : doc.Reflects decls) {n : NodeId} {d : Definition} (hd : doc.held[n]? = some d)
    {c : ClassName} (hc : c ∈ d.classes) : (doc.release n).catalog.Absent c := by
  obtain ⟨a, ha, rfl⟩ := h.exists_of_held hd
  have hr := h.release n
  rw [hr.coherent.absent_iff, Catalog.contains_eq_isSome]
  cases hget : (doc.release n).catalog.get? c with
  | none => rfl
  | some t =>
    -- a type that is still stored is provided by some declaration
    obtain ⟨m, b, hm, hb⟩ := (hr.get?_iff c t).1 hget
    rw [Std.ExtTreeMap.getElem?_erase_ite] at hm
    split at hm
    · exact nomatch hm
    · -- another declaration does not have the class
      next hmn => exact absurd (h.eq_of_mem_classes hm ha hb.mem_classes hc).1 hmn

end Document

namespace Session

/-- After a separate history a release leaves nothing of the definition. -/
theorem absent_after_release_of_separated {dialect : Dialect} {doc : Document}
    (hnew : Document.new dialect = .ok doc) (template? : Option ElementType) {events : List Event}
    (hsteady : ∀ e ∈ events, e.isSteady = true) (hsep : (opened doc template?).Separated events)
    {s : Session} (hs : (opened doc template?).run events = s) {n : NodeId} {d : Definition}
    (hheld : s.document.held[n]? = some d) :
    ∀ c ∈ d.classes, (s.document.release n).catalog.Absent c := by
  obtain ⟨_, h⟩ := reflects_run hnew template? hsteady hsep
  rw [hs] at h
  exact fun c hc => h.document.absent_release hheld hc

/-- After every history of a new document, releasing a node that holds a definition takes the node
    from the declarations, and the class of the definition is nowhere to be met any more. A nested
    class of the definition is gone exactly if it was not stored before or if the type that was
    stored under the definition's class has it, too. -/
theorem absent_after_release {dialect : Dialect} {doc : Document}
    (hnew : Document.new dialect = .ok doc) (template? : Option ElementType)
    (events : List Event) {s : Session} (hs : (opened doc template?).run events = s)
    {n : NodeId} {d : Definition} (hheld : s.document.held[n]? = some d) :
    n ∉ (s.document.release n).declarations ∧
      (s.document.release n).catalog.Absent d.type.className ∧
      ∀ c ∈ d.type.nested.values, (s.document.release n).catalog.Absent c ↔
        (s.document.catalog.contains c = true → c ∈ (s.document.current d).nested.values) := by
  have h : s.document.Sound := hs ▸ sound_run hnew template? events
  refine ⟨Document.not_mem_declarations_release _ n, ?_, ?_⟩
  · -- the own class is always among those that are taken out
    exact (h.absent_release_iff hheld).2 fun _ => h.mem_classesOf.2 (.inr rfl)
  · intro c hc
    -- the own class is released, too, but it is not nested
    have hne : c ≠ d.type.className := fun heq => h.own_not_nested n d hheld (heq ▸ hc)
    rw [h.absent_release_iff hheld, h.mem_classesOf, or_iff_left hne]

/-! ## Rivals -/

/-- Two declarations of one name. The first one has an element, the second one is defined last. -/
def rivals : List Event :=
  [ .edit (.addRoot { kind := .project, tag := "project" }),
    .edit (.addChild ⟨1⟩ { tag := "macrodef", name? := some "Foo" }),
    .edit (.addChild ⟨2⟩ { tag := "element", name? := some "x" }),
    .edit (.addChild ⟨1⟩ { tag := "macrodef", name? := some "Foo" }),
    .update ⟨2⟩,
    .update ⟨4⟩ ]

/-- The session in which the rivals are defined. -/
def rivalSession : Session :=
  (opened sampleDocument sampleDocument.template?).run rivals

private theorem exists_held_rivals : ∃ d, rivalSession.document.held[(⟨2⟩ : NodeId)]? = some d ∧
    ⟨"AntMacroDef[Foo]$x"⟩ ∈ d.type.nested.values := by
  have hany : (rivalSession.document.held[(⟨2⟩ : NodeId)]?.any fun d =>
      decide (⟨"AntMacroDef[Foo]$x"⟩ ∈ d.type.nested.values)) = true := by decide +kernel
  obtain ⟨d, hd, hmem⟩ := (Option.any_eq_true _ _).1 hany
  exact ⟨d, hd, of_decide_eq_true hmem⟩

/-- The element of the first rival stays stored after the first rival was released. -/
theorem remains_after_release : ∃ d, rivalSession.document.held[(⟨2⟩ : NodeId)]? = some d ∧
    ∃ c ∈ d.type.nested.values, (rivalSession.document.release ⟨2⟩).catalog.contains c = true ∧
      ¬ (rivalSession.document.release ⟨2⟩).catalog.Absent c := by
  obtain ⟨d, hd, hmem⟩ := exists_held_rivals
  have hcontains : (rivalSession.document.release ⟨2⟩).catalog.contains ⟨"AntMacroDef[Foo]$x"⟩ =
      true := by
    decide +kernel
  refine ⟨d, hd, _, hmem, hcontains, ?_⟩
  -- an absent class is not stored
  intro habsent
  exact nomatch hcontains.symm.trans habsent.contains

theorem absent_after_release_rivals : ∃ d,
    rivalSession.document.held[(⟨2⟩ : NodeId)]? = some d ∧
      ⟨2⟩ ∉ (rivalSession.document.release ⟨2⟩).declarations ∧
      (rivalSession.document.release ⟨2⟩).catalog.Absent d.type.className ∧
      ∀ c ∈ d.type.nested.values, (rivalSession.document.release ⟨2⟩).catalog.Absent c ↔
        (rivalSession.document.catalog.contains c = true →
          c ∈ (rivalSession.document.current d).nested.values) := by
  obtain ⟨d, hd, _⟩ := exists_held_rivals
  exact ⟨d, hd, absent_after_release new_sampleDocument _ rivals rfl hd⟩

end Session

end MacroTypes
