import MacroTypes.Proofs.Document.Isolation
import MacroTypes.Proofs.Session.Contents
import MacroTypes.Proofs.Session.Invariants

/-!
# Declarations of different names

As long as every update is made under a name of its own, the declarations of a session do not
disturb each other: what is done about one of them leaves the types and the scopes of the others'
classes as they are (`undisturbed`). Names that differ are not enough for this, since a name may
continue another one (`disturbed_by_continued_name`).
-/

namespace MacroTypes

/-- The containers of a definition are those of a declaration that is placed in a tree. -/
def Definition.PlacedIn (d : Definition) (t : Tree) (n : NodeId) : Prop :=
  ∃ a : Declaration, d.project? = a.project? ∧ d.body? = a.body? ∧ a.Placed t n

/-- A declaration that is read now stands aside from definitions of other nodes. -/
theorem Definition.PlacedIn.aside {d : Definition} {t : Tree} {m : NodeId} (h : d.PlacedIn t m)
    (ht : t.Linked) {doc : Document} {n : NodeId} {decl : Declaration}
    (hdecl : t.declaration? doc.dialect n = some decl) (hmn : m ≠ n) :
    (doc.defined decl).Aside d ∧ d.Aside (doc.defined decl) := by
  obtain ⟨a, hproject, hbody, ha⟩ := h
  obtain ⟨hbodies, hbodyproject, hprojectbody⟩ := ha.apart ht hdecl hmn
  rw [← hbody] at hbodies hprojectbody
  rw [← hproject] at hbodyproject
  exact ⟨⟨hbodies, hbodyproject⟩,
    ⟨fun x hx hx' => hbodies x hx' hx, fun x hx hx' => hprojectbody x hx' hx⟩⟩

namespace Document

/-- An update under a name of its own: the name differs from those of the definitions that are held
    for other nodes, and where one name continues the other, no class is generated in common. -/
def DistinctAt (doc : Document) (t : Tree) (n : NodeId) : Prop :=
  doc.NamesDiffer t n ∧ doc.Unmixed t n

instance (doc : Document) (t : Tree) (n : NodeId) : Decidable (doc.DistinctAt t n) :=
  inferInstanceAs (Decidable (doc.NamesDiffer t n ∧ doc.Unmixed t n))

end Document

namespace Session

/-- A session whose document is isolated and whose definitions are placed in its tree. -/
structure Isolated (s : Session) : Prop where
  linked : s.tree.Linked
  document : s.document.Isolated
  placed : ∀ (n : NodeId) (d : Definition), s.document.held[n]? = some d → d.PlacedIn s.tree n

variable {s : Session}

/-! ## One step -/

theorem Isolated.release (h : s.Isolated) (n : NodeId) : (s.next (.release n)).Isolated where
  linked := h.linked
  document := h.document.release n
  placed m d hd := h.placed m d (Document.held_of_held_release hd)

theorem Isolated.define (h : s.Isolated) {n : NodeId} {decl : Declaration}
    (hdecl : s.tree.declaration? s.document.dialect n = some decl)
    (hclear : s.document.ClearAt s.tree n) :
    Isolated { s with document := s.document.define decl } := by
  obtain rfl := Declaration.node_eq_of_declaration? hdecl
  have haside := fun m d (hd : s.document.held[m]? = some d) (hm : m ≠ decl.node) =>
    (h.placed m d hd).aside h.linked hdecl hm
  refine ⟨h.linked, h.document.define (hclear decl hdecl) haside, fun m d hd => ?_⟩
  rcases Document.held_define_cases hd with ⟨rfl, rfl⟩ | ⟨-, hd⟩
  · -- the new definition is placed where its declaration was read
    exact ⟨decl, rfl, rfl, Declaration.placed_of_declaration? h.linked hdecl⟩
  · exact h.placed m d hd

theorem Isolated.update (h : s.Isolated) {n : NodeId} (hn : s.document.DistinctAt s.tree n) :
    (s.next (.update n)).Isolated :=
  Document.update_cases (P := fun doc => Isolated { s with document := doc }) h (h.release n)
    fun _ hdecl => h.define hdecl (h.document.clearAt hn.1 hn.2)

/-- An update under a name of its own leaves the classes of what is held for other nodes alone. -/
theorem Isolated.sameAt_update (h : s.Isolated) {m n : NodeId} (hne : m ≠ n)
    (hn : s.document.DistinctAt s.tree n) {d : Definition} (hd : s.document.held[m]? = some d)
    {c : ClassName} (hc : c ∈ d.classes) :
    s.document.catalog.SameAt (s.document.update s.tree n).2.catalog c := by
  refine Document.update_cases (P := fun doc => s.document.catalog.SameAt doc.catalog c) (.refl _ c)
    (h.document.sameAt_release hne hd hc) fun decl hdecl => ?_
  obtain rfl := Declaration.node_eq_of_declaration? hdecl
  exact h.document.sameAt_define (h.document.clearAt hn.1 hn.2 decl hdecl) hne hd
    ((h.placed m d hd).aside h.linked hdecl hne) hc

theorem Isolated.next (h : s.Isolated) {e : Event} (he : e.isSingle = true) (htree : e ≠ .newTree)
    (hdistinct : ∀ n ∈ e.updated?, s.document.DistinctAt s.tree n) : (s.next e).Isolated := by
  cases e with
  | refresh | refreshAll => exact nomatch he
  | newTree => exact absurd rfl htree
  | edit change =>
    -- the containers stay placed
    have hprecedes := h.linked.precedes_change change
    refine ⟨h.linked.change change, h.document, fun n d hd => ?_⟩
    obtain ⟨a, hproject, hbody, ha⟩ := h.placed n d hd
    exact ⟨a, hproject, hbody, ha.precedes hprecedes⟩
  | setTemplate template? => exact ⟨h.linked, h.document.withTemplate template?, h.placed⟩
  | update n => exact h.update (hdistinct n rfl)
  | release n => exact h.release n
  | forget n =>
    refine ⟨h.linked, h.document.forget n, fun m d hd => ?_⟩
    have hd : (s.document.forget n).held[m]? = some d := hd
    rw [Document.forget_eq] at hd
    exact h.placed m d (Document.held_of_held_release hd)

/-! ## Histories -/

theorem isolated_run {dialect : Dialect} {doc : Document} (hnew : Document.new dialect = .ok doc)
    (template? : Option ElementType) {events : List Event} (htree : .newTree ∉ events)
    (hdistinct : (opened doc template?).EveryUpdate Document.DistinctAt events) :
    ((opened doc template?).run events).Isolated := by
  obtain ⟨hcatalog, hheld⟩ := empty_of_new hnew
  have hstart : (opened doc template?).Isolated :=
    { linked := Tree.linked_empty
      document := Document.isolated_empty hcatalog hheld
      placed := fun n d hd => by
        have hd : doc.held[n]? = some d := hd
        simp [hheld] at hd }
  refine run_of_steps (P := Isolated) hstart hdistinct fun s e he hallowed h =>
    h.next (isSingle_of_mem_flatMap he) ?_ hallowed
  -- a new tree is a step of no other event
  rintro rfl
  obtain ⟨e', he', hmem⟩ := List.mem_flatMap.1 he
  rcases Event.cases_of_mem_steps hmem with ⟨rfl, -⟩ | ⟨_, heq | heq⟩
  · exact htree he'
  · exact nomatch heq
  · exact nomatch heq

/-- After every history of a new document on one tree in which every update was made under a name of
    its own, updating, refreshing, releasing or forgetting a node under such a name leaves for every
    other node the type and the scopes of each class of its definition exactly as they were. -/
theorem undisturbed {dialect : Dialect} {doc : Document} (hnew : Document.new dialect = .ok doc)
    (template? : Option ElementType) {events : List Event} (htree : .newTree ∉ events) {n : NodeId}
    {e : Event} (he : e ∈ [.update n, .refresh n, .release n, .forget n])
    (hdistinct : (opened doc template?).EveryUpdate Document.DistinctAt (events ++ [e]))
    {s : Session} (hs : (opened doc template?).run events = s) {m : NodeId} (hne : m ≠ n)
    {d : Definition} (hheld : s.document.held[m]? = some d) :
    ∀ c ∈ d.classes, (s.next e).document.catalog.get? c = s.document.catalog.get? c ∧
      (s.next e).document.catalog.scopes c = s.document.catalog.scopes c := by
  intro c hc
  obtain ⟨hevents, hlast⟩ := everyUpdate_append.1 hdistinct
  rw [hs] at hlast
  have h : s.Isolated := hs ▸ isolated_run hnew template? htree hevents
  suffices hsame : s.document.catalog.SameAt (s.next e).document.catalog c from
    ⟨hsame.get?_eq, hsame.scopes_eq⟩
  simp only [List.mem_cons, List.not_mem_nil, or_false] at he
  rcases he with rfl | rfl | rfl | rfl
  · exact h.sameAt_update hne (hlast.1 n rfl) hheld hc
  · -- a refresh is a release and an update
    have hrelease := h.release n
    have hheld' : (s.document.release n).held[m]? = some d := by
      rw [s.document.held_release_of_ne hne, hheld]
    exact (h.document.sameAt_release hne hheld hc).trans
      (hrelease.sameAt_update hne (hlast.2.1 n rfl) hheld' hc)
  · exact h.document.sameAt_release hne hheld hc
  · exact h.document.sameAt_forget hne hheld hc

/-! ## Names that continue others -/

/-- A declaration with an element, and one whose name continues the name of the first one. -/
def continuedName (element : String) : List Event :=
  [ .edit (.addRoot { kind := .project, tag := "project" }),
    .edit (.addChild ⟨1⟩ { tag := "macrodef", name? := some "Foo" }),
    .edit (.addChild ⟨2⟩ { tag := "element", name? := some element }),
    .edit (.addChild ⟨1⟩ { tag := "macrodef", name? := some "Foo]$y" }),
    .update ⟨2⟩ ]

/-- The session before the second declaration is defined. -/
def continuedSession (element : String) : Session :=
  (opened sampleDocument sampleDocument.template?).run (continuedName element)

private theorem exists_held_continuedSession (element : String) (c : ClassName)
    (h : (continuedSession element).document.held[(⟨2⟩ : NodeId)]?.any
      (fun d => decide (c ∈ d.classes)) = true) :
    ∃ d, (continuedSession element).document.held[(⟨2⟩ : NodeId)]? = some d ∧ c ∈ d.classes := by
  obtain ⟨d, hd, hmem⟩ := (Option.any_eq_true _ _).1 h
  exact ⟨d, hd, of_decide_eq_true hmem⟩

/-- If the element does not close the bracket, nothing is disturbed. -/
theorem undisturbed_continuedName :
    (opened sampleDocument sampleDocument.template?).EveryUpdate Document.DistinctAt
        (continuedName "x" ++ [.update ⟨4⟩]) ∧
      ∃ d, (continuedSession "x").document.held[(⟨2⟩ : NodeId)]? = some d ∧
        ⟨"AntMacroDef[Foo]$x"⟩ ∈ d.classes ∧
        ∀ c ∈ d.classes,
          ((continuedSession "x").next (.update ⟨4⟩)).document.catalog.get? c =
            (continuedSession "x").document.catalog.get? c ∧
          ((continuedSession "x").next (.update ⟨4⟩)).document.catalog.scopes c =
            (continuedSession "x").document.catalog.scopes c := by
  have hdistinct : (opened sampleDocument sampleDocument.template?).EveryUpdate
      Document.DistinctAt (continuedName "x" ++ [.update ⟨4⟩]) := by
    decide +kernel
  obtain ⟨d, hd, hmem⟩ := exists_held_continuedSession "x" ⟨"AntMacroDef[Foo]$x"⟩
    (by decide +kernel)
  exact ⟨hdistinct, d, hd, hmem,
    undisturbed (n := ⟨4⟩) new_sampleDocument _ (by decide) (by decide) hdistinct rfl (by decide)
      hd⟩

/-- If it does, the class of the element is the class of the other declaration, which takes its type
    and adds a scope to it, although the two names differ. -/
theorem disturbed_by_continued_name :
    .newTree ∉ continuedName "y]" ∧
      (opened sampleDocument sampleDocument.template?).EveryUpdate Document.NamesDiffer
        (continuedName "y]" ++ [.update ⟨4⟩]) ∧
      ∃ d, (continuedSession "y]").document.held[(⟨2⟩ : NodeId)]? = some d ∧
        ∃ c ∈ d.classes,
          ((continuedSession "y]").next (.update ⟨4⟩)).document.catalog.get? c ≠
            (continuedSession "y]").document.catalog.get? c ∧
          ((continuedSession "y]").next (.update ⟨4⟩)).document.catalog.scopes c ≠
            (continuedSession "y]").document.catalog.scopes c := by
  obtain ⟨d, hd, hmem⟩ := exists_held_continuedSession "y]" ⟨"AntMacroDef[Foo]$y]"⟩
    (by decide +kernel)
  exact ⟨by decide, by decide +kernel, d, hd, _, hmem, by decide +kernel, by decide +kernel⟩

end Session

end MacroTypes
