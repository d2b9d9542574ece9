import MacroTypes.Proofs.Session.Changes
import MacroTypes.Proofs.Session.Invoking

/-!
# The order of nested types never shows

A session in which every walk over the nested classes of a type may take any order runs through the
same states as one that goes through them in their own order (`runsTo_iff`). What a run leaves is
therefore a function of its events (`order_never_shows`).
-/

namespace MacroTypes.Session

/-- A step of a session, where nested classes are gone through in some order. -/
inductive StepsTo (s : Session) : Event → Session → Prop where
  | edit (change : Tree.Change) : StepsTo s (.edit change) (s.next (.edit change))
  | newTree : StepsTo s .newTree (s.next .newTree)
  | setTemplate (template? : Option ElementType) :
      StepsTo s (.setTemplate template?) (s.next (.setTemplate template?))
  | update {n : NodeId} {doc : Document} : s.document.UpdatesTo s.tree n doc →
      StepsTo s (.update n) { s with document := doc }
  | release {n : NodeId} {doc : Document} : s.document.ReleasesTo n doc →
      StepsTo s (.release n) { s with document := doc }
  | forget {n : NodeId} {doc : Document} : s.document.ForgetsTo n doc →
      StepsTo s (.forget n) { s with document := doc }

/-- A run of steps, each of which goes through nested classes in an order of its own. -/
inductive RunsTo : Session → List Event → Session → Prop where
  | nil (s : Session) : RunsTo s [] s
  | cons {s s' s'' : Session} {e : Event} {rest : List Event} :
      s.StepsTo e s' → RunsTo s' rest s'' → RunsTo s (e :: rest) s''

variable {s s' : Session}

private theorem stepsTo_iff (h : s.document.Sound) {e : Event} (he : e.isSingle = true) :
    s.StepsTo e s' ↔ s' = s.next e := by
  constructor
  · intro hstep
    -- whatever order is taken, the step ends where it does
    cases hstep with
    | edit | newTree | setTemplate => rfl
    | update hto => rw [(Document.updatesTo_iff h.coherent).1 hto, next]
    | release hto => rw [(Document.releasesTo_iff h.coherent).1 hto, next]
    | forget hto => rw [(Document.forgetsTo_iff h.coherent).1 hto, next]
  · intro heq
    subst heq
    -- and the step itself is one of them
    cases e with
    | refresh | refreshAll => exact nomatch he
    | edit change => exact .edit change
    | newTree => exact .newTree
    | setTemplate template? => exact .setTemplate template?
    | update n => exact .update ((Document.updatesTo_iff h.coherent).2 rfl)
    | release n => exact .release ((Document.releasesTo_iff h.coherent).2 rfl)
    | forget n => exact .forget ((Document.forgetsTo_iff h.coherent).2 rfl)

/-- Whatever orders are taken on the way, a run ends in the same session. -/
theorem runsTo_iff (h : s.document.Sound) {steps : List Event}
    (hsteps : ∀ e ∈ steps, e.isSingle = true) : s.RunsTo steps s' ↔ s' = s.run steps := by
  induction steps generalizing s with
  | nil =>
    constructor
    · intro hrun
      cases hrun with
      | nil => rfl
    · intro heq
      exact heq ▸ .nil s
  | cons e rest ih =>
    have he := hsteps e List.mem_cons_self
    -- every step leaves a sound document, so the rest of the run is determined, too
    have hsound := Document.sound_invariant.next h he fun _ _ => trivial
    have hrest := ih hsound fun e' he' => hsteps e' (List.mem_cons_of_mem _ he')
    constructor
    · intro hrun
      cases hrun with
      | cons hstep hrun =>
        rw [(stepsTo_iff h he).1 hstep] at hrun
        exact hrest.1 hrun
    · intro heq
      exact .cons ((stepsTo_iff h he).2 rfl) (hrest.2 heq)

/-- The order of nested types never shows. After every history of a catalogue, what removing
    classes leaves depends on the set of these classes only, and types that are distinct can be
    registered in a container in any order. When a declaration is defined after any history of a new
    document, the catalogue has such a history before its body is filled. In whatever order the
    nested classes are looked up there, one type is found for each, these types are distinct, and
    registering them in the body is what defining ends with. So a run in which every walk over
    nested classes takes an order of its own ends in the same session as all others. -/
theorem order_never_shows {dialect : Dialect} {doc : Document}
    (hnew : Document.new dialect = .ok doc) (template? : Option ElementType) :
    (∀ (changes : List Catalog.Change) (cs cs' : List ClassName), (∀ c, c ∈ cs ↔ c ∈ cs') →
      (Catalog.run changes).unregisterAll cs = (Catalog.run changes).unregisterAll cs') ∧
    (∀ (changes : List Catalog.Change) (n : NodeId) (ts ts' : List ElementType),
      (Catalog.run changes).Distinct ts → ts.Perm ts' →
      (Catalog.run changes).registerAll (.container n) ts =
        (Catalog.run changes).registerAll (.container n) ts') ∧
    (∀ (events : List Event) (s : Session), (opened doc template?).run events = s →
      ∀ (decl : Declaration) (b : NodeId) (walk : List ClassName), decl.body? = some b →
      walk.Perm (s.document.defined decl).type.nested.values →
      ∃ (changes : List Catalog.Change) (ts : List ElementType),
        Catalog.run changes = s.document.beforeBody decl ∧
        walk.filterMap (Catalog.run changes).get? = ts ∧
        ts.map ElementType.className = walk ∧ (Catalog.run changes).Distinct ts ∧
        (s.document.define decl).catalog =
          (Catalog.run changes).registerAll (.container b) ts) ∧
    (∀ (events : List Event) (s : Session),
      (opened doc template?).RunsTo (events.flatMap Event.steps) s ↔
        s = (opened doc template?).run events) := by
  refine ⟨fun changes _ _ => (Catalog.coherent_run changes).unregisterAll_congr,
    fun changes n _ _ => (Catalog.coherent_run changes).registerAll_perm n, ?_, ?_⟩
  · intro events s hs decl b walk hb hwalk
    have hsound : s.document.Sound := hs ▸ sound_run hnew template? events
    -- the catalogue before the body is filled has a history of its own
    have hbecomes := s.document.becomes_beforeBody decl
    have hstores := s.document.storesNested_beforeBody decl
    have hdefine := Document.catalog_define_eq hsound.coherent hb hwalk
    obtain ⟨changes, hchanges⟩ := exists_changes_run hnew template? hs hbecomes
    rw [← hchanges] at hstores hdefine
    have hcatalog := Catalog.coherent_run changes
    exact ⟨changes, _, hchanges, rfl,
      hstores.map_className_filterMap hcatalog fun c => hwalk.mem_iff.1,
      hstores.distinct hcatalog hwalk, hdefine⟩
  · intro events s
    have hstart : (opened doc template?).document.Sound := sound_run hnew template? []
    rw [runsTo_iff hstart fun e => isSingle_of_mem_flatMap, run_steps]

/-- The two nested classes of the sample in the opposite order, of which the one has the key of the
    declaration itself. -/
def oppositeWalk : List ClassName := [⟨"AntMacroDef[Foo]$Foo"⟩, ⟨"AntMacroDef[Foo]$Baz"⟩]

theorem order_never_shows_recursiveSample :
    ∃ decl ∈ recursiveSession.tree.declaration? recursiveSession.document.dialect ⟨2⟩,
      decl.body? = some ⟨5⟩ ∧
      (recursiveSession.document.defined decl).type.nested.values = oppositeWalk.reverse ∧
      ∃ (changes : List Catalog.Change) (ts : List ElementType),
        Catalog.run changes = recursiveSession.document.beforeBody decl ∧
        oppositeWalk.filterMap (Catalog.run changes).get? = ts ∧
        ts.map ElementType.className = oppositeWalk ∧ (Catalog.run changes).Distinct ts ∧
        (recursiveSession.document.define decl).catalog =
          (Catalog.run changes).registerAll (.container ⟨5⟩) ts.reverse := by
  obtain ⟨-, hregister, hdefine, -⟩ :=
    order_never_shows new_sampleDocument sampleDocument.template?
  have hexists : ∃ decl ∈ recursiveSession.tree.declaration? recursiveSession.document.dialect ⟨2⟩,
      decl.body? = some ⟨5⟩ ∧
      (recursiveSession.document.defined decl).type.nested.values = oppositeWalk.reverse := by
    decide +kernel
  obtain ⟨decl, hdecl, hbody, hvalues⟩ := hexists
  have hwalk : oppositeWalk.Perm (recursiveSession.document.defined decl).type.nested.values := by
    rw [hvalues]
    exact oppositeWalk.reverse_perm.symm
  obtain ⟨changes, ts, hchanges, hts, hclasses, hdistinct, hcatalog⟩ :=
    hdefine recursiveSample recursiveSession rfl decl ⟨5⟩ oppositeWalk hbody hwalk
  -- what was looked up in one order is registered in the other one
  have hreverse := hregister changes ⟨5⟩ ts ts.reverse hdistinct ts.reverse_perm.symm
  exact ⟨decl, hdecl, hbody, hvalues, changes, ts, hchanges, hts, hclasses, hdistinct,
    hcatalog.trans hreverse⟩

end MacroTypes.Session
