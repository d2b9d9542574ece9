import MacroTypes.Proofs.Document.Defining.Elements

/-!
# Defining a declaration beside others: outside of the body

After the elements the type is registered in the project, where it displaces nothing
(`Ready.mem_scopes_project`), and nested classes that the declaration does not have any more leave.
What is registered outside of the body then is what the declarations place there
(`Ready.mem_scopes_outside_iff`), and in the body nothing of another declaration is in the way
(`Ready.mem_classes_of_outside`).
-/

namespace MacroTypes.Document.Ready

variable {doc : Document} {decls : Std.ExtTreeMap NodeId Declaration} {decl : Declaration}
  {old : List ClassName}

/-! ## The project -/

/-- Only own classes are registered in the project. -/
private theorem exists_className (h : Ready doc decls decl old) {p : NodeId}
    (hp : decl.project? = some p) {c : ClassName} (hc : .container p ∈ doc.catalog.scopes c) :
    ∃ (m : NodeId) (a : Declaration), decls[m]? = some a ∧ c = a.className doc.dialect := by
  obtain ⟨m, a, hm, ha⟩ := (h.reflects.mem_scopes_iff c _).1 hc
  refine ⟨m, a, hm, ?_⟩
  -- the project is the body of no declaration, so it can only be the project of this one
  have hbody : a.body? ≠ some p := by
    by_cases hmn : m = decl.node
    · subst hmn
      rw [(h.kept hm).2.2]
      exact fun hb => h.body_ne_project p hb hp
    · exact (h.apart m a hm hmn).project_ne_body p hp
  -- what a declaration places in a container other than its body is its own class
  exact (ha.of_container.resolve_right hbody).1

/-- Only the declaration's own class has the declared name among the classes of declarations. -/
private theorem eq_className_of_key (h : Ready doc decls decl old) {m : NodeId} {a : Declaration}
    (hm : decls[m]? = some a) {u : ElementType}
    (hu : (doc.withElements decl).get? (a.className doc.dialect) = some u)
    (hkey : u.key = ⟨decl.name, none⟩) : a.className doc.dialect = decl.className doc.dialect := by
  by_cases hmn : m = decl.node
  · exact (h.kept (hmn ▸ hm)).1
  · -- no element has the class of another declaration, so the stored type is from before
    have hne : ∀ e ∈ decl.elements,
        (decl.className doc.dialect).nested e.2 ≠ a.className doc.dialect := by
      intro e he heq
      exact h.separate m a hm hmn _ (decl.nested_mem_classes he) (heq ▸ List.mem_cons_self)
    rw [h.get?_withElements_of_ne hne] at hu
    -- it is the own type of that declaration, so the names agree
    have ha := h.reflects.provides_of_get? hm List.mem_cons_self hu
    rw [(Declaration.provides_className.1 ha).2] at hkey
    exact Declaration.className_inj.2 (congrArg QName.name hkey)

/-- The own class is the only one in the project that has the declared name. -/
private theorem eq_className_of_project (h : Ready doc decls decl old) {p : NodeId}
    (hp : decl.project? = some p) {c : ClassName}
    (hc : .container p ∈ (doc.withElements decl).scopes c) {u : ElementType}
    (hu : (doc.withElements decl).get? c = some u) (hkey : u.key = ⟨decl.name, none⟩) :
    c = decl.className doc.dialect := by
  -- the elements were registered in the document, so the class was in the project before
  have hbase : .container p ∈ doc.catalog.scopes c := by
    rcases h.mem_scopes_withElements.1 hc with hbase | ⟨hdoc, _⟩
    · exact hbase
    · exact nomatch hdoc
  obtain ⟨m, a, hm, rfl⟩ := h.exists_className hp hbase
  exact h.eq_className_of_key hm hu hkey

/-- The type displaces nothing in the project. -/
theorem mem_scopes_project (h : Ready doc decls decl old) {s : Scope} {c : ClassName} :
    s ∈ ((doc.withElements decl).registerInside decl.project? (doc.made decl).type).scopes c ↔
      s ∈ doc.catalog.scopes c ∨
        (s = .document ∧ c ∈ (decl.nestedClasses doc.dialect doc.template?).values) ∨
        (c = decl.className doc.dialect ∧ ∃ p, decl.project? = some p ∧ s = .container p) := by
  rw [← or_assoc, ← h.mem_scopes_withElements]
  cases hp : decl.project? with
  | none => simp [Catalog.registerInside_none]
  | some p =>
    -- without the displaced entries, registering adds one scope to the own class
    have hreg : s ∈ ((doc.withElements decl).register (.container p)
        (doc.made decl).type).scopes c ↔
        if c = decl.className doc.dialect then
          s = .container p ∨ s ∈ (doc.withElements decl).scopes c
        else s ∈ (doc.withElements decl).scopes c ∧
          ¬ (s = .container p ∧ Scope.container p ≠ .document ∧
            ∃ u, (doc.withElements decl).get? c = some u ∧ u.key = ⟨decl.name, none⟩) :=
      (coherent_withElements h.reflects.coherent decl).mem_scopes_register_of_key
        (t := (doc.made decl).type) fun u hu => h.key_withElements hu
    rw [Catalog.registerInside_some, hreg]
    by_cases hc : c = decl.className doc.dialect
    · -- the own class gains the project
      simp [hc, or_comm]
    · -- displacing needs the declared name in the project, and only the own class has it there
      have hnone : s = .container p → s ∈ (doc.withElements decl).scopes c →
          ¬ ∃ u, (doc.withElements decl).get? c = some u ∧ u.key = ⟨decl.name, none⟩ := by
        intro hs hmem hex
        obtain ⟨u, hu, hkey⟩ := hex
        exact hc (h.eq_className_of_project hp (hs ▸ hmem) hu hkey)
      -- every other class keeps all of its scopes
      rw [if_neg hc]
      constructor
      · intro hs
        exact .inl hs.1
      · intro hor
        have hs := hor.resolve_right fun hr => hc hr.1
        exact ⟨hs, fun hdisplaced => hnone hdisplaced.1 hs hdisplaced.2.2⟩

/-! ## Stale classes -/

/-- An old class belongs to what was declared for the node, and is not the own one. -/
theorem exists_of_mem_old (h : Ready doc decls decl old) {c : ClassName} (hc : c ∈ old) :
    ∃ a, decls[decl.node]? = some a ∧ c ∈ (a.definition doc.dialect doc.template?).classes ∧
      c ≠ decl.className doc.dialect := by
  obtain ⟨a, hn, ha⟩ := h.mem_old_iff_declared.1 hc
  refine ⟨a, hn, List.mem_cons_of_mem _ ha, ?_⟩
  rw [← (h.kept hn).1]
  intro heq
  exact Declaration.className_not_mem_values (heq ▸ ha)

theorem className_not_mem_old (h : Ready doc decls decl old) :
    decl.className doc.dialect ∉ old := by
  intro hc
  obtain ⟨_, _, _, hne⟩ := h.exists_of_mem_old hc
  exact hne rfl

/-- Of what was declared for the node before, those classes that are not stale are declared
    again. -/
theorem mem_classes_of_kept (h : Ready doc decls decl old) {a : Declaration}
    (ha : decls[decl.node]? = some a) {c : ClassName}
    (hc : c ∈ (a.definition doc.dialect doc.template?).classes)
    (hold : c ∈ old → c ∈ (decl.nestedClasses doc.dialect doc.template?).values) :
    c = decl.className doc.dialect ∨
      c ∈ (decl.nestedClasses doc.dialect doc.template?).values := by
  rcases Declaration.mem_classes_definition.1 hc with hown | hmem
  · exact .inl (hown.trans (h.kept ha).1)
  · exact .inr (hold (h.mem_old_iff_declared.2 ⟨a, ha, hmem⟩))

/-- The scopes after the project, of classes that are not stale. -/
private theorem mem_scopes_outside (h : Ready doc decls decl old) {s : Scope} {c : ClassName} :
    s ∈ (doc.outside decl old).scopes c ↔
      (c ∈ old → c ∈ (decl.nestedClasses doc.dialect doc.template?).values) ∧
      (s ∈ doc.catalog.scopes c ∨
        (s = .document ∧ c ∈ (decl.nestedClasses doc.dialect doc.template?).values) ∨
        (c = decl.className doc.dialect ∧ ∃ p, decl.project? = some p ∧ s = .container p)) := by
  rw [outside, Catalog.placeOutside, Catalog.scopes_unregisterAll, h.nested_made]
  simp only [List.mem_filter, decide_eq_true_eq]
  split
  · -- a stale class is registered nowhere
    next hstale => simp [hstale]
  · next hstale =>
    have hold : c ∈ old → c ∈ (decl.nestedClasses doc.dialect doc.template?).values := fun hc =>
      Decidable.byContradiction fun hc' => hstale ⟨hc, hc'⟩
    -- any other class is where registering in the project left it
    rw [h.mem_scopes_project]
    exact (and_iff_right hold).symm

/-- The own class has the declared name before the body is filled. -/
theorem key_outside (h : Ready doc decls decl old) {u : ElementType}
    (hu : (doc.outside decl old).get? (decl.className doc.dialect) = some u) :
    u.key = ⟨decl.name, none⟩ := by
  -- the own class is never stale
  rw [get?_outside, if_neg fun hstale => h.className_not_mem_old hstale.1] at hu
  split at hu
  · -- it was just stored in the project
    rw [← Option.some.inj hu]
    rfl
  · exact h.key_withElements hu

/-! ## What is registered outside of the body -/

/-- No other declaration registers anything in the body. -/
theorem not_places_body (h : Ready doc decls decl old) {b : NodeId} (hb : decl.body? = some b)
    {m : NodeId} {a : Declaration} (hm : decls[m]? = some a) (hmn : m ≠ decl.node)
    {c : ClassName} : ¬ a.Places doc.dialect doc.template? c (.container b) :=
  (h.apart m a hm hmn).not_places hb c

/-- Outside of the body all is registered that the declarations place there. -/
theorem mem_scopes_outside_iff (h : Ready doc decls decl old) {s : Scope} {c : ClassName}
    (hs : ∀ b, decl.body? = some b → s ≠ .container b) :
    s ∈ (doc.outside decl old).scopes c ↔ decl.Places doc.dialect doc.template? c s ∨
      ∃ (m : NodeId) (a : Declaration), m ≠ decl.node ∧ decls[m]? = some a ∧
        a.Places doc.dialect doc.template? c s := by
  rw [h.mem_scopes_outside, h.reflects.mem_scopes_iff]
  constructor
  · intro hand
    obtain ⟨hold, hor⟩ := hand
    -- it was registered before, with the elements, or in the project
    rcases hor with ⟨m, a, hm, ha⟩ | ⟨rfl, hc⟩ | ⟨rfl, p, hp, rfl⟩
    · by_cases hmn : m = decl.node
      · -- of what was held here the project stays, and those classes that are not stale
        subst hmn
        obtain ⟨hclass, hproject, hbody⟩ := h.kept hm
        cases ha with
        | project hp => exact .inl (hclass ▸ .project (hproject ▸ hp))
        | body hb => exact absurd rfl (hs _ (hbody ▸ hb))
        | document hc => exact .inl (.document (hold (h.mem_old_iff_declared.2 ⟨a, hm, hc⟩)))
        | inner _ hb => exact absurd rfl (hs _ (hbody ▸ hb))
      · exact .inr ⟨m, a, hmn, hm, ha⟩
    · exact .inl (.document hc)
    · exact .inl (.project hp)
  · intro hor
    rcases hor with ha | ⟨m, a, hmn, hm, ha⟩
    · -- what the declaration places outside of the body was registered on the way
      cases ha with
      | project hp =>
        exact ⟨fun hold => absurd hold h.className_not_mem_old, .inr (.inr ⟨rfl, _, hp, rfl⟩)⟩
      | body hb => exact absurd rfl (hs _ hb)
      | document hc => exact ⟨fun _ => hc, .inr (.inl ⟨rfl, hc⟩)⟩
      | inner _ hb => exact absurd rfl (hs _ hb)
    · -- no class of another declaration is an old one
      refine ⟨fun hold => absurd ?_ hmn, .inl ⟨m, a, hm, ha⟩⟩
      obtain ⟨b, hn, hb, -⟩ := h.exists_of_mem_old hold
      exact (h.reflects.eq_of_mem_classes hm hn ha.mem_classes hb).1

/-- Before the body is filled, only the declaration's classes can be registered there. -/
theorem mem_classes_of_outside (h : Ready doc decls decl old) {b : NodeId}
    (hb : decl.body? = some b) {c : ClassName}
    (hc : .container b ∈ (doc.outside decl old).scopes c) :
    c = decl.className doc.dialect ∨
      c ∈ (decl.nestedClasses doc.dialect doc.template?).values := by
  obtain ⟨hold, hor⟩ := h.mem_scopes_outside.1 hc
  rcases hor with hbase | ⟨hdoc, -⟩ | ⟨hown, -⟩
  · -- it was in the body before, so the node itself placed it there
    obtain ⟨m, a, hm, ha⟩ := (h.reflects.mem_scopes_iff c _).1 hbase
    by_cases hmn : m = decl.node
    · exact h.mem_classes_of_kept (hmn ▸ hm) ha.mem_classes hold
    · exact absurd ha (h.not_places_body hb hm hmn)
  · exact nomatch hdoc
  · exact .inl hown

end MacroTypes.Document.Ready
