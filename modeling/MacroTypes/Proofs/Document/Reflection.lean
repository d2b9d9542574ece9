import MacroTypes.Proofs.Document.Owning

/-!
# Documents that reflect declarations

A document reflects a map of declarations if it holds their definitions and stores and registers
exactly what each of them stands for. The map is not part of the document: it records what the
declarations said when they were last defined. Two documents that reflect one map have the same
catalogue and hold the same definitions (`Reflects.unique`).

The declarations of the map keep clear of each other: they share no class, and the body of one is
neither a body nor a project of another. So releasing one of them takes away what it stands for and
nothing else (`Reflects.release`, `Reflects.forget`).
-/

namespace MacroTypes

/-- Two declarations that share no class and do not get in each other's way in a body. -/
structure Declaration.Apart (d : Dialect) (template? : Option ElementType) (a b : Declaration) :
    Prop where
  classes : ∀ c ∈ (a.definition d template?).classes, c ∉ (b.definition d template?).classes
  body_ne_body : ∀ x, a.body? = some x → b.body? ≠ some x
  body_ne_project : ∀ x, a.body? = some x → b.project? ≠ some x
  project_ne_body : ∀ x, a.project? = some x → b.body? ≠ some x

theorem Declaration.Apart.symm {d : Dialect} {template? : Option ElementType} {a b : Declaration}
    (h : Apart d template? a b) : Apart d template? b a where
  classes c hb ha := h.classes c ha hb
  body_ne_body x hb ha := h.body_ne_body x ha hb
  body_ne_project x hb ha := h.project_ne_body x ha hb
  project_ne_body x hb ha := h.body_ne_project x ha hb

/-- Declarations that are apart place nothing in each other's bodies. -/
theorem Declaration.Apart.not_places {d : Dialect} {template? : Option ElementType}
    {a b : Declaration} (h : Apart d template? a b) {x : NodeId} (hx : a.body? = some x)
    (c : ClassName) : ¬ b.Places d template? c (.container x) := by
  intro hb
  rcases hb.of_container with ⟨_, hproject⟩ | hbody
  · exact h.body_ne_project x hx hproject
  · exact h.body_ne_body x hx hbody

/-- A declaration that can stand beside others: it generates no class of another node, and its
    containers are not in the way of theirs. -/
structure Declaration.Beside (decl : Declaration) (d : Dialect) (template? : Option ElementType)
    (decls : Std.ExtTreeMap NodeId Declaration) : Prop where
  separate : ∀ (m : NodeId) a, decls[m]? = some a → m ≠ decl.node →
    ∀ c ∈ decl.classes d, c ∉ (a.definition d template?).classes
  apart : ∀ (m : NodeId) a, decls[m]? = some a → m ≠ decl.node → decl.Apart d template? a
  body_ne_project : ∀ x, decl.body? = some x → decl.project? ≠ some x

/-- A declaration that can stand beside others can stand beside some of them. -/
theorem Declaration.Beside.erase {decl : Declaration} {d : Dialect}
    {template? : Option ElementType} {decls : Std.ExtTreeMap NodeId Declaration}
    (h : decl.Beside d template? decls) (n : NodeId) : decl.Beside d template? (decls.erase n) where
  separate m a hm := h.separate m a (Std.ExtTreeMap.getElem?_of_getElem?_erase hm)
  apart m a hm := h.apart m a (Std.ExtTreeMap.getElem?_of_getElem?_erase hm)
  body_ne_project := h.body_ne_project

namespace Document

/-- A document that holds, stores and registers what some declarations stand for. -/
structure Reflects (doc : Document) (decls : Std.ExtTreeMap NodeId Declaration) : Prop where
  coherent : doc.catalog.Coherent
  held_eq : ∀ n : NodeId,
    doc.held[n]? = decls[n]?.map (·.definition doc.dialect doc.template?)
  get?_iff : ∀ c t, doc.catalog.get? c = some t ↔
    ∃ (n : NodeId) (a : Declaration), decls[n]? = some a ∧ a.Provides doc.dialect doc.template? c t
  mem_scopes_iff : ∀ c s, s ∈ doc.catalog.scopes c ↔
    ∃ (n : NodeId) (a : Declaration), decls[n]? = some a ∧ a.Places doc.dialect doc.template? c s
  apart : ∀ (m n : NodeId) (a b : Declaration), m ≠ n → decls[m]? = some a → decls[n]? = some b →
    a.Apart doc.dialect doc.template? b
  body_ne_project : ∀ (n : NodeId) (a : Declaration) (x : NodeId), decls[n]? = some a →
    a.body? = some x → a.project? ≠ some x

variable {doc : Document} {decls : Std.ExtTreeMap NodeId Declaration}

/-- A new document reflects no declarations. -/
theorem reflects_empty (hcat : doc.catalog = ∅) (hheld : doc.held = ∅) : doc.Reflects ∅ where
  coherent := hcat ▸ Catalog.coherent_empty
  held_eq n := by simp [hheld]
  get?_iff c t := by simp [hcat]
  mem_scopes_iff c s := by simp [hcat]
  apart m n a b _ ha _ := by simp at ha
  body_ne_project n a x ha _ := by simp at ha

/-- What a document reflects determines its catalogue and what it holds. -/
theorem Reflects.unique {doc' : Document} (h : doc.Reflects decls) (h' : doc'.Reflects decls)
    (hd : doc.dialect = doc'.dialect) (ht : doc.template? = doc'.template?) :
    doc.catalog = doc'.catalog ∧ doc.held = doc'.held := by
  constructor
  · -- on coherent catalogues the bindings follow from the types and the scopes
    refine h.coherent.ext h'.coherent (fun c => ?_) fun c s => ?_
    · apply Option.ext
      intro t
      rw [h.get?_iff, h'.get?_iff, hd, ht]
    · rw [h.mem_scopes_iff, h'.mem_scopes_iff, hd, ht]
  · apply Std.ExtTreeMap.ext_getElem?
    intro n
    rw [h.held_eq, h'.held_eq, hd, ht]

/-- A class belongs to one declaration. -/
theorem Reflects.eq_of_mem_classes (h : doc.Reflects decls) {m n : NodeId} {a b : Declaration}
    (hm : decls[m]? = some a) (hn : decls[n]? = some b) {c : ClassName}
    (ha : c ∈ (a.definition doc.dialect doc.template?).classes)
    (hb : c ∈ (b.definition doc.dialect doc.template?).classes) : m = n ∧ a = b := by
  by_cases hne : m = n
  · subst hne
    exact ⟨rfl, Option.some.inj (hm.symm.trans hn)⟩
  · exact absurd hb ((h.apart m n a b hne hm hn).classes c ha)

/-- What is stored under a class of a declaration is what the declaration provides there. -/
theorem Reflects.provides_of_get? (h : doc.Reflects decls) {n : NodeId} {a : Declaration}
    (hn : decls[n]? = some a) {c : ClassName} {t : ElementType}
    (hc : c ∈ (a.definition doc.dialect doc.template?).classes)
    (hget : doc.catalog.get? c = some t) : a.Provides doc.dialect doc.template? c t := by
  obtain ⟨m, b, hm, hb⟩ := (h.get?_iff c t).1 hget
  obtain ⟨-, rfl⟩ := h.eq_of_mem_classes hm hn hb.mem_classes hc
  exact hb

/-- What is held is the definition of a reflected declaration. -/
theorem Reflects.exists_of_held (h : doc.Reflects decls) {n : NodeId} {d : Definition}
    (hd : doc.held[n]? = some d) :
    ∃ a, decls[n]? = some a ∧ a.definition doc.dialect doc.template? = d := by
  rw [h.held_eq] at hd
  exact Option.map_eq_some_iff.1 hd

theorem Reflects.held_of_getElem? (h : doc.Reflects decls) {n : NodeId} {a : Declaration}
    (ha : decls[n]? = some a) :
    doc.held[n]? = some (a.definition doc.dialect doc.template?) := by
  rw [h.held_eq, ha]
  rfl

/-- What a document stores that reflects declarations belongs to one of them. -/
theorem Reflects.owned (h : doc.Reflects decls) : doc.Owned where
  coherent := h.coherent
  own n d u hd hu := by
    obtain ⟨a, ha, rfl⟩ := h.exists_of_held hd
    -- the own class is stored if the declaration has a project or a body
    have hprovides := h.provides_of_get? ha List.mem_cons_self hu
    obtain ⟨hplace, hu⟩ := Declaration.provides_className.1 hprovides
    exact ⟨Bool.or_eq_true_iff.2 hplace, hu⟩
  exists_held c u hu := by
    obtain ⟨n, a, ha, hprovides⟩ := (h.get?_iff c u).1 hu
    exact ⟨n, _, h.held_of_getElem? ha, hprovides.mem_classes⟩
  disjoint m n d e hne hd he := by
    obtain ⟨a, ha, rfl⟩ := h.exists_of_held hd
    obtain ⟨b, hb, rfl⟩ := h.exists_of_held he
    exact (h.apart m n a b hne ha hb).classes

/-- What places a class of a declaration is that declaration. -/
theorem Reflects.mem_scopes_iff_places (h : doc.Reflects decls) {n : NodeId} {a : Declaration}
    (ha : decls[n]? = some a) {c : ClassName}
    (hc : c ∈ (a.definition doc.dialect doc.template?).classes) {s : Scope} :
    s ∈ doc.catalog.scopes c ↔ a.Places doc.dialect doc.template? c s := by
  rw [h.mem_scopes_iff]
  refine ⟨fun hex => ?_, fun hs => ⟨n, a, ha, hs⟩⟩
  obtain ⟨m, b, hm, hb⟩ := hex
  obtain ⟨_, heq⟩ := h.eq_of_mem_classes hm ha hb.mem_classes hc
  exact heq ▸ hb

/-! ## Releasing -/

/-- A release takes out the classes of the node's own declaration. -/
theorem Reflects.mem_classesAt (h : doc.Reflects decls) {n : NodeId} {c : ClassName} :
    c ∈ doc.classesAt n ↔
      ∃ a, decls[n]? = some a ∧ c ∈ (a.definition doc.dialect doc.template?).classes := by
  rw [h.owned.mem_classesAt, h.held_eq]
  cases decls[n]? with
  | none => simp
  | some a => simp

/-- What the others state of a class is what all of them state, unless the class is released. -/
private theorem Reflects.exists_erase_iff (h : doc.Reflects decls) {n : NodeId} {c : ClassName}
    {fact : Declaration → Prop}
    (hfact : ∀ b, fact b → c ∈ (b.definition doc.dialect doc.template?).classes) :
    (∃ (m : NodeId) (b : Declaration), (decls.erase n)[m]? = some b ∧ fact b) ↔
      c ∉ doc.classesAt n ∧ ∃ (m : NodeId) (b : Declaration), decls[m]? = some b ∧ fact b := by
  rw [h.mem_classesAt]
  simp only [Std.ExtTreeMap.getElem?_erase_ite]
  constructor
  · intro hex
    obtain ⟨m, b, hm, hb⟩ := hex
    split at hm
    · exact nomatch hm
    · next hne =>
      -- a released class that another declaration states something of would belong to both
      refine ⟨fun hreleased => hne ?_, m, b, hm, hb⟩
      obtain ⟨a, hn, ha⟩ := hreleased
      exact (h.eq_of_mem_classes hm hn (hfact b hb) ha).1
  · intro hand
    obtain ⟨hkept, m, b, hm, hb⟩ := hand
    -- a class that stays is none of the released declaration
    have hne : m ≠ n := fun heq => hkept ⟨b, heq ▸ hm, hfact b hb⟩
    exact ⟨m, b, by rw [if_neg hne, hm], hb⟩

theorem Reflects.release (h : doc.Reflects decls) (n : NodeId) :
    (doc.release n).Reflects (decls.erase n) where
  coherent := h.coherent.unregisterAll _
  held_eq m := by
    rw [getElem?_held_release, Std.ExtTreeMap.getElem?_erase_ite]
    -- the node itself holds nothing and declares nothing any more
    split
    · rfl
    · exact h.held_eq m
  get?_iff c t := by
    -- what is stored of the others is what is stored of all, less the released classes
    refine Iff.trans ?_ (h.exists_erase_iff fun b hb => Declaration.Provides.mem_classes hb).symm
    rw [get?_release]
    split
    · next hc => simp [hc]
    · next hc => rw [h.get?_iff, and_iff_right hc]
  mem_scopes_iff c s := by
    -- and so it is with what is registered
    refine Iff.trans ?_ (h.exists_erase_iff fun b hb => Declaration.Places.mem_classes hb).symm
    rw [scopes_release]
    split
    · next hc => simp [hc]
    · next hc => rw [h.mem_scopes_iff, and_iff_right hc]
  apart m k a b hne hm hk :=
    h.apart m k a b hne (Std.ExtTreeMap.getElem?_of_getElem?_erase hm)
      (Std.ExtTreeMap.getElem?_of_getElem?_erase hk)
  body_ne_project m a x hm :=
    h.body_ne_project m a x (Std.ExtTreeMap.getElem?_of_getElem?_erase hm)

/-- No other declaration registers anything in the body of a released one. -/
private theorem Reflects.not_mem_scopes_body (h : doc.Reflects decls) {n : NodeId} {a : Declaration}
    (ha : decls[n]? = some a) {x : NodeId} (hx : a.body? = some x) (c : ClassName) :
    .container x ∉ (doc.release n).catalog.scopes c := by
  intro hc
  obtain ⟨m, b, hm, hb⟩ := ((h.release n).mem_scopes_iff c _).1 hc
  rw [Std.ExtTreeMap.getElem?_erase_ite] at hm
  split at hm
  · exact nomatch hm
  · next hne => exact (h.apart n m a b (Ne.symm hne) ha hm).not_places hx c hb

/-- So forgetting the body takes nothing more away than the release. -/
theorem Reflects.forget (h : doc.Reflects decls) (n : NodeId) :
    (doc.forget n).Reflects (decls.erase n) := by
  have hr := h.release n
  refine forget_cases (P := fun doc' => doc'.Reflects (decls.erase n)) hr fun d body hd hb => ?_
  obtain ⟨a, ha, rfl⟩ := h.exists_of_held hd
  -- nothing is registered in the body any more, so emptying it takes no scope away
  have hscopes : ∀ c s, s ∈ ((doc.release n).catalog.removeContainer body).scopes c ↔
      s ∈ (doc.release n).catalog.scopes c := by
    intro c s
    rw [Catalog.mem_scopes_removeContainer]
    refine ⟨And.left, fun hs => ⟨hs, fun hbound => ?_⟩⟩
    exact h.not_mem_scopes_body ha hb c (hbound.1 ▸ hs)
  exact
    { coherent := hr.coherent.removeContainer body
      held_eq := hr.held_eq
      get?_iff := fun c t => by
        -- the stored types are left alone in any case
        show ((doc.release n).catalog.removeContainer body).get? c = some t ↔ _
        rw [Catalog.get?_removeContainer]
        exact hr.get?_iff c t
      mem_scopes_iff := fun c s => (hscopes c s).trans (hr.mem_scopes_iff c s)
      apart := hr.apart
      body_ne_project := hr.body_ne_project }

end Document

end MacroTypes
