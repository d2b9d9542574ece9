import MacroTypes.Proofs.Document.Defining.Outside

/-!
# Defining a declaration beside others: the body

In the body the type and the types of the elements are registered, an element of the declared name
in place of the type. What is stored and registered then is what the declaration and the others
stand for (`Ready.get?_inside_iff`, `Ready.mem_scopes_inside_iff`), so the document reflects the
declaration, too (`Ready.reflects_defineAlong`).
-/

namespace MacroTypes.Document.Ready

variable {doc : Document} {decls : Std.ExtTreeMap NodeId Declaration} {decl : Declaration}
  {old : List ClassName}

/-! ## The stored types at the end -/

/-- The own class has its type if there is a place for it. -/
private theorem get?_inside_className (h : Ready doc decls decl old) :
    (doc.inside decl old).get? (decl.className doc.dialect) =
      if decl.project?.isSome = true ∨ decl.body?.isSome = true then
        some (decl.definition doc.dialect doc.template?).type
      else doc.catalog.get? (decl.className doc.dialect) := by
  -- it is never stale, and no element touches it
  have helements := h.get?_withElements_of_ne fun e _ => ClassName.nested_ne _ e.2
  rw [get?_inside h.reflects.coherent, get?_outside, helements, h.made_eq]
  simp only [h.className_not_mem_old, false_and, if_false, and_true]
  cases decl.project? <;> cases decl.body? <;> simp

/-- The own class is stored exactly if there is a place for it. -/
private theorem get?_inside_own (h : Ready doc decls decl old) {t : ElementType} :
    (doc.inside decl old).get? (decl.className doc.dialect) = some t ↔
      decl.Provides doc.dialect doc.template? (decl.className doc.dialect) t := by
  rw [h.get?_inside_className, Declaration.provides_className]
  split
  · next hplace => rw [Option.some.injEq, eq_comm, and_iff_right hplace]
  · next hplace =>
    refine ⟨fun ht => ?_, fun ht => absurd ht.1 hplace⟩
    -- what was held before had no place either
    obtain ⟨a, hn, ha⟩ := h.exists_provides List.mem_cons_self ht
    obtain ⟨hclass, hproject, hbody⟩ := h.kept hn
    rw [← hclass, Declaration.provides_className, hproject, hbody] at ha
    exact absurd ha.1 hplace

/-- The class of an element holds the type of the last element of the name. -/
private theorem get?_inside_element (h : Ready doc decls decl old) {e : NodeId × String}
    (he : e ∈ decl.elements) {t : ElementType} :
    (doc.inside decl old).get? ((decl.className doc.dialect).nested e.2) = some t ↔
      decl.Provides doc.dialect doc.template? ((decl.className doc.dialect).nested e.2) t := by
  rw [get?_inside_nested h.reflects.coherent he, h.get?_withElements, Declaration.provides_nested]
  simp only [ClassName.nested_inj]
  obtain ⟨e', hfind⟩ := Catalog.exists_last_of_mem he
  rw [hfind]
  -- without a template no element has a type
  cases ht : doc.template? with
  | none => simp
  | some u => simp [eq_comm]

/-- Every other class is stored as the other declarations provide it. -/
private theorem get?_inside_other (h : Ready doc decls decl old) {c : ClassName}
    (hc : c ∉ decl.classes doc.dialect) {t : ElementType} :
    (doc.inside decl old).get? c = some t ↔
      ∃ (m : NodeId) (a : Declaration), m ≠ decl.node ∧ decls[m]? = some a ∧
        a.Provides doc.dialect doc.template? c t := by
  have hdefined : c ∉ (doc.made decl).classes := by
    rw [h.made_eq]
    exact fun hmem => hc (Declaration.mem_classes_of_mem_definition hmem)
  rw [get?_inside_of_not_mem h.reflects.coherent hdefined]
  split
  · next hold =>
    -- an old class belongs to the node, so no other declaration provides it
    obtain ⟨a, hn, ha, -⟩ := h.exists_of_mem_old hold
    refine ⟨nofun, ?_⟩
    intro hex
    obtain ⟨m, b, hmn, hm, hb⟩ := hex
    exact absurd (h.reflects.eq_of_mem_classes hm hn hb.mem_classes ha).1 hmn
  · next hold =>
    rw [h.reflects.get?_iff]
    refine ⟨?_, fun hex => hex.imp fun m hm => hm.imp fun a ha => ha.2⟩
    intro hex
    obtain ⟨m, a, hm, ha⟩ := hex
    refine ⟨m, a, ?_, hm, ha⟩
    -- a class of the node itself would be declared again
    rintro rfl
    rw [h.made_eq] at hdefined
    exact hdefined (Declaration.mem_classes_definition.2
      (h.mem_classes_of_kept hm ha.mem_classes fun hmem => absurd hmem hold))

/-- What is stored at the end is provided by the declaration or by another one. -/
theorem get?_inside_iff (h : Ready doc decls decl old) {c : ClassName} {t : ElementType} :
    (doc.inside decl old).get? c = some t ↔ decl.Provides doc.dialect doc.template? c t ∨
      ∃ (m : NodeId) (a : Declaration), m ≠ decl.node ∧ decls[m]? = some a ∧
        a.Provides doc.dialect doc.template? c t := by
  by_cases hc : c ∈ decl.classes doc.dialect
  · have hother : ¬ ∃ (m : NodeId) (a : Declaration), m ≠ decl.node ∧ decls[m]? = some a ∧
        a.Provides doc.dialect doc.template? c t := by
      intro hex
      obtain ⟨m, a, hmn, hm, ha⟩ := hex
      exact h.separate m a hm hmn c hc ha.mem_classes
    -- a generated class is the own class or that of an element
    rw [or_iff_left hother]
    rcases List.mem_cons.1 hc with rfl | hmem
    · exact h.get?_inside_own
    · obtain ⟨e, he, rfl⟩ := List.mem_map.1 hmem
      exact h.get?_inside_element he
  · rw [h.get?_inside_other hc, or_iff_right]
    exact fun ha => hc (Declaration.mem_classes_of_mem_definition ha.mem_classes)

/-! ## The scopes at the end -/

/-- The types in the body: those of the elements, and the own one if no element has its name. -/
private theorem mem_scopes_inside (h : Ready doc decls decl old) {b : NodeId}
    (hb : decl.body? = some b) {s : Scope} {c : ClassName} :
    s ∈ (doc.inside decl old).scopes c ↔
      if s = .container b then c ∈ (decl.nestedClasses doc.dialect doc.template?).values ∨
        (c = decl.className doc.dialect ∧
          (⟨decl.name, none⟩ : QName) ∉ decl.nestedClasses doc.dialect doc.template?)
      else s ∈ (doc.outside decl old).scopes c := by
  -- what is registered before the body is filled
  have hcoherent := coherent_outside h.reflects.coherent decl old
  have hstores := doc.storesNested_outside decl old
  rw [inside, hb, ← h.nested_made]
  split
  · next hs =>
    subst hs
    by_cases hown : c = decl.className doc.dialect
    · -- the type itself, unless its key is taken
      subst hown
      refine (hcoherent.mem_scopes_placeInside_own hstores).trans ?_
      have hnested : decl.className doc.dialect ∉ (doc.made decl).type.nested.values :=
        hstores.className_not_mem
      simp only [true_or, true_and, hnested, false_or]
      rfl
    · by_cases hc : c ∈ (doc.made decl).type.nested.values
      · simp only [hc, true_or, iff_true]
        -- a class of an element is placed there
        exact (hcoherent.furnished_placeInside hstores b).nested c hc
      · -- no other class was there before
        simp only [hc, hown, false_and, or_false, iff_false]
        intro hmem
        have hbefore := hcoherent.mem_scopes_of_placeInside hstores hown hc hmem
        rw [h.nested_made] at hc
        exact (h.mem_classes_of_outside hb hbefore).elim hown hc
  · next hs =>
    exact hcoherent.mem_scopes_placeInside_of_ne hstores (fun u hu => h.key_outside hu) hs

/-- What is registered at the end is placed there by the declaration or by another one. -/
theorem mem_scopes_inside_iff (h : Ready doc decls decl old) {s : Scope} {c : ClassName} :
    s ∈ (doc.inside decl old).scopes c ↔ decl.Places doc.dialect doc.template? c s ∨
      ∃ (m : NodeId) (a : Declaration), m ≠ decl.node ∧ decls[m]? = some a ∧
        a.Places doc.dialect doc.template? c s := by
  cases hb : decl.body? with
  | none =>
    -- without a body this is the end
    rw [inside, hb, Catalog.placeInside_none]
    exact h.mem_scopes_outside_iff (by simp [hb])
  | some b =>
    rw [h.mem_scopes_inside hb]
    split
    · next hs =>
      subst hs
      have hother : ¬ ∃ (m : NodeId) (a : Declaration), m ≠ decl.node ∧ decls[m]? = some a ∧
          a.Places doc.dialect doc.template? c (.container b) := by
        intro hex
        obtain ⟨m, a, hmn, hm, ha⟩ := hex
        exact h.not_places_body hb hm hmn ha
      -- in the body only the declaration itself places anything
      rw [or_iff_left hother]
      constructor
      · intro hor
        rcases hor with hc | ⟨rfl, hname⟩
        · exact .inner hc hb
        · exact .body hb hname
      · intro ha
        -- by the shape of what is placed, the scope being the body
        generalize hs : Scope.container b = s at ha
        cases ha with
        | project hp => exact absurd (Scope.container.inj hs ▸ hp) (h.body_ne_project b hb)
        | body _ hname => exact .inr ⟨rfl, hname⟩
        | document => simp at hs
        | inner hc => exact .inl hc
    · next hs =>
      -- any other scope is outside of the body
      apply h.mem_scopes_outside_iff
      intro b' hb'
      rwa [← Option.some.inj (hb.symm.trans hb')]

/-! ## The document at the end -/

/-- What is said of some declaration, once this one is declared, is said of this one or of the
    others. -/
private theorem exists_insert_iff (decls : Std.ExtTreeMap NodeId Declaration) (decl : Declaration)
    (fact : Declaration → Prop) :
    (∃ (m : NodeId) (a : Declaration), (decls.insert decl.node decl)[m]? = some a ∧ fact a) ↔
      fact decl ∨ ∃ (m : NodeId) (a : Declaration), m ≠ decl.node ∧ decls[m]? = some a ∧
        fact a := by
  simp only [Std.ExtTreeMap.getElem?_insert_ite]
  constructor
  · -- at the number of this declaration it is found, and elsewhere one of the others
    intro hex
    obtain ⟨m, a, hm, ha⟩ := hex
    split at hm
    · exact .inl (Option.some.inj hm ▸ ha)
    · next hmn => exact .inr ⟨m, a, hmn, hm, ha⟩
  · intro hor
    rcases hor with ha | ⟨m, a, hmn, hm, ha⟩
    · exact ⟨decl.node, decl, if_pos rfl, ha⟩
    · exact ⟨m, a, by rw [if_neg hmn, hm], ha⟩

/-- This declaration and the others are apart. -/
private theorem apart_insert (h : Ready doc decls decl old) {m n : NodeId} {a b : Declaration}
    (hmn : m ≠ n) (hm : (decls.insert decl.node decl)[m]? = some a)
    (hn : (decls.insert decl.node decl)[n]? = some b) :
    a.Apart doc.dialect doc.template? b := by
  rw [Std.ExtTreeMap.getElem?_insert_ite] at hm hn
  split at hm
  · next hmd =>
    -- the first is this one, so the second is another
    obtain rfl := Option.some.inj hm
    have hnd : n ≠ decl.node := fun hnd => hmn (hmd.trans hnd.symm)
    rw [if_neg hnd] at hn
    exact h.apart n b hn hnd
  · next hmd =>
    split at hn
    · -- the second is this one
      obtain rfl := Option.some.inj hn
      exact (h.apart m a hm hmd).symm
    · -- both were declared before
      exact h.reflects.apart m n a b hmn hm hn

/-- The document afterwards reflects the declaration, too. -/
theorem reflects_defineAlong (h : Ready doc decls decl old) :
    (doc.defineAlong decl old (doc.made decl).type.nested.values).Reflects
      (decls.insert decl.node decl) where
  coherent := (coherent_readied h.reflects.coherent decl old).registerClassesInside _ _
  held_eq m := by
    show (doc.held.insert decl.node (doc.made decl))[m]? = _
    -- the node holds its definition, and the others hold theirs
    rw [h.made_eq, Std.ExtTreeMap.getElem?_insert_ite, Std.ExtTreeMap.getElem?_insert_ite,
      h.reflects.held_eq]
    split
    · rfl
    · rfl
  get?_iff c t := h.get?_inside_iff.trans
    (exists_insert_iff decls decl fun a => a.Provides doc.dialect doc.template? c t).symm
  mem_scopes_iff c s := h.mem_scopes_inside_iff.trans
    (exists_insert_iff decls decl fun a => a.Places doc.dialect doc.template? c s).symm
  apart m n a b hmn := h.apart_insert hmn
  body_ne_project m a x hm hb := by
    rw [Std.ExtTreeMap.getElem?_insert_ite] at hm
    -- only the body of this declaration is new
    split at hm
    · obtain rfl := Option.some.inj hm
      exact h.body_ne_project x hb
    · exact h.reflects.body_ne_project m a x hm hb

end MacroTypes.Document.Ready
