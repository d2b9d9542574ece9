import MacroTypes.Proofs.Catalog.Placing
import MacroTypes.Proofs.Declaration.Contents

/-!
# What a definition leaves alone

A definition registers its classes in its own scopes (`Definition.Reaches`). A class that is none of
them keeps its type and its scopes, unless it is registered in the body or has the key of the
definition in the project (`Definition.Misses`). `Confined` says this of the catalogue before and
after; every operation that is a part of defining keeps it, so the whole of it does
(`Confined.place`).
-/

namespace MacroTypes

namespace Catalog

/-- A class has the same type and the same scopes in both catalogues. -/
structure SameAt (cat cat' : Catalog) (c : ClassName) : Prop where
  get?_eq : cat'.get? c = cat.get? c
  scopes_eq : cat'.scopes c = cat.scopes c

variable {cat cat' : Catalog} {c : ClassName}

theorem SameAt.refl (cat : Catalog) (c : ClassName) : cat.SameAt cat c :=
  ⟨rfl, rfl⟩

theorem SameAt.trans {cat'' : Catalog} (h : cat.SameAt cat' c) (h' : cat'.SameAt cat'' c) :
    cat.SameAt cat'' c :=
  ⟨h'.get?_eq.trans h.get?_eq, h'.scopes_eq.trans h.scopes_eq⟩

theorem sameAt_unregisterAll (cat : Catalog) {cs : List ClassName} (hc : c ∉ cs) :
    cat.SameAt (cat.unregisterAll cs) c where
  get?_eq := by rw [get?_unregisterAll, if_neg hc]
  scopes_eq := by rw [scopes_unregisterAll, if_neg hc]

/-- A class that is not registered in a container does not miss it. -/
theorem sameAt_removeContainer {n : NodeId} (hc : .container n ∉ cat.scopes c) :
    cat.SameAt (cat.removeContainer n) c where
  get?_eq := get?_removeContainer n c
  scopes_eq := by
    apply Std.ExtTreeSet.ext_mem
    intro s
    rw [mem_scopes_removeContainer]
    exact and_iff_left_of_imp fun hs hbound => hc (hbound.1 ▸ hs)

/-- Registering a type leaves a class alone that is in none of the type's containers, or that has
    another key there. -/
private theorem Coherent.sameAt_register (h : cat.Coherent) {s : Scope} {t : ElementType}
    (hc : c ≠ t.className)
    (hfree : ∀ n u, s = .container n ∨ .container n ∈ cat.scopes t.className →
      .container n ∈ cat.scopes c → cat.get? c = some u → u.key ≠ t.key) :
    cat.SameAt (cat.register s t) c where
  get?_eq := by rw [get?_register, if_neg hc]
  scopes_eq := by
    apply Std.ExtTreeSet.ext_mem
    intro s'
    rw [h.mem_scopes_register hc]
    refine and_iff_left_of_imp fun hs' hdisplaced => ?_
    obtain ⟨hdocument, hor, u, hu, hkey⟩ := hdisplaced
    -- what is displaced is displaced in a container of the type, by its key
    cases s' with
    | document => exact hdocument rfl
    | container n => exact hfree n u (hor.imp_left Eq.symm) hs' hu hkey

/-- A registration puts one class into one scope. -/
private theorem mem_scopes_of_register {s s' : Scope} {t : ElementType}
    (h : s' ∈ (cat.register s t).scopes c) : s' ∈ cat.scopes c ∨ (c = t.className ∧ s' = s) := by
  rw [mem_scopes_register] at h
  split at h
  · next hc => exact h.symm.imp_right fun hs => ⟨hc, hs⟩
  · exact .inl h.1

end Catalog

/-! ## The scopes of a definition -/

/-- The scopes in which a definition registers its classes: its own one in the project, the nested
    ones in the document, and all of them in the body. -/
inductive Definition.Reaches (d : Definition) : ClassName → Scope → Prop where
  | project {p : NodeId} : d.project? = some p → Reaches d d.type.className (.container p)
  | document {c : ClassName} : c ∈ d.type.nested.values → Reaches d c .document
  | body {c : ClassName} {b : NodeId} : c ∈ d.classes → d.body? = some b →
      Reaches d c (.container b)

/-- A class that a definition does not meet when it takes the place of old classes: it is none of
    the classes involved, it is not in the body, and in the project it has another key. -/
structure Definition.Misses (d : Definition) (old : List ClassName) (cat : Catalog)
    (c : ClassName) : Prop where
  not_mem : c ∉ d.classes
  not_old : c ∉ old
  body : ∀ b, d.body? = some b → .container b ∉ cat.scopes c
  project : ∀ p u, d.project? = some p → .container p ∈ cat.scopes c → cat.get? c = some u →
    u.key ≠ d.type.key

namespace Catalog

/-- What a definition changed between two catalogues is confined to its classes, to the scopes that
    it reaches and to what it meets there. -/
structure Confined (cat : Catalog) (d : Definition) (old : List ClassName) (cat' : Catalog) :
    Prop where
  coherent : cat'.Coherent
  reaches : ∀ c ∈ d.classes, ∀ s ∈ cat'.scopes c, d.Reaches c s
  same : ∀ c, d.Misses old cat c → cat.SameAt cat' c

variable {cat cat' : Catalog} {d : Definition} {old : List ClassName}

theorem Confined.refl (h : cat.Coherent)
    (hreaches : ∀ c ∈ d.classes, ∀ s ∈ cat.scopes c, d.Reaches c s) : cat.Confined d old cat :=
  ⟨h, hreaches, fun c _ => .refl cat c⟩

/-- One registration of a class in a scope that the definition reaches. Its own class comes with its
    own key. -/
theorem Confined.register (h : cat.Confined d old cat') {s : Scope} {t : ElementType}
    (ht : t.className ∈ d.classes) (hs : d.Reaches t.className s)
    (hkey : t.className = d.type.className → t.key = d.type.key) :
    cat.Confined d old (cat'.register s t) where
  coherent := h.coherent.register s t
  reaches c hc s' hs' := by
    -- a scope of before, or the one that is registered in
    rcases mem_scopes_of_register hs' with hs' | ⟨rfl, rfl⟩
    · exact h.reaches c hc s' hs'
    · exact hs
  same c hc := by
    have hsame := h.same c hc
    refine hsame.trans (h.coherent.sameAt_register (fun heq => hc.not_mem (heq ▸ ht)) ?_)
    intro n u hor hmem hu
    rw [hsame.scopes_eq] at hmem
    rw [hsame.get?_eq] at hu
    -- the type is registered only where the definition reaches
    have hreach : d.Reaches t.className (.container n) :=
      hor.elim (fun heq => heq ▸ hs) (h.reaches _ ht _)
    generalize hclass : t.className = c' at hreach
    generalize hscope : Scope.container n = s' at hreach
    cases hreach with
    | project hp =>
      -- in the project the class that is missed has another key
      rw [hkey hclass]
      exact hc.project n u (Scope.container.inj hscope ▸ hp) hmem hu
    | document => exact nomatch hscope
    | body _ hb => exact absurd hmem (hc.body n (Scope.container.inj hscope ▸ hb))

theorem Confined.unregisterAll (h : cat.Confined d old cat') {cs : List ClassName}
    (hcs : ∀ c ∈ cs, c ∈ old) : cat.Confined d old (cat'.unregisterAll cs) where
  coherent := h.coherent.unregisterAll cs
  reaches c hc s hs := by
    rw [scopes_unregisterAll] at hs
    split at hs
    · simp at hs
    · exact h.reaches c hc s hs
  same c hc := (h.same c hc).trans (cat'.sameAt_unregisterAll fun hmem => hc.not_old (hcs c hmem))

/-! ## The parts of defining -/

theorem Confined.registerElements (h : cat.Confined d old cat')
    {template? : Option ElementType} {elements : List (NodeId × String)}
    (hnested : ∀ e ∈ elements,
      (cat'.seed? template? (d.type.className.nested e.2)).isSome = true →
        d.type.className.nested e.2 ∈ d.type.nested.values) :
    cat.Confined d old (cat'.registerElements template? d.type.className elements).2 := by
  -- the elements that have a seed stay the same on the way
  refine (registerElements_invariant (P := fun cat' => cat.Confined d old cat' ∧
    ∀ e ∈ elements, (cat'.seed? template? (d.type.className.nested e.2)).isSome = true →
      d.type.className.nested e.2 ∈ d.type.nested.values) ?_ (∅, cat') ⟨h, hnested⟩).1
  rintro cat' e t he ht ⟨h, hnested⟩
  have hmem := hnested e he (by rw [ht, Option.isSome_some])
  refine ⟨h.register (List.mem_cons_of_mem _ hmem) (.document hmem) ?_, fun e' he' hseed' => ?_⟩
  · exact fun heq => absurd heq (ClassName.nested_ne _ _)
  · exact hnested e' he' ((isSome_seed?_register ht _).symm.trans hseed')

/-- The type itself in the project or in the body. -/
theorem Confined.registerInside (h : cat.Confined d old cat') {container? : Option NodeId}
    (hcontainer : ∀ n, container? = some n → d.Reaches d.type.className (.container n)) :
    cat.Confined d old (cat'.registerInside container? d.type) := by
  cases container? with
  | none => exact h
  | some n => exact h.register List.mem_cons_self (hcontainer n rfl) fun _ => rfl

/-- The nested types in the body. -/
theorem Confined.registerClassesInside (h : cat.Confined d old cat') {cs : List ClassName}
    (hcs : ∀ c ∈ cs, c ∈ d.type.nested.values) (hown : d.type.className ∉ d.type.nested.values) :
    cat.Confined d old (cat'.registerClassesInside d.body? cs) := by
  refine registerClassesInside_invariant (P := fun cat' => cat.Confined d old cat') ?_ h
  intro cat' c u hc hu h
  obtain rfl := h.coherent.className_eq c u hu
  cases hb : d.body? with
  | none => exact h
  | some b =>
    -- a nested class is not the own one, so no key is asked of it
    have hmem := List.mem_cons_of_mem d.type.className (hcs _ hc)
    exact h.register hmem (.body hmem hb) fun heq => absurd (heq ▸ hcs _ hc) hown

theorem Confined.placeOutside (h : cat.Confined d old cat') :
    cat.Confined d old (cat'.placeOutside d.project? d.type old) :=
  (h.registerInside fun _ hp => .project hp).unregisterAll fun _ hc => (List.mem_filter.1 hc).1

theorem Confined.placeInside (h : cat.Confined d old cat')
    (hown : d.type.className ∉ d.type.nested.values) :
    cat.Confined d old (cat'.placeInside d.body? d.type) :=
  (h.registerInside fun _ hb => .body List.mem_cons_self hb).registerClassesInside
    (fun _ hc => hc) hown

/-- Registering the elements of a definition and placing its type is confined to the definition. -/
theorem Confined.place (h : cat.Confined d old cat) {template? : Option ElementType}
    {elements : List (NodeId × String)}
    (ht : (cat.registerElements template? d.type.className elements).1 = d.type.nested) :
    cat.Confined d old
      (((cat.registerElements template? d.type.className elements).2.placeOutside d.project? d.type
        old).placeInside d.body? d.type) := by
  have hown := (cat.storesNested_registerElements template? ht).className_not_mem
  have helements := h.registerElements fun e he hseed => nested_mem_values ht he hseed
  exact helements.placeOutside.placeInside hown

end Catalog

end MacroTypes
