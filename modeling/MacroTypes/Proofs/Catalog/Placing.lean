import MacroTypes.Proofs.Catalog.Elements

/-!
# Placing a type

Once the types of its elements are in the document, the type of a declaration is placed: in the
project, where classes that are not nested in it any more leave the catalogue (`placeOutside`), and
with its nested types in the body (`placeInside`).

Whatever the catalogue was like, a body is `Furnished` after the type was placed in it
(`Coherent.furnished_placeInside`), and in a furnished body placing the type again changes nothing
(`Furnished.placeInside_eq`).
-/

namespace MacroTypes.Catalog

/-- Registers a type in a project, if there is one, and removes those of some old classes that are
    not nested in the type. -/
def placeOutside (cat : Catalog) (project? : Option NodeId) (t : ElementType)
    (old : List ClassName) : Catalog :=
  (cat.registerInside project? t).unregisterAll (old.filter (· ∉ t.nested.values))

/-- Registers a type and its nested types in a body, if there is one. -/
def placeInside (cat : Catalog) (body? : Option NodeId) (t : ElementType) : Catalog :=
  (cat.registerInside body? t).registerClassesInside body? t.nested.values

/-- The nested classes of a type are stored under the names that they have in the type, and the type
    is not nested in itself. -/
structure StoresNested (cat : Catalog) (t : ElementType) : Prop where
  className_not_mem : t.className ∉ t.nested.values
  get?_nested : ∀ (k : QName) (c : ClassName), t.nested[k]? = some c →
    ∃ u, cat.get? c = some u ∧ u.key = k

/-- A body in which a type and its nested types are registered, the type itself only if none of them
    has its key. -/
structure Furnished (cat : Catalog) (b : NodeId) (t : ElementType) : Prop where
  get?_own : cat.get? t.className = some t
  own : .container b ∈ cat.scopes t.className ↔ t.key ∉ t.nested
  nested : ∀ c ∈ t.nested.values, .container b ∈ cat.scopes c

variable {cat : Catalog} {t : ElementType}

/-! ## The stored types -/

theorem get?_placeOutside (cat : Catalog) (project? : Option NodeId) (t : ElementType)
    (old : List ClassName) (c : ClassName) :
    (cat.placeOutside project? t old).get? c =
      if c ∈ old ∧ c ∉ t.nested.values then none
      else if project?.isSome ∧ c = t.className then some t else cat.get? c := by
  rw [placeOutside, get?_unregisterAll, get?_registerInside]
  simp only [List.mem_filter, decide_eq_true_eq]

theorem Coherent.get?_placeInside (h : cat.Coherent) (body? : Option NodeId) (t : ElementType)
    (c : ClassName) :
    (cat.placeInside body? t).get? c =
      if body?.isSome ∧ c = t.className then some t else cat.get? c := by
  rw [placeInside, (h.registerInside body? t).get?_registerClassesInside, get?_registerInside]

theorem Coherent.placeOutside (h : cat.Coherent) (project? : Option NodeId) (t : ElementType)
    (old : List ClassName) : (cat.placeOutside project? t old).Coherent :=
  (h.registerInside project? t).unregisterAll _

theorem Coherent.placeInside (h : cat.Coherent) (body? : Option NodeId) (t : ElementType) :
    (cat.placeInside body? t).Coherent :=
  (h.registerInside body? t).registerClassesInside body? _

theorem placeInside_none (cat : Catalog) (t : ElementType) : cat.placeInside none t = cat :=
  registerClassesInside_none _ _

/-- Placing leaves nested types as they are. -/
theorem StoresNested.of_get?_eq (h : cat.StoresNested t) {cat' : Catalog}
    (hget : ∀ c ∈ t.nested.values, cat'.get? c = cat.get? c) : cat'.StoresNested t where
  className_not_mem := h.className_not_mem
  get?_nested k c hk := by
    rw [hget c (Std.ExtTreeMap.mem_values.2 ⟨k, hk⟩)]
    exact h.get?_nested k c hk

theorem StoresNested.placeOutside (h : cat.StoresNested t) (project? : Option NodeId)
    (old : List ClassName) : (cat.placeOutside project? t old).StoresNested t := by
  apply h.of_get?_eq
  intro c hc
  have hne : c ≠ t.className := fun heq => h.className_not_mem (heq ▸ hc)
  rw [get?_placeOutside, if_neg fun hstale => hstale.2 hc, if_neg fun hown => hne hown.2]

theorem StoresNested.placeInside (h : cat.StoresNested t) (hcat : cat.Coherent)
    (body? : Option NodeId) : (cat.placeInside body? t).StoresNested t := by
  apply h.of_get?_eq
  intro c hc
  have hne : c ≠ t.className := fun heq => h.className_not_mem (heq ▸ hc)
  rw [hcat.get?_placeInside, if_neg fun hown => hne hown.2]

theorem StoresNested.register (h : cat.StoresNested t) (s : Scope) :
    (cat.register s t).StoresNested t := by
  apply h.of_get?_eq
  intro c hc
  have hne : c ≠ t.className := fun heq => h.className_not_mem (heq ▸ hc)
  rw [get?_register, if_neg hne]

/-- Nested classes of one key are the same. -/
theorem StoresNested.eq_of_key_eq (h : cat.StoresNested t) {c c' : ClassName}
    (hc : c ∈ t.nested.values) (hc' : c' ∈ t.nested.values) {u u' : ElementType}
    (hu : cat.get? c = some u) (hu' : cat.get? c' = some u') (hkey : u.key = u'.key) : c = c' := by
  obtain ⟨k, hk⟩ := Std.ExtTreeMap.mem_values.1 hc
  obtain ⟨k', hk'⟩ := Std.ExtTreeMap.mem_values.1 hc'
  obtain ⟨v, hv, rfl⟩ := h.get?_nested k c hk
  obtain ⟨v', hv', rfl⟩ := h.get?_nested k' c' hk'
  -- both are nested under the key that they are stored with
  rw [← Option.some.inj (hv.symm.trans hu), ← Option.some.inj (hv'.symm.trans hu')] at hkey
  rw [hkey] at hk
  exact Option.some.inj (hk.symm.trans hk')

/-- A nested type has the key of a stored type exactly if the key is that of a nested element. -/
private theorem StoresNested.sharesKey_iff (h : cat.StoresNested t) {c : ClassName}
    {u : ElementType} (hu : cat.get? c = some u) :
    cat.SharesKey t.nested.values c ↔ u.key ∈ t.nested := by
  rw [Std.ExtTreeMap.mem_iff_isSome_getElem?, Option.isSome_iff_exists]
  constructor
  · intro hshares
    -- the nested type is stored under its own key, which is that of the other type
    obtain ⟨d, hd, v, u', hv, hu', hkey⟩ := hshares
    obtain ⟨k, hk⟩ := Std.ExtTreeMap.mem_values.1 hd
    obtain ⟨v', hv', rfl⟩ := h.get?_nested k d hk
    rw [← Option.some.inj (hu'.symm.trans hu), hkey, Option.some.inj (hv.symm.trans hv')]
    exact ⟨d, hk⟩
  · intro hex
    obtain ⟨d, hd⟩ := hex
    obtain ⟨v, hv, hkey⟩ := h.get?_nested u.key d hd
    exact ⟨d, Std.ExtTreeMap.mem_values.2 ⟨u.key, hd⟩, v, u, hv, hu, hkey.symm⟩

/-! ## The document -/

private theorem document_mem_scopes_registerInside (container? : Option NodeId) {c : ClassName}
    (h : .document ∈ cat.scopes c) : .document ∈ (cat.registerInside container? t).scopes c := by
  cases container? with
  | none => exact h
  | some n => exact document_mem_scopes_register h

private theorem document_mem_scopes_placeOutside {project? : Option NodeId} {old : List ClassName}
    {c : ClassName} (hc : c ∈ t.nested.values) (h : .document ∈ cat.scopes c) :
    .document ∈ (cat.placeOutside project? t old).scopes c := by
  rw [placeOutside, scopes_unregisterAll, if_neg (by simp [hc])]
  exact document_mem_scopes_registerInside project? h

private theorem document_mem_scopes_placeInside {body? : Option NodeId} {c : ClassName}
    (h : .document ∈ cat.scopes c) : .document ∈ (cat.placeInside body? t).scopes c := by
  have hown := document_mem_scopes_registerInside (t := t) body? h
  exact registerClassesInside_invariant (P := fun cat => .document ∈ cat.scopes c)
    (fun _ _ h => document_mem_scopes_registerInside body? h) hown

/-! ## The scopes inside a body -/

/-- Nested types gain the body, and each takes it from the class that had its key there. -/
private theorem Coherent.mem_scopes_placeInside (h : cat.Coherent) (hn : cat.StoresNested t)
    {b : NodeId} {s : Scope} {c : ClassName} :
    s ∈ (cat.placeInside (some b) t).scopes c ↔
      if c ∈ t.nested.values then
        s = .container b ∨ s ∈ (cat.register (.container b) t).scopes c
      else s ∈ (cat.register (.container b) t).scopes c ∧
        ¬ (s = .container b ∧ (cat.register (.container b) t).SharesKey t.nested.values c) := by
  -- registering the type itself leaves the nested types as they are
  have hn' := hn.register (.container b)
  rw [Catalog.placeInside, registerInside_some,
    (h.register _ t).mem_scopes_registerClassesInside fun d hd d' hd' u u' =>
      hn'.eq_of_key_eq hd hd']
  -- nested types are stored
  have hstored : c ∈ t.nested.values →
      (cat.register (.container b) t).contains c = true := by
    intro hc
    obtain ⟨k, hk⟩ := Std.ExtTreeMap.mem_values.1 hc
    obtain ⟨u, hu, -⟩ := hn'.get?_nested k c hk
    rw [contains_eq_isSome, hu, Option.isSome_some]
  by_cases hc : c ∈ t.nested.values
  · rw [if_pos ⟨hc, hstored hc⟩, if_pos hc]
  · rw [if_neg fun hand => hc hand.1, if_neg hc]

/-- The type keeps its scopes and gains the body, unless a nested type has its key. -/
theorem Coherent.mem_scopes_placeInside_own (h : cat.Coherent) (hn : cat.StoresNested t)
    {b : NodeId} {s : Scope} :
    s ∈ (cat.placeInside (some b) t).scopes t.className ↔
      (s = .container b ∨ s ∈ cat.scopes t.className) ∧
        ¬ (s = .container b ∧ t.key ∈ t.nested) := by
  have hget : (cat.register (.container b) t).get? t.className = some t := by
    rw [get?_register, if_pos rfl]
  rw [h.mem_scopes_placeInside hn, if_neg hn.className_not_mem, Catalog.mem_scopes_register,
    if_pos rfl, (hn.register (.container b)).sharesKey_iff hget]

/-- Outside of the body no class gains or loses a scope, as long as the class of the type keeps its
    key. -/
theorem Coherent.mem_scopes_placeInside_of_ne (h : cat.Coherent) (hn : cat.StoresNested t)
    (hkey : ∀ u, cat.get? t.className = some u → u.key = t.key) {b : NodeId} {s : Scope}
    (hs : s ≠ .container b) {c : ClassName} :
    s ∈ (cat.placeInside (some b) t).scopes c ↔ s ∈ cat.scopes c := by
  have hregister : s ∈ (cat.register (.container b) t).scopes c ↔ s ∈ cat.scopes c := by
    rw [h.mem_scopes_register_of_key hkey]
    simp [hs]
  rw [h.mem_scopes_placeInside hn, hregister]
  simp [hs]

/-- A class that is neither that of the type nor nested gains no scope. -/
theorem Coherent.mem_scopes_of_placeInside (h : cat.Coherent) (hn : cat.StoresNested t)
    {b : NodeId} {s : Scope} {c : ClassName} (hown : c ≠ t.className) (hc : c ∉ t.nested.values)
    (hs : s ∈ (cat.placeInside (some b) t).scopes c) : s ∈ cat.scopes c := by
  rw [h.mem_scopes_placeInside hn, if_neg hc, Catalog.mem_scopes_register, if_neg hown] at hs
  exact hs.1.1

/-- After a type was placed in it, a body is furnished. -/
theorem Coherent.furnished_placeInside (h : cat.Coherent) (hn : cat.StoresNested t) (b : NodeId) :
    (cat.placeInside (some b) t).Furnished b t where
  get?_own := by rw [h.get?_placeInside, if_pos ⟨rfl, rfl⟩]
  own := by rw [h.mem_scopes_placeInside_own hn]; simp
  nested c hc := by
    rw [h.mem_scopes_placeInside hn, if_pos hc]
    exact .inl rfl

/-- In a furnished body no other class has the key of the type or of a nested type. -/
private theorem Furnished.mem_of_key {b : NodeId} (hf : cat.Furnished b t) (h : cat.Coherent)
    (hn : cat.StoresNested t) {c : ClassName} {u : ElementType}
    (hc : .container b ∈ cat.scopes c) (hu : cat.get? c = some u)
    (hkey : u.key = t.key ∨ u.key ∈ t.nested) : c = t.className ∨ c ∈ t.nested.values := by
  have hlookup := (h.lookup_iff b u.key c).2 ⟨hc, u, hu, rfl⟩
  by_cases hmem : u.key ∈ t.nested
  · -- the nested type of that key is bound in the body
    rw [Std.ExtTreeMap.mem_iff_isSome_getElem?, Option.isSome_iff_exists] at hmem
    obtain ⟨d, hd⟩ := hmem
    obtain ⟨v, hv, hvkey⟩ := hn.get?_nested u.key d hd
    have hdmem := Std.ExtTreeMap.mem_values.2 ⟨u.key, hd⟩
    have hdlookup := (h.lookup_iff b u.key d).2 ⟨hf.nested d hdmem, v, hv, hvkey⟩
    exact .inr (Option.some.inj (hdlookup.symm.trans hlookup) ▸ hdmem)
  · -- no nested type has the key, so the type itself is bound in the body
    have hown := hkey.resolve_right hmem
    have howns := hf.own.2 (hown ▸ hmem)
    have hownlookup := (h.lookup_iff b u.key t.className).2 ⟨howns, t, hf.get?_own, hown.symm⟩
    exact .inl (Option.some.inj (hlookup.symm.trans hownlookup))

/-! ## Placing again -/

/-- Placing a type in a furnished body changes nothing, though the type displaces for a moment the
    nested type that has its key. -/
theorem Furnished.placeInside_eq {b : NodeId} (hf : cat.Furnished b t) (h : cat.Coherent)
    (hn : cat.StoresNested t) : cat.placeInside (some b) t = cat := by
  refine (h.placeInside _ t).ext h (fun c => ?_) fun c s => ?_
  · -- the stored types: that of the class is the type already
    rw [h.get?_placeInside]
    split
    · next hc => rw [hc.2, hf.get?_own]
    · rfl
  · by_cases hown : c = t.className
    · -- the type itself is in the body before and after, unless a nested type has its key
      subst hown
      rw [h.mem_scopes_placeInside_own hn]
      by_cases hs : s = .container b
      · subst hs
        simpa using hf.own.symm
      · simp [hs]
    · rw [h.mem_scopes_placeInside hn, h.mem_scopes_register_self hf.get?_own, if_neg hown]
      split
      · next hc =>
        -- a nested type is in the body before and after
        by_cases hs : s = .container b
        · subst hs
          simpa using hf.nested c hc
        · simp [hs]
      · next hc =>
        refine ⟨fun hand => hand.1.1, fun hmem => ?_⟩
        -- any other class in the body has a key of its own
        have hfree : s = .container b → ¬ ∃ u, cat.get? c = some u ∧
            (u.key = t.key ∨ u.key ∈ t.nested) := by
          rintro rfl ⟨u, hu, hkey⟩
          exact (hf.mem_of_key h hn hmem hu hkey).elim hown hc
        refine ⟨⟨hmem, fun hand => hfree hand.1 ?_⟩, fun hand => hfree hand.1 ?_⟩
        · obtain ⟨-, u, hu, hkey⟩ := hand
          exact ⟨u, hu, .inl hkey⟩
        · obtain ⟨-, hshares⟩ := hand
          have ⟨_, _, _, u, _, hu, _⟩ := hshares
          have hkey := ((hn.register _).sharesKey_iff hu).1 hshares
          rw [get?_register, if_neg hown] at hu
          exact ⟨u, hu, .inr hkey⟩

/-! ## Placing after the elements -/

/-- The classes of registered elements are stored under their names. -/
theorem storesNested_registerElements (cat : Catalog) (template? : Option ElementType)
    {elements : List (NodeId × String)}
    (ht : (cat.registerElements template? t.className elements).1 = t.nested) :
    (cat.registerElements template? t.className elements).2.StoresNested t where
  className_not_mem hmem := by
    obtain ⟨k, hk⟩ := Std.ExtTreeMap.mem_values.1 hmem
    rw [← ht, getElem?_fst_registerElements] at hk
    obtain ⟨e, -, -, hc, -⟩ := hk
    exact ClassName.nested_ne _ _ hc.symm
  get?_nested k c hk := by
    rw [← ht, getElem?_fst_registerElements] at hk
    obtain ⟨e, he, rfl, rfl, hseed⟩ := hk
    have hdeclares := cat.declares_registerElements template? t.className elements
    exact hdeclares.exists_key he (by rwa [isSome_seed?_registerElements])

section Elements

variable {template? : Option ElementType} {elements : List (NodeId × String)}

/-- An element with a seed is nested in the type. -/
theorem nested_mem_values (ht : (cat.registerElements template? t.className elements).1 = t.nested)
    {e : NodeId × String} (he : e ∈ elements)
    (hseed : (cat.seed? template? (t.className.nested e.2)).isSome = true) :
    t.className.nested e.2 ∈ t.nested.values := by
  rw [Std.ExtTreeMap.mem_values, ← ht]
  exact ⟨_, (getElem?_fst_registerElements _ _ _ _ _ _).2 ⟨e, he, rfl, rfl, hseed⟩⟩

/-- Placing the type changes the type of no element: one without a seed is not stored, and one with
    a seed is nested in the type. -/
theorem Coherent.get?_place_nested (h : cat.Coherent)
    (ht : (cat.registerElements template? t.className elements).1 = t.nested)
    (project? body? : Option NodeId) (old : List ClassName) {e : NodeId × String}
    (he : e ∈ elements) :
    ((cat.placeOutside project? t old).placeInside body? t).get? (t.className.nested e.2) =
      cat.get? (t.className.nested e.2) := by
  have hne := ClassName.nested_ne t.className e.2
  rw [(h.placeOutside project? t old).get?_placeInside, get?_placeOutside,
    if_neg fun hown => hne hown.2, if_neg (c := _ ∧ _ = _) fun hown => hne hown.2]
  split
  · next hstale =>
    -- an old class that is not nested any more has no seed, so nothing is stored there
    have hnone : cat.seed? template? (t.className.nested e.2) = none := by
      rw [← Option.not_isSome_iff_eq_none]
      exact fun hseed => hstale.2 (nested_mem_values ht he hseed)
    exact (Option.or_eq_none_iff.1 hnone).1.symm
  · rfl

/-- Under another class than that of the type and the nested ones the stored type stays, unless the
    class is an old one. -/
theorem Coherent.get?_place_of_not_mem (h : cat.Coherent)
    (ht : (cat.registerElements template? t.className elements).1 = t.nested)
    (project? body? : Option NodeId) (old : List ClassName) {c : ClassName}
    (hne : c ≠ t.className) (hc : c ∉ t.nested.values) :
    (((cat.registerElements template? t.className elements).2.placeOutside project? t
      old).placeInside body? t).get? c = if c ∈ old then none else cat.get? c := by
  have hcat := h.registerElements template? t.className elements
  have hget : (cat.registerElements template? t.className elements).2.get? c = cat.get? c :=
    get?_registerElements_of_not_mem (ht ▸ hc)
  rw [(hcat.placeOutside project? t old).get?_placeInside, get?_placeOutside,
    if_neg fun hown => hne hown.2, if_neg (c := _ ∧ _ = _) fun hown => hne hown.2, hget]
  simp only [hc, not_false_eq_true, and_true]

/-- Without a place nothing new is stored under the class of the type. -/
theorem get?_place_own_of_none
    (ht : (cat.registerElements template? t.className elements).1 = t.nested)
    (old : List ClassName) {u : ElementType}
    (hu : (((cat.registerElements template? t.className elements).2.placeOutside none t
      old).placeInside none t).get? t.className = some u) : cat.get? t.className = some u := by
  have hstores := cat.storesNested_registerElements template? ht
  rw [placeInside_none, get?_placeOutside] at hu
  split at hu
  · exact nomatch hu
  · have hget : (cat.registerElements template? t.className elements).2.get? t.className =
        cat.get? t.className :=
      get?_registerElements_of_not_mem (ht ▸ hstores.className_not_mem)
    -- neither the elements nor the missing project touch the class
    rw [← hget]
    simpa using hu

/-- So the elements are registered as before. -/
theorem Declares.place (hd : cat.Declares template? t.className elements) (h : cat.Coherent)
    (ht : (cat.registerElements template? t.className elements).1 = t.nested)
    (project? body? : Option NodeId) (old : List ClassName) :
    ((cat.placeOutside project? t old).placeInside body? t).Declares template? t.className
      elements := by
  refine hd.of_get?_eq (fun e he => h.get?_place_nested ht _ _ _ he) fun e he hseed hdoc => ?_
  apply document_mem_scopes_placeInside
  exact document_mem_scopes_placeOutside (nested_mem_values ht he hseed) hdoc

end Elements

end MacroTypes.Catalog
