import MacroTypes.Proofs.Catalog.Frames
import MacroTypes.Proofs.ClassName.Families
import MacroTypes.Proofs.Document.Clearing

/-!
# Declarations that do not disturb each other

In an isolated document every class is registered only where its definition reaches, and the body of
a node is neither a body nor a project of another one (`Isolated`). Releasing, forgetting or
defining one node then leaves the classes of what is held for the others as they are, their types
and their scopes (`Owned.sameAt_release`, `Isolated.sameAt_forget`, `Isolated.sameAt_define`).

An update does not get in the way of others if it is made under a name of its own (`NamesDiffer`)
and generates none of their classes by way of a name that continues the other (`Unmixed`).
-/

namespace MacroTypes

/-- A definition as a declaration of this kind makes it: the class is that of the name, and the
    other classes are nested in it. -/
structure Definition.Declared (d : Definition) (kind : String) : Prop where
  className_eq : d.type.className = .ofDeclaration kind d.type.key.name
  exists_nested : ∀ c ∈ d.type.nested.values, ∃ x, c = d.type.className.nested x

/-- The classes of a definition are in the family of its name. -/
private theorem Definition.Declared.owns {d : Definition} {kind : String} (h : d.Declared kind)
    {c : ClassName} (hc : c ∈ d.classes) :
    (ClassName.ofDeclaration kind d.type.key.name).Owns c := by
  rw [← h.className_eq]
  rcases List.mem_cons.1 hc with rfl | hc
  · exact .inl rfl
  · exact .inr (h.exists_nested c hc)

theorem Definition.Declared.own_not_nested {d : Definition} {kind : String} (h : d.Declared kind) :
    d.type.className ∉ d.type.nested.values := by
  intro hmem
  obtain ⟨x, hx⟩ := h.exists_nested _ hmem
  exact ClassName.nested_ne _ x hx.symm

/-- The body of one definition is neither the body nor the project of the other. -/
structure Definition.Aside (d e : Definition) : Prop where
  body_ne_body : ∀ x, d.body? = some x → e.body? ≠ some x
  body_ne_project : ∀ x, d.body? = some x → e.project? ≠ some x

/-- So the other one does not reach into the body. -/
private theorem Definition.Aside.not_reaches {d e : Definition} (h : d.Aside e) {x : NodeId}
    (hx : d.body? = some x) {c : ClassName} : ¬ e.Reaches c (.container x) := by
  intro hreach
  generalize hs : Scope.container x = s at hreach
  cases hreach with
  | project hp => exact h.body_ne_project x hx (Scope.container.inj hs ▸ hp)
  | document => exact nomatch hs
  | body _ hb => exact h.body_ne_body x hx (Scope.container.inj hs ▸ hb)

namespace Document

/-- A document that owns what it stores, in which definitions keep to their own scopes. -/
structure Isolated (doc : Document) : Prop extends doc.Owned where
  declared : ∀ (n : NodeId) (d : Definition), doc.held[n]? = some d → d.Declared doc.dialect.kind
  reaches : ∀ (n : NodeId) (d : Definition), doc.held[n]? = some d →
    ∀ c ∈ d.classes, ∀ s ∈ doc.catalog.scopes c, d.Reaches c s
  aside : ∀ (m n : NodeId) (d e : Definition), m ≠ n → doc.held[m]? = some d →
    doc.held[n]? = some e → d.Aside e

variable {doc : Document}

theorem isolated_empty (hcatalog : doc.catalog = ∅) (hheld : doc.held = ∅) : doc.Isolated where
  toOwned := owned_empty hcatalog hheld
  declared n d hd := by simp [hheld] at hd
  reaches n d hd := by simp [hheld] at hd
  aside m n d e _ hd := by simp [hheld] at hd

theorem Isolated.withTemplate (h : doc.Isolated) (template? : Option ElementType) :
    (doc.withTemplate template?).Isolated :=
  ⟨h.toOwned.withTemplate template?, h.declared, h.reaches, h.aside⟩

/-! ## Releasing and forgetting -/

/-- A release leaves the classes of what is held for other nodes alone. -/
theorem Owned.sameAt_release (h : doc.Owned) {m n : NodeId} (hne : m ≠ n) {d : Definition}
    (hd : doc.held[m]? = some d) {c : ClassName} (hc : c ∈ d.classes) :
    doc.catalog.SameAt (doc.release n).catalog c := by
  have hkept : c ∉ doc.classesAt n := by
    intro hmem
    obtain ⟨e, he, hce⟩ := h.mem_classesAt.1 hmem
    exact h.disjoint m n d e hne hd he c hc hce
  exact doc.catalog.sameAt_unregisterAll hkept

theorem Isolated.release (h : doc.Isolated) (n : NodeId) : (doc.release n).Isolated where
  toOwned := h.toOwned.release n
  declared m d hd := h.declared m d (Std.ExtTreeMap.getElem?_of_getElem?_erase hd)
  reaches m d hd c hc s hs := by
    rw [scopes_release] at hs
    split at hs
    · simp at hs
    · exact h.reaches m d (Std.ExtTreeMap.getElem?_of_getElem?_erase hd) c hc s hs
  aside m k d e hne hd he :=
    h.aside m k d e hne (Std.ExtTreeMap.getElem?_of_getElem?_erase hd)
      (Std.ExtTreeMap.getElem?_of_getElem?_erase he)

/-- Emptying a container takes scopes away and leaves the types. -/
theorem Isolated.emptied (h : doc.Isolated) (b : NodeId) : (doc.emptied b).Isolated where
  toOwned := h.toOwned.emptied b
  declared := h.declared
  reaches n d hd c hc s hs := h.reaches n d hd c hc s (Catalog.mem_scopes_removeContainer.1 hs).1
  aside := h.aside

theorem Isolated.forget (h : doc.Isolated) (n : NodeId) : (doc.forget n).Isolated :=
  forget_cases (P := Isolated) (h.release n) fun _ b _ _ => (h.release n).emptied b

/-- Forgetting a node leaves the classes of what is held for other nodes alone. -/
theorem Isolated.sameAt_forget (h : doc.Isolated) {m n : NodeId} (hne : m ≠ n) {d : Definition}
    (hd : doc.held[m]? = some d) {c : ClassName} (hc : c ∈ d.classes) :
    doc.catalog.SameAt (doc.forget n).catalog c := by
  have hrelease := h.toOwned.sameAt_release hne hd hc
  refine forget_cases (P := fun doc' => doc.catalog.SameAt doc'.catalog c) hrelease
    fun e b he hb => ?_
  -- no class of another node is in the body
  refine hrelease.trans (Catalog.sameAt_removeContainer fun hmem => ?_)
  rw [hrelease.scopes_eq] at hmem
  exact (h.aside n m e d hne.symm he hd).not_reaches hb (h.reaches m d hd c hc _ hmem)

/-! ## Defining -/

theorem Isolated.releaseStale (h : doc.Isolated) (decl : Declaration) :
    (doc.releaseStale decl).2.Isolated :=
  snd_releaseStale_cases (P := Isolated) h (h.release decl.node)

private theorem Owned.sameAt_releaseStale (h : doc.Owned) {decl : Declaration} {m : NodeId}
    (hm : m ≠ decl.node) {d : Definition} (hd : doc.held[m]? = some d) {c : ClassName}
    (hc : c ∈ d.classes) : doc.catalog.SameAt (doc.releaseStale decl).2.catalog c :=
  snd_releaseStale_cases (P := fun doc' => doc.catalog.SameAt doc'.catalog c) (.refl _ c)
    (h.sameAt_release hm hd hc)

private theorem declared_defined (doc : Document) (decl : Declaration) :
    (doc.defined decl).Declared doc.dialect.kind where
  className_eq := rfl
  exists_nested c hc := by
    obtain ⟨k, hk⟩ := Std.ExtTreeMap.mem_values.1 hc
    obtain ⟨e, -, -, heq, -⟩ := (Catalog.getElem?_fst_registerElements _ _ _ _ _ _).1 hk
    exact ⟨e.2, heq⟩

/-- What a new definition takes over from an older one is where it belongs. -/
private theorem Isolated.reaches_kept (h : doc.Isolated) {decl : Declaration}
    (hclear : doc.Avoids decl.node (doc.defined decl).classes) :
    ∀ c ∈ (doc.defined decl).classes, ∀ s ∈ (doc.releaseStale decl).2.catalog.scopes c,
      (doc.defined decl).Reaches c s := by
  intro c hc s hs
  have hstale := h.releaseStale decl
  have hkept := h.toOwned.kept decl
  obtain ⟨u, hu⟩ := Catalog.exists_get?_of_mem_scopes hs
  obtain ⟨m, e, he, hce⟩ := hstale.exists_held c u hu
  -- a stored class of the definition is its own from before
  have hm : m = decl.node := by
    refine Decidable.byContradiction fun hne => ?_
    rw [doc.held_releaseStale_of_ne hne] at he
    exact hclear m e he hne c hc hce
  subst hm
  -- and the scopes of before are those of a declaration that did not move
  obtain ⟨hclass, hproject, hbody⟩ := hkept.fits e he
  rw [(doc.settings_releaseStale decl).1] at hclass
  have hreach := hstale.reaches _ e he c hce s hs
  cases hreach with
  | project hp =>
    rw [hclass]
    exact .project (hproject.symm.trans hp)
  | document hmem =>
    refine .document ((List.mem_cons.1 hc).resolve_left fun heq => ?_)
    rw [heq] at hmem
    exact (hstale.declared _ e he).own_not_nested (hclass ▸ hmem)
  | body _ hb => exact .body hc (hbody.symm.trans hb)

/-- What defining changes is confined to the definition. -/
private theorem Isolated.confined_define (h : doc.Isolated) {decl : Declaration}
    (hclear : doc.Avoids decl.node (doc.defined decl).classes) :
    (doc.releaseStale decl).2.catalog.Confined (doc.defined decl) (doc.releaseStale decl).1
      (doc.define decl).catalog := by
  have hrefl : (doc.releaseStale decl).2.catalog.Confined (doc.defined decl)
      (doc.releaseStale decl).1 (doc.releaseStale decl).2.catalog :=
    .refl (h.releaseStale decl).coherent (h.reaches_kept hclear)
  rw [catalog_define]
  rw [← made_releaseStale] at hrefl ⊢
  exact hrefl.place rfl

/-- A definition that generates no class of another one and is not in its way misses the classes of
    the other. -/
private theorem Isolated.misses (h : doc.Isolated) {decl : Declaration}
    (hclear : doc.Avoids decl.node (doc.defined decl).classes)
    {m : NodeId} (hm : m ≠ decl.node) {d : Definition} (hd : doc.held[m]? = some d)
    (haside : (doc.defined decl).Aside d ∧ d.Aside (doc.defined decl)) {c : ClassName}
    (hc : c ∈ d.classes) :
    (doc.defined decl).Misses (doc.releaseStale decl).1 (doc.releaseStale decl).2.catalog c where
  not_mem hmem := hclear m d hd hm c hmem hc
  not_old hold := by
    -- the old classes belong to what is held for the node itself
    obtain ⟨e, he, hce⟩ := ((h.toOwned.kept decl).mem_old_iff c).1 hold
    have hstale := h.releaseStale decl
    rw [← doc.held_releaseStale_of_ne hm] at hd
    exact hstale.disjoint m decl.node d e hm hd he c hc (List.mem_cons_of_mem _ hce)
  body b hb hmem := by
    -- no class of another definition was in the body
    rw [(h.toOwned.sameAt_releaseStale hm hd hc).scopes_eq] at hmem
    exact haside.1.not_reaches hb (h.reaches m d hd c hc _ hmem)
  project p u hp hmem hu hkey := by
    -- a class that has to leave the project would have the name of the new definition
    have hsame := h.toOwned.sameAt_releaseStale hm hd hc
    rw [hsame.scopes_eq] at hmem
    rw [hsame.get?_eq] at hu
    have hreach := h.reaches m d hd c hc _ hmem
    generalize hs : Scope.container p = s at hreach
    cases hreach with
    | project =>
      -- the class of a definition has the key of its type, and one key means one class
      rw [(h.own m d u hd hu).2] at hkey
      have hclass : (doc.defined decl).type.className = d.type.className := by
        rw [(h.declared m d hd).className_eq, hkey]
        rfl
      exact hclear m d hd hm _ List.mem_cons_self (hclass ▸ List.mem_cons_self)
    | document => exact nomatch hs
    | body _ hb => exact haside.2.body_ne_project p (Scope.container.inj hs ▸ hb) hp

/-- Defining a declaration leaves the classes of what is held for other nodes alone. -/
theorem Isolated.sameAt_define (h : doc.Isolated) {decl : Declaration}
    (hclear : doc.Avoids decl.node (doc.defined decl).classes)
    {m : NodeId} (hm : m ≠ decl.node) {d : Definition} (hd : doc.held[m]? = some d)
    (haside : (doc.defined decl).Aside d ∧ d.Aside (doc.defined decl)) {c : ClassName}
    (hc : c ∈ d.classes) : doc.catalog.SameAt (doc.define decl).catalog c :=
  (h.toOwned.sameAt_releaseStale hm hd hc).trans
    ((h.confined_define hclear).same c (h.misses hclear hm hd haside hc))

theorem Isolated.define (h : doc.Isolated) {decl : Declaration}
    (hclear : doc.Avoids decl.node (doc.defined decl).classes)
    (haside : ∀ m d, doc.held[m]? = some d → m ≠ decl.node →
      (doc.defined decl).Aside d ∧ d.Aside (doc.defined decl)) : (doc.define decl).Isolated where
  toOwned := h.toOwned.define hclear
  declared m d hd := by
    rw [(doc.settings_define decl).1]
    rcases held_define_cases hd with ⟨rfl, rfl⟩ | ⟨-, hd⟩
    · exact doc.declared_defined decl
    · exact h.declared m d hd
  reaches m d hd c hc s hs := by
    rcases held_define_cases hd with ⟨rfl, rfl⟩ | ⟨hm, hd⟩
    · exact (h.confined_define hclear).reaches c hc s hs
    · -- the classes of another definition have the scopes of before
      rw [(h.sameAt_define hclear hm hd (haside m d hd hm) hc).scopes_eq] at hs
      exact h.reaches m d hd c hc s hs
  aside m n d e hne hd he := by
    rcases held_define_cases hd with ⟨rfl, rfl⟩ | ⟨hm, hd⟩
    · rcases held_define_cases he with ⟨hn, -⟩ | ⟨hn, he⟩
      · exact absurd hn.symm hne
      · exact (haside n e he hn).1
    · rcases held_define_cases he with ⟨rfl, rfl⟩ | ⟨-, he⟩
      · exact (haside m d hd hm).2
      · exact h.aside m n d e hne hd he

/-! ## Names -/

/-- The node declares another name than those under which the definitions of other nodes were
    made. -/
def NamesDiffer (doc : Document) (t : Tree) (n : NodeId) : Prop :=
  ∀ decl ∈ t.declaration? doc.dialect n, ∀ (m : NodeId) (d : Definition),
    doc.held[m]? = some d → m ≠ n → d.type.key.name ≠ decl.name

instance (doc : Document) (t : Tree) (n : NodeId) : Decidable (doc.NamesDiffer t n) :=
  have := fun decl : Declaration => Std.ExtTreeMap.decidableForall doc.held
    fun m d => m ≠ n → d.type.key.name ≠ decl.name
  inferInstanceAs (Decidable (∀ decl ∈ t.declaration? doc.dialect n,
    ∀ (m : NodeId) (d : Definition), doc.held[m]? = some d → m ≠ n → d.type.key.name ≠ decl.name))

/-- Where the declared name continues the name of another node's definition, or the other way round,
    an update generates no class of that definition. -/
def Unmixed (doc : Document) (t : Tree) (n : NodeId) : Prop :=
  ∀ decl ∈ t.declaration? doc.dialect n, ∀ (m : NodeId) (d : Definition),
    doc.held[m]? = some d → m ≠ n →
      ClassName.Continues d.type.key.name decl.name ∨
        ClassName.Continues decl.name d.type.key.name →
      ∀ c ∈ (doc.defined decl).classes, c ∉ d.classes

instance (doc : Document) (t : Tree) (n : NodeId) : Decidable (doc.Unmixed t n) :=
  have := fun decl : Declaration => Std.ExtTreeMap.decidableForall doc.held fun m d => m ≠ n →
    ClassName.Continues d.type.key.name decl.name ∨
      ClassName.Continues decl.name d.type.key.name →
    ∀ c ∈ (doc.defined decl).classes, c ∉ d.classes
  inferInstanceAs (Decidable (∀ decl ∈ t.declaration? doc.dialect n,
    ∀ (m : NodeId) (d : Definition), doc.held[m]? = some d → m ≠ n →
      ClassName.Continues d.type.key.name decl.name ∨
        ClassName.Continues decl.name d.type.key.name →
      ∀ c ∈ (doc.defined decl).classes, c ∉ d.classes))

/-- An update under a name of its own generates no class of what is held for another node. -/
theorem Isolated.clearAt (h : doc.Isolated) {t : Tree} {n : NodeId} (hnames : doc.NamesDiffer t n)
    (hunmixed : doc.Unmixed t n) : doc.ClearAt t n := by
  intro decl hdecl m d hd hm c hc hcd
  obtain rfl := Declaration.node_eq_of_declaration? hdecl
  have howns := (doc.declared_defined decl).owns hc
  -- a shared class belongs to the families of both names
  rcases ClassName.eq_or_continues ((h.declared m d hd).owns hcd) howns with heq | hcontinues
  · exact hnames decl hdecl m d hd hm heq
  · exact hunmixed decl hdecl m d hd hm hcontinues c hc hcd

end Document

end MacroTypes
