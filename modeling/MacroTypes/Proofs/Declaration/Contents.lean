import MacroTypes.Declaration
import MacroTypes.Proofs.Catalog.Elements

/-!
# What a declaration stands for

A declaration says by itself which types it puts into a catalogue and in which scopes they are
registered, provided that no other declaration has a hand in its classes:

* its own type, in the project and in the body, but in the body not if an element has its name;
* for every element name a type made from the template, in the document and in the body. The last
  element of a name defines the type.

What the node says is read off its children: `Tree.mem_declaredChildren`,
`Tree.declaresLast_of_find?`.
-/

namespace MacroTypes

namespace Tree

variable {t : Tree} {n c : NodeId} {tag x : String}

private theorem kind?_of_enclosingProject? {n p : NodeId} (h : t.enclosingProject? n = some p) :
    t.kind? p = some .project := by
  simpa using List.find?_some h

theorem kind?_of_firstChild? {n c : NodeId} {k : NodeKind} (h : t.firstChild? n k = some c) :
    t.kind? c = some k := by
  simpa using List.find?_some h

/-! ## Children that declare something -/

/-- A node declares a name by its tag. The name is not blank, and the node is not text. -/
structure Declares (t : Tree) (c : NodeId) (tag x : String) : Prop where
  isStructured : ∃ k, t.kind? c = some k ∧ k.isStructured = true
  tag?_eq : t.tag? c = some tag
  name?_eq : t.name? c = some x
  not_blank : Text.isBlank x = false

/-- Of the children that declare a name by a tag this one is the last. -/
def DeclaresLast (t : Tree) (n : NodeId) (tag x : String) (c : NodeId) : Prop :=
  ∃ before after, t.children n = before ++ c :: after ∧ t.Declares c tag x ∧
    ∀ c' ∈ after, ¬ t.Declares c' tag x

/-- The node and the name, if the node declares one by the tag. -/
def declaredBy (t : Tree) (tag : String) (c : NodeId) : Option (NodeId × String) :=
  if (t.kind? c).any NodeKind.isStructured && t.tag? c = some tag then
    (t.declaredName? c).map (c, ·)
  else none

theorem declaredName?_eq_some_iff :
    t.declaredName? n = some x ↔ t.name? n = some x ∧ Text.isBlank x = false := by
  rw [declaredName?, Option.filter_eq_some_iff, Bool.not_eq_true']

private theorem declaredBy_eq_some_iff {e : NodeId × String} :
    t.declaredBy tag c = some e ↔ e.1 = c ∧ t.Declares c tag e.2 := by
  rw [declaredBy, Option.ite_none_right_eq_some, Bool.and_eq_true, decide_eq_true_eq,
    Option.any_eq_true, Option.map_eq_some_iff]
  constructor
  · rintro ⟨⟨hkind, htag⟩, y, hy, rfl⟩
    -- the name that is taken is the one that the node has
    obtain ⟨hname, hblank⟩ := declaredName?_eq_some_iff.1 hy
    exact ⟨rfl, hkind, htag, hname, hblank⟩
  · rintro ⟨rfl, h⟩
    exact ⟨⟨h.isStructured, h.tag?_eq⟩, e.2,
      declaredName?_eq_some_iff.2 ⟨h.name?_eq, h.not_blank⟩, rfl⟩

private theorem declaredChildren_eq (t : Tree) (n : NodeId) (tag : String) :
    t.declaredChildren n tag = (t.children n).filterMap (t.declaredBy tag) := rfl

theorem mem_declaredChildren {e : NodeId × String} :
    e ∈ t.declaredChildren n tag ↔ e.1 ∈ t.children n ∧ t.Declares e.1 tag e.2 := by
  rw [declaredChildren_eq, List.mem_filterMap]
  constructor
  · rintro ⟨c, hc, he⟩
    obtain ⟨rfl, h⟩ := declaredBy_eq_some_iff.1 he
    exact ⟨hc, h⟩
  · rintro ⟨hc, h⟩
    exact ⟨e.1, hc, declaredBy_eq_some_iff.2 ⟨rfl, h⟩⟩

/-- The last entry of a name belongs to the last child that declares it. -/
theorem declaresLast_of_find? {e : NodeId × String}
    (h : (t.declaredChildren n tag).reverse.find? (fun e => e.2 = x) = some e) :
    e.2 = x ∧ t.DeclaresLast n tag x e.1 := by
  obtain rfl : e.2 = x := by simpa using List.find?_some h
  -- looked at from the end, it belongs to the first child that declares the name
  rw [declaredChildren_eq, ← List.filterMap_reverse, List.find?_filterMap,
    Option.bind_eq_some_iff] at h
  obtain ⟨c, hfind, he⟩ := h
  obtain ⟨rfl, hdeclares⟩ := declaredBy_eq_some_iff.1 he
  obtain ⟨-, after, before, hsplit, hafter⟩ := List.find?_eq_some_iff_append.1 hfind
  refine ⟨rfl, before.reverse, after.reverse, ?_, hdeclares, ?_⟩
  · -- turned round again, what was skipped stands after the child
    rw [← List.reverse_reverse (t.children n), hsplit, List.reverse_append, List.reverse_cons,
      List.append_assoc]
    rfl
  · -- none of that declares the name, or it would have been found
    intro c' hc' hdeclares'
    have hentry : t.declaredBy tag c' = some (c', e.2) :=
      declaredBy_eq_some_iff.2 ⟨rfl, hdeclares'⟩
    have hskipped := hafter c' (List.mem_reverse.1 hc')
    rw [hentry] at hskipped
    simp at hskipped

end Tree

/-- The classes of a definition: that of the type and the nested ones. -/
def Definition.classes (d : Definition) : List ClassName :=
  d.type.className :: d.type.nested.values

/-- Whether a definition has a place for its type, a project or a body. -/
def Definition.hasPlace (d : Definition) : Bool :=
  d.project?.isSome || d.body?.isSome

namespace Declaration

variable (decl : Declaration) (d : Dialect) (template? : Option ElementType)

/-- The classes that defining the declaration generates, whether or not there is a template. -/
def classes : List ClassName :=
  decl.className d :: decl.elements.map fun e => (decl.className d).nested e.2

/-- The classes of the declared elements by name, none without a template. -/
def nestedClasses : Std.ExtTreeMap QName ClassName :=
  ((∅ : Catalog).registerElements template? (decl.className d) decl.elements).1

/-- What is held for the declaration. -/
def definition : Definition where
  type := decl.elementType d (decl.nestedClasses d template?)
  project? := decl.project?
  body? := decl.body?

/-- The types that the declaration puts into the catalogue, by class. -/
inductive Provides : ClassName → ElementType → Prop where
  /-- Its own type, if there is a place for it. -/
  | own : decl.project?.isSome = true ∨ decl.body?.isSome = true →
      Provides (decl.className d) (decl.definition d template?).type
  /-- The type of an element, the last one of its name. -/
  | element {t : ElementType} {e : NodeId × String} : template? = some t →
      decl.elements.reverse.find? (fun e' => e'.2 = e.2) = some e →
      Provides ((decl.className d).nested e.2) (t.declaredAs (decl.className d) e)

/-- The scopes in which the declaration registers its classes. -/
inductive Places : ClassName → Scope → Prop where
  /-- Its own class in the project. -/
  | project {p : NodeId} : decl.project? = some p → Places (decl.className d) (.container p)
  /-- Its own class in the body, unless an element has its name. -/
  | body {b : NodeId} : decl.body? = some b →
      (⟨decl.name, none⟩ : QName) ∉ decl.nestedClasses d template? →
      Places (decl.className d) (.container b)
  /-- The classes of the elements in the document. -/
  | document {c : ClassName} : c ∈ (decl.nestedClasses d template?).values → Places c .document
  /-- The classes of the elements in the body. -/
  | inner {c : ClassName} {b : NodeId} : c ∈ (decl.nestedClasses d template?).values →
      decl.body? = some b → Places c (.container b)

variable {decl d template?}

/-! ## Reading a declaration -/

theorem node_eq_of_declaration? {t : Tree} {n : NodeId} (h : t.declaration? d n = some decl) :
    decl.node = n := by
  obtain ⟨_, _, heq⟩ := Option.map_eq_some_iff.1 h
  rw [← heq]

theorem project_of_declaration? {t : Tree} {n : NodeId} (h : t.declaration? d n = some decl)
    {p : NodeId} (hp : decl.project? = some p) : t.kind? p = some .project := by
  obtain ⟨_, _, heq⟩ := Option.map_eq_some_iff.1 h
  rw [← heq] at hp
  exact Tree.kind?_of_enclosingProject? hp

/-- The project around a declaration is not its body, as the two are of different kinds. -/
theorem project_ne_body_of_declaration? {t : Tree} {n : NodeId}
    (h : t.declaration? d n = some decl) {p : NodeId} (hp : decl.project? = some p) :
    decl.body? ≠ some p := by
  intro hb
  have hproject := project_of_declaration? h hp
  obtain ⟨_, _, heq⟩ := Option.map_eq_some_iff.1 h
  rw [← heq] at hb
  -- the node would be a project and a task container
  rw [Tree.kind?_of_firstChild? hb] at hproject
  exact nomatch hproject

/-! ## The classes of a declaration -/

theorem nested_mem_classes (decl : Declaration) {e : NodeId × String} (he : e ∈ decl.elements) :
    (decl.className d).nested e.2 ∈ decl.classes d :=
  List.mem_cons_of_mem _ (List.mem_map_of_mem he)

/-- One kind and one class name mean one declared name. -/
theorem className_inj {a b : Declaration} :
    a.className d = b.className d ↔ a.name = b.name := by
  simp [className, ClassName.ofDeclaration]

theorem getElem?_nestedClasses {k : QName} {c : ClassName} :
    (decl.nestedClasses d template?)[k]? = some c ↔
      template?.isSome = true ∧ ∃ e ∈ decl.elements, k = ⟨e.2, none⟩ ∧
        c = (decl.className d).nested e.2 := by
  -- on an empty catalogue the template is all there is to make a type from
  have hseed : ∀ c, (∅ : Catalog).seed? template? c = template? := by
    intro c
    simp [Catalog.seed?]
  rw [nestedClasses, Catalog.getElem?_fst_registerElements]
  simp only [hseed]
  constructor
  · intro hex
    obtain ⟨e, he, hk, hc, ht⟩ := hex
    exact ⟨ht, e, he, hk, hc⟩
  · intro hand
    obtain ⟨ht, e, he, hk, hc⟩ := hand
    exact ⟨e, he, hk, hc, ht⟩

theorem mem_values_nestedClasses {c : ClassName} :
    c ∈ (decl.nestedClasses d template?).values ↔
      template?.isSome = true ∧ ∃ e ∈ decl.elements, c = (decl.className d).nested e.2 := by
  rw [Std.ExtTreeMap.mem_values]
  constructor
  · intro hex
    obtain ⟨k, hk⟩ := hex
    obtain ⟨ht, e, he, -, hc⟩ := getElem?_nestedClasses.1 hk
    exact ⟨ht, e, he, hc⟩
  · intro hand
    obtain ⟨ht, e, he, hc⟩ := hand
    exact ⟨⟨e.2, none⟩, getElem?_nestedClasses.2 ⟨ht, e, he, rfl, hc⟩⟩

/-- The declaration's own class is none of its nested classes. -/
theorem className_not_mem_values :
    decl.className d ∉ (decl.nestedClasses d template?).values := by
  intro h
  obtain ⟨-, e, -, hc⟩ := mem_values_nestedClasses.1 h
  exact ClassName.nested_ne _ _ hc.symm

theorem mem_classes_definition {c : ClassName} :
    c ∈ (decl.definition d template?).classes ↔
      c = decl.className d ∨ c ∈ (decl.nestedClasses d template?).values := List.mem_cons

/-- A definition has no class that was not generated. -/
theorem mem_classes_of_mem_definition {c : ClassName}
    (h : c ∈ (decl.definition d template?).classes) : c ∈ decl.classes d := by
  rw [classes, List.mem_cons, List.mem_map]
  rcases mem_classes_definition.1 h with h | h
  · exact .inl h
  · obtain ⟨-, e, he, hc⟩ := mem_values_nestedClasses.1 h
    exact .inr ⟨e, he, hc.symm⟩

/-! ## The contents belong to the classes -/

/-- The last element of a name is an element, and it has the name. -/
theorem mem_elements_of_find? {name : String} {e : NodeId × String}
    (h : decl.elements.reverse.find? (fun e' => e'.2 = name) = some e) :
    e ∈ decl.elements ∧ e.2 = name :=
  ⟨List.mem_reverse.1 (List.mem_of_find?_eq_some h), by simpa using List.find?_some h⟩

theorem Provides.mem_classes {c : ClassName} {t : ElementType}
    (h : decl.Provides d template? c t) : c ∈ (decl.definition d template?).classes := by
  rw [mem_classes_definition]
  cases h with
  | own => exact .inl rfl
  | element ht he =>
    exact .inr (mem_values_nestedClasses.2 ⟨by rw [ht]; rfl, _, (mem_elements_of_find? he).1, rfl⟩)

theorem Places.mem_classes {c : ClassName} {s : Scope} (h : decl.Places d template? c s) :
    c ∈ (decl.definition d template?).classes := by
  rw [mem_classes_definition]
  cases h with
  | project | body => exact .inl rfl
  | document hc | inner hc => exact .inr hc

/-- Under its own class a declaration provides its own type. -/
theorem provides_className {t : ElementType} :
    decl.Provides d template? (decl.className d) t ↔
      (decl.project?.isSome = true ∨ decl.body?.isSome = true) ∧
        t = (decl.definition d template?).type := by
  constructor
  · intro h
    generalize hc : decl.className d = c at h
    cases h with
    | own hplace => exact ⟨hplace, rfl⟩
    | element => exact absurd hc.symm (ClassName.nested_ne _ _)
  · intro hand
    obtain ⟨hplace, ht⟩ := hand
    exact ht ▸ .own hplace

/-- Under the class of an element it provides the template, declared as the last element of that
    name. -/
theorem provides_nested {name : String} {t : ElementType} :
    decl.Provides d template? ((decl.className d).nested name) t ↔
      ∃ u e, template? = some u ∧ decl.elements.reverse.find? (fun e => e.2 = name) = some e ∧
        t = u.declaredAs (decl.className d) e := by
  constructor
  · intro h
    generalize hc : (decl.className d).nested name = c at h
    cases h with
    | own => exact absurd hc (ClassName.nested_ne _ _)
    | element ht he =>
      rw [ClassName.nested_inj.1 hc]
      exact ⟨_, _, ht, he, rfl⟩
  · intro hex
    obtain ⟨u, e, hu, he, ht⟩ := hex
    obtain rfl := (mem_elements_of_find? he).2
    exact ht ▸ .element hu he

/-- Something is provided under the nested classes, and under the own class if there is a place. -/
theorem exists_provides_iff {c : ClassName} : (∃ t, decl.Provides d template? c t) ↔
    c ∈ (decl.nestedClasses d template?).values ∨
      (c = decl.className d ∧ (decl.project?.isSome = true ∨ decl.body?.isSome = true)) := by
  constructor
  · intro hex
    obtain ⟨t, h⟩ := hex
    cases h with
    | own hplace => exact .inr ⟨rfl, hplace⟩
    | element ht he =>
      have hmem := (mem_elements_of_find? he).1
      exact .inl (mem_values_nestedClasses.2 ⟨by rw [ht]; rfl, _, hmem, rfl⟩)
  · intro h
    rcases h with hc | ⟨rfl, hplace⟩
    · -- the last element of the name provides the type
      obtain ⟨ht, e, he, hc⟩ := mem_values_nestedClasses.1 hc
      obtain ⟨u, hu⟩ := Option.isSome_iff_exists.1 ht
      obtain ⟨e', he'⟩ := Catalog.exists_last_of_mem he
      rw [hc]
      exact ⟨_, provides_nested.2 ⟨u, e', hu, he', rfl⟩⟩
    · exact ⟨_, .own hplace⟩

/-! ## The scopes -/

/-- What is placed in a container is the type in the project, or it is placed in the body. -/
theorem Places.of_container {c : ClassName} {x : NodeId}
    (h : decl.Places d template? c (.container x)) :
    (c = decl.className d ∧ decl.project? = some x) ∨ decl.body? = some x := by
  generalize hs : Scope.container x = s at h
  cases h with
  | project hp => exact .inl ⟨rfl, Scope.container.inj hs ▸ hp⟩
  | body hb => exact .inr (Scope.container.inj hs ▸ hb)
  | document => exact nomatch hs
  | inner _ hb => exact .inr (Scope.container.inj hs ▸ hb)

theorem places_nested_iff {c : ClassName} (hc : c ∈ (decl.nestedClasses d template?).values)
    {s : Scope} : decl.Places d template? c s ↔
      s = .document ∨ ∃ b, decl.body? = some b ∧ s = .container b := by
  constructor
  · intro h
    cases h with
    | project | body => exact absurd hc className_not_mem_values
    | document => exact .inl rfl
    | inner _ hb => exact .inr ⟨_, hb, rfl⟩
  · intro h
    rcases h with rfl | ⟨b, hb, rfl⟩
    · exact .document hc
    · exact .inner hc hb

theorem places_own_iff {s : Scope} : decl.Places d template? (decl.className d) s ↔
    (∃ p, decl.project? = some p ∧ s = .container p) ∨
      ((⟨decl.name, none⟩ : QName) ∉ decl.nestedClasses d template? ∧
        ∃ b, decl.body? = some b ∧ s = .container b) := by
  constructor
  · intro h
    generalize hc : decl.className d = c at h
    cases h with
    | project hp => exact .inl ⟨_, hp, rfl⟩
    | body hb hname => exact .inr ⟨hname, _, hb, rfl⟩
    | document hmem | inner hmem => exact absurd (hc ▸ hmem) className_not_mem_values
  · intro h
    rcases h with ⟨p, hp, rfl⟩ | ⟨hname, b, hb, rfl⟩
    · exact .project hp
    · exact .body hb hname

end Declaration

end MacroTypes
