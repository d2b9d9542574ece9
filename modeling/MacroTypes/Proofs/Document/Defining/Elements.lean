import MacroTypes.Proofs.Document.Reflection
import MacroTypes.Proofs.Document.Stages

/-!
# Defining a declaration beside others: the elements

A document that reflects declarations is `Ready` for another one if the classes and containers of
that one are not theirs and nothing stale is held for its node. Whatever is stored under the classes
of its elements then was made from the template for the same elements, so the elements come out as
on an empty catalogue (`Ready.made_eq`, `Ready.get?_withElements`) and displace nothing
(`Ready.mem_scopes_withElements`).
-/

namespace MacroTypes.Document

/-- A document that reflects declarations and is about to register another one, which can stand
    beside them. What it holds for the node already, if anything, is kept. -/
structure Ready (doc : Document) (decls : Std.ExtTreeMap NodeId Declaration) (decl : Declaration)
    (old : List ClassName) : Prop
    extends decl.Beside doc.dialect doc.template? decls, Kept doc decl old where
  reflects : doc.Reflects decls

namespace Ready

variable {doc : Document} {decls : Std.ExtTreeMap NodeId Declaration} {decl : Declaration}
  {old : List ClassName}

/-! ## What was there -/

/-- What the node declared before had the same class and the same containers. -/
theorem kept (h : Ready doc decls decl old) {a : Declaration} (ha : decls[decl.node]? = some a) :
    a.className doc.dialect = decl.className doc.dialect ∧ a.project? = decl.project? ∧
      a.body? = decl.body? :=
  h.fits _ (h.reflects.held_of_getElem? ha)

/-- The old classes are those of its elements. -/
theorem mem_old_iff_declared (h : Ready doc decls decl old) {c : ClassName} : c ∈ old ↔
    ∃ a, decls[decl.node]? = some a ∧ c ∈ (a.nestedClasses doc.dialect doc.template?).values := by
  rw [h.mem_old_iff, h.reflects.held_eq]
  cases decls[decl.node]? with
  | none => simp
  | some a => simp [Declaration.definition, Declaration.elementType]

/-- A stored class that the declaration generates is its own work. -/
theorem exists_provides (h : Ready doc decls decl old) {c : ClassName}
    (hc : c ∈ decl.classes doc.dialect) {u : ElementType} (hu : doc.catalog.get? c = some u) :
    ∃ a, decls[decl.node]? = some a ∧ a.Provides doc.dialect doc.template? c u := by
  obtain ⟨m, a, hm, ha⟩ := (h.reflects.get?_iff c u).1 hu
  -- no other declaration has a class that this one generates
  by_cases hmn : m = decl.node
  · exact ⟨a, hmn ▸ hm, ha⟩
  · exact absurd ha.mem_classes (h.separate m a hm hmn c hc)

/-- The class of a declared element is free or holds the template, declared as an element of the
    same name. -/
theorem get?_nested (h : Ready doc decls decl old) {e : NodeId × String} (he : e ∈ decl.elements)
    {u : ElementType}
    (hu : doc.catalog.get? ((decl.className doc.dialect).nested e.2) = some u) :
    ∃ t node, doc.template? = some t ∧
      u = t.declaredAs (decl.className doc.dialect) (node, e.2) := by
  obtain ⟨a, hn, ha⟩ := h.exists_provides (decl.nested_mem_classes he) hu
  -- the node held the class under the same owner, so for an element of the same name
  rw [← (h.kept hn).1] at ha ⊢
  obtain ⟨t, e', ht, he', rfl⟩ := Declaration.provides_nested.1 ha
  have hname := (Declaration.mem_elements_of_find? he').2
  exact ⟨t, e'.1, ht, by rw [← hname]⟩

/-- The declaration's own class has the declared name already if it is stored. -/
private theorem key_own (h : Ready doc decls decl old) {u : ElementType}
    (hu : doc.catalog.get? (decl.className doc.dialect) = some u) : u.key = ⟨decl.name, none⟩ := by
  obtain ⟨a, hn, ha⟩ := h.exists_provides List.mem_cons_self hu
  have hclass := (h.kept hn).1
  rw [← hclass] at ha
  -- one class means one declared name
  have hname : a.name = decl.name := Declaration.className_inj.1 hclass
  rw [(Declaration.provides_className.1 ha).2, ← hname]
  rfl

/-! ## The definition -/

/-- A declared element has a seed exactly if there is a template, and it is made like the
    template. -/
private theorem seed?_declaredAs (h : Ready doc decls decl old) {e : NodeId × String}
    (he : e ∈ decl.elements) (e' : NodeId × String) :
    (doc.catalog.seed? doc.template? ((decl.className doc.dialect).nested e.2)).map
        (·.declaredAs (decl.className doc.dialect) e') =
      doc.template?.map (·.declaredAs (decl.className doc.dialect) e') := by
  rw [Catalog.seed?]
  cases hu : doc.catalog.get? ((decl.className doc.dialect).nested e.2) with
  | none => rfl
  | some u =>
    -- the stored type is the template under another node
    obtain ⟨t, node, ht, rfl⟩ := h.get?_nested he hu
    rw [ht]
    rfl

private theorem isSome_seed? (h : Ready doc decls decl old) {e : NodeId × String}
    (he : e ∈ decl.elements) :
    (doc.catalog.seed? doc.template? ((decl.className doc.dialect).nested e.2)).isSome =
      doc.template?.isSome := by
  have hmap := congrArg Option.isSome (h.seed?_declaredAs he e)
  rwa [Option.isSome_map, Option.isSome_map] at hmap

/-- The nested classes are those that the declaration has on an empty catalogue. -/
private theorem fst_registerElements (h : Ready doc decls decl old) :
    (doc.catalog.registerElements doc.template? (decl.className doc.dialect) decl.elements).1 =
      decl.nestedClasses doc.dialect doc.template? := by
  apply Std.ExtTreeMap.ext_getElem?
  intro k
  apply Option.ext
  intro c
  rw [Catalog.getElem?_fst_registerElements, Declaration.getElem?_nestedClasses]
  -- on both sides an element counts if it has a seed
  constructor
  · intro hex
    obtain ⟨e, he, hk, hc, hs⟩ := hex
    exact ⟨h.isSome_seed? he ▸ hs, e, he, hk, hc⟩
  · intro hand
    obtain ⟨ht, e, he, hk, hc⟩ := hand
    exact ⟨e, he, hk, hc, by rw [h.isSome_seed? he, ht]⟩

/-- So is the whole definition. -/
theorem made_eq (h : Ready doc decls decl old) :
    doc.made decl = decl.definition doc.dialect doc.template? := by
  rw [made, h.fst_registerElements]
  rfl

theorem nested_made (h : Ready doc decls decl old) :
    (doc.made decl).type.nested = decl.nestedClasses doc.dialect doc.template? := by
  rw [h.made_eq]
  rfl

/-! ## The catalogue -/

/-- The stored types after the elements: new under the classes of elements, else as before. -/
theorem get?_withElements (h : Ready doc decls decl old) (c : ClassName) :
    (doc.withElements decl).get? c =
      (decl.elements.reverse.find? fun e => (decl.className doc.dialect).nested e.2 = c).elim
        (doc.catalog.get? c) fun e =>
          doc.template?.map (·.declaredAs (decl.className doc.dialect) e) := by
  rw [withElements, Catalog.get?_registerElements]
  cases hfind : decl.elements.reverse.find?
      fun e => (decl.className doc.dialect).nested e.2 = c with
  | none => rfl
  | some e =>
    -- the last element of the class was made from its seed
    have hmem := List.mem_reverse.1 (List.mem_of_find?_eq_some hfind)
    have hc : (decl.className doc.dialect).nested e.2 = c := by simpa using List.find?_some hfind
    rw [Option.elim_some, Option.elim_some, ← hc, h.seed?_declaredAs hmem]

/-- The elements touch no class but their own. -/
theorem get?_withElements_of_ne (h : Ready doc decls decl old) {c : ClassName}
    (hne : ∀ e ∈ decl.elements, (decl.className doc.dialect).nested e.2 ≠ c) :
    (doc.withElements decl).get? c = doc.catalog.get? c := by
  have hnone : (decl.elements.reverse.find?
      fun e => (decl.className doc.dialect).nested e.2 = c) = none := by
    rw [List.find?_eq_none]
    intro e he
    simpa using hne e (List.mem_reverse.1 he)
  rw [h.get?_withElements, hnone, Option.elim_none]

theorem key_withElements (h : Ready doc decls decl old) {u : ElementType}
    (hu : (doc.withElements decl).get? (decl.className doc.dialect) = some u) :
    u.key = ⟨decl.name, none⟩ := by
  rw [h.get?_withElements_of_ne fun e _ => ClassName.nested_ne _ e.2] at hu
  exact h.key_own hu

/-- The scopes after the elements: the document besides, for the classes of elements. -/
theorem mem_scopes_withElements (h : Ready doc decls decl old) {s : Scope} {c : ClassName} :
    s ∈ (doc.withElements decl).scopes c ↔
      s ∈ doc.catalog.scopes c ∨
        (s = .document ∧ c ∈ (decl.nestedClasses doc.dialect doc.template?).values) := by
  rw [withElements, h.reflects.coherent.mem_scopes_registerElements]
  · -- the elements that were registered are those that have a seed
    refine or_congr_right (and_congr_right fun _ => ?_)
    rw [Declaration.mem_values_nestedClasses]
    constructor
    · intro hex
      obtain ⟨e, he, hc, hs⟩ := hex
      exact ⟨h.isSome_seed? he ▸ hs, e, he, hc⟩
    · intro hand
      obtain ⟨ht, e, he, hc⟩ := hand
      exact ⟨e, he, hc, by rw [h.isSome_seed? he, ht]⟩
  · -- no stored type changes its key, as it was made for an element of the same name
    intro e he u hu
    obtain ⟨t, node, -, rfl⟩ := h.get?_nested he hu
    rfl

end Ready

end MacroTypes.Document
