import MacroTypes.Proofs.Catalog.Placing
import MacroTypes.Proofs.Declaration.Contents
import MacroTypes.Proofs.Document.Operations

/-!
# The stages of a definition

A document of which nothing stale is held any more defines a declaration in four stages: the types
of the elements are registered in the document (`withElements`), the type is placed in the project
and old nested classes leave (`outside`), the type is registered in the body (`readied`), and so are
its nested types (`defineAlong`). `define_eq_defineAlong` says that this is what defining does, and
it is the one place where `define` is opened. After all stages the catalogue is that of `inside`.

In every stage the catalogue stays coherent, and the nested types are stored from the first one on
(`storesNested_withElements`).
-/

namespace MacroTypes.Document

variable {doc : Document} {decl : Declaration}

/-! ## The stages -/

/-- The definition that a declaration makes of what is stored. -/
def made (doc : Document) (decl : Declaration) : Definition where
  type := decl.elementType doc.dialect
    (doc.catalog.registerElements doc.template? (decl.className doc.dialect) decl.elements).1
  project? := decl.project?
  body? := decl.body?

/-- The catalogue with the types of the elements in the document. -/
def withElements (doc : Document) (decl : Declaration) : Catalog :=
  (doc.catalog.registerElements doc.template? (decl.className doc.dialect) decl.elements).2

/-- The catalogue with the type in the project, too, and without those old nested classes that the
    type does not have any more. -/
def outside (doc : Document) (decl : Declaration) (old : List ClassName) : Catalog :=
  (doc.withElements decl).placeOutside decl.project? (doc.made decl).type old

/-- The catalogue with the type in the body, too. Nothing is left but to register the nested types
    there. -/
def readied (doc : Document) (decl : Declaration) (old : List ClassName) : Catalog :=
  (doc.outside decl old).registerInside decl.body? (doc.made decl).type

/-- Defines a declaration of which nothing stale is held any more, given the old nested classes and
    the new ones as they are gone through. -/
def defineAlong (doc : Document) (decl : Declaration) (old walk : List ClassName) : Document :=
  { doc with
    catalog := (doc.readied decl old).registerClassesInside decl.body? walk
    held := doc.held.insert decl.node (doc.made decl) }

/-- The catalogue with the type and its nested types in the body. -/
def inside (doc : Document) (decl : Declaration) (old : List ClassName) : Catalog :=
  (doc.outside decl old).placeInside decl.body? (doc.made decl).type

/-- The definition that defining a declaration makes. -/
def defined (doc : Document) (decl : Declaration) : Definition where
  type := decl.elementType doc.dialect
    ((doc.releaseStale decl).2.catalog.registerElements doc.template? (decl.className doc.dialect)
      decl.elements).1
  project? := decl.project?
  body? := decl.body?

/-- Defining goes through the stages once a stale definition was released. The old classes are those
    of a definition that was kept, and the new ones are gone through in their own order. -/
theorem define_eq_defineAlong (doc : Document) (decl : Declaration) :
    doc.define decl = (doc.releaseStale decl).2.defineAlong decl (doc.releaseStale decl).1
      ((doc.releaseStale decl).2.made decl).type.nested.values := by
  obtain ⟨hdialect, htemplate⟩ := doc.settings_releaseStale decl
  -- the type does not depend on the stored one
  simp only [define, Declaration.typeOver_eq, defineAlong, readied, outside, withElements, made,
    hdialect, htemplate]
  rfl

/-- The definition is made of what is stored once nothing stale is held any more. -/
theorem made_releaseStale (doc : Document) (decl : Declaration) :
    (doc.releaseStale decl).2.made decl = doc.defined decl := by
  obtain ⟨hdialect, htemplate⟩ := doc.settings_releaseStale decl
  rw [made, hdialect, htemplate]
  rfl

/-! ## Each stage -/

theorem coherent_withElements (h : doc.catalog.Coherent) (decl : Declaration) :
    (doc.withElements decl).Coherent :=
  h.registerElements doc.template? (decl.className doc.dialect) decl.elements

theorem coherent_outside (h : doc.catalog.Coherent) (decl : Declaration) (old : List ClassName) :
    (doc.outside decl old).Coherent :=
  (coherent_withElements h decl).placeOutside decl.project? (doc.made decl).type old

theorem coherent_readied (h : doc.catalog.Coherent) (decl : Declaration) (old : List ClassName) :
    (doc.readied decl old).Coherent :=
  (coherent_outside h decl old).registerInside decl.body? (doc.made decl).type

/-- The nested types are stored as soon as the elements are registered, each under the name of its
    element. -/
theorem storesNested_withElements (doc : Document) (decl : Declaration) :
    (doc.withElements decl).StoresNested (doc.made decl).type :=
  doc.catalog.storesNested_registerElements (t := (doc.made decl).type) doc.template? rfl

theorem storesNested_outside (doc : Document) (decl : Declaration) (old : List ClassName) :
    (doc.outside decl old).StoresNested (doc.made decl).type :=
  (doc.storesNested_withElements decl).placeOutside decl.project? old

theorem storesNested_readied (doc : Document) (decl : Declaration) (old : List ClassName) :
    (doc.readied decl old).StoresNested (doc.made decl).type := by
  have houtside := doc.storesNested_outside decl old
  rw [readied]
  cases decl.body? with
  | none => exact houtside
  | some b => exact houtside.register (.container b)

/-- Outside of the body the type may be stored, and what is stale is not. -/
theorem get?_outside (doc : Document) (decl : Declaration) (old : List ClassName) (c : ClassName) :
    (doc.outside decl old).get? c =
      if c ∈ old ∧ c ∉ (doc.made decl).type.nested.values then none
      else if decl.project?.isSome ∧ c = decl.className doc.dialect then some (doc.made decl).type
      else (doc.withElements decl).get? c :=
  (doc.withElements decl).get?_placeOutside decl.project? (doc.made decl).type old c

/-- The body changes the stored type of no other class. -/
theorem get?_inside (h : doc.catalog.Coherent) (decl : Declaration) (old : List ClassName)
    (c : ClassName) :
    (doc.inside decl old).get? c =
      if decl.body?.isSome ∧ c = decl.className doc.dialect then some (doc.made decl).type
      else (doc.outside decl old).get? c :=
  (coherent_outside h decl old).get?_placeInside decl.body? (doc.made decl).type c

/-- Placing the type leaves the types of the elements alone. -/
theorem get?_inside_nested (h : doc.catalog.Coherent) {e : NodeId × String}
    (he : e ∈ decl.elements) (old : List ClassName) :
    (doc.inside decl old).get? ((decl.className doc.dialect).nested e.2) =
      (doc.withElements decl).get? ((decl.className doc.dialect).nested e.2) := by
  have hnested := doc.catalog.fst_registerElements_registerElements doc.template?
    (decl.className doc.dialect) decl.elements
  exact (coherent_withElements h decl).get?_place_nested (t := (doc.made decl).type) hnested
    decl.project? decl.body? old he

/-- A class that the definition does not have is stored as before, unless it is an old one. -/
theorem get?_inside_of_not_mem (h : doc.catalog.Coherent) {c : ClassName}
    (hc : c ∉ (doc.made decl).classes) (old : List ClassName) :
    (doc.inside decl old).get? c = if c ∈ old then none else doc.catalog.get? c := by
  rw [Definition.classes, List.mem_cons, not_or] at hc
  exact h.get?_place_of_not_mem (t := (doc.made decl).type) rfl decl.project? decl.body? old hc.1
    hc.2

/-- Without a place nothing new is stored under the class of the type. -/
theorem get?_of_get?_inside_own (hproject : decl.project? = none) (hbody : decl.body? = none)
    {old : List ClassName} {u : ElementType}
    (hu : (doc.inside decl old).get? (decl.className doc.dialect) = some u) :
    doc.catalog.get? (decl.className doc.dialect) = some u := by
  rw [inside, outside, hproject, hbody] at hu
  exact Catalog.get?_place_own_of_none (t := (doc.made decl).type) rfl old hu

/-! ## After all stages -/

theorem catalog_define (doc : Document) (decl : Declaration) :
    (doc.define decl).catalog =
      (doc.releaseStale decl).2.inside decl (doc.releaseStale decl).1 := by
  rw [define_eq_defineAlong]
  rfl

theorem held_define (doc : Document) (decl : Declaration) :
    (doc.define decl).held[decl.node]? = some (doc.defined decl) := by
  rw [define_eq_defineAlong, ← made_releaseStale]
  exact Std.ExtTreeMap.getElem?_insert_self

theorem held_define_of_ne (doc : Document) {decl : Declaration} {m : NodeId}
    (hm : m ≠ decl.node) : (doc.define decl).held[m]? = doc.held[m]? := by
  rw [define_eq_defineAlong]
  show ((doc.releaseStale decl).2.held.insert decl.node _)[m]? = _
  rw [Std.ExtTreeMap.getElem?_insert_ite, if_neg hm, doc.held_releaseStale_of_ne hm]

/-- What is held afterwards is the new definition, or it was held for another node before. -/
theorem held_define_cases {m : NodeId} {d : Definition}
    (hd : (doc.define decl).held[m]? = some d) :
    m = decl.node ∧ d = doc.defined decl ∨ m ≠ decl.node ∧ doc.held[m]? = some d := by
  by_cases hm : m = decl.node
  · subst hm
    exact .inl ⟨rfl, Option.some.inj (hd.symm.trans (doc.held_define decl))⟩
  · exact .inr ⟨hm, (doc.held_define_of_ne hm).symm.trans hd⟩

theorem settings_define (doc : Document) (decl : Declaration) :
    (doc.define decl).dialect = doc.dialect ∧ (doc.define decl).template? = doc.template? := by
  rw [define_eq_defineAlong]
  exact doc.settings_releaseStale decl

theorem settings_update (doc : Document) (t : Tree) (n : NodeId) :
    (doc.update t n).2.dialect = doc.dialect ∧ (doc.update t n).2.template? = doc.template? :=
  update_cases (P := fun doc' => doc'.dialect = doc.dialect ∧ doc'.template? = doc.template?)
    ⟨rfl, rfl⟩ ⟨rfl, rfl⟩ fun decl _ => doc.settings_define decl

end MacroTypes.Document
