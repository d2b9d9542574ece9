import MacroTypes.Proofs.Document.Generations
import MacroTypes.Proofs.Session.Contents
import MacroTypes.Proofs.Session.Soundness

/-!
# The type that a declaration defines

The type of a declaration is made of its name and its children alone: their names are its attributes
and, as far as there is something to make their types from, its nested elements (`DerivedFrom`). The
description leaves no choice (`DerivedFrom.unique`), so nothing of a type that was stored under the
class before is left. The type of a nested element takes its name and its node from the last child
of that name, and the rest from what was stored or from the template (`StoresElement`).

Updating a node makes these types, whatever the history of the document (`derived_after_update`).
-/

namespace MacroTypes

/-! ## What is derived -/

/-- A type that is made of a name and the children of a node. Those elements are nested whose
    classes are available. -/
structure ElementType.DerivedFrom (t : Tree) (n : NodeId) (d : Dialect) (name : String)
    (available : ClassName → Prop) (type : ElementType) : Prop where
  key_eq : type.key = ⟨name, none⟩
  className_eq : type.className = .ofDeclaration d.kind name
  isTask : type.isTask = true
  acceptsTasks : type.acceptsTasks = false
  definingNode?_eq : type.definingNode? = some n
  attributes_iff : ∀ (k : String) (a : AttrType), type.attributes[k]? = some a ↔
    a = d.attributeType ∧
      ∃ c ∈ t.children n, ∃ x, t.Declares c d.attributeTag x ∧ Text.lowercase x = k
  nested_iff : ∀ (k : QName) (c : ClassName), type.nested[k]? = some c ↔
    ∃ e ∈ t.children n, ∃ x, t.Declares e d.elementTag x ∧ k = ⟨x, none⟩ ∧
      c = (ClassName.ofDeclaration d.kind name).nested x ∧ available c

/-- The description leaves no choice. -/
theorem ElementType.DerivedFrom.unique {t : Tree} {n : NodeId} {d : Dialect} {name : String}
    {available : ClassName → Prop} {a b : ElementType} (ha : a.DerivedFrom t n d name available)
    (hb : b.DerivedFrom t n d name available) : a = b := by
  have hattributes : a.attributes = b.attributes :=
    Std.ExtTreeMap.ext_getElem? fun k => Option.ext fun ty =>
      (ha.attributes_iff k ty).trans (hb.attributes_iff k ty).symm
  have hnested : a.nested = b.nested :=
    Std.ExtTreeMap.ext_getElem? fun k => Option.ext fun c =>
      (ha.nested_iff k c).trans (hb.nested_iff k c).symm
  -- the other fields are given
  cases a
  cases b
  simp only [ElementType.mk.injEq]
  exact ⟨ha.key_eq.trans hb.key_eq.symm, ha.className_eq.trans hb.className_eq.symm,
    ha.isTask.trans hb.isTask.symm, ha.acceptsTasks.trans hb.acceptsTasks.symm, hattributes,
    hnested, ha.definingNode?_eq.trans hb.definingNode?_eq.symm⟩

/-- Every attribute has the one type of the dialect, under the lower-cased name. -/
private theorem Declaration.getElem?_attributeTypes (decl : Declaration) (d : Dialect)
    (k : String) :
    (decl.attributeTypes d)[k]? =
      if ∃ x ∈ decl.attributes, Text.lowercase x = k then some d.attributeType else none := by
  -- induction on the names; a name that comes again finds the same type
  suffices h : ∀ m : Std.ExtTreeMap String AttrType,
      (decl.attributes.foldl (fun m x => m.insert (Text.lowercase x) d.attributeType) m)[k]? =
        if ∃ x ∈ decl.attributes, Text.lowercase x = k then some d.attributeType else m[k]? from
    (h ∅).trans (by rw [Std.ExtTreeMap.getElem?_empty])
  induction decl.attributes with
  | nil => simp
  | cons x rest ih =>
    intro m
    rw [List.foldl_cons, ih, Std.ExtTreeMap.getElem?_insert_ite]
    by_cases hrest : ∃ y ∈ rest, Text.lowercase y = k
    · simp [hrest]
    · by_cases hx : k = Text.lowercase x
      · simp [hx]
      · simp [hrest, hx, Ne.symm hx]

/-- The attributes are found whatever the case of their names. -/
theorem ElementType.DerivedFrom.attr?_eq_some_iff {t : Tree} {n : NodeId} {d : Dialect}
    {name : String} {available : ClassName → Prop} {type : ElementType}
    (h : type.DerivedFrom t n d name available) {q : String} {a : AttrType} :
    type.attr? q = some a ↔ a = d.attributeType ∧ ∃ c ∈ t.children n, ∃ x,
      t.Declares c d.attributeTag x ∧ Text.lowercase x = Text.lowercase q :=
  h.attributes_iff _ _

namespace Document

variable {doc : Document} {t : Tree} {n : NodeId} {decl : Declaration}

/-- What the type of a nested element is made from: the stored type of its class, or else the
    template. -/
def elementSeed? (doc : Document) (t : Tree) (n : NodeId) (c : ClassName) : Option ElementType :=
  (doc.withoutOutdated t n).catalog.seed? doc.template? c

/-- There is something to make it from. -/
def Available (doc : Document) (t : Tree) (n : NodeId) (c : ClassName) : Prop :=
  doc.template?.isSome = true ∨ (doc.withoutOutdated t n).catalog.contains c = true

private theorem isSome_elementSeed? (doc : Document) (t : Tree) (n : NodeId) (c : ClassName) :
    (doc.elementSeed? t n c).isSome = true ↔ doc.Available t n c := by
  rw [Available, elementSeed?, Catalog.seed?, Option.isSome_or, Bool.or_eq_true,
    Catalog.contains_eq_isSome, or_comm]

/-- The type of a definition is derived from the children of the node. -/
private theorem derivedFrom_defined (hdecl : t.declaration? doc.dialect n = some decl) :
    (doc.defined decl).type.DerivedFrom t n doc.dialect decl.name (doc.Available t n) := by
  have hstale := snd_releaseStale hdecl
  obtain ⟨name, hname, rfl⟩ := Option.map_eq_some_iff.1 hdecl
  exact
    { key_eq := rfl
      className_eq := rfl
      isTask := rfl
      acceptsTasks := rfl
      definingNode?_eq := rfl
      attributes_iff := fun k a => by
        -- the declared names are those of the children
        show (Declaration.attributeTypes _ doc.dialect)[k]? = some a ↔ _
        rw [Declaration.getElem?_attributeTypes, Option.ite_none_right_eq_some, Option.some_inj,
          and_comm, eq_comm (a := doc.dialect.attributeType)]
        refine and_congr_right fun _ => ?_
        simp only [List.mem_map, Tree.mem_declaredChildren]
        -- a child that declares an attribute is among the attributes of the declaration
        constructor
        · rintro ⟨x, ⟨e, ⟨hc, hx⟩, rfl⟩, hk⟩
          exact ⟨e.1, hc, e.2, hx, hk⟩
        · rintro ⟨c, hc, x, hx, hk⟩
          exact ⟨x, ⟨(c, x), ⟨hc, hx⟩, rfl⟩, hk⟩
      nested_iff := fun k c => by
        -- the classes noted are those of the elements with a seed in the released document
        show (Catalog.registerElements _ _ _ _).1[k]? = some c ↔ _
        rw [Catalog.getElem?_fst_registerElements, hstale]
        simp only [← isSome_elementSeed?, Tree.mem_declaredChildren]
        -- and so is one that declares an element among its elements
        constructor
        · rintro ⟨e, ⟨he, hx⟩, hk, rfl, hseed⟩
          exact ⟨e.1, he, e.2, hx, hk, rfl, hseed⟩
        · rintro ⟨e, he, x, hx, hk, rfl, hseed⟩
          exact ⟨(e, x), ⟨he, hx⟩, hk, rfl, hseed⟩ }

/-! ## What is stored for the elements -/

/-- The type of a nested element is stored and registered in the document and in the body of the
    node. The last child that declares the element decides name and node, the rest is from what the
    type is made from. -/
structure StoresElement (doc : Document) (t : Tree) (n : NodeId) (owner : ClassName) (x : String)
    (seed? : Option ElementType) : Prop where
  get?_eq : ∃ e seed, t.DeclaresLast n doc.dialect.elementTag x e ∧ seed? = some seed ∧
    doc.catalog.get? (owner.nested x) = some { seed with
      key := ⟨x, none⟩
      className := owner.nested x
      isTask := false
      definingNode? := some e }
  document_mem : .document ∈ doc.catalog.scopes (owner.nested x)
  body_mem : ∀ b, t.firstChild? n .tasksContainer = some b →
    .container b ∈ doc.catalog.scopes (owner.nested x)

/-- Under the class of a nested element the last element of its name is declared. -/
private theorem get?_define_nested (h : doc.catalog.Coherent)
    (hdecl : t.declaration? doc.dialect n = some decl) {x : String} {e : NodeId × String}
    (hlast : decl.elements.reverse.find? (fun e => e.2 = x) = some e) :
    (doc.define decl).catalog.get? ((decl.className doc.dialect).nested x) =
      (doc.elementSeed? t n ((decl.className doc.dialect).nested x)).map
        (·.declaredAs (decl.className doc.dialect) e) := by
  have hget := (doc.releaseStale decl).2.catalog.get?_registerElements doc.template?
    (decl.className doc.dialect) decl.elements ((decl.className doc.dialect).nested x)
  simp only [ClassName.nested_inj, hlast, Option.elim_some] at hget
  -- the seed is taken from the released document
  rw [elementSeed?, ← snd_releaseStale hdecl, ← hget, catalog_define]
  obtain ⟨he, rfl⟩ := Declaration.mem_elements_of_find? hlast
  obtain ⟨hdialect, htemplate⟩ := doc.settings_releaseStale decl
  -- placing the type leaves the types of the elements alone
  have hinside := get?_inside_nested (coherent_releaseStale h decl) he (doc.releaseStale decl).1
  rw [withElements, hdialect, htemplate] at hinside
  exact hinside

/-- Every nested element of the type just defined is stored. -/
private theorem storesElement_define (h : doc.catalog.Coherent)
    (hdecl : t.declaration? doc.dialect n = some decl) {k : QName} {c : ClassName}
    (hk : (doc.defined decl).type.nested[k]? = some c) :
    (doc.define decl).StoresElement t n (decl.className doc.dialect) k.name
      (doc.elementSeed? t n ((decl.className doc.dialect).nested k.name)) := by
  have hsettled := settled_define h decl
  have hdialect := (doc.settings_define decl).1
  obtain ⟨e, he, rfl, rfl, -⟩ := hsettled.exists_of_nested hk
  obtain ⟨e', hlast⟩ := Catalog.exists_last_of_mem he
  -- the type is stored, so there was something to make it from
  have hget := get?_define_nested h hdecl hlast
  obtain ⟨u, hu, -⟩ := hsettled.storesNested.get?_nested _ _ hk
  obtain ⟨seed, hseed, -⟩ := Option.map_eq_some_iff.1 (hget.symm.trans hu)
  -- the last element of the name is the last child that declares it
  obtain ⟨name, -, rfl⟩ := Option.map_eq_some_iff.1 hdecl
  obtain ⟨hx, hlast⟩ := Tree.declaresLast_of_find? hlast
  rw [hseed, Option.map_some, ElementType.declaredAs, hx] at hget
  exact
    { get?_eq := ⟨e'.1, seed, by rwa [hdialect], hseed, hget⟩
      document_mem := hsettled.document_mem_scopes hk
      body_mem := fun b hb => (hsettled.body b hb).nested _ (Std.ExtTreeMap.mem_values.2 ⟨_, hk⟩) }

/-- An update of a node that declares a name makes this definition. -/
structure Derives (doc : Document) (t : Tree) (n : NodeId) (name : String) (d : Definition) :
    Prop where
  /-- The class is the one that the node declares. -/
  fst_eq : (doc.update t n).1 = some (.ofDeclaration doc.dialect.kind name)
  declaredClass?_eq : doc.declaredClass? t n = (doc.update t n).1
  held : (doc.update t n).2.held[n]? = some d
  derivedFrom : d.type.DerivedFrom t n doc.dialect name (doc.Available t n)
  attr?_eq_some_iff : ∀ (q : String) (a : AttrType), d.type.attr? q = some a ↔
    a = doc.dialect.attributeType ∧ ∃ c ∈ t.children n, ∃ x,
      t.Declares c doc.dialect.attributeTag x ∧ Text.lowercase x = Text.lowercase q
  /-- The type is the same whatever stored type it is made over. -/
  typeOver_eq : ∀ decl ∈ t.declaration? doc.dialect n, ∀ stored?,
    decl.typeOver doc.dialect d.type.nested stored? = d.type
  storesElement : ∀ (k : QName) (c : ClassName), d.type.nested[k]? = some c →
    (doc.update t n).2.StoresElement t n (.ofDeclaration doc.dialect.kind name) k.name
      (doc.elementSeed? t n c)

/-- Everything about the type follows from what the node declares, as an update defines nothing
    else. -/
theorem derives_update (h : doc.catalog.Coherent) {name : String}
    (hname : t.declaredName? n = some name) : ∃ d, doc.Derives t n name d := by
  -- with a name there is a declaration
  obtain ⟨decl, hdecl, rfl⟩ : ∃ decl, t.declaration? doc.dialect n = some decl ∧
      decl.name = name := by
    rw [Tree.declaration?, hname]
    exact ⟨_, rfl, rfl⟩
  have hfst : (doc.update t n).1 = some (decl.className doc.dialect) := by
    rw [fst_update, hdecl]
    rfl
  have hderived := derivedFrom_defined hdecl
  exact ⟨doc.defined decl,
    { fst_eq := hfst
      declaredClass?_eq := by
        rw [hfst, declaredClass?, hname]
        rfl
      held := by rw [getElem?_held_update, if_pos rfl, hdecl, Option.map_some]
      derivedFrom := hderived
      attr?_eq_some_iff := fun q a => hderived.attr?_eq_some_iff
      typeOver_eq := fun decl' hdecl' stored? => by
        obtain rfl := Option.some.inj (hdecl.symm.trans hdecl')
        exact decl.typeOver_eq doc.dialect _ stored?
      storesElement := fun k c hk => by
        -- what is nested is an element that some child declares
        rw [snd_update_of_some hdecl]
        have hstores := storesElement_define h hdecl hk
        obtain ⟨_, _, x, _, rfl, rfl, _⟩ := (hderived.nested_iff k c).1 hk
        exact hstores }⟩

end Document

namespace Session

/-- After every history of a new document and in any tree, the update of a node that declares a name
    derives the type from the children of the node. No other type can be derived from them. -/
theorem derived_after_update {dialect : Dialect} {doc : Document}
    (hnew : Document.new dialect = .ok doc) (template? : Option ElementType) (events : List Event)
    {s : Session} (hs : (opened doc template?).run events = s) {t : Tree} {n : NodeId}
    {name : String} (hname : t.declaredName? n = some name) :
    ∃ d, s.document.Derives t n name d ∧
      ∀ type, type.DerivedFrom t n s.document.dialect name (s.document.Available t n) →
        type = d.type := by
  have h : s.document.Sound := hs ▸ sound_run hnew template? events
  obtain ⟨d, hd⟩ := Document.derives_update h.coherent hname
  exact ⟨d, hd, fun type htype => htype.unique hd.derivedFrom⟩

/-- The sample with the attribute and the element declared twice and a further element, without a
    template. -/
def repeatedSample : List Event := sample ++
  [ .edit (.addChild ⟨2⟩ { tag := "attribute", name? := some "BAR" }),
    .edit (.addChild ⟨2⟩ { tag := "element", name? := some "Baz" }),
    .edit (.addChild ⟨2⟩ { tag := "element", name? := some "Qux" }),
    .setTemplate none ]

/-- There is one attribute. The element that was stored before is nested and belongs to the later
    child, and nothing is there to make the other one from. -/
theorem derived_after_update_repeatedSample : ∃ s,
    (opened sampleDocument sampleDocument.template?).run repeatedSample = s ∧
      s.tree.declaredName? ⟨2⟩ = some "Foo" ∧
      ((s.document.update s.tree ⟨2⟩).2.held[(⟨2⟩ : NodeId)]?.map fun d =>
        (d.type.attributes.toList, d.type.nested.keys)) =
          some ([("bar", .string)], [⟨"Baz", none⟩]) ∧
      ((s.document.update s.tree ⟨2⟩).2.catalog.get? ⟨"AntMacroDef[Foo]$Baz"⟩).bind
        ElementType.definingNode? = some ⟨7⟩ ∧
      ∃ d, s.document.Derives s.tree ⟨2⟩ "Foo" d := by
  refine ⟨_, rfl, ?_⟩
  have hname : Tree.declaredName?
      ((opened sampleDocument sampleDocument.template?).run repeatedSample).tree ⟨2⟩ =
        some "Foo" := by decide +kernel
  obtain ⟨d, hd, -⟩ := derived_after_update new_sampleDocument _ repeatedSample rfl hname
  exact ⟨hname, by decide +kernel, by decide +kernel, d, hd⟩

end Session

end MacroTypes
