import MacroTypes.Proofs.Document.Clearing
import MacroTypes.Proofs.Document.Settling
import MacroTypes.Proofs.Session.Isolation
import MacroTypes.Proofs.Session.Soundness

/-!
# The shape of stored types

A document stores types of two shapes: those that declarations define, which are tasks, and those of
declared elements, which are not. In both the class is made of the key (`ElementType.IsDeclared`,
`ElementType.IsElement`), whatever the type was made from: a template, or a stored type of the other
shape whose class is the same text.

Defining stores nothing but the type of the declaration and the types of its elements
(`stored_define`), so every step keeps the shapes (`shaped_invariant`), and they hold after every
history (`shaped_run`). As the class of a task is made of its key, no two stored tasks have the same
key.
-/

namespace MacroTypes

/-- A plain name that is not blank. -/
def QName.IsDeclared (key : QName) : Prop :=
  key.ns? = none ∧ Text.isBlank key.name = false

namespace ElementType

/-- A type as declarations of a kind define it. -/
structure IsDeclared (kind : String) (t : ElementType) : Prop where
  key : t.key.IsDeclared
  className_eq : t.className = .ofDeclaration kind t.key.name
  isTask : t.isTask = true
  acceptsTasks : t.acceptsTasks = false
  nested : ∀ (k : QName) (c : ClassName), t.nested[k]? = some c →
    k.IsDeclared ∧ c = t.className.nested k.name

/-- A type as the elements of declarations of a kind have it. -/
structure IsElement (kind : String) (t : ElementType) : Prop where
  key : t.key.IsDeclared
  className_eq : ∃ owner, Text.isBlank owner = false ∧
    t.className = (ClassName.ofDeclaration kind owner).nested t.key.name
  isTask : t.isTask = false

variable {kind : String}

/-- Declared tasks of one key have one class. -/
private theorem IsDeclared.className_eq_of_key_eq {t u : ElementType} (ht : t.IsDeclared kind)
    (hu : u.IsDeclared kind) (hkey : t.key = u.key) : t.className = u.className := by
  rw [ht.className_eq, hu.className_eq, hkey]

/-- The type of an element has its shape, whatever it was made from. -/
private theorem isElement_declaredAs (t : ElementType) {owner : String} {element : NodeId × String}
    (howner : Text.isBlank owner = false) (hname : Text.isBlank element.2 = false) :
    (t.declaredAs (.ofDeclaration kind owner) element).IsElement kind where
  key := ⟨rfl, hname⟩
  className_eq := ⟨owner, howner, rfl⟩
  isTask := rfl

end ElementType

/-! ## Declared names -/

/-- A declaration whose names are not blank, neither its own nor those of its elements. -/
structure Declaration.Named (decl : Declaration) : Prop where
  own : Text.isBlank decl.name = false
  elements : ∀ e ∈ decl.elements, Text.isBlank e.2 = false

private theorem Declaration.named_of_declaration? {t : Tree} {d : Dialect} {n : NodeId}
    {decl : Declaration} (h : t.declaration? d n = some decl) : decl.Named := by
  obtain ⟨name, hname, rfl⟩ := Option.map_eq_some_iff.1 h
  exact
    { own := (Tree.declaredName?_eq_some_iff.1 hname).2
      elements := fun e he => (Tree.mem_declaredChildren.1 he).2.not_blank }

namespace Document

variable {doc : Document} {decl : Declaration}

/-! ## What defining stores -/

/-- The type of a definition is declared by the names of the declaration, whatever is stored. -/
private theorem isDeclared_defined (doc : Document) (h : decl.Named) :
    (doc.defined decl).type.IsDeclared doc.dialect.kind where
  key := ⟨rfl, h.own⟩
  className_eq := rfl
  isTask := rfl
  acceptsTasks := rfl
  nested k c hk := by
    obtain ⟨e, he, rfl, rfl, -⟩ := (Catalog.getElem?_fst_registerElements _ _ _ _ _ _).1 hk
    exact ⟨⟨rfl, h.elements e he⟩, rfl⟩

/-- After a release nothing is stored that was not stored before. -/
private theorem get?_of_get?_release {n : NodeId} {c : ClassName} {u : ElementType}
    (hu : (doc.release n).catalog.get? c = some u) : doc.catalog.get? c = some u := by
  rw [get?_release] at hu
  split at hu
  · exact nomatch hu
  · exact hu

private theorem get?_of_get?_releaseStale {c : ClassName} {u : ElementType}
    (hu : (doc.releaseStale decl).2.catalog.get? c = some u) : doc.catalog.get? c = some u :=
  snd_releaseStale_cases
    (P := fun doc' => doc'.catalog.get? c = some u → doc.catalog.get? c = some u) id
    get?_of_get?_release hu

/-- What is stored once the elements are registered is the type of one of them, or was stored
    before. -/
private theorem stored_withElements {c : ClassName} {u : ElementType}
    (hu : (doc.withElements decl).get? c = some u) :
    (∃ e ∈ decl.elements, ∃ t : ElementType, u = t.declaredAs (decl.className doc.dialect) e) ∨
      doc.catalog.get? c = some u := by
  rw [withElements, Catalog.get?_registerElements] at hu
  cases hfind : decl.elements.reverse.find? fun e =>
      (decl.className doc.dialect).nested e.2 = c with
  | none =>
    -- no element has the class
    rw [hfind] at hu
    exact .inr hu
  | some e =>
    -- the last element that has it made the type from its seed
    rw [hfind] at hu
    obtain ⟨t, -, rfl⟩ := Option.map_eq_some_iff.1 hu
    exact .inl ⟨e, List.mem_reverse.1 (List.mem_of_find?_eq_some hfind), t, rfl⟩

/-- What is stored after a declaration was defined is its type, the type of one of its elements, or
    was stored before. -/
theorem stored_define (h : doc.catalog.Coherent) {c : ClassName} {u : ElementType}
    (hu : (doc.define decl).catalog.get? c = some u) :
    u = (doc.defined decl).type ∨
      (∃ e ∈ decl.elements, ∃ t : ElementType, u = t.declaredAs (decl.className doc.dialect) e) ∨
      doc.catalog.get? c = some u := by
  rw [catalog_define, get?_inside (coherent_releaseStale h decl), get?_outside,
    made_releaseStale] at hu
  split at hu
  · -- the type was registered in the body
    exact .inl (Option.some.inj hu).symm
  · split at hu
    · -- nothing is stored under a stale class
      cases hu
    · split at hu
      · -- the type was registered in the project
        exact .inl (Option.some.inj hu).symm
      · have hdialect := (doc.settings_releaseStale decl).1
        -- the class was not touched after the elements
        rcases stored_withElements hu with helement | hu
        · rw [hdialect] at helement
          exact .inr (.inl helement)
        · exact .inr (.inr (get?_of_get?_releaseStale hu))

/-! ## Every step keeps the shapes -/

/-- A document that stores and holds types of the two shapes only. -/
structure Shaped (doc : Document) : Prop where
  coherent : doc.catalog.Coherent
  stored : ∀ c t, doc.catalog.get? c = some t →
    t.IsDeclared doc.dialect.kind ∨ t.IsElement doc.dialect.kind
  held : ∀ (n : NodeId) (d : Definition), doc.held[n]? = some d →
    d.type.definingNode? = some n ∧ d.type.IsDeclared doc.dialect.kind

private theorem shaped_empty (hcatalog : doc.catalog = ∅) (hheld : doc.held = ∅) : doc.Shaped where
  coherent := hcatalog ▸ Catalog.coherent_empty
  stored c t ht := by simp [hcatalog] at ht
  held n d hd := by simp [hheld] at hd

theorem Shaped.release (h : doc.Shaped) (n : NodeId) : (doc.release n).Shaped where
  coherent := h.coherent.unregisterAll _
  stored c t ht := h.stored c t (get?_of_get?_release ht)
  held m d hd := h.held m d (Std.ExtTreeMap.getElem?_of_getElem?_erase hd)

theorem Shaped.emptied (h : doc.Shaped) (b : NodeId) : (doc.emptied b).Shaped where
  coherent := h.coherent.removeContainer b
  stored c t ht := h.stored c t ((doc.catalog.get?_removeContainer b c).symm.trans ht)
  held := h.held

theorem Shaped.define (h : doc.Shaped) (hnamed : decl.Named) : (doc.define decl).Shaped where
  coherent := (settled_define h.coherent decl).coherent
  stored c t ht := by
    rw [(doc.settings_define decl).1]
    -- what is stored is the new type, the type of an element, or it was stored before
    rcases stored_define h.coherent ht with rfl | ⟨e, he, u, rfl⟩ | ht
    · exact .inl (doc.isDeclared_defined hnamed)
    · exact .inr (u.isElement_declaredAs hnamed.own (hnamed.elements e he))
    · exact h.stored c t ht
  held m d hd := by
    rw [(doc.settings_define decl).1]
    rcases held_define_cases hd with ⟨rfl, rfl⟩ | ⟨-, hd⟩
    · exact ⟨rfl, doc.isDeclared_defined hnamed⟩
    · exact h.held m d hd

/-- The shapes are kept throughout. -/
theorem shaped_invariant : Invariant (fun _ _ _ => True) Shaped where
  withTemplate h _ := ⟨h.coherent, h.stored, h.held⟩
  release h n := h.release n
  emptied h b := h.emptied b
  define h _ hdecl := h.define (Declaration.named_of_declaration? hdecl)

/-- Two stored tasks of one key are stored under one class. -/
theorem Shaped.eq_of_key_eq (h : doc.Shaped) {c c' : ClassName} {t t' : ElementType}
    (ht : doc.catalog.get? c = some t) (ht' : doc.catalog.get? c' = some t')
    (htask : t.isTask = true) (htask' : t'.isTask = true) (hkey : t.key = t'.key) : c = c' := by
  -- the type of an element is no task
  have hdeclared : ∀ c u, doc.catalog.get? c = some u → u.isTask = true →
      u.IsDeclared doc.dialect.kind := fun c u hu htask =>
    (h.stored c u hu).resolve_right fun helement => by simp [helement.isTask] at htask
  -- each is stored under its class, and that is given by the key
  rw [← h.coherent.className_eq c t ht, ← h.coherent.className_eq c' t' ht']
  exact (hdeclared c t ht htask).className_eq_of_key_eq (hdeclared c' t' ht' htask') hkey

end Document

namespace Session

/-- A new document has the dialect that was asked for. -/
private theorem dialect_of_new {dialect : Dialect} {doc : Document}
    (hnew : Document.new dialect = .ok doc) : doc.dialect = dialect := by
  unfold Document.new at hnew
  split at hnew
  · exact nomatch hnew
  · rw [← Except.ok.inj hnew]

/-- After every history of a new document, under changing templates and on any sequence of trees,
    each type is stored under its own class and has one of the two shapes, no two tasks have one
    key, and the definition of a node is declared by the node. -/
theorem shaped_run {dialect : Dialect} {doc : Document} (hnew : Document.new dialect = .ok doc)
    (template? : Option ElementType) (events : List Event) {s : Session}
    (hs : (opened doc template?).run events = s) :
    (∀ c t, s.document.catalog.get? c = some t →
      t.className = c ∧ (t.IsDeclared dialect.kind ∨ t.IsElement dialect.kind)) ∧
    (∀ c c' t t', s.document.catalog.get? c = some t → s.document.catalog.get? c' = some t' →
      t.isTask = true → t'.isTask = true → t.key = t'.key → c = c') ∧
    (∀ (n : NodeId) (d : Definition), s.document.held[n]? = some d →
      d.type.definingNode? = some n ∧ d.type.IsDeclared dialect.kind) := by
  obtain ⟨hcatalog, hheld⟩ := empty_of_new hnew
  have hstart : (opened doc template?).document.Shaped := Document.shaped_empty hcatalog hheld
  have h : s.document.Shaped :=
    hs ▸ Document.shaped_invariant.run hstart (everyUpdate_true _ events)
  have hdialect : s.document.dialect = dialect := by
    rw [← hs, dialect_run, ← dialect_of_new hnew]
    rfl
  rw [← hdialect]
  exact ⟨fun c t ht => ⟨h.coherent.className_eq c t ht, h.stored c t ht⟩,
    fun c c' t t' ht ht' => h.eq_of_key_eq ht ht', h.held⟩

/-- An element whose class another declaration takes over, before a new tree makes it the class of
    an element again, under a template that is a task in a namespace. -/
def takenBack : List Event := continuedName "y]" ++
  [ .update ⟨4⟩,
    .setTemplate (some { key := ⟨"task", some "ns"⟩, className := ⟨"Task"⟩, isTask := true }),
    .newTree,
    .edit (.addRoot { tag := "macrodef", name? := some "Foo" }),
    .edit (.addChild ⟨1⟩ { tag := "element", name? := some "y]" }),
    .edit (.addChild ⟨1⟩ { tag := "element", name? := some "z" }),
    .update ⟨1⟩ ]

/-- The type of the element is no task any more, though it was made from the declaration's, and
    neither is the type made from the template. -/
theorem shaped_takenBack : ∃ s,
    (opened sampleDocument sampleDocument.template?).run takenBack = s ∧
      (s.document.catalog.get? ⟨"AntMacroDef[Foo]$y]"⟩).map ElementType.isTask = some false ∧
      (s.document.catalog.get? ⟨"AntMacroDef[Foo]$z"⟩).map ElementType.key = some ⟨"z", none⟩ ∧
      (∀ c t, s.document.catalog.get? c = some t →
        t.className = c ∧ (t.IsDeclared "AntMacroDef" ∨ t.IsElement "AntMacroDef")) := by
  exact ⟨_, rfl, by decide +kernel, by decide +kernel,
    (shaped_run new_sampleDocument _ takenBack rfl).1⟩

end Session

end MacroTypes
