import MacroTypes.Document.Query
import MacroTypes.Proofs.Document.Settling
import MacroTypes.Proofs.Session.Contents
import MacroTypes.Proofs.Session.Soundness

/-!
# Using a declaration in its own body

Wherever the body of a declaration is the innermost scope, the names of its elements stand for the
types of its elements, and its own name stands for its own type unless an element has that name
(`Document.Usable`). This is so after every update and every refresh of the declaration, whatever
was registered in the body or stored under the classes before (`usable_after_update`).
-/

namespace MacroTypes

namespace Catalog

variable {cat : Catalog}

/-- A container gives a name to the class that is registered there under this key. -/
private theorem Coherent.resolveIn_container (h : cat.Coherent) {b : NodeId} {c : ClassName}
    {u : ElementType} (hs : .container b ∈ cat.scopes c) (hu : cat.get? c = some u) :
    cat.resolveIn u.key (.container b) = some u := by
  have hlookup := (h.lookup_iff b u.key c).2 ⟨hs, u, hu, rfl⟩
  rw [resolveIn, hlookup, Option.bind_some, hu]

/-- What the innermost scope has hides what the others have. -/
private theorem resolve_cons_of_some {s : Scope} {k : QName} {u : ElementType}
    (h : cat.resolveIn k s = some u) (rest : List Scope) : cat.resolve (s :: rest) k = some u := by
  rw [resolve, List.findSome?_cons, h]

end Catalog

namespace Document

/-- A type that is used in a body by its name and by those of its elements: at every node that sees
    the body first, an element name stands for the stored type of the element, and the name of the
    type stands for the type, or else for the type of the element that has this name. -/
structure Usable (doc : Document) (t : Tree) (b : NodeId) (type : ElementType) : Prop where
  nested : ∀ (u : NodeId) (rest : List Scope), t.scopeChain u = .container b :: rest →
    ∀ (k : QName) (c : ClassName), type.nested[k]? = some c →
      ∃ x v, k = ⟨x, none⟩ ∧ c = type.className.nested x ∧ doc.resolveAt t u k = some v ∧
        doc.catalog.get? c = some v ∧ v.className = c ∧ v.key = k ∧ v.isTask = false
  own : ∀ (u : NodeId) (rest : List Scope), t.scopeChain u = .container b :: rest →
    doc.resolveAt t u type.key = type.nested[type.key]?.elim (some type) doc.catalog.get?

variable {doc : Document}

/-- A type that the nearest container lists is what its key stands for. -/
private theorem resolveAt_of_mem_scopes (h : doc.catalog.Coherent) {t : Tree} {u b : NodeId}
    {rest : List Scope} (hchain : t.scopeChain u = .container b :: rest) {c : ClassName}
    {v : ElementType} (hs : .container b ∈ doc.catalog.scopes c)
    (hv : doc.catalog.get? c = some v) : doc.resolveAt t u v.key = some v := by
  rw [resolveAt, hchain]
  exact Catalog.resolve_cons_of_some (h.resolveIn_container hs hv) rest

/-- In a catalogue that is settled for a definition its type is usable in its body. -/
theorem usable_of_settled {d : Definition} {template? : Option ElementType}
    {elements : List (NodeId × String)} (h : doc.catalog.Settled template? elements d) (t : Tree)
    {b : NodeId} (hb : d.body? = some b) : doc.Usable t b d.type := by
  have hfurnished := h.body b hb
  -- the body gives every element name to the type of the element
  have hnested : ∀ (u : NodeId) (rest : List Scope), t.scopeChain u = .container b :: rest →
      ∀ (k : QName) (c : ClassName), d.type.nested[k]? = some c →
        ∃ v, doc.catalog.get? c = some v ∧ doc.resolveAt t u k = some v := by
    intro u rest hchain k c hk
    obtain ⟨v, hv, rfl⟩ := h.storesNested.get?_nested k c hk
    have hs := hfurnished.nested c (Std.ExtTreeMap.mem_values.2 ⟨_, hk⟩)
    exact ⟨v, hv, resolveAt_of_mem_scopes h.coherent hchain hs hv⟩
  constructor
  · intro u rest hchain k c hk
    obtain ⟨v, hv, hresolve⟩ := hnested u rest hchain k c hk
    -- what is stored for an element was declared as one
    obtain ⟨e, seed, rfl, rfl, hdeclared⟩ := h.get?_nested hk
    obtain rfl := Option.some.inj (hv.symm.trans hdeclared)
    exact ⟨e.2, _, rfl, rfl, hresolve, hv, rfl, rfl, rfl⟩
  · intro u rest hchain
    cases hk : d.type.nested[d.type.key]? with
    | some c =>
      -- an element takes the name
      obtain ⟨v, hv, hresolve⟩ := hnested u rest hchain _ c hk
      rw [hresolve, Option.elim_some, hv]
    | none =>
      -- no element takes the name, so the type itself is registered in the body
      have hs := hfurnished.own.2 fun hmem => by
        rw [Std.ExtTreeMap.mem_iff_isSome_getElem?, hk] at hmem
        exact nomatch hmem
      exact resolveAt_of_mem_scopes h.coherent hchain hs hfurnished.get?_own

/-- An update of a declaration with a body stores its type and makes it usable there. -/
theorem usable_update (h : doc.catalog.Coherent) {t : Tree} {n b : NodeId} {name : String}
    (hname : t.declaredName? n = some name) (hb : t.firstChild? n .tasksContainer = some b) :
    ∃ d, (doc.update t n).2.held[n]? = some d ∧
      d.type.className = .ofDeclaration doc.dialect.kind name ∧ d.type.key = ⟨name, none⟩ ∧
      (doc.update t n).2.catalog.get? d.type.className = some d.type ∧
      (doc.update t n).2.Usable t b d.type := by
  -- the declaration that is read has the name and the body
  obtain ⟨decl, hdecl, hnode, hdeclname, hbody⟩ : ∃ decl, t.declaration? doc.dialect n = some decl ∧
      decl.node = n ∧ decl.name = name ∧ decl.body? = some b := by
    rw [Tree.declaration?, hname]
    exact ⟨_, rfl, rfl, rfl, hb⟩
  subst hnode hdeclname
  have hsettled := settled_define h decl
  rw [snd_update_of_some hdecl]
  refine ⟨_, held_define doc decl, rfl, rfl, (hsettled.body b hbody).get?_own, ?_⟩
  exact usable_of_settled hsettled t hbody

end Document

namespace Session

/-- After every history of a new document, updating or refreshing a node that declares a name and
    has a body makes the type just defined usable in the body: in any tree, at every node that sees
    the body first. -/
theorem usable_after_update {dialect : Dialect} {doc : Document}
    (hnew : Document.new dialect = .ok doc) (template? : Option ElementType) (events : List Event)
    {s : Session} (hs : (opened doc template?).run events = s) {t : Tree} {n b : NodeId}
    {name : String} (hname : t.declaredName? n = some name)
    (hb : t.firstChild? n .tasksContainer = some b) :
    ∀ doc' ∈ [(s.document.update t n).2, (s.document.refresh t n).2],
      ∃ d, doc'.held[n]? = some d ∧
        d.type.className = .ofDeclaration s.document.dialect.kind name ∧
        d.type.key = ⟨name, none⟩ ∧ doc'.catalog.get? d.type.className = some d.type ∧
        doc'.Usable t b d.type := by
  have h : s.document.Sound := hs ▸ sound_run hnew template? events
  intro doc' hdoc'
  simp only [List.mem_cons, List.not_mem_nil, or_false] at hdoc'
  rcases hdoc' with rfl | rfl
  · exact Document.usable_update h.coherent hname hb
  · -- a refresh is an update of the document after the release
    exact Document.usable_update (h.release n).coherent hname hb

/-- The sample with an element in the body, and with a declared element that has the name of the
    declaration. -/
def recursiveSample : List Event := sample ++
  [ .edit (.addChild ⟨5⟩ { tag := "Foo" }),
    .edit (.addChild ⟨2⟩ { tag := "element", name? := some "Foo" }) ]

/-- The session in which the declaration has an element of its own name. -/
def recursiveSession : Session :=
  (opened sampleDocument sampleDocument.template?).run recursiveSample

/-- In the body the name stands for the declaration as long as the element was not defined, and
    after the next update for the element. -/
theorem usable_after_update_recursiveSample :
    recursiveSession.tree.scopeChain ⟨6⟩ = [.container ⟨5⟩, .container ⟨1⟩, .document] ∧
      (recursiveSession.document.resolveAt recursiveSession.tree ⟨6⟩ ⟨"Foo", none⟩).map
        ElementType.className = some ⟨"AntMacroDef[Foo]"⟩ ∧
      ((recursiveSession.document.update recursiveSession.tree ⟨2⟩).2.resolveAt
        recursiveSession.tree ⟨6⟩ ⟨"Foo", none⟩).map ElementType.className =
          some ⟨"AntMacroDef[Foo]$Foo"⟩ ∧
      ∀ doc' ∈ [(recursiveSession.document.update recursiveSession.tree ⟨2⟩).2,
          (recursiveSession.document.refresh recursiveSession.tree ⟨2⟩).2],
        ∃ d, doc'.held[(⟨2⟩ : NodeId)]? = some d ∧
          d.type.className = .ofDeclaration recursiveSession.document.dialect.kind "Foo" ∧
          d.type.key = ⟨"Foo", none⟩ ∧ doc'.catalog.get? d.type.className = some d.type ∧
          doc'.Usable recursiveSession.tree ⟨5⟩ d.type := by
  have hname : recursiveSession.tree.declaredName? ⟨2⟩ = some "Foo" := by decide +kernel
  have hbody : recursiveSession.tree.firstChild? ⟨2⟩ .tasksContainer = some ⟨5⟩ := by
    decide +kernel
  exact ⟨by decide +kernel, by decide +kernel, by decide +kernel,
    usable_after_update new_sampleDocument _ recursiveSample rfl hname hbody⟩

end Session

end MacroTypes
