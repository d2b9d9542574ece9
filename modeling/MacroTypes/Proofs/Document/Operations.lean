import MacroTypes.Document.Define
import MacroTypes.Proofs.Catalog.Registration
import MacroTypes.Proofs.ForStd.TreeMap

/-!
# What the operations on a document do

Releasing takes the classes at a node out of the catalogue (`classesAt`). The other operations are
made of it, and each of them has few outcomes: a node may have a body to forget or none
(`forget_cases`), a definition may be stale or not (`releaseStale_cases`), and a node that is
updated may declare something or not (`update_cases`). What is to hold after an operation is shown
outcome by outcome. So a property that releases, definitions and the emptying of containers keep is
kept by every operation (`Invariant`).
-/

namespace MacroTypes.Document

variable {doc : Document} {decl : Declaration} {t : Tree} {n : NodeId}

/-- Beside the settings, the catalogue and what is held there is the generation only. -/
theorem eq_but_generation {a b : Document} (hd : a.dialect = b.dialect)
    (ht : a.template? = b.template?) (hcatalog : a.catalog = b.catalog) (hheld : a.held = b.held) :
    a = { b with generation := a.generation } := by
  cases a
  cases b
  simp only at hd ht hcatalog hheld
  subst hd ht hcatalog hheld
  rfl

/-! ## Releasing -/

/-- The classes that a release takes out. -/
def classesAt (doc : Document) (n : NodeId) : List ClassName :=
  (doc.held[n]?.map doc.classesOf).getD []

theorem get?_release (doc : Document) (n : NodeId) (c : ClassName) :
    (doc.release n).catalog.get? c =
      if c ∈ doc.classesAt n then none else doc.catalog.get? c :=
  doc.catalog.get?_unregisterAll _ c

theorem scopes_release (doc : Document) (n : NodeId) (c : ClassName) :
    (doc.release n).catalog.scopes c = if c ∈ doc.classesAt n then ∅ else doc.catalog.scopes c :=
  doc.catalog.scopes_unregisterAll _ c

theorem getElem?_held_release (doc : Document) (n m : NodeId) :
    (doc.release n).held[m]? = if m = n then none else doc.held[m]? :=
  Std.ExtTreeMap.getElem?_erase_ite ..

theorem held_release_self (doc : Document) (n : NodeId) : (doc.release n).held[n]? = none := by
  rw [getElem?_held_release, if_pos rfl]

theorem held_release_of_ne (doc : Document) {m n : NodeId} (hne : m ≠ n) :
    (doc.release n).held[m]? = doc.held[m]? := by
  rw [getElem?_held_release, if_neg hne]

/-- What is held after a release was held before. -/
theorem held_of_held_release {m n : NodeId} {d : Definition}
    (hd : (doc.release n).held[m]? = some d) : doc.held[m]? = some d :=
  Std.ExtTreeMap.getElem?_of_getElem?_erase hd

/-! ## Forgetting -/

/-- The document with a container emptied. -/
def emptied (doc : Document) (container : NodeId) : Document :=
  { doc with catalog := doc.catalog.removeContainer container }

/-- Forgetting a node is releasing it and then, if its definition has a body, emptying the body. -/
theorem forget_cases {P : Document → Prop} (hrelease : P (doc.release n))
    (hbody : ∀ d b, doc.held[n]? = some d → d.body? = some b → P ((doc.release n).emptied b)) :
    P (doc.forget n) := by
  unfold forget
  split
  · exact hrelease
  · next b hb =>
    obtain ⟨d, hd, hb⟩ := Option.bind_eq_some_iff.1 hb
    exact hbody d b hd hb

/-- Beside the catalogue, forgetting a node is releasing it. -/
theorem forget_eq (doc : Document) (n : NodeId) :
    doc.forget n = { doc.release n with catalog := (doc.forget n).catalog } :=
  forget_cases (P := fun doc' => doc' = { doc.release n with catalog := doc'.catalog }) rfl
    fun _ _ _ _ => rfl

/-! ## Releasing what is stale -/

theorem fits_iff {d : Definition} : doc.fits decl d = true ↔
    d.type.className = decl.className doc.dialect ∧ d.project? = decl.project? ∧
      d.body? = decl.body? := by
  rw [fits, Bool.and_eq_true, Bool.and_eq_true, decide_eq_true_eq, decide_eq_true_eq,
    decide_eq_true_eq, and_assoc]

/-- Before a declaration is defined, nothing is held for it, its definition is kept or its
    definition is released. -/
theorem releaseStale_cases {P : List ClassName → Document → Prop}
    (hnone : doc.held[decl.node]? = none → P [] doc)
    (hkept : ∀ d, doc.held[decl.node]? = some d → doc.fits decl d = true →
      P (doc.current d).nested.values doc)
    (hreleased : P [] (doc.release decl.node)) :
    P (doc.releaseStale decl).1 (doc.releaseStale decl).2 := by
  unfold releaseStale
  split
  · next hn => exact hnone hn
  · next d hd =>
    split
    · next hfits => exact hkept d hd hfits
    · exact hreleased

/-- So the document is left as it is or released. -/
theorem snd_releaseStale_cases {P : Document → Prop} (hdoc : P doc)
    (hreleased : P (doc.release decl.node)) : P (doc.releaseStale decl).2 :=
  releaseStale_cases (P := fun _ => P) (fun _ => hdoc) (fun _ _ _ => hdoc) hreleased

theorem settings_releaseStale (doc : Document) (decl : Declaration) :
    (doc.releaseStale decl).2.dialect = doc.dialect ∧
      (doc.releaseStale decl).2.template? = doc.template? :=
  snd_releaseStale_cases
    (P := fun doc' => doc'.dialect = doc.dialect ∧ doc'.template? = doc.template?) ⟨rfl, rfl⟩
    ⟨rfl, rfl⟩

theorem coherent_releaseStale (h : doc.catalog.Coherent) (decl : Declaration) :
    (doc.releaseStale decl).2.catalog.Coherent :=
  snd_releaseStale_cases (P := fun doc' => doc'.catalog.Coherent) h (h.unregisterAll _)

/-- What is held for other nodes stays. -/
theorem held_releaseStale_of_ne (doc : Document) {decl : Declaration} {m : NodeId}
    (hm : m ≠ decl.node) : (doc.releaseStale decl).2.held[m]? = doc.held[m]? :=
  snd_releaseStale_cases (P := fun doc' => doc'.held[m]? = doc.held[m]?) rfl
    (doc.held_release_of_ne hm)

/-! ## Updating -/

/-- The class that is reported depends on the tree alone. -/
theorem fst_update (doc : Document) (t : Tree) (n : NodeId) :
    (doc.update t n).1 = (t.declaration? doc.dialect n).map (·.className doc.dialect) := by
  unfold update
  cases t.declaration? doc.dialect n with
  | none => rfl
  | some decl => rfl

theorem snd_update_of_some (h : t.declaration? doc.dialect n = some decl) :
    (doc.update t n).2 = doc.define decl := by
  rw [update, h]

/-- The update of a node that declares nothing is a release, if there is something to release. -/
theorem snd_update_of_none (h : t.declaration? doc.dialect n = none) :
    (doc.update t n).2 = if n ∈ doc.held then doc.release n else doc := by
  rw [update, h]

/-- An update defines what the node declares. If that is nothing, it releases the node or leaves the
    document as it is. -/
theorem update_cases {P : Document → Prop} (hdoc : P doc) (hrelease : P (doc.release n))
    (hdefine : ∀ decl, t.declaration? doc.dialect n = some decl → P (doc.define decl)) :
    P (doc.update t n).2 := by
  cases hdecl : t.declaration? doc.dialect n with
  | none =>
    rw [snd_update_of_none hdecl]
    split
    · exact hrelease
    · exact hdoc
  | some decl =>
    rw [snd_update_of_some hdecl]
    exact hdefine decl hdecl

/-- A node that declares nothing holds nothing after the update. -/
theorem held_update_of_none (h : t.declaration? doc.dialect n = none) :
    (doc.update t n).2.held[n]? = none := by
  rw [snd_update_of_none h]
  split
  · exact doc.held_release_self n
  · next hn => exact Std.ExtTreeMap.getElem?_eq_none hn

/-- A node that declares nothing and holds nothing is left alone. -/
theorem snd_update_of_held_eq_none (h : t.declaration? doc.dialect n = none)
    (hheld : doc.held[n]? = none) : (doc.update t n).2 = doc := by
  rw [snd_update_of_none h, if_neg]
  intro hn
  rw [Std.ExtTreeMap.mem_iff_isSome_getElem?, hheld] at hn
  exact nomatch hn

/-! ## What every operation keeps -/

/-- A property of documents that is kept whatever is done, provided that the updates are allowed.
    Whatever is done consists of new templates, releases, containers that are emptied and
    definitions. -/
structure Invariant (allowed : Document → Tree → NodeId → Prop) (P : Document → Prop) : Prop where
  withTemplate : ∀ {doc}, P doc → ∀ template?, P (doc.withTemplate template?)
  release : ∀ {doc}, P doc → ∀ n, P (doc.release n)
  emptied : ∀ {doc}, P doc → ∀ b, P (doc.emptied b)
  define : ∀ {doc t n decl}, P doc → allowed doc t n → t.declaration? doc.dialect n = some decl →
    P (doc.define decl)

variable {allowed : Document → Tree → NodeId → Prop} {P : Document → Prop}

theorem Invariant.forget (h : Invariant allowed P) (hdoc : P doc) (n : NodeId) : P (doc.forget n) :=
  forget_cases (h.release hdoc n) fun _ b _ _ => h.emptied (h.release hdoc n) b

theorem Invariant.update (h : Invariant allowed P) (hdoc : P doc) (hn : allowed doc t n) :
    P (doc.update t n).2 :=
  update_cases hdoc (h.release hdoc n) fun _ hdecl => h.define hdoc hn hdecl

end MacroTypes.Document
