import MacroTypes.Proofs.Catalog.Registration
import MacroTypes.Proofs.ForStd.TreeMap

/-!
# Registering the types of declared elements

The types of declared elements are registered in the document one after the other, each made from
the stored type of its class or else from the template. Of several elements of one name the last
one defines the type, whatever was made for the earlier ones.

* `getElem?_fst_registerElements`: the classes by name
* `get?_registerElements`: the stored types
* `Coherent.mem_scopes_registerElements`: the scopes, as long as no class changes its key
* `Declares.registerElements_eq`: registering the same elements again changes nothing
-/

namespace MacroTypes

/-- A type as that of a declared element of an owner. -/
def ElementType.declaredAs (t : ElementType) (owner : ClassName) (element : NodeId × String) :
    ElementType :=
  { t with
    key := ⟨element.2, none⟩
    className := owner.nested element.2
    isTask := false
    definingNode? := some element.1 }

@[simp] theorem ElementType.key_declaredAs (t : ElementType) (owner : ClassName)
    (element : NodeId × String) : (t.declaredAs owner element).key = ⟨element.2, none⟩ := rfl

@[simp] theorem ElementType.className_declaredAs (t : ElementType) (owner : ClassName)
    (element : NodeId × String) :
    (t.declaredAs owner element).className = owner.nested element.2 := rfl

/-- Declaring a type again leaves nothing of the first declaration. -/
@[simp] theorem ElementType.declaredAs_declaredAs (t : ElementType) (owner owner' : ClassName)
    (element element' : NodeId × String) :
    (t.declaredAs owner element).declaredAs owner' element' = t.declaredAs owner' element' := rfl

namespace Catalog

/-- What the type of a declared element is made from. -/
def seed? (cat : Catalog) (template? : Option ElementType) (c : ClassName) : Option ElementType :=
  (cat.get? c).or template?

variable {cat : Catalog} {template? : Option ElementType} {owner : ClassName}

private theorem declaredElement?_eq (cat : Catalog) (template? : Option ElementType)
    (owner : ClassName) (element : NodeId × String) :
    cat.declaredElement? template? owner element =
      (cat.seed? template? (owner.nested element.2)).map (·.declaredAs owner element) := rfl

/-! ## One element -/

/-- An element without a seed leaves no trace. -/
private theorem registerElement_of_none {element : NodeId × String}
    (h : cat.seed? template? (owner.nested element.2) = none)
    (m : Std.ExtTreeMap QName ClassName) :
    registerElement template? owner (m, cat) element = (m, cat) := by
  simp [registerElement, declaredElement?_eq, h]

private theorem registerElement_of_some {element : NodeId × String} {t : ElementType}
    (h : cat.seed? template? (owner.nested element.2) = some t)
    (m : Std.ExtTreeMap QName ClassName) :
    registerElement template? owner (m, cat) element =
      (m.insert ⟨element.2, none⟩ (owner.nested element.2),
        cat.register .document (t.declaredAs owner element)) := by
  simp [registerElement, declaredElement?_eq, h, ElementType.declaredAs]

private theorem get?_register_declaredAs (cat : Catalog) (t : ElementType) (owner : ClassName)
    (element : NodeId × String) (c : ClassName) :
    (cat.register .document (t.declaredAs owner element)).get? c =
      if c = owner.nested element.2 then some (t.declaredAs owner element) else cat.get? c := by
  rw [get?_register, ElementType.className_declaredAs]

/-- An element that was registered is the seed of the next one of its name. -/
private theorem seed?_register_declaredAs (cat : Catalog) (template? : Option ElementType)
    (t : ElementType) (owner : ClassName) (element : NodeId × String) (c : ClassName) :
    (cat.register .document (t.declaredAs owner element)).seed? template? c =
      if c = owner.nested element.2 then some (t.declaredAs owner element)
      else cat.seed? template? c := by
  rw [seed?, get?_register_declaredAs]
  split
  · rfl
  · rfl

/-- Registering an element changes which classes have a seed for none. -/
theorem isSome_seed?_register {element : NodeId × String} {t : ElementType}
    (h : cat.seed? template? (owner.nested element.2) = some t) (c : ClassName) :
    ((cat.register .document (t.declaredAs owner element)).seed? template? c).isSome =
      (cat.seed? template? c).isSome := by
  rw [seed?_register_declaredAs]
  split
  · next hc => rw [hc, h, Option.isSome_some, Option.isSome_some]
  · rfl

/-! ## All elements -/

/-- The stored types afterwards: for each name the last element of that name decides. -/
theorem get?_registerElements (cat : Catalog) (template? : Option ElementType) (owner : ClassName)
    (elements : List (NodeId × String)) (d : ClassName) :
    (cat.registerElements template? owner elements).2.get? d =
      (elements.reverse.find? fun e => owner.nested e.2 = d).elim (cat.get? d) fun e =>
        (cat.seed? template? d).map (·.declaredAs owner e) := by
  -- the catalogue does not depend on the classes noted on the way
  suffices h : ∀ (m : Std.ExtTreeMap QName ClassName) (cat : Catalog),
      (elements.foldl (registerElement template? owner) (m, cat)).2.get? d =
        (elements.reverse.find? fun e => owner.nested e.2 = d).elim (cat.get? d) fun e =>
          (cat.seed? template? d).map (·.declaredAs owner e) from h ∅ cat
  induction elements with
  | nil => exact fun _ _ => rfl
  | cons e rest ih =>
    intro m cat
    rw [List.foldl_cons, List.reverse_cons, List.find?_append, List.find?_singleton]
    cases hseed : cat.seed? template? (owner.nested e.2) with
    | none =>
      -- nothing happens, and if no later element has the name, nothing is stored either
      rw [registerElement_of_none hseed, ih]
      cases rest.reverse.find? fun e => owner.nested e.2 = d with
      | some e' => rfl
      | none =>
        by_cases hd : owner.nested e.2 = d
        · subst hd
          have hget : cat.get? (owner.nested e.2) = none := (Option.or_eq_none_iff.1 hseed).1
          simp [hseed, hget]
        · simp [hd]
    | some t =>
      rw [registerElement_of_some hseed, ih, get?_register_declaredAs, seed?_register_declaredAs]
      by_cases hd : d = owner.nested e.2
      · -- an earlier element of the name leaves nothing but a seed behind
        subst hd
        cases rest.reverse.find? fun e' => owner.nested e'.2 = owner.nested e.2 with
        | none => simp [hseed]
        | some e' => simp [hseed]
      · simp [hd, Ne.symm hd]

/-- The classes noted are those of the elements with a seed. Which elements have one does not change
    on the way. -/
private theorem fst_foldl_registerElement (elements : List (NodeId × String))
    (m : Std.ExtTreeMap QName ClassName) (cat : Catalog) :
    (elements.foldl (registerElement template? owner) (m, cat)).1 =
      (elements.filter fun e => (cat.seed? template? (owner.nested e.2)).isSome).foldl
        (fun m e => m.insert ⟨e.2, none⟩ (owner.nested e.2)) m := by
  induction elements generalizing m cat with
  | nil => rfl
  | cons e rest ih =>
    rw [List.foldl_cons, List.filter_cons]
    cases hseed : cat.seed? template? (owner.nested e.2) with
    | none =>
      rw [registerElement_of_none hseed, ih]
      rfl
    | some t =>
      rw [registerElement_of_some hseed, ih]
      simp only [isSome_seed?_register hseed]
      rfl

/-- A name determines the class that is noted for it, so it does not matter which of several
    elements noted it. -/
private theorem getElem?_foldl_note (elements : List (NodeId × String))
    (m : Std.ExtTreeMap QName ClassName) (k : QName) :
    (elements.foldl (fun m e => m.insert ⟨e.2, none⟩ (owner.nested e.2)) m)[k]? =
      if ∃ e ∈ elements, k = ⟨e.2, none⟩ then some (owner.nested k.name) else m[k]? := by
  induction elements generalizing m with
  | nil => simp
  | cons e rest ih =>
    rw [List.foldl_cons, ih, Std.ExtTreeMap.getElem?_insert_ite]
    by_cases hk : k = ⟨e.2, none⟩
    · subst hk
      simp
    · have hcons : (∃ e' ∈ e :: rest, k = ⟨e'.2, none⟩) ↔ ∃ e' ∈ rest, k = ⟨e'.2, none⟩ := by
        simp [hk]
      rw [if_neg hk]
      by_cases hex : ∃ e' ∈ rest, k = ⟨e'.2, none⟩
      · rw [if_pos hex, if_pos (hcons.2 hex)]
      · rw [if_neg hex, if_neg fun h => hex (hcons.1 h)]

/-- The classes by name: an element with a seed puts its class under its name. -/
theorem getElem?_fst_registerElements (cat : Catalog) (template? : Option ElementType)
    (owner : ClassName) (elements : List (NodeId × String)) (k : QName) (c : ClassName) :
    (cat.registerElements template? owner elements).1[k]? = some c ↔
      ∃ e ∈ elements, k = ⟨e.2, none⟩ ∧ c = owner.nested e.2 ∧
        (cat.seed? template? (owner.nested e.2)).isSome = true := by
  rw [Catalog.registerElements, fst_foldl_registerElement, getElem?_foldl_note,
    Std.ExtTreeMap.getElem?_empty]
  constructor
  · intro h
    split at h
    · next hex =>
      obtain ⟨e, he, rfl⟩ := hex
      obtain ⟨he, hseed⟩ := List.mem_filter.1 he
      exact ⟨e, he, rfl, (Option.some.inj h).symm, hseed⟩
    · exact nomatch h
  · rintro ⟨e, he, rfl, rfl, hseed⟩
    rw [if_pos ⟨e, List.mem_filter.2 ⟨he, hseed⟩, rfl⟩]

/-- Where no class is noted the stored type is as before. -/
theorem get?_registerElements_of_not_mem {elements : List (NodeId × String)} {d : ClassName}
    (hd : d ∉ (cat.registerElements template? owner elements).1.values) :
    (cat.registerElements template? owner elements).2.get? d = cat.get? d := by
  rw [get?_registerElements]
  cases hfind : elements.reverse.find? fun e => owner.nested e.2 = d with
  | none => rfl
  | some e =>
    have he := List.mem_reverse.1 (List.mem_of_find?_eq_some hfind)
    obtain rfl : owner.nested e.2 = d := by simpa using List.find?_some hfind
    rw [Option.elim_some]
    cases hseed : cat.seed? template? (owner.nested e.2) with
    | none => exact (Option.or_eq_none_iff.1 hseed).1.symm
    | some t =>
      -- an element with a seed has its class noted
      have hnoted := (getElem?_fst_registerElements cat template? owner elements ⟨e.2, none⟩ _).2
        ⟨e, he, rfl, rfl, by rw [hseed, Option.isSome_some]⟩
      exact absurd (Std.ExtTreeMap.mem_values.2 ⟨_, hnoted⟩) hd

/-- What registering one element keeps is kept by registering them all. -/
theorem registerElements_invariant {P : Catalog → Prop} {elements : List (NodeId × String)}
    (hstep : ∀ {cat e t}, e ∈ elements → cat.seed? template? (owner.nested e.2) = some t → P cat →
      P (cat.register .document (t.declaredAs owner e)))
    (state : Std.ExtTreeMap QName ClassName × Catalog) (h : P state.2) :
    P (elements.foldl (registerElement template? owner) state).2 := by
  induction elements generalizing state with
  | nil => exact h
  | cons e rest ih =>
    obtain ⟨m, cat⟩ := state
    rw [List.foldl_cons]
    apply ih fun he' => hstep (List.mem_cons_of_mem _ he')
    cases hseed : cat.seed? template? (owner.nested e.2) with
    | none =>
      rw [registerElement_of_none hseed]
      exact h
    | some t =>
      rw [registerElement_of_some hseed]
      exact hstep List.mem_cons_self hseed h

theorem Coherent.registerElements (h : Coherent cat) (template? : Option ElementType)
    (owner : ClassName) (elements : List (NodeId × String)) :
    Coherent (cat.registerElements template? owner elements).2 :=
  registerElements_invariant (P := Coherent) (fun _ _ h => h.register .document _) _ h

/-- The keys of element types are the names of the elements, and they stay so. -/
private theorem key_of_get?_register {elements : List (NodeId × String)}
    (hkeys : ∀ e ∈ elements, ∀ u, cat.get? (owner.nested e.2) = some u → u.key = ⟨e.2, none⟩)
    (t : ElementType) (e : NodeId × String) :
    ∀ e' ∈ elements, ∀ u,
      (cat.register .document (t.declaredAs owner e)).get? (owner.nested e'.2) = some u →
        u.key = ⟨e'.2, none⟩ := by
  intro e' he' u hu
  rw [get?_register_declaredAs] at hu
  split at hu
  · next heq => rw [← Option.some.inj hu, ElementType.key_declaredAs, ClassName.nested_inj.1 heq]
  · exact hkeys e' he' u hu

/-- As long as no stored type changes its key, registering elements adds the document to the scopes
    of their classes and changes nothing else. -/
theorem Coherent.mem_scopes_registerElements (h : Coherent cat) {template? : Option ElementType}
    {owner : ClassName} {elements : List (NodeId × String)}
    (hkeys : ∀ e ∈ elements, ∀ u, cat.get? (owner.nested e.2) = some u → u.key = ⟨e.2, none⟩)
    {s : Scope} {d : ClassName} :
    s ∈ (cat.registerElements template? owner elements).2.scopes d ↔
      s ∈ cat.scopes d ∨ (s = .document ∧ ∃ e ∈ elements, d = owner.nested e.2 ∧
        (cat.seed? template? (owner.nested e.2)).isSome = true) := by
  suffices hfold : ∀ (m : Std.ExtTreeMap QName ClassName) {cat : Catalog}, Coherent cat →
      (∀ e ∈ elements, ∀ u, cat.get? (owner.nested e.2) = some u → u.key = ⟨e.2, none⟩) →
      (s ∈ (elements.foldl (registerElement template? owner) (m, cat)).2.scopes d ↔
        s ∈ cat.scopes d ∨ (s = .document ∧ ∃ e ∈ elements, d = owner.nested e.2 ∧
          (cat.seed? template? (owner.nested e.2)).isSome = true)) from hfold ∅ h hkeys
  clear hkeys h
  -- induction on the elements; that no key changes is what the rest asks of the catalogue it meets
  induction elements with
  | nil => simp
  | cons e rest ih =>
    intro m cat h hkeys
    have hrest := fun e' he' => hkeys e' (List.mem_cons_of_mem _ he')
    rw [List.foldl_cons]
    cases hseed : cat.seed? template? (owner.nested e.2) with
    | none =>
      -- an element without a seed registers nothing
      rw [registerElement_of_none hseed, ih m h hrest]
      simp [hseed]
    | some t =>
      -- the keys stay what they were, so neither this element nor a later one displaces anything
      have hrest' := key_of_get?_register hrest t e
      rw [registerElement_of_some hseed, ih _ (h.register .document _) hrest',
        h.mem_scopes_register_document (hkeys e List.mem_cons_self)]
      simp only [isSome_seed?_register hseed, List.mem_cons, ElementType.className_declaredAs]
      constructor
      · intro hor
        -- the document is gained for this element or for one of the rest
        rcases hor with (hs | ⟨hs, hd⟩) | ⟨hs, e', he', hrest⟩
        · exact .inl hs
        · exact .inr ⟨hs, e, .inl rfl, hd, by rw [hseed]; rfl⟩
        · exact .inr ⟨hs, e', .inr he', hrest⟩
      · intro hor
        rcases hor with hs | ⟨hs, e', rfl | he', hrest⟩
        · exact .inl (.inl hs)
        · exact .inl (.inr ⟨hs, hrest.1⟩)
        · exact .inr ⟨hs, e', he', hrest⟩

/-! ## Registering elements again -/

/-- A class that is registered in the document stays there, whatever is registered. -/
theorem document_mem_scopes_register {s : Scope} {t : ElementType} {c : ClassName}
    (h : .document ∈ cat.scopes c) : .document ∈ (cat.register s t).scopes c := by
  rw [mem_scopes_register]
  split
  · exact .inr h
  · exact ⟨h, by simp⟩

/-- Registering elements puts the classes of those that have a seed into the document. -/
private theorem document_mem_scopes_registerElements {elements : List (NodeId × String)}
    {e : NodeId × String} (he : e ∈ elements)
    (hseed : (cat.seed? template? (owner.nested e.2)).isSome = true) :
    .document ∈ (cat.registerElements template? owner elements).2.scopes (owner.nested e.2) := by
  obtain ⟨before, after, rfl⟩ := List.append_of_mem he
  rw [Catalog.registerElements, List.foldl_append, List.foldl_cons]
  -- the elements before leave the element a seed
  have hseed' : ((before.foldl (registerElement template? owner) (∅, cat)).2.seed? template?
      (owner.nested e.2)).isSome = true :=
    registerElements_invariant
      (P := fun cat => (cat.seed? template? (owner.nested e.2)).isSome = true)
      (fun _ ht h => (isSome_seed?_register ht _).trans h) (∅, cat) hseed
  generalize before.foldl (registerElement template? owner) (∅, cat) = state at hseed' ⊢
  obtain ⟨m, cat'⟩ := state
  obtain ⟨t, ht⟩ := Option.isSome_iff_exists.1 hseed'
  rw [registerElement_of_some ht]
  -- it is registered in the document then, and the elements after it leave it there
  apply registerElements_invariant (P := fun cat => .document ∈ cat.scopes (owner.nested e.2))
  · exact fun _ _ h => document_mem_scopes_register h
  · show .document ∈ (cat'.register .document (t.declaredAs owner e)).scopes (owner.nested e.2)
    rw [mem_scopes_register, ElementType.className_declaredAs, if_pos rfl]
    exact .inl rfl

/-- The types of elements are stored and registered as the elements say, as far as they have a
    seed. -/
structure Declares (cat : Catalog) (template? : Option ElementType) (owner : ClassName)
    (elements : List (NodeId × String)) : Prop where
  get?_last : ∀ (name : String) (e : NodeId × String) (t : ElementType),
    elements.reverse.find? (fun e' => e'.2 = name) = some e →
    cat.seed? template? (owner.nested name) = some t →
      cat.get? (owner.nested name) = some (t.declaredAs owner e)
  document_mem : ∀ e ∈ elements, (cat.seed? template? (owner.nested e.2)).isSome = true →
    .document ∈ cat.scopes (owner.nested e.2)

/-- The seeds of the elements are as before. -/
theorem isSome_seed?_registerElements (cat : Catalog) (template? : Option ElementType)
    (owner : ClassName) (elements : List (NodeId × String)) (d : ClassName) :
    ((cat.registerElements template? owner elements).2.seed? template? d).isSome =
      (cat.seed? template? d).isSome := by
  rw [seed?, get?_registerElements]
  cases elements.reverse.find? fun e => owner.nested e.2 = d with
  | none => rfl
  | some e =>
    rw [Option.elim_some]
    cases hseed : cat.seed? template? d with
    | none =>
      -- without a seed there is no template, so the element is passed over
      have htemplate : template? = none := (Option.or_eq_none_iff.1 hseed).2
      rw [htemplate]
      rfl
    | some t => rfl

theorem declares_registerElements (cat : Catalog) (template? : Option ElementType)
    (owner : ClassName) (elements : List (NodeId × String)) :
    (cat.registerElements template? owner elements).2.Declares template? owner elements where
  get?_last name e t hfind hseed := by
    have hget := get?_registerElements cat template? owner elements (owner.nested name)
    simp only [ClassName.nested_inj, hfind, Option.elim_some] at hget
    have hsome := isSome_seed?_registerElements cat template? owner elements (owner.nested name)
    rw [hseed, Option.isSome_some, eq_comm, Option.isSome_iff_exists] at hsome
    obtain ⟨u, hu⟩ := hsome
    -- what is stored is the seed now, and declaring it again leaves it as it is
    rw [hu, Option.map_some] at hget
    rw [seed?, hget, Option.some_or] at hseed
    rw [hget, ← Option.some.inj hseed, ElementType.declaredAs_declaredAs]
  document_mem e he hseed := by
    rw [isSome_seed?_registerElements] at hseed
    exact document_mem_scopes_registerElements he hseed

/-- The classes by name depend on which elements have a seed. -/
theorem fst_registerElements_congr {cat cat' : Catalog} {elements : List (NodeId × String)}
    (h : ∀ e ∈ elements, (cat'.seed? template? (owner.nested e.2)).isSome =
      (cat.seed? template? (owner.nested e.2)).isSome) :
    (cat'.registerElements template? owner elements).1 =
      (cat.registerElements template? owner elements).1 := by
  apply Std.ExtTreeMap.ext_getElem?
  intro k
  apply Option.ext
  intro c
  rw [getElem?_fst_registerElements, getElem?_fst_registerElements]
  refine exists_congr fun e => and_congr_right fun he => ?_
  rw [h e he]

/-- Registering elements again gives the same classes by name. -/
theorem fst_registerElements_registerElements (cat : Catalog) (template? : Option ElementType)
    (owner : ClassName) (elements : List (NodeId × String)) :
    ((cat.registerElements template? owner elements).2.registerElements template? owner
      elements).1 = (cat.registerElements template? owner elements).1 :=
  fst_registerElements_congr fun e _ =>
    isSome_seed?_registerElements cat template? owner elements (owner.nested e.2)

/-- Of the elements of one name one is the last. -/
theorem exists_last_of_mem {elements : List (NodeId × String)} {e : NodeId × String}
    (he : e ∈ elements) : ∃ e', elements.reverse.find? (fun e' => e'.2 = e.2) = some e' := by
  rw [← Option.isSome_iff_exists, List.find?_isSome]
  exact ⟨e, List.mem_reverse.2 he, by simp⟩

/-- Elements that are declared have their names as keys. -/
theorem Declares.exists_key {elements : List (NodeId × String)}
    (hd : cat.Declares template? owner elements) {e : NodeId × String} (he : e ∈ elements)
    (hseed : (cat.seed? template? (owner.nested e.2)).isSome = true) :
    ∃ u, cat.get? (owner.nested e.2) = some u ∧ u.key = ⟨e.2, none⟩ := by
  obtain ⟨t, ht⟩ := Option.isSome_iff_exists.1 hseed
  obtain ⟨e', hfind⟩ := exists_last_of_mem he
  refine ⟨_, hd.get?_last e.2 e' t hfind ht, ?_⟩
  rw [ElementType.key_declaredAs, show e'.2 = e.2 by simpa using List.find?_some hfind]

/-- What is declared depends on the types under the classes of the elements, and on which of these
    are in the document. -/
theorem Declares.of_get?_eq {elements : List (NodeId × String)}
    (hd : cat.Declares template? owner elements) {cat' : Catalog}
    (hget : ∀ e ∈ elements, cat'.get? (owner.nested e.2) = cat.get? (owner.nested e.2))
    (hdocument : ∀ e ∈ elements, (cat.seed? template? (owner.nested e.2)).isSome = true →
      .document ∈ cat.scopes (owner.nested e.2) → .document ∈ cat'.scopes (owner.nested e.2)) :
    cat'.Declares template? owner elements where
  get?_last name e t hfind hseed := by
    have hmem := List.mem_reverse.1 (List.mem_of_find?_eq_some hfind)
    obtain rfl : e.2 = name := by simpa using List.find?_some hfind
    rw [seed?, hget e hmem] at hseed
    rw [hget e hmem]
    exact hd.get?_last e.2 e t hfind hseed
  document_mem e he hseed := by
    rw [seed?, hget e he] at hseed
    exact hdocument e he hseed (hd.document_mem e he hseed)

/-- Registering elements that are registered already changes nothing. -/
theorem Declares.registerElements_eq {elements : List (NodeId × String)}
    (hd : cat.Declares template? owner elements) (h : cat.Coherent) :
    (cat.registerElements template? owner elements).2 = cat := by
  -- an element that is declared has its name as key already, so no key changes
  have hkeys : ∀ e ∈ elements, ∀ u, cat.get? (owner.nested e.2) = some u →
      u.key = ⟨e.2, none⟩ := by
    intro e he u hu
    obtain ⟨v, hv, hkey⟩ := hd.exists_key he (by rw [seed?, hu, Option.some_or, Option.isSome_some])
    rw [← Option.some.inj (hv.symm.trans hu), hkey]
  refine (h.registerElements template? owner elements).ext h (fun d => ?_) fun d s => ?_
  · rw [get?_registerElements]
    -- the last element of a name has been declared already
    cases hfind : elements.reverse.find? fun e => owner.nested e.2 = d with
    | none => rfl
    | some e =>
      obtain rfl : owner.nested e.2 = d := by simpa using List.find?_some hfind
      simp only [ClassName.nested_inj] at hfind
      rw [Option.elim_some]
      cases hseed : cat.seed? template? (owner.nested e.2) with
      | none => exact (Option.or_eq_none_iff.1 hseed).1.symm
      | some t => exact (hd.get?_last e.2 e t hfind hseed).symm
  · rw [h.mem_scopes_registerElements hkeys]
    -- the classes of the elements are in the document already
    refine ⟨fun hor => hor.elim id ?_, .inl⟩
    rintro ⟨rfl, e, he, rfl, hseed⟩
    exact hd.document_mem e he hseed

end Catalog

end MacroTypes
