import MacroTypes.Document.Query
import MacroTypes.Proofs.Document.Refreshing

/-!
# Releases and what is held

The generation counts releases. Releasing, forgetting and refreshing a node are one release each,
whatever is held, and refreshing several nodes is as many releases as there are nodes in the list,
repetitions included. An update releases the node only if its definition is `Outdated`, and
otherwise the definition after the update has the class, the project and the body of the one before.

* `getElem?_held_update`, `isSome_held_foldl_update`: what the nodes hold
* `snd_releaseStale`: which definition is released before a new one is made
* `generation_update`, `generation_refresh`, `generation_refreshAll`: how many releases there were
-/

namespace MacroTypes

/-- A definition that takes the place of another, with its class and in its containers. -/
structure Definition.Succeeds (d' d : Definition) : Prop where
  className_eq : d'.type.className = d.type.className
  project?_eq : d'.project? = d.project?
  body?_eq : d'.body? = d.body?

theorem Definition.Succeeds.refl (d : Definition) : d.Succeeds d := ⟨rfl, rfl, rfl⟩

theorem Definition.Succeeds.trans {d d' d'' : Definition} (h : d'.Succeeds d)
    (h' : d''.Succeeds d') : d''.Succeeds d :=
  ⟨h'.className_eq.trans h.className_eq, h'.project?_eq.trans h.project?_eq,
    h'.body?_eq.trans h.body?_eq⟩

namespace Document

variable {doc : Document} {t : Tree} {decl : Declaration} {n m : NodeId}

/-- A node holds a definition, and it declares nothing any more or something of another class, in
    another project or with another body. -/
def Outdated (doc : Document) (t : Tree) (n : NodeId) : Prop :=
  ∃ d ∈ doc.held[n]?, doc.declaredClass? t n ≠ some d.type.className ∨
    d.project? ≠ t.enclosingProject? n ∨ d.body? ≠ t.firstChild? n .tasksContainer

instance (doc : Document) (t : Tree) (n : NodeId) : Decidable (doc.Outdated t n) :=
  decidable_of_iff (doc.held[n]?.any (fun d => doc.declaredClass? t n ≠ some d.type.className ∨
      d.project? ≠ t.enclosingProject? n ∨ d.body? ≠ t.firstChild? n .tasksContainer) = true) <| by
    simp [Outdated, Option.any_eq_true]

theorem mem_declarations_iff : n ∈ doc.declarations ↔ doc.held[n]?.isSome = true := by
  rw [declarations, Std.ExtTreeMap.mem_keys, Std.ExtTreeMap.mem_iff_isSome_getElem?]

/-! ## What is held -/

theorem getElem?_held_forget (doc : Document) (n m : NodeId) :
    (doc.forget n).held[m]? = if m = n then none else doc.held[m]? := by
  rw [forget_eq]
  exact doc.getElem?_held_release n m

/-- After an update the node holds the definition of what it declares, other nodes what they held
    before. -/
theorem getElem?_held_update (doc : Document) (t : Tree) (n m : NodeId) :
    (doc.update t n).2.held[m]? =
      if m = n then (t.declaration? doc.dialect n).map doc.defined else doc.held[m]? := by
  cases hdecl : t.declaration? doc.dialect n with
  | none =>
    split
    · next hm =>
      -- the node declares nothing, so it holds nothing afterwards
      rw [hm, held_update_of_none hdecl]
      rfl
    · next hm =>
      -- at most the node itself was released
      rw [snd_update_of_none hdecl]
      split
      · exact doc.held_release_of_ne hm
      · rfl
  | some decl =>
    obtain rfl := Declaration.node_eq_of_declaration? hdecl
    rw [snd_update_of_some hdecl]
    split
    · next hm =>
      -- the node holds the new definition
      rw [hm, held_define]
      rfl
    · next hm => exact doc.held_define_of_ne hm

/-- Whether a node holds something after it was updated depends on its name alone. -/
theorem isSome_held_foldl_update (doc : Document) (t : Tree) (ns : List NodeId) (m : NodeId) :
    (ns.foldl (fun doc n => (doc.update t n).2) doc).held[m]?.isSome =
      if m ∈ ns then (t.declaredName? m).isSome else doc.held[m]?.isSome := by
  induction ns generalizing doc with
  | nil => simp
  | cons n rest ih =>
    rw [List.foldl_cons, ih, getElem?_held_update]
    -- a later update of the same node has the last word
    by_cases hrest : m ∈ rest
    · simp [hrest]
    · by_cases hm : m = n
      · simp [hm, Tree.declaration?]
      · simp [hrest, hm]

/-! ## Outdated definitions -/

/-- A definition that does not fit what the node declares is outdated. -/
private theorem outdated_iff_of_some (hdecl : t.declaration? doc.dialect n = some decl) :
    doc.Outdated t n ↔ ∃ d ∈ doc.held[n]?, doc.fits decl d = false := by
  obtain ⟨name, hname, rfl⟩ := Option.map_eq_some_iff.1 hdecl
  refine exists_congr fun d => and_congr_right fun _ => ?_
  rw [← Bool.not_eq_true, fits_iff, Decidable.not_and_iff_not_or_not,
    Decidable.not_and_iff_not_or_not, declaredClass?, hname, Option.map_some, ne_comm]
  exact or_congr_left (not_congr Option.some_inj)

/-- If the node declares nothing, whatever it holds is outdated. -/
private theorem outdated_iff_of_none (hdecl : t.declaration? doc.dialect n = none) :
    doc.Outdated t n ↔ n ∈ doc.held := by
  rw [Tree.declaration?, Option.map_eq_none_iff] at hdecl
  rw [Std.ExtTreeMap.mem_iff_isSome_getElem?, Option.isSome_iff_exists]
  refine exists_congr fun d => and_iff_left (.inl ?_)
  rw [declaredClass?, hdecl]
  exact nofun

private theorem not_outdated_of_held (h : doc.held[n]? = none) : ¬ doc.Outdated t n := by
  rintro ⟨d, hd, -⟩
  exact nomatch h.symm.trans hd

/-- Nothing is outdated right after an update. -/
private theorem not_outdated_update (doc : Document) (t : Tree) (n : NodeId) :
    ¬ (doc.update t n).2.Outdated t n := by
  rintro ⟨d, hd, hor⟩
  rw [Option.mem_def, getElem?_held_update, if_pos rfl] at hd
  obtain ⟨decl, hdecl, rfl⟩ := Option.map_eq_some_iff.1 hd
  obtain ⟨name, hname, rfl⟩ := Option.map_eq_some_iff.1 hdecl
  rw [declaredClass?, hname, (doc.settings_update t n).1] at hor
  -- the definition was made from what is compared with it
  rcases hor with hne | hne | hne
  · exact hne rfl
  · exact hne rfl
  · exact hne rfl

/-- An update of one node makes no difference to another. -/
private theorem outdated_update_of_ne (hm : m ≠ n) (t' : Tree) :
    (doc.update t' n).2.Outdated t m ↔ doc.Outdated t m := by
  rw [Outdated, getElem?_held_update, if_neg hm, declaredClass?, (doc.settings_update t' n).1]
  rfl

/-- What is not outdated is succeeded by what the update makes. -/
theorem succeeds_update (h : ¬ doc.Outdated t n) {d : Definition} (hd : doc.held[n]? = some d) :
    ∃ d', (doc.update t n).2.held[n]? = some d' ∧ d'.Succeeds d := by
  cases hdecl : t.declaration? doc.dialect n with
  | none =>
    -- a definition without a declaration would be outdated
    rw [outdated_iff_of_none hdecl, Std.ExtTreeMap.mem_iff_isSome_getElem?, hd] at h
    exact absurd rfl h
  | some decl =>
    -- one that is not outdated fits the declaration
    have hfits : doc.fits decl d = true := by
      rw [← Bool.not_eq_false]
      exact fun hfits => h ((outdated_iff_of_some hdecl).2 ⟨d, hd, hfits⟩)
    obtain ⟨hclass, hproject, hbody⟩ := fits_iff.1 hfits
    rw [getElem?_held_update, if_pos rfl, hdecl]
    exact ⟨_, rfl, hclass.symm, hproject.symm, hbody.symm⟩

/-- The document once a definition was released that does not fit what the node declares. -/
def withoutOutdated (doc : Document) (t : Tree) (n : NodeId) : Document :=
  if doc.Outdated t n then doc.release n else doc

theorem snd_releaseStale (hdecl : t.declaration? doc.dialect n = some decl) :
    (doc.releaseStale decl).2 = doc.withoutOutdated t n := by
  obtain rfl := Declaration.node_eq_of_declaration? hdecl
  simp only [withoutOutdated, outdated_iff_of_some hdecl]
  rw [releaseStale]
  -- a definition is released if there is one and it does not fit
  cases hheld : doc.held[decl.node]? with
  | none => simp
  | some d =>
    cases hfits : doc.fits decl d with
    | true => simp [hfits]
    | false => simp [hfits]

/-! ## The generation -/

theorem generation_forget (doc : Document) (n : NodeId) :
    (doc.forget n).generation = doc.generation + 1 := by
  rw [forget_eq]
  rfl

theorem generation_update (doc : Document) (t : Tree) (n : NodeId) :
    (doc.update t n).2.generation = doc.generation + if doc.Outdated t n then 1 else 0 := by
  have hgeneration : (doc.withoutOutdated t n).generation =
      doc.generation + if doc.Outdated t n then 1 else 0 := by
    rw [withoutOutdated]
    split
    · rfl
    · rfl
  rw [← hgeneration]
  cases hdecl : t.declaration? doc.dialect n with
  | none =>
    rw [snd_update_of_none hdecl, withoutOutdated]
    simp only [outdated_iff_of_none hdecl]
  | some decl =>
    -- defining does not release anything more
    rw [snd_update_of_some hdecl, ← snd_releaseStale hdecl, define_eq_defineAlong]
    rfl

/-- A refresh releases the node once, and then nothing is outdated. -/
theorem generation_refresh (doc : Document) (t : Tree) (n : NodeId) :
    (doc.refresh t n).2.generation = doc.generation + 1 := by
  rw [refresh, generation_update, if_neg (not_outdated_of_held (doc.held_release_self n))]
  rfl

private theorem generation_foldl_release (doc : Document) (ns : List NodeId) :
    (ns.foldl release doc).generation = doc.generation + ns.length := by
  induction ns generalizing doc with
  | nil => rfl
  | cons n rest ih =>
    rw [List.foldl_cons, ih, List.length_cons, Nat.add_comm rest.length, ← Nat.add_assoc]
    rfl

/-- Updates of nodes that hold nothing outdated release nothing. -/
private theorem generation_foldl_update {ns : List NodeId} (h : ∀ n ∈ ns, ¬ doc.Outdated t n) :
    (ns.foldl (fun doc n => (doc.update t n).2) doc).generation = doc.generation := by
  induction ns generalizing doc with
  | nil => rfl
  | cons n rest ih =>
    rw [List.foldl_cons, ih fun m hm => ?_, generation_update, if_neg (h n List.mem_cons_self)]
    · rfl
    · -- a node that occurs again is not outdated after its first update
      by_cases hmn : m = n
      · exact hmn ▸ doc.not_outdated_update t n
      · rw [outdated_update_of_ne hmn]
        exact h m (List.mem_cons_of_mem _ hm)

theorem generation_refreshAll (doc : Document) (t : Tree) (ns : List NodeId) :
    (doc.refreshAll t ns).generation = doc.generation + ns.length := by
  rw [refreshAll, generation_foldl_update fun n hn => not_outdated_of_held ?_,
    generation_foldl_release]
  rw [held_foldl_release, if_pos hn]

end Document

end MacroTypes
