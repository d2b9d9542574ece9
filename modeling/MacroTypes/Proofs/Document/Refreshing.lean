import MacroTypes.Proofs.Document.Clearing

/-!
# Refreshing everything starts anew

Releasing the holder of every definition empties a document that owns what it stores
(`Owned.foldl_release_eq_empty`). What is defined after that does not depend on the history: two
documents of one dialect and one template agree after all that they hold was refreshed
(`Owned.agrees_refreshAll`). Documents agree if they are the same but for the generation.
-/

namespace MacroTypes.Document

/-- Two documents that are the same but for the generation. -/
def Agrees (a b : Document) : Prop :=
  a = { b with generation := a.generation }

variable {a b doc : Document}

theorem Agrees.catalog_eq (h : a.Agrees b) : a.catalog = b.catalog := by
  unfold Agrees at h
  rw [h]

theorem Agrees.held_eq (h : a.Agrees b) : a.held = b.held := by
  unfold Agrees at h
  rw [h]

/-! ## Updates do not see the generation -/

private theorem releaseStale_generation (doc : Document) (decl : Declaration) (g : Nat) :
    ∃ g', { doc with generation := g }.releaseStale decl =
      ((doc.releaseStale decl).1, { (doc.releaseStale decl).2 with generation := g' }) := by
  unfold releaseStale
  dsimp only
  split
  · exact ⟨g, rfl⟩
  · next d _ =>
    -- whether a definition fits is decided by the dialect
    have hfits : { doc with generation := g }.fits decl d = doc.fits decl d := rfl
    rw [hfits]
    split
    · exact ⟨g, rfl⟩
    · exact ⟨g + 1, rfl⟩

private theorem agrees_define_generation (doc : Document) (decl : Declaration) (g : Nat) :
    ({ doc with generation := g }.define decl).Agrees (doc.define decl) := by
  obtain ⟨g', hstale⟩ := doc.releaseStale_generation decl g
  -- no stage looks at the generation
  rw [define_eq_defineAlong, define_eq_defineAlong, hstale]
  rfl

theorem Agrees.update (h : a.Agrees b) (t : Tree) (n : NodeId) :
    (a.update t n).2.Agrees (b.update t n).2 := by
  rw [h]
  generalize a.generation = g
  cases hdecl : t.declaration? b.dialect n with
  | none =>
    have hdecl' : t.declaration? { b with generation := g }.dialect n = none := hdecl
    rw [snd_update_of_none hdecl, snd_update_of_none hdecl']
    -- both release the node or neither does
    split
    · rfl
    · rfl
  | some decl =>
    have hdecl' : t.declaration? { b with generation := g }.dialect n = some decl := hdecl
    rw [snd_update_of_some hdecl, snd_update_of_some hdecl']
    -- both define the same declaration
    exact b.agrees_define_generation decl g

theorem Agrees.foldl_update (h : a.Agrees b) (t : Tree) (ns : List NodeId) :
    (ns.foldl (fun doc n => (doc.update t n).2) a).Agrees
      (ns.foldl (fun doc n => (doc.update t n).2) b) := by
  induction ns generalizing a b with
  | nil => exact h
  | cons n rest ih => exact ih (h.update t n)

/-! ## Releasing all definitions -/

private theorem Owned.foldl_release (h : doc.Owned) (ns : List NodeId) :
    (ns.foldl Document.release doc).Owned := by
  induction ns generalizing doc with
  | nil => exact h
  | cons n rest ih => exact ih (h.release n)

theorem settings_foldl_release (doc : Document) (ns : List NodeId) :
    (ns.foldl Document.release doc).dialect = doc.dialect ∧
      (ns.foldl Document.release doc).template? = doc.template? := by
  induction ns generalizing doc with
  | nil => exact ⟨rfl, rfl⟩
  | cons n rest ih => exact ih (doc.release n)

private theorem settings_foldl_update (doc : Document) (t : Tree) (ns : List NodeId) :
    (ns.foldl (fun doc n => (doc.update t n).2) doc).dialect = doc.dialect ∧
      (ns.foldl (fun doc n => (doc.update t n).2) doc).template? = doc.template? := by
  induction ns generalizing doc with
  | nil => exact ⟨rfl, rfl⟩
  | cons n rest ih =>
    obtain ⟨hdialect, htemplate⟩ := ih (doc.update t n).2
    obtain ⟨hdialect', htemplate'⟩ := doc.settings_update t n
    exact ⟨hdialect.trans hdialect', htemplate.trans htemplate'⟩

theorem settings_refreshAll (doc : Document) (t : Tree) (ns : List NodeId) :
    (doc.refreshAll t ns).dialect = doc.dialect ∧
      (doc.refreshAll t ns).template? = doc.template? := by
  obtain ⟨hdialect, htemplate⟩ := (ns.foldl Document.release doc).settings_foldl_update t ns
  obtain ⟨hdialect', htemplate'⟩ := doc.settings_foldl_release ns
  exact ⟨hdialect.trans hdialect', htemplate.trans htemplate'⟩

theorem held_foldl_release (doc : Document) (ns : List NodeId) (m : NodeId) :
    (ns.foldl Document.release doc).held[m]? = if m ∈ ns then none else doc.held[m]? := by
  induction ns generalizing doc with
  | nil => simp
  | cons n rest ih =>
    rw [List.foldl_cons, ih, getElem?_held_release]
    by_cases hm : m = n
    · simp [hm]
    · simp [hm]

/-- A document from which everything held was released is empty. -/
theorem Owned.foldl_release_eq_empty (h : doc.Owned) {ns : List NodeId}
    (hall : ∀ n ∈ doc.declarations, n ∈ ns) :
    (ns.foldl Document.release doc).catalog = ∅ ∧ (ns.foldl Document.release doc).held = ∅ := by
  have hheld : (ns.foldl Document.release doc).held = ∅ := by
    -- every node that holds something is on the list
    apply Std.ExtTreeMap.ext_getElem?
    intro m
    rw [held_foldl_release, Std.ExtTreeMap.getElem?_empty]
    split
    · rfl
    · next hm =>
      exact Std.ExtTreeMap.getElem?_eq_none fun hmem => hm (hall m (Std.ExtTreeMap.mem_keys.2 hmem))
  exact ⟨(h.foldl_release ns).catalog_eq_empty hheld, hheld⟩

/-! ## The history is forgotten -/

/-- After all that they hold was refreshed, two documents of one dialect and one template agree. -/
theorem Owned.agrees_refreshAll (ha : a.Owned) (hb : b.Owned) (hdialect : a.dialect = b.dialect)
    (htemplate : a.template? = b.template?) (t : Tree) {ns : List NodeId}
    (halla : ∀ n ∈ a.declarations, n ∈ ns) (hallb : ∀ n ∈ b.declarations, n ∈ ns) :
    (a.refreshAll t ns).Agrees (b.refreshAll t ns) := by
  obtain ⟨hda, hta⟩ := a.settings_foldl_release ns
  obtain ⟨hdb, htb⟩ := b.settings_foldl_release ns
  obtain ⟨hcatalog, hheld⟩ := ha.foldl_release_eq_empty halla
  obtain ⟨hcatalog', hheld'⟩ := hb.foldl_release_eq_empty hallb
  -- nothing is left of either history but the generation
  have hreleased : (ns.foldl Document.release a).Agrees (ns.foldl Document.release b) :=
    eq_but_generation (by rw [hda, hdb, hdialect]) (by rw [hta, htb, htemplate])
      (hcatalog.trans hcatalog'.symm) (hheld.trans hheld'.symm)
  exact hreleased.foldl_update t ns

end MacroTypes.Document
