import MacroTypes.Catalog.Change
import MacroTypes.Catalog.Resolve

/-!
# The exact effect of registering

Registering a type is described by what it leaves behind: the type under its class, the scopes of
that class and one more, and in every container among them one name for it, which is taken from
whatever class had it there (`RegistersTo`). Registering binds the name only where the class does
not have it already (`toBind`), and the description does not show that. It leaves no choice
(`RegistersTo.unique`), and after every history of a catalogue it is what registering does
(`registersTo_run`).
-/

namespace MacroTypes.Catalog

variable {cat cat' cat'' : Catalog} {s : Scope} {t : ElementType}

/-- What is left of a catalogue after a type was registered in a scope. -/
structure RegistersTo (cat : Catalog) (s : Scope) (t : ElementType) (cat' : Catalog) : Prop where
  /-- The type is stored under its class. -/
  get?_own : cat'.get? t.className = some t
  /-- The class keeps its scopes and gains one. -/
  mem_scopes_own : ∀ s', s' ∈ cat'.scopes t.className ↔ s' = s ∨ s' ∈ cat.scopes t.className
  /-- The containers among them bind the class under the key of the type and under no other. -/
  lookup_own : ∀ n k, (cat'.bindings n).lookup k = some t.className ↔
    .container n ∈ cat'.scopes t.className ∧ k = t.key
  /-- Other classes keep their types, none of them enters or leaves. -/
  get?_other : ∀ c, c ≠ t.className → cat'.get? c = cat.get? c
  /-- They keep their scopes, but for the containers in which the class has their key now. -/
  mem_scopes_other : ∀ c, c ≠ t.className → ∀ s', s' ∈ cat'.scopes c ↔
    s' ∈ cat.scopes c ∧ ¬ ∃ n u, s' = .container n ∧ .container n ∈ cat'.scopes t.className ∧
      cat.get? c = some u ∧ u.key = t.key
  /-- They keep their bindings, but for those of the key in these containers. -/
  lookup_other : ∀ c, c ≠ t.className → ∀ n k, (cat'.bindings n).lookup k = some c ↔
    (cat.bindings n).lookup k = some c ∧ ¬ (.container n ∈ cat'.scopes t.className ∧ k = t.key)

/-- The description leaves no choice. -/
theorem RegistersTo.unique (h : cat.RegistersTo s t cat') (h' : cat.RegistersTo s t cat'')
    (hne : ∀ n : NodeId, cat'.containers[n]? ≠ some ∅)
    (hne' : ∀ n : NodeId, cat''.containers[n]? ≠ some ∅) : cat' = cat'' := by
  have hown : ∀ s', s' ∈ cat'.scopes t.className ↔ s' ∈ cat''.scopes t.className := fun s' =>
    (h.mem_scopes_own s').trans (h'.mem_scopes_own s').symm
  -- each view is described for the class of the type and for the others
  refine ext_views hne hne' (fun c => ?_) (fun c => Std.ExtTreeSet.ext_mem fun s' => ?_) fun n => ?_
  · -- the stored types
    by_cases hc : c = t.className
    · rw [hc, h.get?_own, h'.get?_own]
    · rw [h.get?_other c hc, h'.get?_other c hc]
  · -- the scopes: which ones the others lose depends on those of the class, and they agree
    by_cases hc : c = t.className
    · rw [hc, hown]
    · rw [h.mem_scopes_other c hc, h'.mem_scopes_other c hc]
      simp only [hown]
  · -- the bindings, name by name
    refine Bindings.ext_lookup fun k => Option.ext fun c => ?_
    by_cases hc : c = t.className
    · rw [hc, h.lookup_own, h'.lookup_own, hown]
    · rw [h.lookup_other c hc, h'.lookup_other c hc, hown]

/-! ## Registering -/

theorem Coherent.registersTo_register (h : cat.Coherent) (s : Scope) (t : ElementType) :
    cat.RegistersTo s t (cat.register s t) := by
  have hregister := h.register s t
  have hown : ∀ s', s' ∈ (cat.register s t).scopes t.className ↔
      s' = s ∨ s' ∈ cat.scopes t.className := fun s' => by
    rw [Catalog.mem_scopes_register, if_pos rfl]
  have hother : ∀ c, c ≠ t.className → ∀ s', s' ∈ (cat.register s t).scopes c ↔
      s' ∈ cat.scopes c ∧ ¬ ∃ n u, s' = .container n ∧
        .container n ∈ (cat.register s t).scopes t.className ∧ cat.get? c = some u ∧
          u.key = t.key := fun c hc s' => by
    rw [h.mem_scopes_register hc]
    -- the containers that the class has afterwards are those that it had and the new one
    refine and_congr_right fun _ => not_congr ?_
    constructor
    · rintro ⟨hdocument, hs', u, hu, hkey⟩
      cases s' with
      | document => exact absurd rfl hdocument
      | container n => exact ⟨n, u, rfl, (hown _).2 hs', hu, hkey⟩
    · rintro ⟨n, u, rfl, hs', hu, hkey⟩
      exact ⟨by simp, (hown _).1 hs', u, hu, hkey⟩
  constructor
  case get?_own => rw [get?_register, if_pos rfl]
  case mem_scopes_own => exact hown
  case get?_other =>
    intro c hc
    rw [get?_register, if_neg hc]
  case mem_scopes_other => exact hother
  -- the catalogue stays coherent, so the bindings say what the types and the scopes say
  case lookup_own =>
    intro n k
    rw [hregister.lookup_iff, get?_register, if_pos rfl]
    simp [eq_comm]
  case lookup_other =>
    intro c hc n k
    rw [hregister.lookup_iff, h.lookup_iff, hother c hc, get?_register, if_neg hc]
    constructor
    · -- a binding that stays is that of a class that keeps its container
      rintro ⟨⟨hmem, hfree⟩, u, hu, rfl⟩
      exact ⟨⟨hmem, u, hu, rfl⟩, fun hand => hfree ⟨n, u, rfl, hand.1, hu, hand.2⟩⟩
    · -- the other way round, a class that keeps its binding is not displaced by its key
      rintro ⟨⟨hmem, u, hu, rfl⟩, hfree⟩
      refine ⟨⟨hmem, ?_⟩, u, hu, rfl⟩
      rintro ⟨m, v, heq, hs, hv, hkey⟩
      rw [← heq] at hs
      exact hfree ⟨hs, by rw [Option.some.inj (hu.symm.trans hv), hkey]⟩

/-- After every history of a catalogue, registering a type in a scope does what the description
    says, and no other catalogue that has a history is described. -/
theorem registersTo_run (changes : List Change) (s : Scope) (t : ElementType) :
    (run changes).RegistersTo s t ((run changes).register s t) ∧
      ∀ changes', (run changes).RegistersTo s t (run changes') →
        run changes' = (run changes).register s t := by
  have h := coherent_run changes
  have hregister := h.registersTo_register s t
  refine ⟨hregister, fun changes' h' => ?_⟩
  exact h'.unique hregister (coherent_run changes').ne_empty (h.register s t).ne_empty

/-- A changed key takes the name from the class that had it in the other container. -/
example :
    let cat := run [.register (.container ⟨1⟩) { key := ⟨"a", none⟩, className := ⟨"A"⟩ },
      .register (.container ⟨1⟩) { key := ⟨"b", none⟩, className := ⟨"B"⟩ },
      .register (.container ⟨2⟩) { key := ⟨"b", none⟩, className := ⟨"A"⟩ }]
    cat.scopeTypes (.container ⟨1⟩) = [(⟨"b", none⟩, ⟨"A"⟩)] ∧ cat.contains ⟨"B"⟩ = true ∧
      (cat.scopes ⟨"B"⟩).toList = [] := by
  decide +kernel

end MacroTypes.Catalog
