import MacroTypes.Catalog.Basic

/-!
# What the operations on a catalogue do

A catalogue is seen through three views: the stored type of a class (`get?`), the scopes of a class
(`scopes`) and the bindings of a container (`bindings`). For each operation there is one equation a
view.

* `get?_register`, `mem_scopes_register`, `bindings_register`
* `get?_unregister`, `scopes_unregister`, `bindings_unregister`
* `get?_removeContainer`, `mem_scopes_removeContainer`, `bindings_removeContainer`
-/

namespace MacroTypes.Catalog

variable {cat : Catalog}

/-! ## The empty catalogue -/

@[simp] theorem get?_empty (c : ClassName) : (∅ : Catalog).get? c = none := by
  simp [get?, show (∅ : Catalog).entries = ∅ from rfl]

@[simp] theorem scopes_empty (c : ClassName) : (∅ : Catalog).scopes c = ∅ := by
  simp [scopes, show (∅ : Catalog).entries = ∅ from rfl]

@[simp] theorem bindings_empty (n : NodeId) : (∅ : Catalog).bindings n = ∅ := by
  simp [bindings, show (∅ : Catalog).containers = ∅ from rfl]

/-! ## The scopes of a class -/

/-- A class with a scope is stored. -/
theorem exists_get?_of_mem_scopes {c : ClassName} {s : Scope} (h : s ∈ cat.scopes c) :
    ∃ t, cat.get? c = some t := by
  unfold scopes at h
  cases hc : cat.entries[c]? with
  | none => simp [hc] at h
  | some e => exact ⟨e.type, by simp [get?, hc]⟩

/-! ## Taking a scope from a class -/

private theorem getElem?_dropScope (s : Scope) (c d : ClassName) :
    (cat.dropScope s c).entries[d]? =
      if c = d then cat.entries[d]?.map fun e => { e with scopes := e.scopes.erase s }
      else cat.entries[d]? := by
  simp only [dropScope, Std.ExtTreeMap.getElem?_modify, Std.compare_eq_iff_eq]
  by_cases h : c = d
  · simp [h]
  · simp [h]

@[simp] theorem get?_dropScope (s : Scope) (c d : ClassName) :
    (cat.dropScope s c).get? d = cat.get? d := by
  simp only [get?, getElem?_dropScope]
  split <;> simp [Function.comp_def]

@[simp] theorem bindings_dropScope (s : Scope) (c : ClassName) (n : NodeId) :
    (cat.dropScope s c).bindings n = cat.bindings n := rfl

private theorem mem_scopes_dropScope {s s' : Scope} {c d : ClassName} :
    s' ∈ (cat.dropScope s c).scopes d ↔ s' ∈ cat.scopes d ∧ ¬ (d = c ∧ s' = s) := by
  simp only [scopes, getElem?_dropScope]
  by_cases h : c = d
  · -- the class that is changed: its entry, if there is one, loses the scope
    subst h
    cases cat.entries[c]? with
    | none => simp
    | some e => simp [Std.ExtTreeSet.mem_erase, and_comm, @eq_comm _ s' s]
  · -- the entry of another class is not touched
    have hne : ¬ d = c := fun e => h e.symm
    simp [h, hne]

/-! ## Binding a name in scopes -/

@[simp] theorem get?_bindIn (key : QName) (c d : ClassName) (s : Scope) :
    (bindIn key c cat s).get? d = cat.get? d := by
  cases s with
  | document => rfl
  | container n =>
    simp only [bindIn]
    cases ((cat.bindings n).bind key c).1 with
    | none => rfl
    | some displaced => exact get?_dropScope _ _ _

private theorem bindings_bindIn (key : QName) (c : ClassName) (s : Scope) (n : NodeId) :
    (bindIn key c cat s).bindings n =
      if s = .container n then ((cat.bindings n).bind key c).2 else cat.bindings n := by
  cases s with
  | document => rfl
  | container m =>
    -- the class that is displaced loses a scope, which no binding shows
    have h : (bindIn key c cat (.container m)).bindings n =
        (cat.containers.insert m ((cat.bindings m).bind key c).2)[n]?.getD ∅ := by
      simp only [bindIn]
      cases ((cat.bindings m).bind key c).1 <;> rfl
    rw [h, Std.ExtTreeMap.getElem?_insert]
    by_cases hmn : m = n
    · simp [hmn]
    · simp [hmn, bindings]

private theorem mem_scopes_bindIn {key : QName} {c d : ClassName} {s s' : Scope} :
    s' ∈ (bindIn key c cat s).scopes d ↔
      s' ∈ cat.scopes d ∧
        ¬ (s' = s ∧ d ≠ c ∧ ∃ n, s = .container n ∧ (cat.bindings n).lookup key = some d) := by
  cases s with
  | document => simp [bindIn]
  | container n =>
    -- the class that the name stood for decides
    simp only [bindIn, Bindings.fst_bind]
    cases hb : (cat.bindings n).lookup key with
    | none => simp [scopes, hb]
    | some b =>
      by_cases hbc : b = c
      · -- the name is bound again: nobody is displaced
        subst hbc
        simp [scopes, Option.filter, hb, @eq_comm _ d]
      · -- another class had the name, and it is the one that loses the scope
        have hd : d = b → d ≠ c := fun e => e ▸ hbc
        simp only [Option.filter, ne_eq, hbc, not_false_eq_true, decide_true, if_true,
          Option.elim_some, mem_scopes_dropScope, Scope.container.injEq]
        refine and_congr_right fun _ => not_congr ⟨?_, ?_⟩
        · rintro ⟨rfl, rfl⟩
          exact ⟨rfl, hd rfl, n, rfl, hb⟩
        · rintro ⟨rfl, _, m, rfl, hm⟩
          exact ⟨Option.some.inj (hm.symm.trans hb), rfl⟩

/-! ## Binding a name in a list of scopes -/

@[simp] theorem get?_foldl_bindIn (key : QName) (c d : ClassName) (ss : List Scope) :
    (ss.foldl (bindIn key c) cat).get? d = cat.get? d := by
  induction ss generalizing cat with
  | nil => rfl
  | cons s rest ih => rw [List.foldl_cons, ih, get?_bindIn]

private theorem bindings_foldl_bindIn (key : QName) (c : ClassName) (ss : List Scope) (n : NodeId) :
    (ss.foldl (bindIn key c) cat).bindings n =
      if .container n ∈ ss then ((cat.bindings n).bind key c).2 else cat.bindings n := by
  induction ss generalizing cat with
  | nil => simp
  | cons s rest ih =>
    rw [List.foldl_cons, ih, bindings_bindIn]
    by_cases hs : s = .container n
    · -- the name is bound now, and binding it again changes nothing
      simp [hs, Bindings.bind_bind]
    · have hs' : ¬ Scope.container n = s := fun e => hs e.symm
      simp [hs, hs']

private theorem mem_scopes_foldl_bindIn {key : QName} {c d : ClassName} {ss : List Scope}
    {s' : Scope} :
    s' ∈ (ss.foldl (bindIn key c) cat).scopes d ↔
      s' ∈ cat.scopes d ∧
        ¬ (s' ∈ ss ∧ d ≠ c ∧ ∃ n, s' = .container n ∧ (cat.bindings n).lookup key = some d) := by
  induction ss generalizing cat with
  | nil => simp
  | cons s rest ih =>
    rw [List.foldl_cons, ih, mem_scopes_bindIn, and_assoc]
    refine and_congr_right fun _ => ?_
    rw [← not_or, List.mem_cons]
    refine not_congr ⟨?_, ?_⟩
    · -- a class is displaced by the first binding or by a later one
      rintro (⟨rfl, hd, n, rfl, hn⟩ | ⟨hrest, hd, n, rfl, hn⟩)
      · exact ⟨.inl rfl, hd, n, rfl, hn⟩
      · rw [bindings_bindIn] at hn
        split at hn
        · -- where the name was bound already, it stands for the new class
          simp [Bindings.lookup_bind, hd.symm] at hn
        · exact ⟨.inr hrest, hd, n, rfl, hn⟩
    · -- a container is met once or several times, and the first time decides
      rintro ⟨hmem, hd, n, rfl, hn⟩
      by_cases hs : Scope.container n = s
      · exact .inl ⟨hs, hd, n, hs.symm, hn⟩
      · refine .inr ⟨hmem.resolve_left hs, hd, n, rfl, ?_⟩
        rw [bindings_bindIn, if_neg fun e => hs e.symm]
        exact hn

/-! ## Registering -/

/-- A key is bound in scopes of its class only. -/
theorem mem_scopes_of_mem_toBind {s s' : Scope} {t : ElementType} (h : s' ∈ cat.toBind s t) :
    s' = s ∨ s' ∈ cat.scopes t.className := by
  rw [toBind, List.mem_cons] at h
  refine h.imp_right fun h => ?_
  split at h
  · have hmem := (List.mem_filter.1 h).1
    rw [Std.ExtTreeSet.mem_toList] at hmem
    exact Std.ExtTreeSet.mem_of_mem_erase hmem
  · simp at h

theorem get?_register (s : Scope) (t : ElementType) (d : ClassName) :
    (cat.register s t).get? d = if d = t.className then some t else cat.get? d := by
  have h := @get?_foldl_bindIn cat t.key t.className d (cat.toBind s t)
  simp only [register, get?, Std.ExtTreeMap.getElem?_insert, Std.compare_eq_iff_eq] at h ⊢
  by_cases hd : t.className = d
  · simp [hd]
  · simp [hd, Ne.symm hd, h]

/-- The class of the new type keeps its scopes and gains one; any other class loses the containers
in which it had the key that is bound anew. -/
theorem mem_scopes_register {s s' : Scope} {t : ElementType} {d : ClassName} :
    s' ∈ (cat.register s t).scopes d ↔
      if d = t.className then s' = s ∨ s' ∈ cat.scopes d
      else s' ∈ cat.scopes d ∧ ¬ (s' ∈ cat.toBind s t ∧
        ∃ n, s' = .container n ∧ (cat.bindings n).lookup t.key = some d) := by
  have h := @mem_scopes_foldl_bindIn cat t.key t.className d (cat.toBind s t) s'
  by_cases hd : d = t.className
  · subst hd
    -- the entry of the class is written anew at the end
    simp [register, scopes, Std.ExtTreeSet.mem_insert, @eq_comm _ s]
  · -- all others have what the bindings left them
    have hentry : (cat.register s t).scopes d =
        ((cat.toBind s t).foldl (bindIn t.key t.className) cat).scopes d := by
      simp [register, scopes, Std.ExtTreeMap.getElem?_insert, Ne.symm hd]
    rw [if_neg hd, hentry, h]
    simp only [ne_eq, hd, not_false_eq_true, true_and]

theorem bindings_register (s : Scope) (t : ElementType) (n : NodeId) :
    (cat.register s t).bindings n =
      if .container n ∈ cat.toBind s t then ((cat.bindings n).bind t.key t.className).2
      else cat.bindings n :=
  bindings_foldl_bindIn t.key t.className (cat.toBind s t) n

/-! ## Removing -/

theorem get?_unregister (c d : ClassName) :
    (cat.unregister c).2.get? d = if d = c then none else cat.get? d := by
  unfold unregister
  split
  · next h =>
    by_cases hd : d = c
    · simp [hd, get?, h]
    · simp [hd]
  · by_cases hd : d = c
    · simp [hd, get?]
    · simp [hd, get?, Std.ExtTreeMap.getElem?_erase, Ne.symm hd]

theorem fst_unregister (c : ClassName) : (cat.unregister c).1 = cat.get? c := by
  unfold unregister get?
  split <;> simp [*]

theorem scopes_unregister (c d : ClassName) :
    (cat.unregister c).2.scopes d = if d = c then ∅ else cat.scopes d := by
  unfold unregister
  split
  · next h =>
    by_cases hd : d = c
    · simp [hd, scopes, h]
    · simp [hd]
  · by_cases hd : d = c
    · simp [hd, scopes]
    · simp [hd, scopes, Std.ExtTreeMap.getElem?_erase, Ne.symm hd]

/-- Taking the name of a class away in one scope changes the bindings of that container only. -/
private theorem getD_unbindIn (containers : Std.ExtTreeMap NodeId Bindings) (c : ClassName)
    (s : Scope) (n : NodeId) :
    (unbindIn c containers s)[n]?.getD ∅ =
      if s = .container n then (Bindings.unbindClass (containers[n]?.getD ∅) c).2
      else containers[n]?.getD ∅ := by
  cases s with
  | document => rfl
  | container m =>
    simp only [unbindIn, Std.ExtTreeMap.getElem?_alter, Std.compare_eq_iff_eq,
      Scope.container.injEq]
    by_cases hmn : m = n
    · subst hmn
      simp only [if_true]
      cases containers[m]? with
      | none => rfl
      | some b =>
        by_cases he : (b.unbindClass c).2.isEmpty
        · -- nothing is left, so the container is dropped, which reads as no bindings
          simpa [Option.filter, he] using (Bindings.isEmpty_iff.1 he).symm
        · simp [Option.filter, he]
    · simp [hmn]

/-- Unbinding a class in a list of scopes changes the bindings of the containers among them. -/
private theorem getD_foldl_unbindIn (containers : Std.ExtTreeMap NodeId Bindings) (c : ClassName)
    (ss : List Scope) (n : NodeId) :
    (ss.foldl (unbindIn c) containers)[n]?.getD ∅ =
      if .container n ∈ ss then (Bindings.unbindClass (containers[n]?.getD ∅) c).2
      else containers[n]?.getD ∅ := by
  induction ss generalizing containers with
  | nil => simp
  | cons s rest ih =>
    rw [List.foldl_cons, ih, getD_unbindIn]
    by_cases hs : s = .container n
    · -- taking the name away twice is taking it away
      simp [hs, Bindings.unbindClass_unbindClass]
    · have hs' : ¬ Scope.container n = s := fun e => hs e.symm
      simp [hs, hs']

theorem bindings_unregister (c : ClassName) (n : NodeId) :
    (cat.unregister c).2.bindings n =
      if .container n ∈ cat.scopes c then ((cat.bindings n).unbindClass c).2
      else cat.bindings n := by
  unfold unregister
  split
  · next h => simp [scopes, h]
  · next e h =>
    have hfold := getD_foldl_unbindIn cat.containers c e.scopes.toList n
    simp only [Std.ExtTreeSet.mem_toList] at hfold
    simp only [bindings, scopes, h, Option.map_some, Option.getD_some]
    exact hfold

/-! ## Forgetting a container -/

private theorem get?_foldl_dropScope (s : Scope) (bs : List (QName × ClassName)) (d : ClassName) :
    (bs.foldl (fun cat b => cat.dropScope s b.2) cat).get? d = cat.get? d := by
  induction bs generalizing cat with
  | nil => rfl
  | cons b rest ih => rw [List.foldl_cons, ih, get?_dropScope]

private theorem bindings_foldl_dropScope (s : Scope) (bs : List (QName × ClassName)) (n : NodeId) :
    (bs.foldl (fun cat b => cat.dropScope s b.2) cat).bindings n = cat.bindings n := by
  induction bs generalizing cat with
  | nil => rfl
  | cons b rest ih => rw [List.foldl_cons, ih, bindings_dropScope]

private theorem mem_scopes_foldl_dropScope {s s' : Scope} {bs : List (QName × ClassName)}
    {d : ClassName} :
    s' ∈ (bs.foldl (fun cat b => cat.dropScope s b.2) cat).scopes d ↔
      s' ∈ cat.scopes d ∧ ¬ (s' = s ∧ ∃ b ∈ bs, b.2 = d) := by
  induction bs generalizing cat with
  | nil => simp
  | cons b rest ih =>
    rw [List.foldl_cons, ih, mem_scopes_dropScope, and_assoc]
    refine and_congr_right fun _ => ?_
    rw [← not_or]
    refine not_congr ⟨?_, ?_⟩
    · -- the scope is lost with the first binding or with one of the others
      rintro (⟨rfl, rfl⟩ | ⟨rfl, b', hb', rfl⟩)
      · exact ⟨rfl, b, List.mem_cons_self, rfl⟩
      · exact ⟨rfl, b', List.mem_cons_of_mem _ hb', rfl⟩
    · rintro ⟨rfl, b', hb', rfl⟩
      rcases List.mem_cons.1 hb' with rfl | hb'
      · exact .inl ⟨rfl, rfl⟩
      · exact .inr ⟨rfl, b', hb', rfl⟩

@[simp] theorem get?_removeContainer (n : NodeId) (d : ClassName) :
    (cat.removeContainer n).get? d = cat.get? d :=
  get?_foldl_dropScope ..

theorem bindings_removeContainer (n m : NodeId) :
    (cat.removeContainer n).bindings m = if m = n then ∅ else cat.bindings m := by
  rw [removeContainer, bindings_foldl_dropScope]
  simp only [bindings, Std.ExtTreeMap.getElem?_erase, Std.compare_eq_iff_eq, @eq_comm _ n]
  split <;> rfl

/-- Exactly the classes bound in the container lose it as a scope. -/
theorem mem_scopes_removeContainer {n : NodeId} {s : Scope} {d : ClassName} :
    s ∈ (cat.removeContainer n).scopes d ↔
      s ∈ cat.scopes d ∧ ¬ (s = .container n ∧ ∃ k, (cat.bindings n).lookup k = some d) := by
  rw [removeContainer, mem_scopes_foldl_dropScope]
  refine and_congr Iff.rfl (not_congr (and_congr_right fun _ => ?_))
  constructor
  · rintro ⟨⟨k, c⟩, hb, rfl⟩
    exact ⟨k, Bindings.mem_toList.1 hb⟩
  · rintro ⟨k, hk⟩
    exact ⟨(k, d), Bindings.mem_toList.2 hk, rfl⟩

end MacroTypes.Catalog
