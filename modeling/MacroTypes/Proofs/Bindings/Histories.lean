import MacroTypes.Bindings
import MacroTypes.Proofs.ForStd.TreeMap

/-!
# Bindings after a history of changes

A binding lasts until its name goes to another class or its class gets another name or none
(`Change.Ends`). So which class a name stands for is decided by the last change that matters for the
two: the class is there exactly if that change binds it (`lookup_foldl_change`). The answers of the
operations and the list of bindings are read off the same lookups (`run_decided_by_latest`).
-/

namespace MacroTypes.Bindings

variable {b : Bindings} {key : QName} {c d : ClassName}

/-! ## Answers of the operations -/

private theorem containsClass_iff : b.containsClass c = true ↔ ∃ key, b.lookup key = some c := by
  simp only [containsClass, lookup, List.any_eq_true, decide_eq_true_eq, Std.ExtTreeMap.mem_values,
    exists_eq_right]

/-- Binding reports the class that it displaces. -/
private theorem fst_bind_eq_some_iff :
    (b.bind key c).1 = some d ↔ b.lookup key = some d ∧ d ≠ c := by
  rw [fst_bind, Option.filter_eq_some_iff, decide_eq_true_eq]

/-- There are fewer bindings after unbinding exactly if a name stood for the class. -/
private theorem fst_unbindClass (b : Bindings) (c : ClassName) :
    (b.unbindClass c).1 = b.containsClass c := by
  rw [Bool.eq_iff_iff, containsClass_iff, unbindClass, decide_eq_true_eq, ne_eq,
    Std.ExtTreeMap.size_filter_eq_size_iff]
  constructor
  · intro hsome
    -- a binding that the filter drops is one of the class
    obtain ⟨key, hex⟩ := Classical.not_forall.1 hsome
    obtain ⟨hmem, hnot⟩ := Classical.not_forall.1 hex
    have hkey : b.byKey[key] = c := by simpa using hnot
    exact ⟨key, getElem?_eq_some_iff.2 ⟨hmem, hkey⟩⟩
  · rintro ⟨key, hlookup⟩ hall
    -- the binding of that name does not stay
    obtain ⟨hmem, hkey⟩ := getElem?_eq_some_iff.1 hlookup
    simpa [hkey] using hall key hmem

/-- No binding is listed twice. -/
private theorem nodup_toList (b : Bindings) : b.toList.Nodup := by
  refine b.toList_sorted.imp fun {x y} hlt heq => ?_
  subst heq
  -- an entry would stand before itself
  have hself : bindingOrder x x = .eq := Std.ReflCmp.compare_self
  exact nomatch hself.symm.trans hlt

/-! ## One change -/

/-- A change that ends a binding: its name goes to another class, or its class gets another name or
    none. -/
def Change.Ends (key : QName) (c : ClassName) : Change → Prop
  | .bind k d => (k = key ∧ d ≠ c) ∨ (d = c ∧ k ≠ key)
  | .unbindClass d => d = c

/-- After a change a name stands for a class if the change binds them, or if they were bound before
    and the change does not end that. -/
private theorem lookup_change (b : Bindings) (x : Change) (key : QName) (c : ClassName) :
    (b.change x).lookup key = some c ↔
      x = .bind key c ∨ (b.lookup key = some c ∧ ¬ x.Ends key c) := by
  cases x with
  | bind k d =>
    show (b.bind k d).2.lookup key = some c ↔ _
    rw [lookup_bind]
    by_cases hk : key = k
    · -- the name stands for the other class from now on
      subst hk
      simp [Change.Ends]
    · -- another name keeps its class, unless that is the class that is bound
      rw [if_neg hk, Option.filter_eq_some_iff, decide_eq_true_eq]
      simp [Change.Ends, Ne.symm hk, @eq_comm _ d]
  | unbindClass d =>
    show (b.unbindClass d).2.lookup key = some c ↔ _
    rw [lookup_unbindClass, Option.filter_eq_some_iff, decide_eq_true_eq]
    simp [Change.Ends, @eq_comm _ d]

/-- No class has two names. -/
def OneName (b : Bindings) : Prop :=
  ∀ (key key' : QName) (c : ClassName), b.lookup key = some c → b.lookup key' = some c → key = key'

theorem OneName.change (h : b.OneName) (x : Change) : (b.change x).OneName := by
  intro key key' c hkey hkey'
  rcases (b.lookup_change x key c).1 hkey with rfl | ⟨hbefore, hends⟩
  · rcases (b.lookup_change _ key' c).1 hkey' with heq | ⟨-, hends'⟩
    · -- bound twice by one change
      exact (Change.bind.inj heq).1
    · -- binding the one name would have ended the binding of the other
      exact Classical.not_not.1 fun hne => hends' (.inr ⟨rfl, hne⟩)
  · rcases (b.lookup_change x key' c).1 hkey' with rfl | ⟨hbefore', -⟩
    · exact (Classical.not_not.1 fun hne => hends (.inr ⟨rfl, hne⟩)).symm
    · -- both had it before
      exact h key key' c hbefore hbefore'

/-! ## Histories -/

/-- The last change of a history that matters for a name and a class binds the one to the other. -/
def BoundLast (changes : List Change) (key : QName) (c : ClassName) : Prop :=
  ∃ before after, changes = before ++ .bind key c :: after ∧ ∀ x ∈ after, ¬ x.Ends key c

/-- The first change of a history decides if none of the others ends what it binds. -/
private theorem boundLast_cons {x : Change} {rest : List Change} :
    BoundLast (x :: rest) key c ↔
      BoundLast rest key c ∨ (x = .bind key c ∧ ∀ y ∈ rest, ¬ y.Ends key c) := by
  constructor
  · rintro ⟨before, after, heq, hafter⟩
    cases before with
    | nil =>
      obtain ⟨rfl, rfl⟩ := List.cons.inj heq
      -- nothing stands before the last binding, so it is the first change
      exact .inr ⟨rfl, hafter⟩
    | cons y before =>
      obtain ⟨rfl, rfl⟩ := List.cons.inj heq
      -- otherwise the first change does not matter
      exact .inl ⟨before, after, rfl, hafter⟩
  · rintro (⟨before, after, rfl, hafter⟩ | ⟨rfl, hrest⟩)
    · exact ⟨x :: before, after, rfl, hafter⟩
    · exact ⟨[], rest, rfl, hrest⟩

/-- A name stands for a class if the last change that matters for them binds them, or if they were
    bound in the beginning and no change ends that. -/
theorem lookup_foldl_change (b : Bindings) (changes : List Change) (key : QName) (c : ClassName) :
    (changes.foldl change b).lookup key = some c ↔ BoundLast changes key c ∨
      (b.lookup key = some c ∧ ∀ x ∈ changes, ¬ x.Ends key c) := by
  -- induction from the front: the rest of the history starts from the changed bindings
  induction changes generalizing b with
  | nil => simp [BoundLast]
  | cons x rest ih =>
    rw [List.foldl_cons, ih, lookup_change, boundLast_cons, List.forall_mem_cons, or_and_right,
      or_assoc, and_assoc]

private theorem OneName.foldl_change (h : b.OneName) (changes : List Change) :
    (changes.foldl Bindings.change b).OneName := by
  induction changes generalizing b with
  | nil => exact h
  | cons x rest ih => exact ih (h.change x)

/-- After every history of changes, a name stands for a class exactly if the last change that
    matters for the two binds them, and no class has two names. Binding reports the class that the
    name stood for, if it is another one, and unbinding says whether the class had a name. The list
    of bindings holds what looking up finds, in order and each binding once, and their number is its
    length. -/
theorem run_decided_by_latest (changes : List Change) :
    (∀ key c, (run changes).lookup key = some c ↔ BoundLast changes key c) ∧
    (run changes).OneName ∧
    (∀ key c d, ((run changes).bind key c).1 = some d ↔
      (run changes).lookup key = some d ∧ d ≠ c) ∧
    (∀ c, ((run changes).unbindClass c).1 = (run changes).containsClass c) ∧
    (∀ c, (run changes).containsClass c = true ↔ ∃ key, (run changes).lookup key = some c) ∧
    (∀ key c, (key, c) ∈ (run changes).toList ↔ (run changes).lookup key = some c) ∧
    ((run changes).toList.Pairwise fun x y => bindingOrder x y = .lt) ∧
    (run changes).toList.Nodup ∧
    (run changes).size = (run changes).toList.length := by
  refine ⟨fun key c => ?_, OneName.foldl_change ?_ changes, fun _ _ _ => fst_bind_eq_some_iff,
    fst_unbindClass _, fun _ => containsClass_iff, fun _ _ => mem_toList, toList_sorted _,
    nodup_toList _, Std.ExtTreeMap.length_toList.symm⟩
  · -- nothing is bound in the beginning
    rw [run, lookup_foldl_change]
    simp
  · intro key key' c hkey
    simp at hkey

end MacroTypes.Bindings
