import MacroTypes.ClassName.Basic
import MacroTypes.QName

/-!
# The bindings of a container

Inside a container an element name stands for a class. Binding a name takes the class away from any
other name, so that a class has one name at most, and takes the name away from any other class.

Main statements: `fst_bind` says which class is displaced, `lookup_bind` and `lookup_unbindClass`
say what each operation does to every name.
-/

namespace MacroTypes

/-- The classes of the elements that may stand inside a container, by name. -/
structure Bindings where
  /-- The class bound to each name. -/
  byKey : Std.ExtTreeMap QName ClassName := ∅
deriving DecidableEq

/-- The order of bindings: by name, then by class. -/
def bindingOrder : QName × ClassName → QName × ClassName → Ordering :=
  compareLex (compareOn Prod.fst) (compareOn Prod.snd)

instance : Std.TransCmp bindingOrder :=
  inferInstanceAs (Std.TransCmp (compareLex (compareOn Prod.fst) (compareOn Prod.snd)))

instance : Std.LawfulEqCmp bindingOrder where
  eq_of_compare {a b} h := by
    cases a; cases b
    have h := compareLex_eq_eq.1 h
    simp only [compareOn] at h
    simp [Std.LawfulEqOrd.eq_of_compare h.1, Std.LawfulEqOrd.eq_of_compare h.2]

namespace Bindings

instance : EmptyCollection Bindings := ⟨{}⟩

/-- The class bound to a name. -/
def lookup (b : Bindings) (key : QName) : Option ClassName :=
  b.byKey[key]?

/-- Whether a class has a name. -/
def containsClass (b : Bindings) (c : ClassName) : Bool :=
  b.byKey.values.any (· = c)

/-- The bindings in the order of their names. -/
def toList (b : Bindings) : List (QName × ClassName) :=
  b.byKey.toList

/-- The number of bindings. -/
def size (b : Bindings) : Nat :=
  b.byKey.size

/-- Whether there are no bindings. -/
def isEmpty (b : Bindings) : Bool :=
  b.byKey.isEmpty

/-- Binds a name to a class, after taking any other name from the class. The result is the class
that the name stood for before, if it was another one, and the new bindings. -/
def bind (b : Bindings) (key : QName) (c : ClassName) : Option ClassName × Bindings :=
  -- a class has one name, so its other name goes, if it has one
  let kept := b.byKey.filter fun k d => d ≠ c || k = key
  (kept[key]?.filter (· ≠ c), ⟨kept.insert key c⟩)

/-- Takes its name from a class. The result says whether there are fewer bindings now. -/
def unbindClass (b : Bindings) (c : ClassName) : Bool × Bindings :=
  let kept := b.byKey.filter fun _ d => d ≠ c
  (kept.size ≠ b.byKey.size, ⟨kept⟩)

/-! ## What the operations do to a name -/

@[simp] theorem lookup_empty (key : QName) : (∅ : Bindings).lookup key = none := by
  change (∅ : Std.ExtTreeMap QName ClassName)[key]? = none
  simp

theorem isEmpty_iff {b : Bindings} : b.isEmpty = true ↔ b = ∅ := by
  cases b
  simp only [isEmpty, Std.ExtTreeMap.isEmpty_iff]
  exact ⟨congrArg mk, congrArg byKey⟩

/-- Bindings that agree on every name are the same. -/
theorem ext_lookup {a b : Bindings} (h : ∀ key, a.lookup key = b.lookup key) : a = b := by
  cases a; cases b
  exact congrArg mk (Std.ExtTreeMap.ext_getElem? (h ·))

/-- Taking its other name from the class changes nothing about what the name stands for. -/
theorem fst_bind (b : Bindings) (key : QName) (c : ClassName) :
    (b.bind key c).1 = (b.lookup key).filter (· ≠ c) := by
  simp only [bind, lookup, Std.ExtTreeMap.getElem?_filter']
  cases b.byKey[key]? <;> simp

/-- After binding, the name stands for the class, and other names keep other classes. -/
theorem lookup_bind (b : Bindings) (key : QName) (c : ClassName) (k : QName) :
    (b.bind key c).2.lookup k = if k = key then some c else (b.lookup k).filter (· ≠ c) := by
  simp only [bind, lookup, Std.ExtTreeMap.getElem?_insert, Std.ExtTreeMap.getElem?_filter']
  by_cases h : k = key
  · simp [h]
  · have hne : key ≠ k := fun e => h e.symm
    simp [h, hne]

/-- Binding a name to a class changes nothing if the class has this name and no other. -/
theorem bind_of_lookup {b : Bindings} {key : QName} {c : ClassName} (h : b.lookup key = some c)
    (honly : ∀ k, b.lookup k = some c → k = key) : (b.bind key c).2 = b := by
  apply ext_lookup
  intro k
  rw [lookup_bind]
  split
  · -- the name itself stands for the class
    next hk => rw [hk, h]
  · -- any other name keeps its class, since that is not the one that is bound
    next hk =>
    cases hd : b.lookup k with
    | none => rfl
    | some d =>
      have hne : d ≠ c := fun hdc => hk (honly k (hdc ▸ hd))
      rw [Option.filter_some, decide_eq_true hne, if_pos rfl]

/-- Binding a name to its class again changes nothing. -/
theorem bind_bind (b : Bindings) (key : QName) (c : ClassName) :
    ((b.bind key c).2.bind key c).2 = (b.bind key c).2 := by
  apply ext_lookup
  intro k
  -- the second time the class has no other name to lose
  simp only [lookup_bind]
  split
  · rfl
  · simp

/-- After unbinding, every name keeps its class unless it is the one given. -/
theorem lookup_unbindClass (b : Bindings) (c : ClassName) (k : QName) :
    (b.unbindClass c).2.lookup k = (b.lookup k).filter (· ≠ c) := by
  simp [unbindClass, lookup]

/-- Unbinding a class again changes nothing. -/
theorem unbindClass_unbindClass (b : Bindings) (c : ClassName) :
    ((b.unbindClass c).2.unbindClass c).2 = (b.unbindClass c).2 := by
  apply ext_lookup
  intro k
  simp [lookup_unbindClass]

/-- The list holds what looking up finds. -/
theorem mem_toList {b : Bindings} {key : QName} {c : ClassName} :
    (key, c) ∈ b.toList ↔ b.lookup key = some c :=
  Std.ExtTreeMap.mem_toList_iff_getElem?_eq_some

/-- The list is sorted. A name is bound once, so the names alone decide. -/
theorem toList_sorted (b : Bindings) :
    b.toList.Pairwise fun x y => bindingOrder x y = .lt := by
  refine Std.ExtTreeMap.ordered_keys_toList.imp fun {x y} hlt => ?_
  simp only [bindingOrder, compareLex, compareOn, hlt, Ordering.lt_then]

/-! ## Histories -/

/-- A change of bindings. -/
inductive Change where
  /-- Binds a name to a class. -/
  | bind (key : QName) (c : ClassName)
  /-- Takes its name from a class. -/
  | unbindClass (c : ClassName)
deriving DecidableEq, Repr

/-- The bindings after a change. -/
def change (b : Bindings) : Change → Bindings
  | .bind key c => (b.bind key c).2
  | .unbindClass c => (b.unbindClass c).2

/-- The bindings after a history of changes, made one after the other from no bindings. -/
def run (changes : List Change) : Bindings :=
  changes.foldl change ∅

end Bindings

end MacroTypes
