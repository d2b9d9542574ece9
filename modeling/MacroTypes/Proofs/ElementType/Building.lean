import Mathlib.Data.List.Induction
import Mathlib.Data.List.Nodup
import MacroTypes.ElementType.Builder
import MacroTypes.Proofs.ForStd.TreeMap

/-!
# What a builder makes of its parts

A builder keeps the attributes and the nested elements of its parts in two lists, each in the order
of the parts (`ofParts_eq`), so it does not matter how the two are mixed. Building goes through the
lists one after the other and stops at the first entry whose key was there before
(`collectDistinct_of_firstRepeated`). If there is none, every entry is found under its key
(`collectDistinct_of_nodup`).

`BuildsTo` says what comes of the parts without the builder. Each list of parts has one outcome, and
it is the one that building returns (`build_ofParts_iff`).
-/

namespace MacroTypes.ElementType

/-! ## Entries that are repeated -/

/-- The first entry of a list that equals an earlier one. -/
def FirstRepeated {α : Type} (l : List α) (a : α) : Prop :=
  ∃ before after, l = before ++ a :: after ∧ before.Nodup ∧ a ∈ before

private theorem FirstRepeated.append {α : Type} {l : List α} {a : α} (h : FirstRepeated l a)
    (more : List α) : FirstRepeated (l ++ more) a := by
  obtain ⟨before, after, rfl, hbefore, ha⟩ := h
  exact ⟨before, after ++ more, by simp, hbefore, ha⟩

/-- Some entry of a list is the first repeated one, unless the entries differ. -/
private theorem nodup_or_firstRepeated {α : Type} (l : List α) :
    l.Nodup ∨ ∃ a, FirstRepeated l a := by
  induction l using List.reverseRecOn with
  | nil => exact .inl .nil
  | append_singleton l a ih =>
    rcases ih with hl | ⟨b, hb⟩
    · by_cases ha : a ∈ l
      · exact .inr ⟨a, l, [], rfl, hl, ha⟩
      · rw [← List.concat_eq_append]
        exact .inl (hl.concat ha)
    · exact .inr ⟨b, hb.append [a]⟩

section Collecting

variable {κ ν ε : Type} [Ord κ] [Std.TransOrd κ] {duplicate : κ → ε} {entries : List (κ × ν)}

/-- More entries are put into the map of those before. -/
private theorem collectDistinct_append (more : List (κ × ν)) :
    collectDistinct duplicate (entries ++ more) =
      collectDistinct duplicate entries >>= fun m => more.foldlM (insertNew duplicate) m :=
  List.foldlM_append

/-- A map of entries has their keys. -/
private theorem mem_iff_mem_keys {m : Std.ExtTreeMap κ ν}
    (h : ∀ (k : κ) (v : ν), m[k]? = some v ↔ (k, v) ∈ entries) (k : κ) :
    k ∈ m ↔ k ∈ entries.map Prod.fst := by
  rw [Std.ExtTreeMap.mem_iff_isSome_getElem?, Option.isSome_iff_exists]
  simp [h]

variable [Std.LawfulEqOrd κ] [DecidableEq κ]

/-- Entries with different keys are all put into the map. -/
theorem collectDistinct_of_nodup (duplicate : κ → ε) (h : (entries.map Prod.fst).Nodup) :
    ∃ m, collectDistinct duplicate entries = .ok m ∧
      ∀ (k : κ) (v : ν), m[k]? = some v ↔ (k, v) ∈ entries := by
  induction entries using List.reverseRecOn with
  | nil => exact ⟨∅, rfl, by simp⟩
  | append_singleton entries e ih =>
    rw [List.map_append, List.map_singleton, ← List.concat_eq_append, List.nodup_concat] at h
    obtain ⟨m, hm, hlookup⟩ := ih h.2
    have hnew : e.1 ∉ m := fun hmem => h.1 ((mem_iff_mem_keys hlookup e.1).1 hmem)
    refine ⟨m.insert e.1 e.2, ?_, fun k v => ?_⟩
    · rw [collectDistinct_append, hm]
      show insertNew duplicate m e >>= pure = _
      rw [insertNew, if_neg hnew]
      rfl
    · rw [Std.ExtTreeMap.getElem?_insert_ite, List.mem_append, List.mem_singleton, ← hlookup]
      by_cases hk : k = e.1
      · have hnone : m[e.1]? = none := Std.ExtTreeMap.getElem?_eq_none hnew
        simp [hk, hnone, Prod.ext_iff, @eq_comm _ v]
      · simp [hk, Prod.ext_iff]

/-- The first key that is repeated is the error. -/
theorem collectDistinct_of_firstRepeated {k : κ} (h : FirstRepeated (entries.map Prod.fst) k) :
    collectDistinct duplicate entries = .error (duplicate k) := by
  obtain ⟨before, after, heq, hbefore, hk⟩ := h
  obtain ⟨entries, rest, rfl, rfl, hrest⟩ := List.map_eq_append_iff.1 heq
  obtain ⟨e, rest, rfl, rfl, -⟩ := List.map_eq_cons_iff.1 hrest
  -- the entries before it are in the map
  obtain ⟨m, hm, hlookup⟩ := collectDistinct_of_nodup duplicate hbefore
  rw [collectDistinct_append, hm]
  show (insertNew duplicate m e >>= fun m => rest.foldlM (insertNew duplicate) m) = _
  rw [insertNew, if_pos ((mem_iff_mem_keys hlookup e.1).2 hk)]
  rfl

end Collecting

namespace Builder

/-! ## Parts -/

/-- The attribute that a part gives, under its lower-cased name. -/
def Part.attribute? : Part → Option (String × AttrType)
  | .attr name type => some (Text.lowercase name, type)
  | .nested .. | .task | .allTasks => none

/-- The nested element that a part gives. -/
def Part.nested? : Part → Option (QName × ClassName)
  | .nested key c => some (key, c)
  | .attr .. | .task | .allTasks => none

/-- The attributes of some parts in order, under their lower-cased names. -/
def attributesOf (parts : List Part) : List (String × AttrType) :=
  parts.filterMap Part.attribute?

/-- The nested elements of some parts in order. -/
def nestedOf (parts : List Part) : List (QName × ClassName) :=
  parts.filterMap Part.nested?

variable {key : QName} {className : ClassName} {parts : List Part}

private theorem mem_attributesOf {name : String} {type : AttrType} :
    (name, type) ∈ attributesOf parts ↔
      ∃ q, .attr q type ∈ parts ∧ Text.lowercase q = name := by
  rw [attributesOf, List.mem_filterMap]
  constructor
  · rintro ⟨part, hpart, heq⟩
    cases part with
    | attr q type' =>
      obtain ⟨rfl, rfl⟩ := Prod.mk.inj (Option.some.inj heq)
      exact ⟨q, hpart, rfl⟩
    | nested | task | allTasks => exact nomatch heq
  · rintro ⟨q, hpart, rfl⟩
    exact ⟨.attr q type, hpart, rfl⟩

private theorem mem_nestedOf {k : QName} {c : ClassName} :
    (k, c) ∈ nestedOf parts ↔ .nested k c ∈ parts := by
  rw [nestedOf, List.mem_filterMap]
  constructor
  · rintro ⟨part, hpart, heq⟩
    cases part with
    | nested k' c' =>
      obtain ⟨rfl, rfl⟩ := Prod.mk.inj (Option.some.inj heq)
      exact hpart
    | attr | task | allTasks => exact nomatch heq
  · intro hpart
    exact ⟨.nested k c, hpart, rfl⟩

/-- The builder of some parts holds their attributes, their nested elements and their flags. -/
theorem ofParts_eq (key : QName) (className : ClassName) (parts : List Part) :
    ofParts key className parts =
      { key, className
        isTask := decide (.task ∈ parts)
        acceptsTasks := decide (.allTasks ∈ parts)
        attributes := attributesOf parts
        nested := nestedOf parts } := by
  induction parts using List.reverseRecOn with
  | nil => rfl
  | append_singleton parts part ih =>
    rw [ofParts, List.foldl_append, ← ofParts, ih, List.foldl_cons, List.foldl_nil]
    cases part <;> simp [add, addAttr, addNested, asTask, acceptingTasks, attributesOf, nestedOf,
      Part.attribute?, Part.nested?]

/-! ## Steps of building -/

private theorem build_of_blank (h : Text.isBlank className.text = true) :
    (ofParts key className parts).build = .error (.blankClassName key) := by
  rw [ofParts_eq, build, if_pos h]
  rfl

private theorem build_of_not_blank (h : Text.isBlank className.text = false) :
    (ofParts key className parts).build =
      collectDistinct (.duplicateAttribute className) (attributesOf parts) >>= fun attributes =>
        collectDistinct (.duplicateNested className) (nestedOf parts) >>= fun nested =>
          .ok { key, className, attributes, nested
                isTask := decide (.task ∈ parts)
                acceptsTasks := decide (.allTasks ∈ parts) } := by
  rw [ofParts_eq, build, if_neg (Bool.eq_false_iff.1 h)]
  rfl

/-! ## Outcomes -/

/-- The type has what the parts say and nothing else. -/
structure Describes (key : QName) (className : ClassName) (parts : List Part) (t : ElementType) :
    Prop where
  key_eq : t.key = key
  className_eq : t.className = className
  definingNode?_eq : t.definingNode? = none
  isTask_iff : t.isTask = true ↔ .task ∈ parts
  acceptsTasks_iff : t.acceptsTasks = true ↔ .allTasks ∈ parts
  /-- An attribute is found under every name with the same lower-case form. -/
  attr?_eq_some_iff : ∀ q type, t.attr? q = some type ↔
    ∃ name, .attr name type ∈ parts ∧ Text.lowercase name = Text.lowercase q
  /-- No attribute is kept where it cannot be found. -/
  lowercased : ∀ name ∈ t.attributes, ∃ q, Text.lowercase q = name
  nestedClass?_eq_some_iff : ∀ k c, t.nestedClass? k = some c ↔ .nested k c ∈ parts

/-- What comes of building a type from parts. -/
inductive BuildsTo (key : QName) (className : ClassName) (parts : List Part) :
    Except BuildError ElementType → Prop where
  /-- The class name is checked first. -/
  | blankClassName : Text.isBlank className.text = true →
      BuildsTo key className parts (.error (.blankClassName key))
  /-- Then the first attribute counts whose lower-cased name was given before. -/
  | duplicateAttribute {name : String} : Text.isBlank className.text = false →
      FirstRepeated ((attributesOf parts).map Prod.fst) name →
      BuildsTo key className parts (.error (.duplicateAttribute className name))
  /-- If there is none, the first nested element counts whose name was given before. -/
  | duplicateNested {k : QName} : Text.isBlank className.text = false →
      ((attributesOf parts).map Prod.fst).Nodup →
      FirstRepeated ((nestedOf parts).map Prod.fst) k →
      BuildsTo key className parts (.error (.duplicateNested className k))
  /-- Otherwise the type is built. -/
  | built {t : ElementType} : Text.isBlank className.text = false →
      ((attributesOf parts).map Prod.fst).Nodup → ((nestedOf parts).map Prod.fst).Nodup →
      Describes key className parts t → BuildsTo key className parts (.ok t)

/-- The parts leave no choice. -/
theorem Describes.unique {t t' : ElementType} (h : Describes key className parts t)
    (h' : Describes key className parts t') : t = t' := by
  have hattributes : t.attributes = t'.attributes := by
    refine Std.ExtTreeMap.ext_getElem? fun name => ?_
    by_cases hlower : ∃ q, Text.lowercase q = name
    · obtain ⟨q, rfl⟩ := hlower
      -- under a name in lower case stand the types that the parts give it
      refine Option.ext fun type => ?_
      exact (h.attr?_eq_some_iff q type).trans (h'.attr?_eq_some_iff q type).symm
    · -- neither type has an attribute of a name that is not in lower case
      rw [Std.ExtTreeMap.getElem?_eq_none fun hmem => hlower (h.lowercased name hmem),
        Std.ExtTreeMap.getElem?_eq_none fun hmem => hlower (h'.lowercased name hmem)]
  have hnested : t.nested = t'.nested := by
    refine Std.ExtTreeMap.ext_getElem? fun k => Option.ext fun c => ?_
    exact (h.nestedClass?_eq_some_iff k c).trans (h'.nestedClass?_eq_some_iff k c).symm
  -- each flag says that its part was given
  have htask := Bool.eq_iff_iff.2 (h.isTask_iff.trans h'.isTask_iff.symm)
  have haccepts := Bool.eq_iff_iff.2 (h.acceptsTasks_iff.trans h'.acceptsTasks_iff.symm)
  have hkey := h.key_eq.trans h'.key_eq.symm
  have hclass := h.className_eq.trans h'.className_eq.symm
  have hnode := h.definingNode?_eq.trans h'.definingNode?_eq.symm
  -- the other fields are copied
  cases t
  cases t'
  congr

/-- What the two maps hold decides what the type says. -/
private theorem describes_of_lookup {attributes : Std.ExtTreeMap String AttrType}
    {nested : Std.ExtTreeMap QName ClassName}
    (hattributes : ∀ name type, attributes[name]? = some type ↔ (name, type) ∈ attributesOf parts)
    (hnested : ∀ k c, nested[k]? = some c ↔ (k, c) ∈ nestedOf parts) :
    Describes key className parts
      { key, className, attributes, nested
        isTask := decide (.task ∈ parts)
        acceptsTasks := decide (.allTasks ∈ parts) } where
  key_eq := rfl
  className_eq := rfl
  definingNode?_eq := rfl
  isTask_iff := decide_eq_true_iff
  acceptsTasks_iff := decide_eq_true_iff
  attr?_eq_some_iff q type := (hattributes _ type).trans mem_attributesOf
  lowercased name hmem := by
    have hname := (mem_iff_mem_keys hattributes name).1 hmem
    obtain ⟨⟨_, type⟩, hentry, rfl⟩ := List.mem_map.1 hname
    obtain ⟨q, -, hq⟩ := mem_attributesOf.1 hentry
    exact ⟨q, hq⟩
  nestedClass?_eq_some_iff k c := (hnested k c).trans mem_nestedOf

/-- An outcome is what building returns. -/
theorem BuildsTo.build_eq {r : Except BuildError ElementType}
    (h : BuildsTo key className parts r) : (ofParts key className parts).build = r := by
  cases h with
  | blankClassName hblank => exact build_of_blank hblank
  | duplicateAttribute hblank hname =>
    rw [build_of_not_blank hblank, collectDistinct_of_firstRepeated hname]
    rfl
  | duplicateNested hblank hnames hk =>
    obtain ⟨attributes, hattributes, -⟩ :=
      collectDistinct_of_nodup (BuildError.duplicateAttribute className) hnames
    rw [build_of_not_blank hblank, hattributes, collectDistinct_of_firstRepeated hk]
    rfl
  | built hblank hnames hkeys ht =>
    obtain ⟨attributes, hok, hattributes⟩ :=
      collectDistinct_of_nodup (BuildError.duplicateAttribute className) hnames
    obtain ⟨nested, hok', hnested⟩ :=
      collectDistinct_of_nodup (BuildError.duplicateNested className) hkeys
    rw [build_of_not_blank hblank, hok, hok']
    exact congrArg Except.ok ((describes_of_lookup hattributes hnested).unique ht)

/-- There is an outcome. -/
theorem exists_buildsTo (key : QName) (className : ClassName) (parts : List Part) :
    ∃ r, BuildsTo key className parts r := by
  cases hblank : Text.isBlank className.text with
  | true => exact ⟨_, .blankClassName hblank⟩
  | false =>
    rcases nodup_or_firstRepeated ((attributesOf parts).map Prod.fst) with hnames | ⟨name, hname⟩
    · rcases nodup_or_firstRepeated ((nestedOf parts).map Prod.fst) with hkeys | ⟨k, hk⟩
      · obtain ⟨attributes, -, hattributes⟩ := collectDistinct_of_nodup id hnames
        obtain ⟨nested, -, hnested⟩ := collectDistinct_of_nodup id hkeys
        exact ⟨_, .built hblank hnames hkeys (describes_of_lookup hattributes hnested)⟩
      · exact ⟨_, .duplicateNested hblank hnames hk⟩
    · exact ⟨_, .duplicateAttribute hblank hname⟩

/-- The parts give the same attributes in one order and the same nested elements in one order, and
    say the same about tasks, but the one may stand between the others in different ways. -/
structure SameUpToMixing (parts parts' : List Part) : Prop where
  attributes : attributesOf parts = attributesOf parts'
  nested : nestedOf parts = nestedOf parts'
  task : .task ∈ parts ↔ .task ∈ parts'
  allTasks : .allTasks ∈ parts ↔ .allTasks ∈ parts'

/-- Parts that differ in the mixing only make the same builder. -/
theorem SameUpToMixing.ofParts_eq {parts' : List Part} (h : SameUpToMixing parts parts')
    (key : QName) (className : ClassName) :
    ofParts key className parts = ofParts key className parts' := by
  rw [Builder.ofParts_eq, Builder.ofParts_eq, h.attributes, h.nested, decide_eq_decide.2 h.task,
    decide_eq_decide.2 h.allTasks]

/-- Building from parts returns exactly the outcome of the parts, and every way to mix the
    attributes with the nested elements comes to the same. -/
theorem build_ofParts_iff (key : QName) (className : ClassName) (parts : List Part) :
    (∀ r, (ofParts key className parts).build = r ↔ BuildsTo key className parts r) ∧
    ∀ parts', SameUpToMixing parts parts' →
      (ofParts key className parts').build = (ofParts key className parts).build := by
  refine ⟨fun r => ⟨fun heq => ?_, BuildsTo.build_eq⟩, fun parts' h => ?_⟩
  · obtain ⟨r', h⟩ := exists_buildsTo key className parts
    exact heq ▸ h.build_eq ▸ h
  · rw [h.ofParts_eq]

/-- Two attributes that are the same in lower case, where a sigma ends the word. -/
def clashingAttributes : List Part :=
  [.attr "ΟΔΟΣ" .string, .attr "οδος" .integer]

/-- Two nested elements of one name. -/
def clashingElements : List Part :=
  [.nested ⟨"fileset", none⟩ ⟨"FileSet"⟩, .nested ⟨"fileset", none⟩ ⟨"OtherFileSet"⟩]

/-- The attributes are at fault, also if the nested elements are given before them. -/
theorem build_ofParts_iff_clashing :
    SameUpToMixing (clashingAttributes ++ clashingElements)
        (clashingElements ++ clashingAttributes) ∧
      (ofParts ⟨"copy", none⟩ ⟨"Copy"⟩ (clashingElements ++ clashingAttributes)).build =
        .error (.duplicateAttribute ⟨"Copy"⟩ "οδος") := by
  have hsame : SameUpToMixing (clashingAttributes ++ clashingElements)
      (clashingElements ++ clashingAttributes) :=
    ⟨by decide +kernel, by decide +kernel, by decide +kernel, by decide +kernel⟩
  have hiff := build_ofParts_iff ⟨"copy", none⟩ ⟨"Copy"⟩ (clashingAttributes ++ clashingElements)
  refine ⟨hsame, (hiff.2 _ hsame).trans ((hiff.1 _).2 ?_)⟩
  exact .duplicateAttribute (by decide +kernel)
    ⟨["οδος"], [], by decide +kernel, by decide, by decide⟩

end Builder

end MacroTypes.ElementType
