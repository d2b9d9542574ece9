import MacroTypes.Proofs.Document.Updating
import MacroTypes.Proofs.Session.Separation

/-!
# Where declarations are placed

The containers that a declaration names are read off the tree and remembered when the tree changes.
They stay apart: numbers are given out once, and a node that is still there has the kind and the
parent it had. So a body belongs to one declaration only, and no body is a project
(`Declaration.beside_of_placed`).
-/

namespace MacroTypes

namespace Tree

variable {t : Tree}

/-- The first child of a kind is a child, and it has the kind. -/
private theorem Linked.of_firstChild? (h : Linked t) {n c : NodeId} {k : NodeKind}
    (hc : t.firstChild? n k = some c) : t.parent? c = some n ∧ t.kind? c = some k :=
  ⟨(h.mem_children_iff n c).1 (List.mem_of_find?_eq_some hc), kind?_of_firstChild? hc⟩

end Tree

/-- The containers of a declaration were given out, and those that are still there are a body of the
    node and a project. -/
structure Declaration.Placed (decl : Declaration) (t : Tree) (n : NodeId) : Prop where
  body_lt : ∀ b, decl.body? = some b → b.index < t.next
  body_child : ∀ b, decl.body? = some b → t.contains b = true →
    t.parent? b = some n ∧ t.kind? b = some .tasksContainer
  project_lt : ∀ p, decl.project? = some p → p.index < t.next
  project_kind : ∀ p, decl.project? = some p → t.contains p = true → t.kind? p = some .project

namespace Declaration

variable {t : Tree} {n : NodeId} {decl : Declaration}

/-- A body that is read is a task container below the node. -/
private theorem body_of_declaration? (ht : t.Linked) {d : Dialect}
    (h : t.declaration? d n = some decl) {b : NodeId} (hb : decl.body? = some b) :
    t.parent? b = some n ∧ t.kind? b = some .tasksContainer := by
  obtain ⟨_, _, heq⟩ := Option.map_eq_some_iff.1 h
  rw [← heq] at hb
  exact ht.of_firstChild? hb

/-- A declaration is placed where it is read. -/
theorem placed_of_declaration? (ht : t.Linked) {d : Dialect} (h : t.declaration? d n = some decl) :
    decl.Placed t n where
  body_lt _ hb :=
    Tree.index_lt_of_contains (Tree.contains_of_kind? (body_of_declaration? ht h hb).2)
  body_child _ hb _ := body_of_declaration? ht h hb
  project_lt _ hp :=
    Tree.index_lt_of_contains (Tree.contains_of_kind? (project_of_declaration? h hp))
  project_kind _ hp _ := project_of_declaration? h hp

/-- A declaration stays placed while the tree is edited. -/
theorem Placed.precedes (h : decl.Placed t n) {t' : Tree} (ht : t.Precedes t') :
    decl.Placed t' n where
  body_lt b hb := Nat.lt_of_lt_of_le (h.body_lt b hb) ht.next_le
  body_child b hb hc := by
    obtain ⟨hparent, hkind⟩ := ht.kept b (h.body_lt b hb) hc
    rw [hparent, hkind]
    exact h.body_child b hb (ht.contains_of_lt (h.body_lt b hb) hc)
  project_lt p hp := Nat.lt_of_lt_of_le (h.project_lt p hp) ht.next_le
  project_kind p hp hc := by
    rw [(ht.kept p (h.project_lt p hp) hc).2]
    exact h.project_kind p hp (ht.contains_of_lt (h.project_lt p hp) hc)

/-- The containers of a declaration that is read now are not in the way of those of another node
    that are placed: a node that is there has one parent and one kind. -/
theorem Placed.apart {a : Declaration} {m : NodeId} (ha : a.Placed t m) (ht : t.Linked)
    {d : Dialect} (h : t.declaration? d n = some decl) (hmn : m ≠ n) :
    (∀ x, decl.body? = some x → a.body? ≠ some x) ∧
      (∀ x, decl.body? = some x → a.project? ≠ some x) ∧
      (∀ x, decl.project? = some x → a.body? ≠ some x) := by
  refine ⟨fun x hx hax => ?_, fun x hx hax => ?_, fun x hx hax => ?_⟩
  · -- one body would have two parents
    obtain ⟨hparent, hkind⟩ := body_of_declaration? ht h hx
    have hparent' := (ha.body_child x hax (Tree.contains_of_kind? hkind)).1
    exact hmn (Option.some.inj (hparent'.symm.trans hparent))
  · -- a body is no project
    have hkind := (body_of_declaration? ht h hx).2
    have hkind' := ha.project_kind x hax (Tree.contains_of_kind? hkind)
    exact nomatch hkind.symm.trans hkind'
  · -- and a project is no body
    have hkind := project_of_declaration? h hx
    have hkind' := (ha.body_child x hax (Tree.contains_of_kind? hkind)).2
    exact nomatch hkind.symm.trans hkind'

/-- A declaration that is read now, and that generates no class of what is held for other nodes, can
    stand beside those that are placed. -/
theorem beside_of_placed {doc : Document} {decls : Std.ExtTreeMap NodeId Declaration}
    (hdoc : doc.Reflects decls) (ht : t.Linked)
    (hplaced : ∀ (m : NodeId) (a : Declaration), decls[m]? = some a → a.Placed t m)
    (h : t.declaration? doc.dialect n = some decl)
    (hsep : doc.Avoids decl.node (decl.classes doc.dialect)) :
    decl.Beside doc.dialect doc.template? decls := by
  have hnode := node_eq_of_declaration? h
  have hseparate : ∀ (m : NodeId) (a : Declaration), decls[m]? = some a → m ≠ decl.node →
      ∀ c ∈ decl.classes doc.dialect, c ∉ (a.definition doc.dialect doc.template?).classes := by
    intro m a hm
    have hheld := hdoc.held_eq m
    rw [hm] at hheld
    exact hsep m _ hheld
  exact
    { separate := hseparate
      apart := fun m a hm hmn =>
        have ⟨hbody, hproject, hbody'⟩ := (hplaced m a hm).apart ht h (hnode ▸ hmn)
        { classes := fun c hc => hseparate m a hm hmn c (mem_classes_of_mem_definition hc)
          body_ne_body := hbody
          body_ne_project := hproject
          project_ne_body := hbody' }
      body_ne_project := fun x hx hp => project_ne_body_of_declaration? h hp hx }

end Declaration

end MacroTypes
