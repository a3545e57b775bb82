import Checkin.Proofs.FileTree.Directory

/-!
# What the making of directories leaves

The directories above a path are made from the top, and each of them stays even if a later one cannot be made.
However that ends, what was in the tree is as it was, and all that is new are directories to which the path
leads on its way (`Paves`).
-/

namespace Checkin

/-- A path names a stop on the way of another one, or its end. -/
def Path.OnWayTo (q p : Path) : Prop :=
  q.root = p.root ∧ q.names <+: p.names

theorem Path.OnWayTo.refl (p : Path) : p.OnWayTo p :=
  ⟨rfl, List.prefix_refl p.names⟩

theorem Path.OnWayTo.of_parent {q p : Path} (onWay : q.OnWayTo p.parent) : q.OnWayTo p :=
  ⟨onWay.1, onWay.2.trans (List.dropLast_prefix p.names)⟩

namespace FileTree

variable {t t' t'' : FileTree} {here : Place} {p : Path}

/-- Everything in a tree is unchanged in another one, and what else is there are directories that a path leads
to on its way. -/
structure Paves (t : FileTree) (here : Place) (p : Path) (t' : FileTree) : Prop where
  grows : Grows t t'
  new : ∀ {l node}, t.get? l = none → t'.get? l = some node →
    node = .directory ∧ ∃ q : Path, q.OnWayTo p ∧ t'.find here q .target = .ok ⟨l, 0⟩

theorem Paves.refl (t : FileTree) (here : Place) (p : Path) : Paves t here p t := by
  refine ⟨Grows.refl t, ?_⟩
  intro l node absent there
  rw [absent] at there
  cases there

/-- A directory that is made first is led to still when others were made after it. -/
theorem Paves.trans (first : Paves t here p t') (second : Paves t' here p t'') : Paves t here p t'' := by
  refine ⟨first.grows.trans second.grows, ?_⟩
  intro l node absent there
  cases between : t'.get? l with
  | none => exact second.new between there
  | some node' =>
    obtain ⟨rfl, q, onWay, found⟩ := first.new absent between
    have same := second.grows between
    rw [there] at same
    cases same
    exact ⟨rfl, q, onWay, find_directory_of_retains second.grows.retains found between⟩

theorem Paves.of_parent (paves : Paves t here p.parent t') : Paves t here p t' := by
  refine ⟨paves.grows, ?_⟩
  intro l node absent there
  obtain ⟨rfl, q, onWay, found⟩ := paves.new absent there
  exact ⟨rfl, q, onWay.of_parent, found⟩

theorem paves_of_makeDirectory (made : t.makeDirectory here p = .ok t') : Paves t here p t' := by
  refine ⟨makeDirectory_grows made, ?_⟩
  intro l node absent there
  obtain ⟨⟨location, lost⟩, -, held, rfl, found, -⟩ := makeDirectory_eq_ok made
  obtain ⟨rfl, nothing⟩ := eq_of_nodeAt_eq_none held
  by_cases same : l = location
  · subst same
    rw [get?_set_self (ne_root_of_get?_eq_none nothing)] at there
    cases there
    exact ⟨rfl, p, .refl p, found⟩
  · rw [get?_set_of_ne (ne_root_of_get?_eq_none nothing) same, absent] at there
    cases there

/-- However the making of directories ends, it only adds some that the path leads to on its way. -/
theorem makeDirectories_paves (t : FileTree) (here : Place) (depth : Nat) (p : Path) :
    Paves t here p (t.makeDirectories here depth p).2 := by
  fun_induction makeDirectories t here depth p with
  | case1 _ _ _ made => exact paves_of_makeDirectory made
  | case2 | case3 | case8 => exact Paves.refl t here _
  | case4 _ _ _ _ _ _ stopped ih =>
    rw [stopped] at ih
    exact ih.of_parent
  | case5 _ _ _ _ _ above _ made ih =>
    rw [above] at ih
    exact ih.of_parent.trans (paves_of_makeDirectory made)
  | case6 _ _ _ _ _ above _ ih | case7 _ _ _ _ _ above _ _ _ ih =>
    rw [above] at ih
    exact ih.of_parent

end FileTree

end Checkin
