import Checkin.FileTree.Resolution
import Checkin.Proofs.FileTree.Descent
import Checkin.Proofs.Path
import Mathlib.Data.List.Induction
import Mathlib.Logic.Function.Iterate

/-!
# Ways through links

Names that lead from one directory to another pass directories and links. Beside the place, a way keeps the
path without links that leads to it (`Passes`). The target of a link is a way of its own, inside the way that
the link is on, while a walk puts the names of the target in front of those that are left.
-/

namespace Checkin

theorem Path.child_inj {p q : Path} {name other : String} (same : p.child name = q.child other) :
    p = q ∧ name = other := by
  obtain ⟨root, names⟩ := p
  obtain ⟨root', names'⟩ := q
  simp only [Path.child, Path.mk.injEq] at same
  obtain ⟨rfl, same⟩ := same
  obtain ⟨rfl, same⟩ := List.append_inj' same rfl
  exact ⟨rfl, by simpa using same⟩

namespace FileTree

variable {t : FileTree} {here p p' p₁ place : Place} {d d' d₁ : Path} {name target : String}
  {names more : List String} {l : Location} {node : Node} {k k' links : Nat} {purpose : Purpose}

/-! ## Trees that a system can have -/

/-- A name can be that of an entry in a directory. -/
structure IsReal (name : String) : Prop where
  plain : IsPlain name
  short : name.utf8ByteSize ≤ maxNameSize
  noSlash : '/' ∉ name.toList
  noNul : '\x00' ∉ name.toList

instance (name : String) : Decidable (IsReal name) :=
  decidable_of_iff
    (IsPlain name ∧ name.utf8ByteSize ≤ maxNameSize ∧ '/' ∉ name.toList ∧ '\x00' ∉ name.toList)
    ⟨fun ⟨plain, short, noSlash, noNul⟩ => ⟨plain, short, noSlash, noNul⟩,
      fun real => ⟨real.plain, real.short, real.noSlash, real.noNul⟩⟩

/-- All entries have names that entries can have, and no link has an empty target. -/
structure Proper (t : FileTree) : Prop where
  names : ∀ {l node}, t.get? l = some node → ∀ name ∈ l, IsReal name
  targets : ∀ {l target}, t.get? l = some (.link target) → target ≠ ""

theorem proper_empty : Proper .empty := by
  have held {l : Location} {node : Node} (found : FileTree.empty.get? l = some node) :
      l = [] ∧ node = .directory := by
    unfold get? at found
    split at found
    · next root => exact ⟨root, (Option.some.inj found).symm⟩
    · rw [FileTree.empty, Trie.get?_empty] at found
      cases found
  constructor
  · intro l node found
    simp [(held found).1]
  · intro l target found
    cases (held found).2

theorem Proper.set (proper : Proper t) (notRoot : l ≠ []) (real : ∀ name ∈ l, IsReal name)
    (leads : ∀ target, node = .link target → target ≠ "") : Proper (t.set l node) := by
  constructor
  · intro other there found
    by_cases same : other = l
    · rwa [same]
    · rw [get?_set_of_ne notRoot same] at found
      exact proper.names found
  · intro other target found
    by_cases same : other = l
    · rw [same, get?_set_self notRoot] at found
      exact leads target (Option.some.inj found)
    · rw [get?_set_of_ne notRoot same] at found
      exact proper.targets found

theorem Proper.real (proper : Proper t) (found : t.get? (p.child name).location = some node) :
    IsReal name :=
  proper.names found name (by simp [Place.child])

/-! ## Paths without links -/

/-- A path without links leads to a place: it goes up from the working directory, or starts at the root, and
then goes down through directories. -/
inductive At (t : FileTree) (here : Place) : Path → Place → Prop
  | up (k : Nat) : At t here ⟨.relative, List.replicate k ".."⟩ (Place.parent^[k] here)
  | root : At t here ⟨.absolute, []⟩ .root
  | child {d : Path} {p : Place} {name : String} : At t here d p → p.lost = 0 →
      t.get? (p.child name).location = some .directory → At t here (d.child name) (p.child name)

theorem at_here (t : FileTree) (here : Place) : At t here ⟨.relative, []⟩ here :=
  .up 0

theorem parent_child (standing : p.lost = 0) (name : String) : (p.child name).parent = p := by
  obtain ⟨location, lost⟩ := p
  obtain rfl : lost = 0 := standing
  simp [Place.parent, Place.child]

theorem At.oneUp (proper : Proper t) (stands : At t here d p) : At t here (oneUp d) p.parent := by
  cases stands with
  | up k =>
    rw [← Function.iterate_succ_apply' Place.parent]
    have raised : FileTree.oneUp ⟨.relative, List.replicate k ".."⟩ =
        ⟨.relative, List.replicate (k + 1) ".."⟩ := by
      cases k <;> simp [FileTree.oneUp, Path.child, Path.isAbsolute, List.replicate_succ']
    rw [raised]
    exact .up (k + 1)
  | root => exact .root
  | @child d p name stands kept found =>
    have raised : FileTree.oneUp (d.child name) = d := by
      have last : (d.child name).names.getLast? = some name := by simp [Path.child]
      unfold FileTree.oneUp
      rw [last]
      dsimp only
      rw [if_neg (proper.real found).plain.not_up, Path.parent_child]
    rwa [raised, parent_child kept]

/-- A walk from where the path starts goes along it without meeting a link. -/
theorem At.walk (proper : Proper t) (stands : At t here d p) (notFile : purpose ≠ .file)
    (more : List String) :
    t.walk purpose links (if d.isAbsolute then .root else here) (d.names ++ more) =
      t.walk purpose links p more := by
  induction stands generalizing more with
  | up k =>
    show t.walk purpose links here (List.replicate k ".." ++ more) = _
    induction k generalizing here with
    | zero => rfl
    | succ k ih => rw [List.replicate_succ, List.cons_append, walk_up, ih, Function.iterate_succ_apply]
  | root => rfl
  | @child d p name stands kept found ih =>
    have real := proper.real found
    have along : (d.child name).names ++ more = d.names ++ name :: more := by simp [Path.child]
    rw [along, show (d.child name).isAbsolute = d.isAbsolute from rfl, ih,
      walk_plain real.plain.not_skipped real.plain.not_up (fun ends => notFile ends.1)
        (by simp [kept]) (Nat.not_lt.2 real.short), found]

theorem At.eq_of_path (proper : Proper t) (stands : At t here d p) (stands' : At t here d p') :
    p = p' := by
  have notFile : Purpose.target ≠ .file := by simp
  have walked : t.walk .target 0 p [] = t.walk .target 0 p' [] :=
    (stands.walk proper notFile []).symm.trans (stands'.walk proper notFile [])
  rw [walk_nil, walk_nil] at walked
  exact Except.ok.inj walked

theorem At.noNul (proper : Proper t) (stands : At t here d p) :
    d.text.toList.contains '\x00' = false := by
  rw [Bool.eq_false_iff, ne_eq, Path.contains_nul_iff]
  induction stands with
  | up k =>
    rintro ⟨name, member, inside⟩
    rw [List.eq_of_mem_replicate member] at inside
    exact absurd inside (by decide)
  | root => simp
  | @child d p name stands kept found ih =>
    rintro ⟨other, member, inside⟩
    rcases List.mem_append.1 member with above | last
    · exact ih ⟨other, above, inside⟩
    · rw [List.mem_singleton.1 last] at inside
      exact (proper.real found).noNul inside

theorem At.noNul_child (proper : Proper t) (stands : At t here d p)
    (found : t.get? (p.child name).location = some node) :
    (d.child name).text.toList.contains '\x00' = false := by
  rw [Path.contains_nul_child (proper.real found).noNul, stands.noNul proper]

theorem At.find_child (proper : Proper t) (stands : At t here d p) (kept : p.lost = 0)
    (found : t.get? (p.child name).location = some node) (notFile : ∀ content, node ≠ .file content)
    (fits : (d.child name).text.utf8ByteSize ≤ maxPathSize) :
    t.find here (d.child name) .entry = .ok (p.child name) := by
  have real := proper.real found
  rw [find_eq_walk (stands.noNul_child proper found) (Nat.not_lt.2 fits)]
  show t.walk .entry maxLinks (if d.isAbsolute then .root else here) (d.names ++ [name]) = _
  rw [stands.walk proper (by simp), walk_plain real.plain.not_skipped real.plain.not_up (by simp)
    (by simp [kept]) (Nat.not_lt.2 real.short), found]
  cases node with
  | directory => exact walk_nil
  | file content => exact absurd rfl (notFile content)
  | link target => exact if_pos ⟨rfl, rfl⟩

theorem At.linkTarget?_directory (proper : Proper t) (stands : At t here d p) (kept : p.lost = 0)
    (found : t.get? (p.child name).location = some .directory) :
    t.linkTarget? here (d.child name) = none := by
  by_cases fits : (d.child name).text.utf8ByteSize ≤ maxPathSize
  · simp only [linkTarget?, stands.find_child proper kept found (by simp) fits, nodeAt_child, found]
  · apply linkTarget?_of_nothing
    intro place reached
    exact absurd (Nat.not_lt.1 (find_eq_ok reached).2.1) fits

theorem At.linkTarget?_link (proper : Proper t) (stands : At t here d p) (kept : p.lost = 0)
    (found : t.get? (p.child name).location = some (.link target))
    (fits : (d.child name).text.utf8ByteSize ≤ maxPathSize) :
    t.linkTarget? here (d.child name) = some target := by
  simp only [linkTarget?, stands.find_child proper kept found (by simp) fits, nodeAt_child, found]

/-- A directory that a path without links leads to is there, if the path starts in one that is. -/
theorem At.standing (stands : At t here d p) (rooted : d.isAbsolute = true ∨ Standing t here) :
    Standing t p := by
  induction stands with
  | up k =>
    have there : Standing t here := rooted.resolve_left (by simp [Path.isAbsolute])
    induction k with
    | zero => exact there
    | succ k ih =>
      rw [Function.iterate_succ_apply']
      exact Standing.parent (ih rooted)
  | root => exact standing_root t
  | child _ _ found ih => exact ((ih rooted).child _).standing found

/-- From the root down, directories that are there make a path without links. -/
theorem Standing.at_absolute (standing : Standing t ⟨l, 0⟩) (here : Place) :
    At t here ⟨.absolute, l⟩ ⟨l, 0⟩ := by
  induction l using List.reverseRecOn with
  | nil => exact .root
  | append_singleton front name ih =>
    have there : Standing t ⟨front, 0⟩ := ⟨rfl, fun other before =>
      standing.above other (before.trans (List.prefix_append front [name]))⟩
    exact .child (ih there) rfl (standing.above _ (List.prefix_refl _))

/-! ## Ways -/

/-- The path that a link starts from, if a path without links leads to the directory that it is in. -/
def linkStart (done : Path) (target : String) : Path :=
  if Path.rootOf target = .relative then done else ⟨.absolute, []⟩

/-- Names lead through `k` links, those inside others counted too, from one directory to another one, of each
of which the path without links is known. The paths of the links are not too long to be looked at. -/
inductive Passes (t : FileTree) : Nat → Path → Place → List String → Path → Place → Prop
  | nil {d : Path} {p : Place} : Passes t 0 d p [] d p
  | skip {k : Nat} {d d' : Path} {p p' : Place} {name : String} {names : List String} :
      name = "." ∨ name = "" → Passes t k d p names d' p' → Passes t k d p (name :: names) d' p'
  | up {k : Nat} {d d' : Path} {p p' : Place} {names : List String} :
      Passes t k (oneUp d) p.parent names d' p' → Passes t k d p (".." :: names) d' p'
  | down {k : Nat} {d d' : Path} {p p' : Place} {name : String} {names : List String} :
      p.lost = 0 → t.get? (p.child name).location = some .directory →
      Passes t k (d.child name) (p.child name) names d' p' → Passes t k d p (name :: names) d' p'
  | link {i k : Nat} {d d₁ d' : Path} {p p₁ p' : Place} {name target : String} {names : List String} :
      p.lost = 0 → t.get? (p.child name).location = some (.link target) →
      (d.child name).text.utf8ByteSize ≤ maxPathSize →
      Passes t i (linkStart d target) (targetStart p target) (Path.pieces target) d₁ p₁ →
      Passes t k d₁ p₁ names d' p' → Passes t (i + k + 1) d p (name :: names) d' p'

theorem At.linkStart (stands : At t here d p) (target : String) :
    At t here (linkStart d target) (targetStart p target) := by
  unfold FileTree.linkStart targetStart
  split
  · exact stands
  · exact .root

theorem Passes.at (proper : Proper t) (passes : Passes t k d p names d' p') (stands : At t here d p) :
    At t here d' p' := by
  induction passes with
  | nil => exact stands
  | skip _ _ ih => exact ih stands
  | up _ ih => exact ih (stands.oneUp proper)
  | down kept found _ ih => exact ih (stands.child kept found)
  | link _ _ _ _ _ inside rest => exact rest (inside (stands.linkStart _))

theorem Passes.of_skip (proper : Proper t) (skipped : name = "." ∨ name = "")
    (passes : Passes t k d p (name :: names) d' p') : Passes t k d p names d' p' := by
  cases passes with
  | skip _ rest => exact rest
  | up => simp at skipped
  | down _ found | link _ found => exact absurd skipped (proper.real found).plain.not_skipped

theorem Passes.of_up (proper : Proper t) (passes : Passes t k d p (".." :: names) d' p') :
    Passes t k (oneUp d) p.parent names d' p' := by
  cases passes with
  | skip skipped => simp at skipped
  | up rest => exact rest
  | down _ found | link _ found => exact absurd rfl (proper.real found).plain.not_up

/-- Where names lead, through how many links, and along which path is one matter. -/
theorem Passes.deterministic (proper : Proper t) (passes : Passes t k d p names d' p')
    (passes' : Passes t k' d p names d₁ p₁) : k = k' ∧ d' = d₁ ∧ p' = p₁ := by
  induction passes generalizing k' d₁ p₁ with
  | nil =>
    cases passes'
    exact ⟨rfl, rfl, rfl⟩
  | skip skipped _ ih => exact ih (passes'.of_skip proper skipped)
  | up _ ih => exact ih (passes'.of_up proper)
  | down _ found _ ih =>
    cases passes' with
    | skip skipped => exact absurd skipped (proper.real found).plain.not_skipped
    | up => exact absurd rfl (proper.real found).plain.not_up
    | down _ _ rest => exact ih rest
    | link _ found' => cases found.symm.trans found'
  | link _ found _ _ _ ihInside ihRest =>
    cases passes' with
    | skip skipped => exact absurd skipped (proper.real found).plain.not_skipped
    | up => exact absurd rfl (proper.real found).plain.not_up
    | down _ found' => cases found.symm.trans found'
    | link _ found' _ inside rest =>
      cases found.symm.trans found'
      obtain ⟨rfl, rfl, rfl⟩ := ihInside inside
      obtain ⟨rfl, rfl, rfl⟩ := ihRest rest
      exact ⟨rfl, rfl, rfl⟩

/-- A way along two lists of names is a way along the first one and then along the second one. -/
theorem Passes.append_inv (passes : Passes t k d p (names ++ more) d' p') :
    ∃ i j d₁ p₁, k = i + j ∧ Passes t i d p names d₁ p₁ ∧ Passes t j d₁ p₁ more d' p' := by
  generalize whole : names ++ more = all at passes
  induction passes generalizing names with
  | nil =>
    obtain ⟨rfl, rfl⟩ := List.append_eq_nil_iff.1 whole
    exact ⟨0, 0, _, _, rfl, .nil, .nil⟩
  | skip skipped rest ih =>
    rcases List.append_eq_cons_iff.1 whole with ⟨rfl, rfl⟩ | ⟨front, rfl, ends⟩
    · exact ⟨0, _, _, _, (Nat.zero_add _).symm, .nil, .skip skipped rest⟩
    · obtain ⟨i, j, d₁, p₁, rfl, before, after⟩ := ih ends.symm
      exact ⟨i, j, d₁, p₁, rfl, .skip skipped before, after⟩
  | up rest ih =>
    rcases List.append_eq_cons_iff.1 whole with ⟨rfl, rfl⟩ | ⟨front, rfl, ends⟩
    · exact ⟨0, _, _, _, (Nat.zero_add _).symm, .nil, .up rest⟩
    · obtain ⟨i, j, d₁, p₁, rfl, before, after⟩ := ih ends.symm
      exact ⟨i, j, d₁, p₁, rfl, .up before, after⟩
  | down kept found rest ih =>
    rcases List.append_eq_cons_iff.1 whole with ⟨rfl, rfl⟩ | ⟨front, rfl, ends⟩
    · exact ⟨0, _, _, _, (Nat.zero_add _).symm, .nil, .down kept found rest⟩
    · obtain ⟨i, j, d₁, p₁, rfl, before, after⟩ := ih ends.symm
      exact ⟨i, j, d₁, p₁, rfl, .down kept found before, after⟩
  | @link inner _ _ _ _ _ _ _ _ _ _ kept found fits inside rest _ ih =>
    rcases List.append_eq_cons_iff.1 whole with ⟨rfl, rfl⟩ | ⟨front, rfl, ends⟩
    · exact ⟨0, _, _, _, (Nat.zero_add _).symm, .nil, .link kept found fits inside rest⟩
    · obtain ⟨i, j, d₁, p₁, rfl, before, after⟩ := ih ends.symm
      exact ⟨inner + i + 1, j, d₁, p₁, by omega, .link kept found fits inside before, after⟩

/-- Empty names lead nowhere, and may be put in. -/
theorem Passes.of_filter (passes : Passes t k d p (names.filter (· ≠ "")) d' p') :
    Passes t k d p names d' p' := by
  induction names generalizing k d p with
  | nil => exact passes
  | cons name names ih =>
    by_cases empty : name = ""
    · rw [List.filter_cons_of_neg (by simpa using empty)] at passes
      exact .skip (.inr empty) (ih passes)
    · rw [List.filter_cons_of_pos (by simpa using empty)] at passes
      cases passes with
      | skip skipped rest => exact .skip skipped (ih rest)
      | up rest => exact .up (ih rest)
      | down kept found rest => exact .down kept found (ih rest)
      | link kept found fits inside rest => exact .link kept found fits inside (ih rest)

/-- The names that a walk follows at a link make the way that the link's target is. -/
theorem Passes.of_targetNames (proper : Proper t)
    (passes : Passes t k d p (targetNames target) d' p') :
    Passes t k d p (Path.pieces target) d' p' := by
  unfold targetNames at passes
  dsimp only at passes
  split at passes
  · obtain ⟨i, j, d₁, p₁, rfl, before, slash⟩ := passes.append_inv
    cases slash.of_skip proper (.inr rfl)
    exact before.of_filter
  · exact passes.of_filter

/-! ## Walks as ways -/

/-- The links that a walk meets, each with the path without links to the directory that it is in and its own
name after that, and with its target. -/
def linksMet (t : FileTree) (links : Nat) (done : Path) (here : Place) (names : List String) :
    List (Path × String) :=
  match names with
  | [] => []
  | name :: names =>
    if name = "." ∨ name = "" then linksMet t links done here names
    else if name = ".." then linksMet t links (oneUp done) here.parent names
    else
      match t.get? (here.child name).location with
      | some (.link target) =>
        match links with
        | 0 => []
        | links + 1 =>
          (done.child name, target) ::
            linksMet t links (linkStart done target) (targetStart here target) (targetNames target ++ names)
      | _ => linksMet t links (done.child name) (here.child name) names
termination_by (links, names.length)

/-- The path without links that a path starts from. -/
def pathStart (p : Path) : Path :=
  if p.isAbsolute then ⟨.absolute, []⟩ else ⟨.relative, []⟩

/-- The links on the way of a path. -/
def linksOn (t : FileTree) (here : Place) (p : Path) : List (Path × String) :=
  t.linksMet maxLinks (pathStart p) (if p.isAbsolute then .root else here) p.names

theorem isAbsolute_oneUp (d : Path) : (oneUp d).isAbsolute = d.isAbsolute := by
  unfold oneUp
  split
  · split <;> rfl
  · split <;> rfl

theorem kept_of_walk (plain : ¬(name = "." ∨ name = "")) (notUp : ¬name = "..")
    (walked : t.walk .target links p (name :: names) = .ok place) :
    p.lost = 0 ∧ ¬maxNameSize < name.utf8ByteSize := by
  rw [walk, if_neg plain, if_neg notUp, if_neg (by simp)] at walked
  split at walked
  · cases walked
  · next kept =>
    split at walked
    · cases walked
    · next fits => exact ⟨not_not.1 kept, fits⟩

/-- A walk to a directory is a way there, if the path to no link that it meets is too long to be looked at. The
path that the way ends with is absolute if the way is led to the root anywhere. -/
theorem passes_of_walk (proper : Proper t) (walked : t.walk .target links p names = .ok place)
    (there : t.nodeAt place = some .directory)
    (short : ∀ link ∈ t.linksMet links d p names, link.1.text.utf8ByteSize ≤ maxPathSize) :
    ∃ k d', k ≤ links ∧ Passes t k d p names d' place ∧
      (d.isAbsolute = true ∨ (∃ link ∈ t.linksMet links d p names, Path.rootOf link.2 ≠ .relative) →
        d'.isAbsolute = true) := by
  fun_induction linksMet t links d p names with
  | case1 links d p =>
    rw [walk_nil] at walked
    cases walked
    exact ⟨0, d, Nat.zero_le _, .nil, by simp⟩
  | case2 links d p name names skipped ih =>
    rw [walk_skip skipped] at walked
    obtain ⟨k, d', few, passes, led⟩ := ih walked short
    exact ⟨k, d', few, .skip skipped passes, led⟩
  | case3 links d p names _ ih =>
    rw [walk_up] at walked
    obtain ⟨k, d', few, passes, led⟩ := ih walked short
    exact ⟨k, d', few, .up passes, by rwa [isAbsolute_oneUp] at led⟩
  | case4 d p name names plain notUp target found =>
    obtain ⟨kept, fits⟩ := kept_of_walk plain notUp walked
    rw [walk_plain plain notUp (by simp) (by simp [kept]) fits, found] at walked
    cases walked
  | case5 d p name names plain notUp target found links ih =>
    obtain ⟨kept, fits⟩ := kept_of_walk plain notUp walked
    rw [walk_plain plain notUp (by simp) (by simp [kept]) fits, found] at walked
    obtain ⟨k, d', few, passes, led⟩ := ih walked fun link met => short link (List.mem_cons_of_mem _ met)
    obtain ⟨i, j, d₁, p₁, rfl, inside, rest⟩ := passes.append_inv
    have looked := short _ List.mem_cons_self
    refine ⟨i + j + 1, d', by omega, .link kept found looked (inside.of_targetNames proper) rest, ?_⟩
    intro rooted
    apply led
    by_cases absolute : Path.rootOf target = .relative
    · simpa [linkStart, absolute] using rooted
    · exact .inl (by simp [linkStart, absolute, Path.isAbsolute])
  | case6 links d p name names plain notUp noLink ih =>
    obtain ⟨kept, fits⟩ := kept_of_walk plain notUp walked
    rw [walk_plain plain notUp (by simp) (by simp [kept]) fits] at walked
    split at walked
    · next found =>
      obtain ⟨k, d', few, passes, led⟩ := ih walked short
      exact ⟨k, d', few, .down kept found passes, led⟩
    · next content found =>
      split at walked
      · cases walked
        cases found.symm.trans there
      · cases walked
    · next target found => exact (noLink target found).elim
    · next found =>
      split at walked
      · cases walked
        cases found.symm.trans there
      · cases walked

end FileTree

end Checkin
