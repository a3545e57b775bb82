import Checkin.Proofs.Entries
import Checkin.Proofs.FileTree.Faults
import Checkin.Proofs.FileTree.Passage

/-!
# What paths are resolved to

A path that leads to a directory is resolved to the names of the directories from the root down to it. What is
known of a link is where the way behind it ends; a link that is being followed is not met again, because the
way behind it would have to lead through more links than it has.
-/

namespace Checkin.FileTree

variable {t : FileTree} {here place p p' : Place} {d d' q r : Path} {name target : String}
  {names : List String} {l : Location} {c c' k depth : Nat} {known known' : Known}

/-! ## What is known of links -/

/-- Behind a link lies a way through `c` links, at whose end stands a path without links. -/
inductive Leads (t : FileTree) (here : Place) (c : Nat) : Path → Path → Prop
  | intro {d r : Path} {p p' : Place} {name target : String} : At t here d p →
      t.get? (p.child name).location = some (.link target) →
      Passes t c (linkStart d target) (targetStart p target) (Path.pieces target) r p' →
      Leads t here c (d.child name) r

theorem Leads.deterministic (proper : Proper t) (leads : Leads t here c q r)
    (leads' : Leads t here c' q d) : c = c' ∧ r = d := by
  obtain ⟨stands, found, passes⟩ := leads
  generalize same : Path.child _ _ = q at leads'
  obtain ⟨stands', found', passes'⟩ := leads'
  obtain ⟨rfl, rfl⟩ := Path.child_inj same
  obtain rfl := stands.eq_of_path proper stands'
  cases found.symm.trans found'
  obtain ⟨rfl, rfl, -⟩ := passes.deterministic proper passes'
  exact ⟨rfl, rfl⟩

/-- What is known of links is right, and the links that are being followed have at least `k` links behind
them. -/
structure Sound (t : FileTree) (here : Place) (k : Nat) (known : Known) : Prop where
  closed : ∀ {q r}, known.lookup q = some (some r) → ∃ c, Leads t here c q r
  pending : ∀ {q}, known.lookup q = some none → ∃ c r, k ≤ c ∧ Leads t here c q r

theorem sound_nil : Sound t here k [] :=
  ⟨(fun listed => by cases listed), (fun listed => by cases listed)⟩

/-- More is known of links, and no more of them are being followed. -/
structure Settles (t : FileTree) (here : Place) (known known' : Known) : Prop where
  closed : ∀ {q r}, known'.lookup q = some (some r) → ∃ c, Leads t here c q r
  pending : ∀ {q}, known'.lookup q = some none → known.lookup q = some none

theorem Sound.settles (sound : Sound t here k known) (settles : Settles t here known known')
    (fewer : c ≤ k) : Sound t here c known' := by
  refine ⟨settles.closed, fun listed => ?_⟩
  obtain ⟨c', r, many, leads⟩ := sound.pending (settles.pending listed)
  exact ⟨c', r, Nat.le_trans fewer many, leads⟩

theorem Sound.refl (sound : Sound t here k known) : Settles t here known known :=
  ⟨sound.closed, id⟩

theorem Settles.trans {known'' : Known} (settles : Settles t here known known')
    (settles' : Settles t here known' known'') : Settles t here known known'' :=
  ⟨settles'.closed, fun listed => settles.pending (settles'.pending listed)⟩

/-- A link that has few enough links behind it may be followed. -/
theorem Sound.put_pending (sound : Sound t here k known) (leads : Leads t here c q r) (fewer : c ≤ k) :
    Sound t here c (Entries.put known q none) := by
  constructor
  · intro other r' listed
    rw [Entries.lookup_put] at listed
    split at listed
    · cases listed
    · exact sound.closed listed
  · intro other listed
    rw [Entries.lookup_put] at listed
    split at listed
    · next same =>
      rw [beq_iff_eq.1 same]
      exact ⟨c, r, Nat.le_refl c, leads⟩
    · obtain ⟨c', r', many, leads'⟩ := sound.pending listed
      exact ⟨c', r', Nat.le_trans fewer many, leads'⟩

/-- A link that was followed is known. -/
theorem Settles.put_closed (settles : Settles t here (Entries.put known q none) known')
    (leads : Leads t here c q r) : Settles t here known (Entries.put known' q (some r)) := by
  constructor
  · intro other r' listed
    rw [Entries.lookup_put] at listed
    split at listed
    · next same =>
      cases listed
      rw [beq_iff_eq.1 same]
      exact ⟨c, leads⟩
    · exact settles.closed listed
  · intro other listed
    rw [Entries.lookup_put] at listed
    split at listed
    · cases listed
    · next other =>
      have before := settles.pending listed
      rwa [Entries.lookup_put, if_neg other] at before

/-! ## One name -/

theorem followLinks_skip (skipped : name = "." ∨ name = "") :
    t.followLinks here depth known d (name :: names) = t.followLinks here depth known d names := by
  rw [followLinks, if_pos skipped.symm]

theorem followLinks_up :
    t.followLinks here depth known d (".." :: names) = t.followLinks here depth known (oneUp d) names := by
  rw [followLinks, if_neg (by decide), if_pos rfl]

theorem followLinks_plain (plain : IsPlain name) (direct : t.linkTarget? here (d.child name) = none) :
    t.followLinks here depth known d (name :: names) =
      t.followLinks here depth known (d.child name) names := by
  rw [followLinks, if_neg (fun skipped => plain.not_skipped skipped.symm), if_neg plain.not_up]
  simp only [direct]

theorem followLinks_known (plain : IsPlain name)
    (leads : t.linkTarget? here (d.child name) = some target)
    (listed : known.lookup (d.child name) = some (some r)) :
    t.followLinks here depth known d (name :: names) = t.followLinks here depth known r names := by
  rw [followLinks, if_neg (fun skipped => plain.not_skipped skipped.symm), if_neg plain.not_up]
  simp only [leads, listed]

/-- An unknown link is followed from where its target starts, and then what comes after it. -/
theorem followLinks_unknown (plain : IsPlain name) (notEmpty : target ≠ "")
    (leads : t.linkTarget? here (d.child name) = some target)
    (unlisted : known.lookup (d.child name) = none)
    (inside : t.followLinks here depth (Entries.put known (d.child name) none) (linkStart d target)
      (Path.pieces target) = .reached known' r) :
    t.followLinks here (depth + 1) known d (name :: names) =
      t.followLinks here (depth + 1) (Entries.put known' (d.child name) (some r)) r names := by
  rw [followLinks, if_neg (fun skipped => plain.not_skipped skipped.symm), if_neg plain.not_up]
  simp only [leads, unlisted]
  rcases Path.pieces_cases notEmpty with ⟨rooted, rest, split⟩ | ⟨relative, first, rest, split, named⟩
  · rw [linkStart, if_neg rooted, split, followLinks_skip (.inr rfl)] at inside
    simp only [split, inside]
  · rw [linkStart, if_pos relative, split] at inside
    simp [split, named, inside]

/-! ## Whole paths -/

/-- Following links along a way that is there leads to where the way ends, and goes on from there. -/
theorem Passes.followLinks_append (proper : Proper t) (passes : Passes t k d p names d' p')
    (stands : At t here d p) (sound : Sound t here k known) (deep : k ≤ depth) (more : List String) :
    ∃ known', t.followLinks here depth known d (names ++ more) = t.followLinks here depth known' d' more ∧
      Settles t here known known' := by
  induction passes generalizing known depth more with
  | nil => exact ⟨known, rfl, sound.refl⟩
  | skip skipped _ ih =>
    rw [List.cons_append, followLinks_skip skipped]
    exact ih stands sound deep more
  | up _ ih =>
    rw [List.cons_append, followLinks_up]
    exact ih (stands.oneUp proper) sound deep more
  | down kept found _ ih =>
    rw [List.cons_append,
      followLinks_plain (proper.real found).plain (stands.linkTarget?_directory proper kept found)]
    exact ih (stands.child kept found) sound deep more
  | @link i k d r d' p p₁ p' name target names kept found fits inside rest ihInside ihRest =>
    have plain := (proper.real found).plain
    have target? := stands.linkTarget?_link proper kept found fits
    have leads : Leads t here i (d.child name) r := .intro stands found inside
    have reached : At t here r p₁ := inside.at proper (stands.linkStart target)
    rw [List.cons_append]
    cases listed : known.lookup (d.child name) with
    | some state =>
      cases state with
      | some r' =>
        obtain ⟨c, leads'⟩ := sound.closed listed
        obtain ⟨-, rfl⟩ := leads.deterministic proper leads'
        rw [followLinks_known plain target? listed]
        exact ihRest reached (sound.settles sound.refl (by omega)) (by omega) more
      | none =>
        -- a link that is being followed has all the links before it that are left, this one among them
        obtain ⟨c, r', many, leads'⟩ := sound.pending listed
        obtain ⟨rfl, -⟩ := leads.deterministic proper leads'
        omega
    | none =>
      obtain ⟨depth, rfl⟩ : ∃ n, depth = n + 1 := ⟨depth - 1, by omega⟩
      obtain ⟨known', followed, settles⟩ := ihInside (stands.linkStart target)
        (sound.put_pending leads (by omega)) (show i ≤ depth by omega) []
      rw [List.append_nil, followLinks] at followed
      have settled := settles.put_closed leads
      rw [followLinks_unknown plain (proper.targets found) target? listed followed]
      obtain ⟨known'', ended, settles'⟩ := ihRest reached (sound.settles settled (by omega))
        (show k ≤ depth + 1 by omega) more
      exact ⟨known'', ended, settled.trans settles'⟩

/-! ## Paths from the root -/

theorem Standing.noUps (proper : Proper t) (standing : Standing t p) : ".." ∉ p.location := by
  intro up
  exact (proper.names (standing.above _ (List.prefix_refl _)) ".." up).plain.not_up rfl

theorem At.eq_absolute (stands : At t here d p) (absolute : d.isAbsolute = true) :
    d = ⟨.absolute, p.location⟩ := by
  induction stands with
  | up k => simp [Path.isAbsolute] at absolute
  | root => rfl
  | child _ _ _ ih => rw [ih absolute, Path.child, Place.child]

/-- From the root to the working directory and on along a path without links, each double dot takes back the
name before it. -/
theorem At.foldUps (proper : Proper t) (stands : At t here d p) (relative : d.isAbsolute = false)
    (standing : Standing t here) : Path.foldUps true [] (here.location ++ d.names) = p.location := by
  induction stands with
  | up k =>
    induction k with
    | zero => simp [Path.foldUps_of_noUps (standing.noUps proper)]
    | succ k ih =>
      have there : Standing t (Place.parent^[k] here) := (At.up k).standing (.inr standing)
      have folded : Path.foldUps true [] (here.location ++ List.replicate k "..") =
          (Place.parent^[k] here).location := ih relative
      show Path.foldUps true [] (here.location ++ List.replicate (k + 1) "..") = _
      rw [List.replicate_succ', ← List.append_assoc,
        Path.foldUps_concat_up (by rw [folded]; exact there.noUps proper), folded,
        Function.iterate_succ_apply']
      rfl
  | root => simp [Path.isAbsolute] at relative
  | @child d p name _ _ found ih =>
    have down : ".." ∉ [name] := by simpa using Ne.symm (proper.real found).plain.not_up
    have along : here.location ++ (d.child name).names = here.location ++ d.names ++ [name] := by
      simp [Path.child]
    rw [along, Path.foldUps_append, ih relative, Path.foldUps_of_noUps down]
    simp [Place.child]

theorem fromRoot_of_noUps (noUps : ".." ∉ l) (here : Place) :
    fromRoot here ⟨.absolute, l⟩ = .ok ⟨.absolute, l⟩ := by
  have absolute : Path.isAbsolute ⟨.absolute, l⟩ = true := rfl
  rw [fromRoot, if_pos absolute, Path.normal_of_noUps noUps]

theorem At.fromRoot (proper : Proper t) (stands : At t here d p)
    (rooted : d.isAbsolute = true ∨ Standing t here) :
    fromRoot here d = .ok ⟨.absolute, p.location⟩ := by
  have noUps : ".." ∉ p.location := (stands.standing rooted).noUps proper
  cases absolute : d.isAbsolute with
  | true => rw [stands.eq_absolute absolute, fromRoot_of_noUps noUps]
  | false =>
    have standing : Standing t here := rooted.resolve_left (by simp [absolute])
    rw [FileTree.fromRoot, if_neg (by simp [absolute]), if_pos standing.kept, Path.absoluteFrom,
      if_neg (by simp [absolute]), Path.normal]
    show Except.ok (Path.mk .absolute (Path.foldUps true [] (here.location ++ d.names))) = _
    rw [stands.foldUps proper absolute standing]

/-! ## Resolved paths -/

theorem at_pathStart (t : FileTree) (here : Place) (q : Path) :
    At t here (pathStart q) (if q.isAbsolute then .root else here) := by
  unfold pathStart
  split
  · exact .root
  · exact at_here t here

theorem resolve_of_followLinks (noNul : q.text.toList.contains '\x00' = false)
    (followed : t.followLinks here depth [] (pathStart q) q.names = .reached known d) :
    t.resolve here depth q = fromRoot here d := by
  unfold pathStart at followed
  unfold resolve
  rw [noNul, if_neg (by decide)]
  simp only [followed]

/-- A way that the names of a path are ends where the path is resolved to. -/
theorem Passes.resolve (proper : Proper t) (noNul : q.text.toList.contains '\x00' = false)
    (passes : Passes t k (pathStart q) (if q.isAbsolute then .root else here) q.names d' p')
    (few : k ≤ depth) (rooted : d'.isAbsolute = true ∨ Standing t here) :
    t.resolve here depth q = .ok ⟨.absolute, p'.location⟩ := by
  have stands := at_pathStart t here q
  obtain ⟨known', followed, -⟩ := passes.followLinks_append proper stands sound_nil few []
  rw [List.append_nil, followLinks] at followed
  rw [resolve_of_followLinks noNul followed]
  exact (passes.at proper stands).fromRoot proper rooted

/-- A path can be resolved without trouble: the path to no link on its way is too long to be looked at, and it
is led to the root somewhere unless the working directory is there. -/
structure Resolvable (t : FileTree) (here : Place) (q : Path) : Prop where
  short : ∀ link ∈ t.linksOn here q, link.1.text.utf8ByteSize ≤ maxPathSize
  rooted : q.isAbsolute = true ∨ (∃ link ∈ t.linksOn here q, Path.rootOf link.2 ≠ .relative) ∨
    Standing t here

/-- A path that leads to a directory is resolved to the names of the directories from the root down to it, if
as many links can be followed one inside another as in a walk. -/
theorem resolve_of_find (proper : Proper t) (resolvable : Resolvable t here q)
    (found : t.find here q .target = .ok place) (there : t.nodeAt place = some .directory)
    (deep : maxLinks ≤ depth) :
    t.resolve here depth q = .ok ⟨.absolute, place.location⟩ ∧ Standing t place := by
  obtain ⟨noNul, -, walked⟩ := find_eq_ok found
  obtain ⟨k, d', few, passes, led⟩ := passes_of_walk proper walked there resolvable.short
  have rooted : d'.isAbsolute = true ∨ Standing t here := by
    rcases resolvable.rooted with absolute | met | standing
    · exact .inl (led (.inl (by rw [pathStart, if_pos absolute]; rfl)))
    · exact .inl (led (.inr met))
    · exact .inr standing
  exact ⟨passes.resolve proper noNul (Nat.le_trans few deep) rooted,
    (passes.at proper (at_pathStart t here q)).standing rooted⟩

/-- The names of directories that are there, one in another, are a way without links. -/
theorem Standing.passes (front names : Location) (standing : Standing t ⟨front ++ names, 0⟩) :
    Passes t 0 ⟨.absolute, front⟩ ⟨front, 0⟩ names ⟨.absolute, front ++ names⟩ ⟨front ++ names, 0⟩ := by
  induction names generalizing front with
  | nil =>
    rw [List.append_nil]
    exact .nil
  | cons name names ih =>
    have below := List.append_cons front name names
    rw [below] at standing ⊢
    exact .down rfl (standing.above _ (List.prefix_append _ names)) (ih (front ++ [name]) standing)

/-- The path from the root down to a directory is what it is resolved to, from everywhere. -/
theorem Standing.resolve (proper : Proper t) (standing : Standing t ⟨l, 0⟩) (here : Place) (depth : Nat) :
    t.resolve here depth ⟨.absolute, l⟩ = .ok ⟨.absolute, l⟩ := by
  have passes : Passes t 0 (pathStart ⟨.absolute, l⟩) .root l ⟨.absolute, l⟩ ⟨l, 0⟩ :=
    Standing.passes [] l standing
  exact passes.resolve proper ((standing.at_absolute here).noNul proper) (Nat.zero_le _) (.inl rfl)

/-- The path from the root down to a directory leads there, from everywhere, unless it is too long. -/
theorem Standing.find (proper : Proper t) (standing : Standing t ⟨l, 0⟩)
    (fits : ¬maxPathSize < (⟨.absolute, l⟩ : Path).text.utf8ByteSize) (here : Place) :
    t.find here ⟨.absolute, l⟩ .target = .ok ⟨l, 0⟩ := by
  have stands := standing.at_absolute here
  have walked : t.walk .target maxLinks .root (l ++ []) = .ok ⟨l, 0⟩ :=
    (stands.walk proper (by simp) []).trans walk_nil
  rw [find_eq_walk (stands.noNul proper) fits, ← walked, List.append_nil]
  rfl

theorem Standing.stat (proper : Proper t) (standing : Standing t ⟨l, 0⟩) (here : Place) :
    t.stat here ⟨.absolute, l⟩ = .ok .directory ∨ t.stat here ⟨.absolute, l⟩ = .error .nameTooLong := by
  by_cases fits : maxPathSize < (⟨.absolute, l⟩ : Path).text.utf8ByteSize
  · exact .inr (stat_of_find (find_of_long ((standing.at_absolute here).noNul proper) fits))
  · have there : t.nodeAt ⟨l, 0⟩ = some .directory := standing.above l (List.prefix_refl l)
    rw [FileTree.stat, bind_of_ok (standing.find proper fits here), there]
    exact .inl rfl

end Checkin.FileTree
