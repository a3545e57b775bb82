import Checkin.Proofs.FileTree.Change

/-!
# Walks from the root

A walk that starts at the root, or in another directory that is there together with all those above it, goes
through such directories only (`Standing`). What it leads to is listed in its directory already, so that more
content for a file changes no listing.
-/

namespace Checkin

/-! ## The names in a trie -/

namespace Trie

variable {α : Type} {children : List (String × Trie α)} {name : String} {child new : Trie α}
  {p : String → Bool}

/-- The names of those children that have a value. -/
def valuedNames (children : List (String × Trie α)) : List String :=
  children.filterMap fun entry => entry.2.value.map fun _ => entry.1

/-- The children with another one under a name. -/
def replace (children : List (String × Trie α)) (name : String) (new : Trie α) : List (String × Trie α) :=
  children.map fun entry => if entry.1 == name then (name, new) else entry

theorem find?_valuedNames_cons (entry : String × Trie α) (children : List (String × Trie α))
    (p : String → Bool) :
    (valuedNames (entry :: children)).find? p =
      if entry.2.value.isSome && p entry.1 then some entry.1 else (valuedNames children).find? p := by
  unfold valuedNames
  rw [List.filterMap_cons]
  cases entry.2.value with
  | none => rfl
  | some v =>
    simp only [Option.map_some, List.find?_cons, Option.isSome_some, Bool.true_and]
    cases p entry.1 <;> rfl

theorem replace_cons (entry : String × Trie α) (children : List (String × Trie α)) :
    replace (entry :: children) name new =
      (if entry.1 == name then (name, new) else entry) :: replace children name new := rfl

/-- What a name has under it does not count where the name is not looked for. -/
theorem find?_valuedNames_of_not (other : p name = false) :
    (valuedNames (replace children name new)).find? p = (valuedNames children).find? p := by
  induction children with
  | nil => rfl
  | cons entry children ih =>
    rw [replace_cons, find?_valuedNames_cons, find?_valuedNames_cons, ih]
    by_cases same : entry.1 = name
    · simp [same, other]
    · simp [same]

/-- A child with a value in the place of the first one under its name, which has one too, leaves the names as
they are for every search. -/
theorem find?_valuedNames_replace (found : children.lookup name = some child) (held : child.value.isSome)
    (valued : new.value.isSome) (p : String → Bool) :
    (valuedNames (replace children name new)).find? p = (valuedNames children).find? p := by
  induction children with
  | nil => cases found
  | cons entry children ih =>
    obtain ⟨first, there⟩ := entry
    rw [replace_cons, find?_valuedNames_cons, find?_valuedNames_cons]
    by_cases same : first = name
    · subst same
      obtain rfl : there = child := by simpa using found
      cases looked : p first with
      | true => simp [held, valued, looked]
      | false => simp [looked, find?_valuedNames_of_not looked]
    · have apart : (name == first) = false := by simpa using Ne.symm same
      rw [ih (by simpa [List.lookup_cons, apart] using found)]
      simp [same]

theorem exists_child_of_get? {t : Trie α} (held : (t.get? [name]).isSome) :
    t.children.lookup name = some (t.child name) ∧ (t.child name).value.isSome := by
  have same : t.get? [name] = (t.child name).value := rfl
  rw [same] at held
  refine ⟨?_, held⟩
  cases found : t.children.lookup name with
  | none =>
    have empty : t.child name = .empty := by rw [Trie.child, found]; rfl
    rw [empty] at held
    cases held
  | some child => rw [Trie.child, found]; rfl

theorem under_append (t : Trie α) (names more : List String) :
    t.under (names ++ more) = (t.under names).under more := by
  induction names generalizing t with
  | nil => rfl
  | cons name names ih => exact ih (t.child name)

/-- A name with a value is listed. -/
theorem mem_childNames {t : Trie α} {names : List String} (held : (t.get? (names ++ [name])).isSome) :
    name ∈ t.childNames names := by
  have below : t.get? (names ++ [name]) = (t.under names).get? [name] := by
    rw [get?, get?, under_append]
  obtain ⟨found, valued⟩ := exists_child_of_get? (below ▸ held)
  obtain ⟨before, after, children, -⟩ := List.lookup_eq_some_iff.1 found
  obtain ⟨value, valued⟩ := Option.isSome_iff_exists.1 valued
  refine List.mem_filterMap.2 ⟨(name, (t.under names).child name), by simp [children], ?_⟩
  rw [valued, Option.map_some]

/-- A new value where there is one, and where there is one under all the names on the way, leaves all searches
among names as they are. -/
theorem find?_childNames_set (t : Trie α) {names : List String} (value : α)
    (held : ∀ front, front <+: names → front ≠ [] → (t.get? front).isSome) (directory : List String)
    (p : String → Bool) :
    ((t.set names value).childNames directory).find? p = (t.childNames directory).find? p := by
  induction names generalizing t directory with
  | nil => cases directory <;> rfl
  | cons name names ih =>
    have below : t.set (name :: names) value =
        { t with children := Entries.put t.children name ((t.child name).set names value) } := rfl
    cases directory with
    | nil =>
      obtain ⟨found, valued⟩ := exists_child_of_get? (held [name] (by simp) (by simp))
      have put : Entries.put t.children name ((t.child name).set names value) =
          replace t.children name ((t.child name).set names value) := by
        rw [Entries.put, found]
        rfl
      have kept : ((t.child name).set names value).value.isSome := by
        cases names with
        | nil => rfl
        | cons next names => exact valued
      rw [below, put]
      exact find?_valuedNames_replace found valued kept p
    | cons other directory =>
      have inside : (t.set (name :: names) value).childNames (other :: directory) =
          ((t.set (name :: names) value).child other).childNames directory := rfl
      rw [inside, below, child_put]
      by_cases same : other = name
      · subst same
        simp only [beq_self_eq_true, if_true]
        refine ih (t.child other) (fun front before some => ?_) directory
        exact held (other :: front) (by simpa using before) (by simp)
      · have apart : (other == name) = false := by simpa using same
        simp only [apart, Bool.false_eq_true, if_false]
        rfl

end Trie

namespace FileTree

variable {t t' : FileTree} {purpose : Purpose} {links : Nat} {here place : Place} {name : String}
  {names : List String} {l : Location} {content : List UInt8} {p : Path}

/-! ## Directories on the way -/

/-- A directory is there, and so are all those above it. -/
structure Standing (t : FileTree) (place : Place) : Prop where
  kept : place.lost = 0
  above : ∀ front, front <+: place.location → t.get? front = some .directory

/-- The directories above a place are there. -/
structure Housed (t : FileTree) (place : Place) : Prop where
  kept : place.lost = 0
  above : ∀ front, front <+: place.location → front ≠ place.location → t.get? front = some .directory

theorem Standing.housed (standing : Standing t place) : Housed t place :=
  ⟨standing.kept, fun front before _ => standing.above front before⟩

theorem standing_root (t : FileTree) : Standing t .root := by
  refine ⟨rfl, fun front before => ?_⟩
  obtain rfl : front = [] := List.prefix_nil.1 before
  rfl

theorem Standing.parent (standing : Standing t here) : Standing t here.parent := by
  refine ⟨by simp [Place.parent, standing.kept], fun front before => standing.above front ?_⟩
  exact before.trans (List.dropLast_prefix _)

theorem Standing.child (standing : Standing t here) (name : String) : Housed t (here.child name) := by
  refine ⟨rfl, fun front before other => standing.above front ?_⟩
  rcases List.prefix_concat_iff.1 before with whole | before
  · exact absurd whole other
  · exact before

theorem Housed.standing (housed : Housed t place) (there : t.get? place.location = some .directory) :
    Standing t place := by
  refine ⟨housed.kept, fun front before => ?_⟩
  by_cases whole : front = place.location
  · rw [whole, there]
  · exact housed.above front before whole

theorem Standing.target (standing : Standing t here) (target : String) :
    Standing t (targetStart here target) := by
  unfold targetStart
  split
  · exact standing
  · exact standing_root t

/-- A walk goes through directories that are there. -/
theorem Standing.walk (standing : Standing t here)
    (walked : t.walk purpose links here names = .ok place) : Housed t place := by
  fun_induction FileTree.walk t purpose links here names with
  | case1 =>
    cases walked
    exact standing.housed
  | case2 _ _ _ _ _ ih => exact ih standing walked
  | case3 _ _ _ _ ih => exact ih standing.parent walked
  | case4 | case5 | case6 | case9 | case11 | case14 => cases walked
  | case7 _ _ _ _ _ _ _ _ _ _ found ih => exact ih ((standing.child _).standing found) walked
  | case8 | case10 | case13 =>
    injection walked with reached
    rw [← reached]
    exact standing.child _
  | case12 _ _ _ _ _ _ _ _ _ _ _ _ _ ih => exact ih (standing.target _) walked

theorem housed_of_find (absolute : p.isAbsolute = true) (found : t.find here p purpose = .ok place) :
    Housed t place := by
  obtain ⟨-, -, walked⟩ := find_eq_ok found
  rw [if_pos absolute] at walked
  exact (standing_root t).walk walked

/-! ## Files that are opened -/

/-- A walk along names that end with a slash leads to a directory. -/
theorem Standing.walk_slash (standing : Standing t here) (slash : names.getLast? = some "")
    (walked : t.walk .target links here names = .ok place) : t.nodeAt place = some .directory := by
  have rest {name : String} {names : List String} (plain : ¬(name = "." ∨ name = ""))
      (slash : (name :: names).getLast? = some "") : names.getLast? = some "" := by
    cases names with
    | nil => exact absurd (.inr (by simpa using slash)) plain
    | cons => rwa [List.getLast?_cons_cons] at slash
  generalize target : Purpose.target = purpose at walked
  fun_induction FileTree.walk t purpose links here names with
  | case1 => cases slash
  | case2 links here _ names _ ih =>
    cases names with
    | nil =>
      rw [walk_nil] at walked
      cases walked
      rw [nodeAt, if_pos standing.kept, standing.above _ (List.prefix_refl _)]
    | cons => exact ih standing (by rwa [List.getLast?_cons_cons] at slash) walked
  | case3 _ _ _ plain ih => exact ih standing.parent (rest plain slash) walked
  | case4 | case5 | case6 | case9 | case11 | case14 => cases walked
  | case7 _ _ _ _ plain _ _ _ _ _ found ih =>
    exact ih ((standing.child _).standing found) (rest plain slash) walked
  | case8 _ _ _ plain | case13 _ _ _ plain => cases rest plain slash
  | case10 _ _ _ _ _ _ _ _ _ _ _ _ ends =>
    rw [← target] at ends
    cases ends.1
  | case12 _ _ _ plain _ _ _ _ _ _ _ _ _ ih =>
    exact ih (standing.target _) (by simp [List.getLast?_append, rest plain slash]) walked

/-- A file that looking finds is found to be opened. -/
theorem Standing.walk_file (standing : Standing t here)
    (walked : t.walk .target links here names = .ok place)
    (there : t.nodeAt place = some (.file content)) : t.walk .file links here names = .ok place := by
  have notDirectory {links : Nat} {here : Place} {names : List String} (standing : Standing t here)
      (walked : t.walk .target links here names = .ok place) : names.getLast? ≠ some "" := by
    intro slash
    rw [standing.walk_slash slash walked] at there
    cases there
  generalize target : Purpose.target = purpose at walked
  fun_induction FileTree.walk t purpose links here names with
  | case1 => simpa only [walk_nil] using walked
  | case2 _ _ _ _ skipped ih => rw [walk_skip skipped, ih standing walked]
  | case3 _ _ _ _ ih => rw [walk_up, ih standing.parent walked]
  | case4 | case5 | case6 | case9 | case11 | case14 => cases walked
  | case7 _ _ _ names plain notUp _ lost fits _ found ih =>
    have below := (standing.child _).standing found
    have notSlashed : ¬(Purpose.file = .file ∧ names = [""]) := by
      rintro ⟨-, rfl⟩
      exact notDirectory below (target ▸ walked) rfl
    rw [walk_plain plain notUp notSlashed lost fits, found]
    exact ih below walked
  | case8 _ _ _ plain notUp lost fits _ _ found =>
    rw [walk_plain plain notUp (by simp) lost fits, found]
    simpa using walked
  | case10 _ _ _ _ _ _ _ _ _ _ _ _ ends =>
    rw [← target] at ends
    cases ends.1
  | case12 _ _ names plain notUp _ lost fits _ _ found _ _ ih =>
    have notSlashed : ¬(Purpose.file = .file ∧ names = [""]) := by
      rintro ⟨-, rfl⟩
      exact notDirectory (standing.target _) (target ▸ walked) (by simp)
    rw [walk_plain plain notUp notSlashed lost fits, found]
    simpa using ih (standing.target _) walked
  | case13 _ _ _ plain notUp lost fits _ absent =>
    rw [walk_plain plain notUp (by simp) lost fits, absent]
    simpa using walked

theorem find_file_of_find_target (absolute : p.isAbsolute = true)
    (found : t.find here p .target = .ok ⟨l, 0⟩) (there : t.get? l = some (.file content)) :
    t.find here p .file = .ok ⟨l, 0⟩ := by
  obtain ⟨noNul, fits, walked⟩ := find_eq_ok found
  rw [if_pos absolute] at walked
  rw [find_eq_walk noNul fits, if_pos absolute]
  have held : t.nodeAt ⟨l, 0⟩ = some (.file content) := there
  exact (standing_root t).walk_file walked held

/-! ## Listings -/

/-- Two trees list the same names in every directory, as far as searches tell. -/
def SameNames (t t' : FileTree) : Prop :=
  ∀ directory p, (t'.childNames directory).find? p = (t.childNames directory).find? p

theorem mem_childNames_of_get? (held : (t.get? (l ++ [name])).isSome) : name ∈ t.childNames l := by
  have same : t.get? (l ++ [name]) = t.nodes.get? (l ++ [name]) := if_neg (by simp)
  exact Trie.mem_childNames (same ▸ held)

/-- More content for a file changes no listing. -/
theorem sameNames_append (housed : Housed t ⟨l, 0⟩) (there : t.get? l = some (.file content))
    (more : List UInt8) : SameNames t (t.append l more) := by
  have notRoot := ne_root_of_get?_eq_file there
  have held : ∀ front, front <+: l → front ≠ [] → (t.nodes.get? front).isSome := by
    intro front before some
    have same : t.nodes.get? front = t.get? front := (if_neg some).symm
    rw [same]
    by_cases whole : front = l
    · rw [whole, there]
      rfl
    · rw [housed.above front before whole]
      rfl
  intro directory p
  rw [append, there]
  exact t.nodes.find?_childNames_set _ held directory p

end FileTree

end Checkin
