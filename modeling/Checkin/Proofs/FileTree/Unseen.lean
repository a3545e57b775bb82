import Checkin.Proofs.FileTree.Resolution

/-!
# Links that are not seen

Resolving a path looks at every name on its way by the path without links to it. If that is too long, a link is
taken for what it leads to (`Passes.resolve_unseen`), even though following the original path is no trouble
(`deepTree`).
-/

namespace Checkin.FileTree

variable {t : FileTree} {here p' : Place} {d' p q : Path} {name : String} {names : List String} {l : Location}
  {k i depth : Nat}

/-- At the end of a path that is too long no link is seen. -/
theorem linkTarget?_of_long (long : maxPathSize < p.text.utf8ByteSize) : t.linkTarget? here p = none := by
  apply linkTarget?_of_nothing
  intro place found
  exact absurd long (find_eq_ok found).2.1

/-- A name to which no path without links is short enough is not resolved any further. -/
theorem Passes.resolve_unseen (proper : Proper t) (noNul : q.text.toList.contains '\x00' = false)
    (passes : Passes t k (pathStart q) (if q.isAbsolute then .root else here) names d' p')
    (few : k ≤ depth) (split : q.names = names ++ [name]) (plain : IsPlain name)
    (long : maxPathSize < (d'.child name).text.utf8ByteSize) :
    t.resolve here depth q = fromRoot here (d'.child name) := by
  obtain ⟨known', followed, -⟩ :=
    passes.followLinks_append proper (at_pathStart t here q) sound_nil few [name]
  rw [followLinks_plain plain (linkTarget?_of_long long), followLinks] at followed
  exact resolve_of_followLinks noNul (split ▸ followed)

/-- The text of an absolute path is a target with its names. -/
theorem targetNames_text (some : names ≠ []) (real : ∀ name ∈ names, IsReal name) :
    targetNames (Path.text ⟨.absolute, names⟩) = names := by
  have pieces := Path.pieces_text_absolute some fun name member => (real name member).noSlash
  have kept : names.filter (· ≠ "") = names := by
    rw [List.filter_eq_self]
    intro name member
    simpa using (real name member).plain.ne_empty
  have last : ("" :: names).getLast? ≠ .some "" := by
    rw [List.getLast?_cons_of_ne_nil some]
    intro ends
    exact (real "" (List.mem_of_getLast? ends)).plain.ne_empty rfl
  unfold targetNames
  rw [pieces]
  simp only [if_neg last]
  rw [List.filter_cons_of_neg (by simp), kept]

/-! ## Directories one in another -/

/-- The names of directories one in another, so many of them. -/
def chain (depth : Nat) : Location :=
  List.replicate depth "a"

theorem chain_succ (depth : Nat) : chain (depth + 1) = chain depth ++ ["a"] :=
  List.replicate_succ'

theorem chain_ne_nil (depth : Nat) : chain (depth + 1) ≠ [] := by
  simp [chain]

theorem chain_inj (same : chain i = chain depth) : i = depth := by
  simpa [chain] using congrArg List.length same

theorem ne_chain (member : name ∈ l) (other : name ≠ "a") (depth : Nat) : l ≠ chain depth := by
  rintro rfl
  exact other (List.eq_of_mem_replicate member)

theorem isReal_of_mem_chain (member : name ∈ chain depth) : IsReal name := by
  rw [List.eq_of_mem_replicate member]
  decide

theorem noNul_chain (depth : Nat) : (⟨.absolute, chain depth⟩ : Path).text.toList.contains '\x00' = false := by
  rw [Bool.eq_false_iff, ne_eq, Path.contains_nul_iff]
  rintro ⟨name, member, inside⟩
  exact (isReal_of_mem_chain member).noNul inside

theorem utf8ByteSize_chain (depth : Nat) :
    (⟨.absolute, chain (depth + 1)⟩ : Path).text.utf8ByteSize = 2 * (depth + 1) := by
  have slash : "/".utf8ByteSize = 1 := rfl
  show ("/" ++ "/".intercalate (List.replicate (depth + 1) "a")).utf8ByteSize = _
  rw [String.utf8ByteSize_append, slash, Path.utf8ByteSize_intercalate_replicate]
  omega

def chainTree : Nat → FileTree
  | 0 => .empty
  | depth + 1 => (chainTree depth).set (chain (depth + 1)) .directory

theorem proper_chainTree (depth : Nat) : Proper (chainTree depth) := by
  induction depth with
  | zero => exact proper_empty
  | succ depth ih => exact ih.set (chain_ne_nil depth) (fun name => isReal_of_mem_chain) (by simp)

theorem get?_chainTree (above : i ≤ depth) : (chainTree depth).get? (chain i) = some .directory := by
  induction depth with
  | zero =>
    obtain rfl : i = 0 := by omega
    rfl
  | succ depth ih =>
    by_cases last : i = depth + 1
    · rw [last]
      exact get?_set_self (chain_ne_nil depth)
    · have distinct : chain i ≠ chain (depth + 1) := fun same => last (chain_inj same)
      exact (get?_set_of_ne (chain_ne_nil depth) distinct).trans (ih (by omega))

theorem get?_chainTree_elsewhere (member : name ∈ l) (other : name ≠ "a") (depth : Nat) :
    (chainTree depth).get? l = none := by
  induction depth with
  | zero =>
    have notRoot : l ≠ [] := List.ne_nil_of_mem member
    simp [chainTree, get?, notRoot, FileTree.empty, Trie.get?_empty]
  | succ depth ih => exact (get?_set_of_ne (chain_ne_nil depth) (ne_chain member other _)).trans ih

/-! ## A link in the last of them -/

/-- In the last of so many directories, one in another, a link to the directory `d`; and a link `s` to the last
of them. -/
def deepTree (depth : Nat) : FileTree :=
  (((chainTree depth).set (chain (depth + 1)) (.link "/d")).set ["d"] .directory).set ["s"]
    (.link (Path.text ⟨.absolute, chain depth⟩))

theorem proper_deepTree (depth : Nat) : Proper (deepTree depth) := by
  refine (((proper_chainTree depth).set (chain_ne_nil depth) (fun name => isReal_of_mem_chain) ?_).set
    (by simp) (by decide) (by simp)).set (by simp) (by decide) ?_
  · rintro _ ⟨⟩
    decide
  · rintro _ ⟨⟩ empty
    simpa [empty] using Path.toList_text_absolute (chain depth)

theorem get?_deepTree_chain (i depth : Nat) : (deepTree depth).get? (chain i) =
    ((chainTree depth).set (chain (depth + 1)) (.link "/d")).get? (chain i) := by
  unfold deepTree
  rw [get?_set_of_ne (by simp) (ne_chain (List.mem_singleton_self "s") (by decide) i).symm,
    get?_set_of_ne (by simp) (ne_chain (List.mem_singleton_self "d") (by decide) i).symm]

theorem get?_deepTree_end (depth : Nat) :
    (deepTree depth).get? (Place.child ⟨chain depth, 0⟩ "a").location = some (.link "/d") := by
  rw [Place.child, ← chain_succ, get?_deepTree_chain, get?_set_self (chain_ne_nil depth)]

theorem get?_deepTree_d (depth : Nat) : (deepTree depth).get? ["d"] = some .directory := by
  unfold deepTree
  rw [get?_set_of_ne (by simp) (by simp), get?_set_self (by simp)]

theorem get?_deepTree_below (name : String) (depth : Nat) : (deepTree depth).get? ["d", name] = none := by
  have below : "d" ∈ ["d", name] := List.mem_cons_self
  unfold deepTree
  rw [get?_set_of_ne (by simp) (by simp), get?_set_of_ne (by simp) (by simp),
    get?_set_of_ne (chain_ne_nil depth) (ne_chain below (by decide) _),
    get?_chainTree_elsewhere below (by decide)]

theorem get?_deepTree_s (depth : Nat) :
    (deepTree depth).get? (Place.child .root "s").location = some (.link (Path.text ⟨.absolute, chain depth⟩)) :=
  get?_set_self (by simp)

theorem standing_deepTree (depth : Nat) : Standing (deepTree depth) ⟨chain depth, 0⟩ := by
  refine ⟨rfl, fun front before => ?_⟩
  obtain ⟨few, same⟩ := List.prefix_replicate_iff.1 before
  have distinct : chain front.length ≠ chain (depth + 1) := fun same => by
    have := chain_inj same
    omega
  rw [same]
  exact (get?_deepTree_chain _ _).trans
    ((get?_set_of_ne (chain_ne_nil depth) distinct).trans (get?_chainTree few))

theorem standing_deepTree_d (depth : Nat) : Standing (deepTree depth) ⟨["d"], 0⟩ :=
  ((standing_root _).child "d").standing (get?_deepTree_d depth)

theorem linkStart_root (target : String) : linkStart ⟨.absolute, []⟩ target = ⟨.absolute, []⟩ := by
  unfold linkStart
  split <;> rfl

theorem targetStart_root (target : String) : targetStart .root target = .root := by
  unfold targetStart
  split <;> rfl

theorem passes_deepTree (depth : Nat) : Passes (deepTree (depth + 1)) 1 ⟨.absolute, []⟩ .root ["s"]
    ⟨.absolute, chain (depth + 1)⟩ ⟨chain (depth + 1), 0⟩ := by
  refine .link (i := 0) (k := 0) rfl (get?_deepTree_s _) (by decide) ?_ .nil
  rw [linkStart_root, targetStart_root, Path.pieces_text_absolute (chain_ne_nil depth) fun name member =>
    (isReal_of_mem_chain member).noSlash]
  exact .skip (.inr rfl) (Standing.passes [] (chain (depth + 1)) (standing_deepTree _))

/-- The link at the end of a way that is too long is not seen behind the link to its directory. -/
theorem resolve_deepTree (long : maxPathSize < 2 * (depth + 2)) (here : Place) {links : Nat} (some : 1 ≤ links) :
    (deepTree (depth + 1)).resolve here links ⟨.absolute, ["s", "a"]⟩ = .ok ⟨.absolute, chain (depth + 2)⟩ := by
  have reached : (Path.mk .absolute (chain (depth + 1))).child "a" = ⟨.absolute, chain (depth + 2)⟩ := by
    rw [Path.child, ← chain_succ]
  have noUps : ".." ∉ chain (depth + 2) := fun up => (isReal_of_mem_chain up).plain.not_up rfl
  rw [(passes_deepTree depth).resolve_unseen (proper_deepTree _) (by decide) some rfl (by decide)
    (by rwa [reached, utf8ByteSize_chain]), reached, fromRoot_of_noUps noUps]

/-- But the path does lead to what the link leads to. -/
theorem find_deepTree (depth : Nat) (here : Place) :
    (deepTree (depth + 1)).find here ⟨.absolute, ["s", "a"]⟩ .target = .ok ⟨["d"], 0⟩ := by
  have along : (deepTree (depth + 1)).walk .target 39 .root (chain (depth + 1) ++ ["a"]) =
      (deepTree (depth + 1)).walk .target 39 ⟨chain (depth + 1), 0⟩ ["a"] :=
    ((standing_deepTree (depth + 1)).at_absolute .root).walk (proper_deepTree _) (by simp) ["a"]
  rw [find_eq_walk (by decide) (by decide)]
  show (deepTree (depth + 1)).walk .target 40 .root ["s", "a"] = _
  rw [walk_plain (by decide) (by decide) (by simp) (by simp [Place.root]) (by decide), get?_deepTree_s]
  show (deepTree (depth + 1)).walk .target 39 (targetStart .root _) (targetNames _ ++ ["a"]) = _
  rw [targetStart_root, targetNames_text (chain_ne_nil depth) (fun name => isReal_of_mem_chain), along,
    walk_plain (by decide) (by decide) (by simp) (by simp) (by decide), get?_deepTree_end]
  show (deepTree (depth + 1)).walk .target 38 .root ["d"] = _
  rw [walk_plain (by decide) (by decide) (by simp) (by simp [Place.root]) (by decide)]
  have there : (deepTree (depth + 1)).get? (Place.child .root "d").location = some .directory :=
    get?_deepTree_d _
  rw [there]
  exact walk_nil

theorem stat_chain (long : maxPathSize < 2 * (depth + 2)) (t : FileTree) (here : Place) :
    t.stat here ⟨.absolute, chain (depth + 2)⟩ = .error .nameTooLong :=
  stat_of_find (find_of_long (noNul_chain _) (by rwa [utf8ByteSize_chain]))

end Checkin.FileTree
