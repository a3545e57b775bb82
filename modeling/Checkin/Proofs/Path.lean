import Checkin.Path
import Checkin.Proofs.Basic
import Mathlib.Data.List.Induction

/-!
# Parts and characters of paths

A path text has the characters of the path's names, and else only slashes and dots. Whether a path may be
used, which a NUL character forbids, is therefore a matter of its names alone.
-/

namespace Checkin.Path

@[simp] theorem parent_child (p : Path) (name : String) : (p.child name).parent = p := by
  simp [child, parent]

theorem exists_child_parent {p : Path} (some : p.names ≠ []) :
    ∃ name ∈ p.names, p.parent.child name = p := by
  refine ⟨p.names.getLast some, List.getLast_mem some, ?_⟩
  simp only [child, parent, List.dropLast_concat_getLast]

theorem mem_intercalate_slash {c : Char} (notSlash : c ≠ '/') (names : List String) :
    c ∈ ("/".intercalate names).toList ↔ ∃ name ∈ names, c ∈ name.toList := by
  rw [String.toList_intercalate]
  show c ∈ List.intercalate ['/'] _ ↔ _
  rw [mem_intercalate_of_ne notSlash]
  constructor
  · rintro ⟨l, listed, inside⟩
    obtain ⟨name, given, rfl⟩ := List.mem_map.1 listed
    exact ⟨name, given, inside⟩
  · rintro ⟨name, given, inside⟩
    exact ⟨name.toList, List.mem_map_of_mem given, inside⟩

theorem mem_text {c : Char} (notSlash : c ≠ '/') (notDot : c ≠ '.') (p : Path) :
    c ∈ p.text.toList ↔ ∃ name ∈ p.names, c ∈ name.toList := by
  obtain ⟨root, names⟩ := p
  have joined := mem_intercalate_slash notSlash names
  cases root with
  | relative =>
    cases names with
    | nil => simp [text, notDot]
    | cons name names => exact joined
  | absolute | doubleSlash =>
    rw [text, String.toList_append, List.mem_append, joined]
    simp [notSlash]

theorem intercalate_slash_concat {names : List String} (some : names ≠ []) (name : String) :
    "/".intercalate (names ++ [name]) = "/".intercalate names ++ "/" ++ name := by
  induction names with
  | nil => exact absurd rfl some
  | cons first names ih =>
    by_cases single : names = []
    · subst single
      simp
    · obtain ⟨next, rest, rfl⟩ := List.exists_cons_of_ne_nil single
      rw [List.cons_append, List.cons_append, String.intercalate_cons_cons, String.intercalate_cons_cons,
        ← List.cons_append, ih single]
      simp only [String.append_assoc]

/-- One more name stands after one more slash. -/
theorem text_child {p : Path} (some : p.names ≠ []) (name : String) :
    (p.child name).text = p.text ++ "/" ++ name := by
  obtain ⟨root, names⟩ := p
  obtain ⟨first, rest, rfl⟩ := List.exists_cons_of_ne_nil some
  have joined := intercalate_slash_concat some name
  cases root with
  | relative => exact joined
  | absolute => exact (congrArg ("/" ++ ·) joined).trans (by simp only [text, String.append_assoc])
  | doubleSlash => exact (congrArg ("//" ++ ·) joined).trans (by simp only [text, String.append_assoc])

/-- A NUL character in a path's text stands in one of its names. -/
theorem contains_nul_iff (p : Path) :
    p.text.toList.contains '\x00' = true ↔ ∃ name ∈ p.names, '\x00' ∈ name.toList := by
  rw [List.contains_iff_mem]
  exact mem_text (by decide) (by decide) p

/-- A name without a NUL character adds none. -/
theorem contains_nul_child {name : String} (plain : '\x00' ∉ name.toList) (p : Path) :
    (p.child name).text.toList.contains '\x00' = p.text.toList.contains '\x00' := by
  rw [Bool.eq_iff_iff, contains_nul_iff, contains_nul_iff]
  simp [child, or_and_right, exists_or, plain]

/-! ## Double dots -/

theorem foldUps_of_noUps {absolute : Bool} {kept names : List String} (noUps : ".." ∉ names) :
    foldUps absolute kept names = kept.reverse ++ names := by
  induction names generalizing kept with
  | nil => simp [foldUps]
  | cons name names ih =>
    rw [List.mem_cons, not_or] at noUps
    obtain ⟨down, noUps⟩ := noUps
    unfold foldUps
    rw [if_neg (Ne.symm down), ih noUps]
    simp

/-- Without double dots there is nothing to take away. -/
theorem normal_of_noUps {p : Path} (noUps : ".." ∉ p.names) : p.normal = p := by
  rw [normal, foldUps_of_noUps noUps]
  rfl

theorem foldUps_append (absolute : Bool) (kept names more : List String) :
    foldUps absolute kept (names ++ more) = foldUps absolute (foldUps absolute kept names).reverse more := by
  fun_induction foldUps absolute kept names with
  | case1 kept => simp
  | case2 names ih => simp only [List.cons_append, foldUps, if_true, ih]
  | case3 names rest ih => simp only [List.cons_append, foldUps, if_true, ih]
  | case4 names last rest down ih => simp only [List.cons_append, foldUps, if_true, if_neg down, ih]
  | case5 kept name names down ih => simp only [List.cons_append, foldUps, if_neg down, ih]

/-- From the root, a double dot takes the last name away. -/
theorem foldUps_concat_up {kept names : List String} (noUps : ".." ∉ foldUps true kept names) :
    foldUps true kept (names ++ [".."]) = (foldUps true kept names).dropLast := by
  rw [foldUps_append]
  generalize foldUps true kept names = folded at noUps
  induction folded using List.reverseRecOn with
  | nil => rfl
  | append_singleton front last =>
    have down : last ≠ ".." := by
      rintro rfl
      exact noUps (by simp)
    simp [foldUps, down]

/-! ## Pieces -/

theorem exists_piecesFrom_of_ne_nil {done : List Char} (open_ : done ≠ []) (cs : List Char) :
    ∃ name rest, piecesFrom done cs = name :: rest ∧ name ≠ "" := by
  induction cs generalizing done with
  | nil => exact ⟨_, [], rfl, by simpa [String.ofList_eq_empty_iff] using open_⟩
  | cons c cs ih =>
    unfold piecesFrom
    split
    · exact ⟨_, _, rfl, by simpa using open_⟩
    · exact ih (List.cons_ne_nil c done)

/-- The first piece of a text is empty where the text starts at the root, and only there. -/
theorem pieces_cases {s : String} (some : s ≠ "") :
    (rootOf s ≠ .relative ∧ ∃ rest, pieces s = "" :: rest) ∨
      (rootOf s = .relative ∧ ∃ name rest, pieces s = name :: rest ∧ name ≠ "") := by
  unfold pieces rootOf
  cases chars : s.toList with
  | nil => exact absurd (by simpa using chars) some
  | cons c cs =>
    by_cases slash : c = '/'
    · subst slash
      refine .inl ⟨?_, _, rfl⟩
      split <;> simp_all
    · refine .inr ⟨by split <;> simp_all, ?_⟩
      unfold piecesFrom
      rw [if_neg slash]
      exact exists_piecesFrom_of_ne_nil (List.cons_ne_nil c []) cs

theorem piecesFrom_of_noSlash {cs : List Char} (noSlash : '/' ∉ cs) (done : List Char) :
    piecesFrom done cs = [String.ofList (done.reverse ++ cs)] := by
  induction cs generalizing done with
  | nil => simp [piecesFrom]
  | cons c cs ih =>
    rw [List.mem_cons, not_or] at noSlash
    unfold piecesFrom
    rw [if_neg (Ne.symm noSlash.1), ih noSlash.2]
    simp

theorem piecesFrom_append_slash {cs : List Char} (noSlash : '/' ∉ cs) (done more : List Char) :
    piecesFrom done (cs ++ '/' :: more) = String.ofList (done.reverse ++ cs) :: piecesFrom [] more := by
  induction cs generalizing done with
  | nil => simp [piecesFrom]
  | cons c cs ih =>
    rw [List.mem_cons, not_or] at noSlash
    rw [List.cons_append]
    conv => lhs; unfold piecesFrom
    rw [if_neg (Ne.symm noSlash.1), ih noSlash.2]
    simp

/-- Names without slashes are the pieces of the text in which slashes stand between them. -/
theorem pieces_intercalate {names : List String} (some : names ≠ [])
    (noSlash : ∀ name ∈ names, '/' ∉ name.toList) : pieces ("/".intercalate names) = names := by
  unfold pieces
  induction names with
  | nil => exact absurd rfl some
  | cons name names ih =>
    rw [List.forall_mem_cons] at noSlash
    obtain ⟨first, rest⟩ := noSlash
    cases names with
    | nil =>
      rw [String.intercalate_singleton, piecesFrom_of_noSlash first]
      simp
    | cons next names =>
      have chars : ("/".intercalate (name :: next :: names)).toList =
          name.toList ++ '/' :: ("/".intercalate (next :: names)).toList := by
        rw [String.intercalate_cons_cons]
        simp
      rw [chars, piecesFrom_append_slash first, ih (by simp) rest]
      simp

theorem toList_text_absolute (names : List String) :
    (text ⟨.absolute, names⟩).toList = '/' :: ("/".intercalate names).toList := by
  rw [text, String.toList_append]
  rfl

/-- The pieces of an absolute path's text are its names, after an empty one. -/
theorem pieces_text_absolute {names : List String} (some : names ≠ [])
    (noSlash : ∀ name ∈ names, '/' ∉ name.toList) : pieces (text ⟨.absolute, names⟩) = "" :: names := by
  have split : pieces (text ⟨.absolute, names⟩) = "" :: pieces ("/".intercalate names) := by
    unfold pieces
    rw [toList_text_absolute]
    rfl
  rw [split, pieces_intercalate some noSlash]

/-! ## Texts of paths -/

/-- No name of a path is empty, a single dot, or has a slash in it. -/
def Tidy (p : Path) : Prop :=
  ∀ name ∈ p.names, '/' ∉ name.toList ∧ name ≠ "" ∧ name ≠ "."

theorem noSlash_of_mem_piecesFrom {done cs : List Char} (noSlash : '/' ∉ done) :
    ∀ name ∈ piecesFrom done cs, '/' ∉ name.toList := by
  induction cs generalizing done with
  | nil => simpa [piecesFrom] using noSlash
  | cons c cs ih =>
    unfold piecesFrom
    split
    · rw [List.forall_mem_cons]
      exact ⟨by simpa using noSlash, ih (by simp)⟩
    · next plain => exact ih (by simp [noSlash, Ne.symm plain])

/-- A path that is made from a text is tidy. -/
theorem tidy_ofText (s : String) : (ofText s).Tidy := by
  intro name among
  obtain ⟨piece, kept⟩ := List.mem_filter.1 among
  exact ⟨noSlash_of_mem_piecesFrom (by simp) name piece, by simpa using kept⟩

/-- More names than those of a tidy path make a tidy one if they are those of another. -/
theorem Tidy.append {p q : Path} (tidy : p.Tidy) (tidy' : q.Tidy) : Tidy { p with names := p.names ++ q.names } := by
  intro name among
  exact (List.mem_append.1 among).elim (tidy name) (tidy' name)

theorem filter_pieces_intercalate {p : Path} (tidy : p.Tidy) :
    (pieces ("/".intercalate p.names)).filter (fun name => name ≠ "" && name ≠ ".") = p.names := by
  by_cases none : p.names = []
  · rw [none]
    rfl
  · rw [pieces_intercalate none fun name member => (tidy name member).1, List.filter_eq_self]
    intro name member
    simpa using (tidy name member).2

/-- Tidy names with slashes between them do not start at the root. -/
theorem rootOf_intercalate {p : Path} (tidy : p.Tidy) : rootOf ("/".intercalate p.names) = .relative := by
  by_cases none : p.names = []
  · rw [none]
    rfl
  · have joined := pieces_intercalate none fun name member => (tidy name member).1
    obtain ⟨first, rest, names⟩ := List.exists_cons_of_ne_nil none
    have notEmpty : first ≠ "" := (tidy first (by simp [names])).2.1
    have someText : "/".intercalate p.names ≠ "" := by
      intro empty
      rw [empty, names] at joined
      exact notEmpty (List.cons.inj joined).1.symm
    rcases pieces_cases someText with ⟨-, others, slashed⟩ | ⟨relative, -⟩
    · rw [joined, names] at slashed
      exact absurd (List.cons.inj slashed).1 notEmpty
    · exact relative

theorem rootOf_eq_relative_iff {s : String} : rootOf s = .relative ↔ s.toList.head? ≠ some '/' := by
  unfold rootOf
  cases s.toList with
  | nil => simp
  | cons c cs => by_cases slash : c = '/' <;> split <;> simp_all

theorem rootOf_slash {s : String} (relative : rootOf s = .relative) :
    rootOf ("/" ++ s) = .absolute ∧ rootOf ("//" ++ s) = .doubleSlash := by
  have begins := rootOf_eq_relative_iff.1 relative
  have one : ("/" ++ s).toList = '/' :: s.toList := by
    rw [String.toList_append]
    rfl
  have two : ("//" ++ s).toList = '/' :: '/' :: s.toList := by
    rw [String.toList_append]
    rfl
  unfold rootOf
  rw [one, two]
  cases chars : s.toList with
  | nil => exact ⟨rfl, rfl⟩
  | cons c cs =>
    rw [chars] at begins
    constructor <;> split <;> grind

theorem pieces_slash (s : String) : pieces ("/" ++ s) = "" :: pieces s := by
  unfold pieces
  rw [String.toList_append]
  rfl

/-- A tidy path is read back from its text. -/
theorem Tidy.ofText_text {p : Path} (tidy : p.Tidy) : ofText p.text = p := by
  have kept := filter_pieces_intercalate tidy
  have relative := rootOf_intercalate tidy
  obtain ⟨single, double⟩ := rootOf_slash relative
  obtain ⟨root, names⟩ := p
  dsimp only at kept relative single double
  cases root with
  | relative =>
    cases names with
    | nil => rfl
    | cons name names =>
      show ofText ("/".intercalate (name :: names)) = _
      rw [ofText, relative, kept]
  | absolute =>
    show ofText ("/" ++ "/".intercalate names) = _
    rw [ofText, single, pieces_slash, List.filter_cons_of_neg (by decide), kept]
  | doubleSlash =>
    show ofText ("//" ++ "/".intercalate names) = _
    have pieces : pieces ("//" ++ "/".intercalate names) = "" :: "" :: pieces ("/".intercalate names) := by
      rw [← pieces_slash, ← pieces_slash, ← String.append_assoc]
      rfl
    rw [ofText, double, pieces, List.filter_cons_of_neg (by decide), List.filter_cons_of_neg (by decide), kept]

theorem Tidy.text_ne_empty {p : Path} (tidy : p.Tidy) : p.text ≠ "" := by
  intro empty
  have back := tidy.ofText_text
  rw [empty] at back
  rw [← back] at empty
  exact absurd empty (by decide)

/-- An absolute path is read back from its text if its names have no slashes, and none is empty or a dot. -/
theorem ofText_text {names : List String} (noSlash : ∀ name ∈ names, '/' ∉ name.toList)
    (kept : ∀ name ∈ names, name ≠ "" ∧ name ≠ ".") :
    ofText (text ⟨.absolute, names⟩) = ⟨.absolute, names⟩ :=
  Tidy.ofText_text fun name member => ⟨noSlash name member, kept name member⟩

/-- Between names stands one slash. -/
theorem utf8ByteSize_intercalate_cons {names : List String} (some : names ≠ []) (name : String) :
    ("/".intercalate (name :: names)).utf8ByteSize =
      name.utf8ByteSize + 1 + ("/".intercalate names).utf8ByteSize := by
  obtain ⟨next, names, rfl⟩ := List.exists_cons_of_ne_nil some
  have slash : "/".utf8ByteSize = 1 := rfl
  rw [String.intercalate_cons_cons, String.utf8ByteSize_append, String.utf8ByteSize_append, slash]

theorem utf8ByteSize_intercalate_replicate (count : Nat) :
    ("/".intercalate (List.replicate (count + 1) "a")).utf8ByteSize = 2 * count + 1 := by
  induction count with
  | zero => rfl
  | succ count ih =>
    have one : "a".utf8ByteSize = 1 := rfl
    rw [List.replicate_succ, utf8ByteSize_intercalate_cons (by simp), ih]
    omega

theorem utf8ByteSize_intercalate_le_concat (names : List String) (name : String) :
    ("/".intercalate names).utf8ByteSize ≤ ("/".intercalate (names ++ [name])).utf8ByteSize := by
  by_cases none : names = []
  · subst none
    simp
  · rw [intercalate_slash_concat none, String.utf8ByteSize_append, String.utf8ByteSize_append]
    omega

theorem utf8ByteSize_text_le_child {p : Path} (absolute : p.root = .absolute) (name : String) :
    p.text.utf8ByteSize ≤ (p.child name).text.utf8ByteSize := by
  obtain ⟨root, names⟩ := p
  obtain rfl : root = .absolute := absolute
  show ("/" ++ "/".intercalate names).utf8ByteSize ≤ ("/" ++ "/".intercalate (names ++ [name])).utf8ByteSize
  rw [String.utf8ByteSize_append, String.utf8ByteSize_append]
  exact Nat.add_le_add_left (utf8ByteSize_intercalate_le_concat names name) _

end Checkin.Path
