import Checkin.Proofs.Action
import Checkin.Proofs.Basic
import Checkin.Proofs.FileTree.Descent
import Checkin.Proofs.FileTree.Twins
import Checkin.ShellEnvironment
import Mathlib.Data.String.Basic

/-!
# Finding a distribution

Of the directories that a directory holds, the one with the least name counts. In which order names are
listed, and whether one is listed twice, makes no difference, as long as the first name that cannot be looked
at is the same.
-/

namespace Checkin

open Checkin.Action

/-! ## Filtering by what a look gives -/

section Filtering

variable {α : Type} {looks : α → Except Failure Bool} {s : Session}

/-- The failure that a result is, if it is one. -/
def failure? : Except Failure Bool → Option Failure
  | .error failure => some failure
  | .ok _ => none

/-- The elements that a look says yes to, unless a look fails. -/
def filterLooked (looks : α → Except Failure Bool) (xs : List α) : Except Failure (List α) :=
  match xs.findSome? fun x => failure? (looks x) with
  | some failure => .error failure
  | none => .ok (xs.filter fun x => (looks x).toOption == some true)

theorem filterLooked_cons_of_error {x : α} {failure : Failure} (looked : looks x = .error failure)
    (xs : List α) : filterLooked looks (x :: xs) = .error failure := by
  simp [filterLooked, looked, failure?]

theorem filterLooked_cons_of_ok {x : α} {yes : Bool} (looked : looks x = .ok yes) (xs : List α) :
    filterLooked looks (x :: xs) =
      (filterLooked looks xs).map fun more => if yes then x :: more else more := by
  unfold filterLooked
  have goesOn : (x :: xs).findSome? (fun x => failure? (looks x)) =
      xs.findSome? fun x => failure? (looks x) := by
    simp [looked, failure?]
  rw [goesOn]
  cases xs.findSome? fun x => failure? (looks x) with
  | some failure => rfl
  | none => cases yes <;> simp [looked, Except.toOption, Except.map]

/-- Looks fail for one of the elements, or they tell of each whether it is kept. -/
theorem filterLooked_cases (looks : α → Except Failure Bool) (xs : List α) :
    (∃ x ∈ xs, ∃ failure, looks x = .error failure ∧ filterLooked looks xs = .error failure) ∨
    (∀ x ∈ xs, ∃ yes, looks x = .ok yes) ∧
      ∃ kept, filterLooked looks xs = .ok kept ∧ ∀ x, x ∈ kept ↔ x ∈ xs ∧ looks x = .ok true := by
  unfold filterLooked
  split
  · next failure failed =>
    obtain ⟨x, member, refused⟩ := List.exists_of_findSome?_eq_some failed
    cases looked : looks x with
    | ok yes =>
      rw [looked] at refused
      cases refused
    | error failure' =>
      rw [looked] at refused
      cases refused
      exact .inl ⟨x, member, _, looked, rfl⟩
  · next none =>
    rw [List.findSome?_eq_none_iff] at none
    refine .inr ⟨fun x member => ?_, _, rfl, fun x => ?_⟩
    · cases looked : looks x with
      | ok yes => exact ⟨yes, rfl⟩
      | error failure =>
        have fine := none x member
        rw [looked] at fine
        cases fine
    · rw [List.mem_filter, beq_iff_eq, toOption_eq_some_iff]

theorem exec_filterM {f : α → Action Bool} (each : ∀ x, exec (f x) s = (looks x, s)) (xs : List α) :
    exec (xs.filterM f) s = (filterLooked looks xs, s) := by
  have go : ∀ kept, exec (xs.filterAuxM f kept) s =
      ((filterLooked looks xs).map fun more => more.reverse ++ kept, s) := by
    induction xs with
    | nil => exact fun _ => rfl
    | cons x xs ih =>
      intro kept
      have first := each x
      show exec (f x >>= fun b => xs.filterAuxM f (cond b (x :: kept) kept)) s = _
      cases looked : looks x with
      | error failure =>
        rw [looked] at first
        rw [exec_bind_of_error first, filterLooked_cons_of_error looked]
        rfl
      | ok yes =>
        rw [looked] at first
        rw [exec_bind_of_ok first, ih, filterLooked_cons_of_ok looked]
        cases filterLooked looks xs with
        | error failure => rfl
        | ok more => cases yes <;> simp [Except.map]
  show exec (xs.filterAuxM f [] >>= fun kept => pure kept.reverse) s = _
  rw [exec_bind, go []]
  cases filterLooked looks xs <;> simp [Except.map]

theorem findSome?_eq_bind {β : Type} (f : α → Option β) (xs : List α) :
    xs.findSome? f = (xs.find? fun x => (f x).isSome).bind f := by
  induction xs with
  | nil => rfl
  | cons x xs ih =>
    cases held : f x with
    | none => simp [held, ih]
    | some b => simp [held]

end Filtering

namespace ShellEnvironment

/-! ## The least name -/

theorem leastName?_eq_none_iff {names : List String} : leastName? names = none ↔ names = [] := by
  cases names with
  | nil => simp [leastName?]
  | cons name names =>
    unfold leastName?
    cases leastName? names with
    | none => simp
    | some least =>
      dsimp only
      split <;> simp

theorem leastName?_eq_some {names : List String} {least : String} (found : leastName? names = some least) :
    least ∈ names ∧ ∀ name ∈ names, least ≤ name := by
  induction names generalizing least with
  | nil => cases found
  | cons name names ih =>
    unfold leastName? at found
    cases rest : leastName? names with
    | none =>
      rw [rest] at found
      cases found
      simp [leastName?_eq_none_iff.1 rest]
    | some other =>
      obtain ⟨member, smallest⟩ := ih rest
      rw [rest] at found
      dsimp only at found
      split at found
      · next less =>
        cases found
        exact ⟨List.mem_cons_of_mem _ member, List.forall_mem_cons.2 ⟨less.le, smallest⟩⟩
      · next notLess =>
        cases found
        refine ⟨List.mem_cons_self, List.forall_mem_cons.2 ⟨le_rfl, fun n among => ?_⟩⟩
        exact (not_lt.1 notLess).trans (smallest n among)

/-- Only which names there are makes a difference. -/
theorem leastName?_congr {names names' : List String} (same : ∀ name, name ∈ names' ↔ name ∈ names) :
    leastName? names' = leastName? names := by
  cases found : leastName? names with
  | none =>
    rw [leastName?_eq_none_iff] at found ⊢
    exact List.eq_nil_iff_forall_not_mem.2 fun name member => by simpa [found] using (same name).1 member
  | some least =>
    obtain ⟨member, smallest⟩ := leastName?_eq_some found
    cases found' : leastName? names' with
    | none =>
      rw [leastName?_eq_none_iff] at found'
      simpa [found'] using (same least).2 member
    | some least' =>
      obtain ⟨member', smallest'⟩ := leastName?_eq_some found'
      exact congrArg some
        (le_antisymm (smallest' least ((same least).2 member)) (smallest least' ((same least').1 member')))

/-- The least of the names that a look says yes to depends on no more than what searches tell of the names. -/
theorem leastName?_filterLooked_congr {names names' : List String} (looks : String → Except Failure Bool)
    (same : ∀ p, names'.find? p = names.find? p) :
    (filterLooked looks names').map leastName? = (filterLooked looks names).map leastName? := by
  have members : ∀ name, name ∈ names' ↔ name ∈ names := by
    intro name
    have found := congrArg Option.isSome (same (· == name))
    simpa [List.find?_isSome] using Bool.eq_iff_iff.1 found
  unfold filterLooked
  rw [findSome?_eq_bind, findSome?_eq_bind, same]
  split
  · rfl
  · exact congrArg Except.ok (leastName?_congr fun name => by simp [List.mem_filter, members])

/-! ## Looking for a distribution -/

/-- What comes of looking for the directory whose name starts with a stem. -/
def distributionIn (t : FileTree) (here : Place) (lib : Path) (stem : String) : Except Failure (Option Path) :=
  let refused := fun (p : Path) (fault : Fault) => Failure.system fault (some p.text)
  match t.isDirectory here lib with
  | .error fault => .error (refused lib fault)
  | .ok false => .ok none
  | .ok true =>
    match t.find here lib .target with
    | .error fault => .error (refused lib fault)
    | .ok place =>
      let names := (t.childNames place.location).filter fun name => stem.toList.isPrefixOf name.toList
      let looks := fun name => (t.isDirectory here (lib.child name)).mapError (refused (lib.child name))
      ((filterLooked looks names).map leastName?).map (·.map lib.child)

theorem exec_findDistribution (lib : Path) (stem : String) (s : Session) :
    exec (findDistribution lib stem) s =
      (distributionIn s.world.files s.world.workingDirectory lib stem, s) := by
  unfold findDistribution distributionIn
  rw [exec_bind_of_ok (exec_world s), exec_bind, exec_onPath]
  cases s.world.files.isDirectory s.world.workingDirectory lib with
  | error fault => rfl
  | ok found =>
    cases found with
    | false => rfl
    | true =>
      simp only [mapError_ok, if_true]
      unfold directoriesWithStem
      rw [exec_bind, exec_bind_of_ok (exec_world s), exec_bind, exec_onPath]
      cases s.world.files.find s.world.workingDirectory lib .target with
      | error fault => rfl
      | ok place =>
        simp only [mapError_ok]
        rw [exec_filterM fun name => exec_onPath (lib.child name) _ s]
        generalize filterLooked _ _ = names
        cases names <;> rfl

/-- What is kept while a warning is written is kept while a distribution is looked for. -/
theorem exec_requireDistribution_of_kept {property : Session → Prop} {s : Session} {lib : Path} {stem : String}
    {found : Except Failure (Option Path)}
    (warns : ∀ s message, property s →
      ∃ s', exec (Action.log .warning logger message) s = (.ok (), s') ∧ property s')
    (holds : property s)
    (finds : distributionIn s.world.files s.world.workingDirectory lib stem = found) :
    ∃ s', exec (requireDistribution lib stem) s = (found, s') ∧ property s' := by
  have looked : exec (findDistribution lib stem) s = (found, s) := by
    rw [exec_findDistribution, finds]
  unfold requireDistribution
  cases found with
  | error failure => exact ⟨s, exec_bind_of_error looked _, holds⟩
  | ok home =>
    rw [exec_bind_of_ok looked]
    cases home with
    | some home => exact ⟨s, rfl, holds⟩
    | none =>
      obtain ⟨s', told, holds'⟩ := warns s ("No " ++ stem ++ "* distribution found under " ++ lib.text) holds
      exact ⟨s', exec_bind_of_ok told _, holds'⟩

/-- What is in a file makes no difference, if the names that are listed are the same. -/
theorem distributionIn_of_twins {l : Location} {x x' : List UInt8} {t t' : FileTree}
    (twins : FileTree.Twins l x x' t t') (same : FileTree.SameNames t t') (here : Place) (lib : Path) (stem : String) :
    distributionIn t' here lib stem = distributionIn t here lib stem := by
  unfold distributionIn
  simp only [twins.isDirectory, twins.find]
  split
  · rfl
  · rfl
  · cases t.find here lib .target with
    | error fault => rfl
    | ok place =>
      refine congrArg (·.map (·.map lib.child)) (leastName?_filterLooked_congr _ fun p => ?_)
      rw [List.find?_filter, List.find?_filter, same]

end ShellEnvironment

end Checkin
