import Checkin.EnvironmentFile
import Checkin.Proofs.Basic
import Checkin.Proofs.Entries

/-!
# What an environment file gives

An environment file gives values to the variables that are not set, and to no others. Of several such files,
the first one counts on the way from a directory up to the root.
-/

namespace Checkin.EnvironmentFile

variable {env env' : Environment} {bindings : List (String × Option String)}

/-! ## Binding variables -/

/-- A bound variable has its value if it was not set; the others are left as they are. -/
theorem get?_bind {name : String} {value : Option String} (bound : bind env (name, value) = .ok env')
    (other : String) :
    env'.get? other = (env.get? other).or (if other = name then value else none) := by
  have kept (same : env' = env) (idle : value = none ∨ (env.get? name).isSome) :
      env'.get? other = (env.get? other).or (if other = name then value else none) := by
    rw [same]
    by_cases this : other = name
    · subst this
      rcases idle with rfl | set
      · simp
      · obtain ⟨before, set⟩ := Option.isSome_iff_exists.1 set
        simp [set]
    · simp [this]
  unfold bind at bound
  cases value with
  | none =>
    cases set : env.get? name <;> simp only [set, Except.ok.injEq] at bound <;>
      exact kept bound.symm (.inl rfl)
  | some value =>
    cases set : env.get? name with
    | some before =>
      simp only [set, Except.ok.injEq] at bound
      exact kept bound.symm (.inr (by simp [set]))
    | none =>
      simp only [set] at bound
      split at bound
      · cases bound
      · split at bound
        · cases bound
        · cases bound
          rw [Environment.get?_set]
          by_cases same : other = name
          · simp [same, set]
          · simp [same]

/-- With names that are not repeated, each variable that was not set has the value that it is bound to. -/
theorem get?_foldlM_bind (unique : (bindings.map Prod.fst).Nodup)
    (bound : bindings.foldlM bind env = .ok env') (name : String) :
    env'.get? name = (env.get? name).or (bindings.lookup name).join := by
  induction bindings generalizing env with
  | nil =>
    cases bound
    simp
  | cons binding bindings ih =>
    obtain ⟨first, value⟩ := binding
    rw [List.foldlM_cons] at bound
    obtain ⟨between, boundFirst, boundRest⟩ := exists_of_bind_eq_ok bound
    rw [List.map_cons, List.nodup_cons] at unique
    rw [ih unique.2 boundRest, get?_bind boundFirst, Option.or_assoc, List.lookup_cons]
    by_cases same : name = first
    · subst same
      have once : bindings.lookup name = none := Entries.lookup_eq_none_of_notMem unique.1
      simp [once]
    · have other : (name == first) = false := by simpa using same
      simp [same, other]

/-! ## The nearest file -/

/-- The places where an environment file may be: in a directory, and in those above it. -/
def candidates (directory : Location) : List Path :=
  (List.range (directory.length + 1)).reverse.map fun depth => ⟨.absolute, directory.take depth ++ [".env"]⟩

/-- Whether a path names a regular file, links followed. -/
def namesFile (files : FileTree) (here : Place) (p : Path) : Bool :=
  match files.stat here p with
  | .ok (.file _) => true
  | _ => false

theorem candidates_eq_cons (directory : Location) :
    candidates directory = ⟨.absolute, directory ++ [".env"]⟩ ::
      if directory = [] then [] else candidates directory.dropLast := by
  unfold candidates
  rw [List.range_succ, List.reverse_append, List.reverse_singleton, List.singleton_append, List.map_cons,
    List.take_length]
  congr 1
  split
  · next empty => simp [empty]
  · next nonempty =>
    have length : directory.dropLast.length + 1 = directory.length := by
      have := List.length_pos_iff.2 nonempty
      rw [List.length_dropLast]
      omega
    rw [length]
    apply List.map_congr_left
    intro depth member
    rw [List.mem_reverse, List.mem_range] at member
    rw [List.dropLast_eq_take, List.take_take, Nat.min_eq_left (by omega)]

theorem namesFile_iff {files : FileTree} {here : Place} {p : Path} :
    namesFile files here p = true ↔ ∃ content, files.stat here p = .ok (.file content) := by
  unfold namesFile
  split
  · next content looked => simp [looked]
  · next other => simpa using other

/-- The file that is located is the first candidate that is a regular file. -/
theorem locate?_eq_find? (files : FileTree) (here : Place) (directory : Location) :
    locate? files here directory = (candidates directory).find? (namesFile files here) := by
  fun_induction locate? files here directory with
  | case1 directory candidate content looked =>
    rw [candidates_eq_cons, List.find?_cons_of_pos (namesFile_iff.2 ⟨content, looked⟩)]
  | case2 candidate other =>
    rw [candidates_eq_cons, List.find?_cons_of_neg, if_pos rfl, List.find?_nil]
    rintro names
    obtain ⟨content, looked⟩ := namesFile_iff.1 names
    exact other content looked
  | case3 directory candidate nonempty other ih =>
    rw [candidates_eq_cons, List.find?_cons_of_neg, if_neg nonempty, ih]
    rintro names
    obtain ⟨content, looked⟩ := namesFile_iff.1 names
    exact other content looked

end Checkin.EnvironmentFile
