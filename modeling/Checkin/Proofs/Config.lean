import Checkin.Config
import Checkin.Proofs.Basic

/-!
# Failures of the configuration

A configuration fails for want of a home directory, for a NUL character in the name of a user, or because
the working directory was removed.
-/

namespace Checkin

/-- The home directories on a system with two accounts, that of the process and one more. -/
def twoHomes : Homes := ⟨some "/", [("root", "/"), ("nobody", "/nonexistent")]⟩

namespace Config

variable {env : Environment} {home? : Option String} {homes : Homes} {here : Place} {p : Path}
  {failure : Failure}

theorem homePath_failure (failed : homePath home? = .error failure) : failure = .noHome := by
  unfold homePath at failed
  split at failed
  · cases failed; rfl
  · split at failed
    · cases failed
    · cases failed; rfl
    · cases failed

theorem expandHome_failure (failed : expandHome homes p = .error failure) :
    failure = .noHome ∨ failure = .system .embeddedNul none := by
  unfold expandHome at failed
  split at failed
  · split at failed
    · next user _ =>
      split at failed
      · cases failed; exact .inr rfl
      · cases start : homePath (homes.of? (String.ofList user)) with
        | ok q => rw [start] at failed; cases failed
        | error other =>
          rw [start] at failed
          cases failed
          exact .inl (homePath_failure start)
    · cases failed
  · cases failed

theorem workingPath_failure (failed : workingPath here = .error failure) :
    failure = .system .notFound none := by
  unfold workingPath at failed
  split at failed
  · cases failed
  · cases failed; rfl

/-- The distribution's root, before a tilde is taken for the home directory. -/
def givenKijiHome (env : Environment) (here : Place) : Except Failure Path :=
  match env.nonempty? kijiHomeVariable with
  | some path => .ok (Path.ofText path)
  | none => workingPath here

/-- The directory with the state files. -/
def chosenStateDir (env : Environment) (homes : Homes) : Except Failure Path :=
  match env.nonempty? stateDirVariable with
  | some path => expandHome homes (Path.ofText path)
  | none => (·.child ".kiji") <$> homePath homes.own

theorem load_eq (env : Environment) (homes : Homes) (here : Place) :
    load env homes here = (do
      let kijiHome ← givenKijiHome env here
      let stateDir ← chosenStateDir env homes
      let kijiHome ← expandHome homes kijiHome
      return { kijiHome, stateDir }) := by
  unfold load givenKijiHome chosenStateDir
  cases env.nonempty? kijiHomeVariable <;> cases env.nonempty? stateDirVariable <;> rfl

/-- A path starts in a home directory: it is relative, and its first name starts with a tilde. -/
def StartsInHome (p : Path) : Prop :=
  p.root = .relative ∧ ∃ name, p.names.head? = some name ∧ name.toList.head? = some '~'

instance (p : Path) : Decidable (StartsInHome p) :=
  decidable_of_iff (p.root = .relative ∧ (p.names.head?.bind (·.toList.head?)) = some '~') <| by
    simp [StartsInHome, Option.bind_eq_some_iff]

theorem expandHome_of_not_startsInHome (plain : ¬StartsInHome p) (homes : Homes) :
    expandHome homes p = .ok p := by
  unfold expandHome
  split
  · next name names relative named =>
    split
    · next user starts =>
      exact absurd ⟨relative, name, by rw [named, List.head?_cons], by rw [starts, List.head?_cons]⟩ plain
    · rfl
  · rfl

/-- With the root set to a path that does not start in a home directory, all depends on the directory with the
state files. -/
theorem load_of_kijiHome {text : String} (set : env.get? kijiHomeVariable = some text) (notEmpty : text ≠ "")
    (plain : ¬StartsInHome (.ofText text)) :
    load env homes here =
      (chosenStateDir env homes).map fun stateDir => { kijiHome := .ofText text, stateDir } := by
  have nonempty : env.nonempty? kijiHomeVariable = some text := by
    rw [Environment.nonempty?, set]
    exact Option.filter_some_pos (by simpa using notEmpty)
  have given : givenKijiHome env here = .ok (.ofText text) := by
    simp only [givenKijiHome, nonempty]
  rw [load_eq, bind_of_ok given]
  cases chosenStateDir env homes with
  | error failure => rfl
  | ok stateDir =>
    show (expandHome homes (.ofText text) >>= _) = _
    rw [expandHome_of_not_startsInHome plain]
    rfl

theorem givenKijiHome_failure (failed : givenKijiHome env here = .error failure) :
    failure = .system .notFound none := by
  unfold givenKijiHome at failed
  split at failed
  · cases failed
  · exact workingPath_failure failed

theorem chosenStateDir_failure (failed : chosenStateDir env homes = .error failure) :
    failure = .noHome ∨ failure = .system .embeddedNul none := by
  unfold chosenStateDir at failed
  split at failed
  · exact expandHome_failure failed
  · cases start : homePath homes.own with
    | ok q => rw [start] at failed; cases failed
    | error other =>
      rw [start] at failed
      cases failed
      exact .inl (homePath_failure start)

/-- Why there is no configuration. -/
theorem load_failure (failed : load env homes here = .error failure) :
    failure = .noHome ∨ failure = .system .embeddedNul none ∨ failure = .system .notFound none := by
  rw [load_eq] at failed
  rcases error_of_bind_eq_error failed with failed | ⟨given, -, failed⟩
  · exact .inr (.inr (givenKijiHome_failure failed))
  rcases error_of_bind_eq_error failed with failed | ⟨stateDir, -, failed⟩
  · rcases chosenStateDir_failure failed with noHome | nul
    · exact .inl noHome
    · exact .inr (.inl nul)
  rcases error_of_bind_eq_error failed with failed | ⟨kijiHome, -, failed⟩
  · rcases expandHome_failure failed with noHome | nul
    · exact .inl noHome
    · exact .inr (.inl nul)
  · cases failed

end Config

end Checkin
