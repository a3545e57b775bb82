import Checkin.Proofs.Action
import Checkin.Version

/-!
# The BentoBox version

The version that a world gives, and what comes of asking a source for one. Besides the lack of a version only
a clock without a time can keep the tool's own source from giving it.
-/

namespace Checkin

open Checkin.Action

/-- The version that a world gives: the overriding one, or else the installed one, if it is not empty. -/
def World.version? (w : World) : Option String :=
  (w.environment.nonempty? versionVariable).or (w.packageVersion.filter (· ≠ ""))

theorem World.version?_ne_empty {w : World} {version : String} (given : w.version? = some version) :
    version ≠ "" := by
  have filtered : ∀ version? : Option String, version?.filter (· ≠ "") = some version → version ≠ "" := by
    intro version? kept
    simpa using (Option.filter_eq_some_iff.1 kept).2
  rcases Option.or_eq_some_iff.1 given with overriding | ⟨-, installed⟩
  · exact filtered _ overriding
  · exact filtered _ installed

namespace Version

/-- The version in use in a session. An installed version is logged, for which the time has to be known. -/
def inUse (s : Session) : Except Failure String :=
  match s.world.environment.nonempty? versionVariable with
  | some version => .ok version
  | none =>
    match s.world.packageVersion with
    | none => .error (.noVersion .notInstalled)
    | some version =>
      if version = "" then .error (.noVersion .blank)
      else if s.sink.shows .debug then s.world.now.wholePart.map fun _ => version
      else .ok version

/-- What a source gives in a session, falsy or not. -/
def Source.offer (s : Session) : Source → Except Failure Value
  | .current => Value.text <$> inUse s
  | .value v => .ok v
  | .failure reason => .error (.noVersion (.reported reason))

theorem fst_exec_current (s : Session) : (exec current s).1 = inUse s := by
  unfold current inUse
  rw [exec_bind_of_ok (exec_world s)]
  cases s.world.environment.nonempty? versionVariable with
  | some version => rfl
  | none =>
    cases s.world.packageVersion with
    | none => rfl
    | some version =>
      by_cases blank : version = ""
      · subst blank
        rfl
      · dsimp only
        rw [if_neg blank]
        split
        · cases ‹some version = none›
        · next same => exact absurd (Option.some.inj same) blank
        · next same =>
          cases same
          rw [exec_bind, exec_log]
          cases s.sink.shows .debug <;> cases s.world.now.wholePart <;> rfl

/-- Looking for the version writes at most the record that says where it was read. -/
theorem snd_exec_current (s : Session) :
    (exec current s).2 = s ∨ ∃ r : Record, r.level = .debug ∧ (exec current s).2 = s.write r := by
  unfold current
  rw [exec_bind_of_ok (exec_world s)]
  split
  · exact .inl rfl
  split
  · exact .inl rfl
  · exact .inl rfl
  next version _ _ =>
    rcases exec_log_cases .debug logger ("Read BentoBox version " ++ version ++ " from package metadata") s
      with silent | logged | ⟨failure, -, failed⟩
    · rw [exec_bind_of_ok silent]
      exact .inl rfl
    · rw [exec_bind_of_ok logged]
      exact .inr ⟨_, rfl, rfl⟩
    · rw [exec_bind_of_error failed]
      exact .inl rfl

theorem version?_of_inUse {s : Session} {version : String} (used : inUse s = .ok version) :
    s.world.version? = some version := by
  unfold inUse at used
  unfold World.version?
  cases overriding : s.world.environment.nonempty? versionVariable with
  | some other =>
    rw [overriding] at used
    cases used
    rfl
  | none =>
    cases installed : s.world.packageVersion with
    | none =>
      simp only [overriding, installed] at used
      cases used
    | some other =>
      simp only [overriding, installed] at used
      split at used
      · cases used
      · next named =>
        have same : other = version := by
          split at used
          · cases read : s.world.now.wholePart <;> simp_all [Except.map]
          · exact Except.ok.inj used
        simpa [Option.filter, named] using same

/-- Where the time is known, or where no record of this level is shown, the version is in use. -/
theorem inUse_of_version? {s : Session} {version : String}
    (clock : s.sink.shows .debug = true → ∃ second, s.world.now.wholePart = .ok second)
    (given : s.world.version? = some version) : inUse s = .ok version := by
  unfold World.version? at given
  unfold inUse
  cases overriding : s.world.environment.nonempty? versionVariable with
  | some other => simpa [overriding] using given
  | none =>
    rw [overriding, Option.none_or] at given
    obtain ⟨installed, named⟩ := Option.filter_eq_some_iff.1 given
    have named : version ≠ "" := by simpa using named
    simp only [installed, named, if_false]
    split
    · next shown =>
      obtain ⟨second, read⟩ := clock shown
      rw [read]
      rfl
    · rfl

/-- A source gives what it offers, unless that is falsy. -/
theorem fst_exec_get (source : Source) (s : Session) :
    (exec source.get s).1 =
      match source.offer s with
      | .ok v => if v.isFalsy then .error (.noVersion .notReturned) else .ok v
      | .error failure => .error failure := by
  cases source with
  | current =>
    simp only [Source.get, exec_map, fst_exec_current, Source.offer]
    cases used : inUse s with
    | error failure => rfl
    | ok version =>
      have named : version.isEmpty = false := by
        simpa using World.version?_ne_empty (version?_of_inUse used)
      simp [Functor.map, Except.map, Value.isFalsy, named]
  | value v => cases falsy : v.isFalsy <;> simp [Source.get, Source.offer, falsy]
  | failure reason => rfl

theorem snd_exec_get (source : Source) (s : Session) :
    (exec source.get s).2 = s ∨ ∃ r : Record, r.level = .debug ∧ (exec source.get s).2 = s.write r := by
  cases source with
  | current =>
    rw [Source.get, exec_map]
    exact snd_exec_current s
  | value v =>
    refine .inl ?_
    cases falsy : v.isFalsy <;> simp [Source.get, falsy]
  | failure reason => exact .inl rfl

/-- What a source gives depends on no files. -/
theorem Source.offer_congr {s s' : Session} (sink : s.sink = s'.sink)
    (world : s.world = { s'.world with files := s.world.files }) (source : Source) :
    source.offer s = source.offer s' := by
  cases source with
  | current =>
    simp only [offer, inUse, sink]
    rw [world]
  | value v => rfl
  | failure reason => rfl

end Version

end Checkin
