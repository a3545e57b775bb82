import Checkin.Proofs.Builder.Assembly
import Checkin.Proofs.Properties
import Checkin.Proofs.Text.Digits
import Checkin.Proofs.Version

/-!
# Outcomes of building a message

What comes of building a message is decided by the supplied values, the platform properties and the version
source. `Outcome` lists what can come of it, each with its conditions: where several things are at fault, they
say which of them is reported.
-/

namespace Checkin.Builder

open Checkin.Action

/-! ## The steps of building -/

variable {b : Builder} {properties : Properties} {version : Version.Source} {s : Session}

/-- Both values were supplied: an id that is not falsy, and any time of last use. -/
structure Complete (b : Builder) : Prop where
  id : b.id.isFalsy = false
  lastUsed : b.lastUsedMillis ≠ .null

theorem Complete.supplied (complete : b.Complete) : b.supplied = .ok (b.id, b.lastUsedMillis) := by
  unfold Builder.supplied
  rw [complete.id]
  cases given : b.lastUsedMillis with
  | null => exact absurd given complete.lastUsed
  | _ => rfl

/-- Building is a sequence of steps that change nothing about what the next one finds. -/
theorem fst_exec_build (b : Builder) (properties : Properties) (version : Version.Source) (s : Session) :
    (exec (b.build properties version) s).1 =
      b.supplied >>= fun (id, millis) =>
        properties.operatingSystem s.world.platform >>= fun operatingSystem =>
          (exec version.get s).1 >>= fun bentoVersion =>
            properties.runtimeVersion s.world.platform >>= fun runtimeVersion =>
              assemble operatingSystem bentoVersion runtimeVersion millis id := by
  unfold build
  rw [exec_bind, exec_ofExcept]
  cases b.supplied with
  | error failure => rfl
  | ok supplied =>
    obtain ⟨id, millis⟩ := supplied
    simp only [exec_bind, exec_world, exec_ofExcept]
    cases properties.operatingSystem s.world.platform with
    | error failure => rfl
    | ok operatingSystem =>
      simp only
      rcases exec version.get s with ⟨_ | bentoVersion, s'⟩
      · rfl
      · simp only
        cases properties.runtimeVersion s.world.platform <;> rfl

/-- Only asking for the version can change the session. -/
theorem snd_exec_build (b : Builder) (properties : Properties) (version : Version.Source) (s : Session) :
    (exec (b.build properties version) s).2 = s ∨
      (exec (b.build properties version) s).2 = (exec version.get s).2 := by
  unfold build
  rw [exec_bind, exec_ofExcept]
  cases b.supplied with
  | error failure => exact .inl rfl
  | ok supplied =>
    obtain ⟨id, millis⟩ := supplied
    simp only [exec_bind, exec_world, exec_ofExcept]
    cases properties.operatingSystem s.world.platform with
    | error failure => exact .inl rfl
    | ok operatingSystem =>
      refine .inr ?_
      simp only
      rcases exec version.get s with ⟨_ | bentoVersion, s'⟩
      · rfl
      · simp only
        cases properties.runtimeVersion s.world.platform <;> rfl

/-- With the supplied values and the operating system there, what is left is the versions and validation. -/
theorem Complete.fst_exec_build {operatingSystem : String} (complete : b.Complete)
    (os : properties.osText? s.world.platform = some operatingSystem) :
    (exec (b.build properties version) s).1 =
      (exec version.get s).1 >>= fun bentoVersion =>
        properties.runtimeVersion s.world.platform >>= fun runtimeVersion =>
          assemble operatingSystem bentoVersion runtimeVersion b.lastUsedMillis b.id := by
  rw [Builder.fst_exec_build, complete.supplied, Properties.operatingSystem_eq,
    Properties.missing?_of_osText? os, os]
  rfl

/-! ## Outcomes -/

/-- All that a message is made of is there: the supplied values, the operating system's text, and versions
that are not falsy. -/
structure Gathered (b : Builder) (properties : Properties) (version : Version.Source) (s : Session)
    (operatingSystem : String) (bentoVersion runtimeVersion : Value) : Prop where
  complete : b.Complete
  operatingSystem : properties.osText? s.world.platform = some operatingSystem
  offered : version.offer s = .ok bentoVersion
  truthy : bentoVersion.isFalsy = false
  runtimeVersion : properties.found? s.world.platform javaVersion = some runtimeVersion

theorem Gathered.fst_exec_build {operatingSystem : String} {bentoVersion runtimeVersion : Value}
    (gathered : Gathered b properties version s operatingSystem bentoVersion runtimeVersion) :
    (exec (b.build properties version) s).1 =
      assemble operatingSystem bentoVersion runtimeVersion b.lastUsedMillis b.id := by
  obtain ⟨complete, os, offered, truthy, runtime⟩ := gathered
  rw [complete.fst_exec_build os, Version.fst_exec_get, offered, Properties.runtimeVersion,
    Properties.get_eq, runtime]
  simp only [truthy]
  rfl

/-- What can come of building a message. The conditions of each failure rule out those before it. -/
inductive Outcome (b : Builder) (properties : Properties) (version : Version.Source) (s : Session) :
    Except Failure Message → Prop
  | noId : b.id.isFalsy = true → Outcome b properties version s (.error (.notSupplied .id))
  | noLastUsed :
    b.id.isFalsy = false → b.lastUsedMillis = .null →
    Outcome b properties version s (.error (.notSupplied .lastUsed))
  | noOsProperty {key : String} :
    b.Complete → properties.missing? s.world.platform = some key →
    Outcome b properties version s (.error (.noProperty key))
  /-- All three properties have values, but one of those has no text. -/
  | osWithoutText {key : String} {value : Value} :
    b.Complete → properties.missing? s.world.platform = none →
    key ∈ Properties.osKeys → properties.found? s.world.platform key = some value → value.HoldsLong →
    Outcome b properties version s (.error .tooManyDigits)
  | versionFails {operatingSystem : String} {failure : Failure} :
    b.Complete → properties.osText? s.world.platform = some operatingSystem →
    version.offer s = .error failure →
    Outcome b properties version s (.error failure)
  | noVersion {operatingSystem : String} {bentoVersion : Value} :
    b.Complete → properties.osText? s.world.platform = some operatingSystem →
    version.offer s = .ok bentoVersion → bentoVersion.isFalsy = true →
    Outcome b properties version s (.error (.noVersion .notReturned))
  | noRuntime {operatingSystem : String} {bentoVersion : Value} :
    b.Complete → properties.osText? s.world.platform = some operatingSystem →
    version.offer s = .ok bentoVersion → bentoVersion.isFalsy = false →
    properties.found? s.world.platform javaVersion = none →
    Outcome b properties version s (.error (.noProperty javaVersion))
  | notCarried {operatingSystem : String} {bentoVersion runtimeVersion : Value} :
    Gathered b properties version s operatingSystem bentoVersion runtimeVersion →
    complaints bentoVersion runtimeVersion b.lastUsedMillis b.id ≠ [] →
    Outcome b properties version s
      (.error (.notCarried (.fields (complaints bentoVersion runtimeVersion b.lastUsedMillis b.id))))
  | built {operatingSystem : String} {bentoVersion runtimeVersion : Value} {m : Message} :
    Gathered b properties version s operatingSystem bentoVersion runtimeVersion →
    operatingSystem = m.operatingSystem → bentoVersion.Spells m.bentoVersion →
    runtimeVersion.Spells m.javaVersion → b.lastUsedMillis = .int m.lastUsedMillis → b.id.Spells m.id →
    Outcome b properties version s (.ok m)

theorem Outcome.fst_exec_build {r : Except Failure Message} (outcome : Outcome b properties version s r) :
    (exec (b.build properties version) s).1 = r := by
  cases outcome with
  | noId falsy =>
    rw [Builder.fst_exec_build, Builder.supplied, if_pos falsy]
    rfl
  | noLastUsed id unset =>
    rw [Builder.fst_exec_build, Builder.supplied, id, unset]
    rfl
  | noOsProperty complete missing =>
    rw [Builder.fst_exec_build, complete.supplied, Properties.operatingSystem_eq, missing]
    rfl
  | osWithoutText complete present among found long =>
    rw [Builder.fst_exec_build, complete.supplied, Properties.operatingSystem_eq, present,
      (Properties.osText?_eq_none_iff present).2 ⟨_, among, _, found, long⟩]
    rfl
  | versionFails complete os fails =>
    rw [complete.fst_exec_build os, Version.fst_exec_get, fails]
    rfl
  | noVersion complete os offers falsy =>
    rw [complete.fst_exec_build os, Version.fst_exec_get, offers]
    simp only [falsy]
    rfl
  | noRuntime complete os offers truthy missing =>
    rw [complete.fst_exec_build os, Version.fst_exec_get, offers, Properties.runtimeVersion,
      Properties.get_eq, missing]
    simp only [truthy]
    rfl
  | notCarried gathered wrong =>
    rw [gathered.fst_exec_build]
    exact assemble_eq_error (Properties.osText?_ne_empty gathered.operatingSystem) gathered.truthy
      (Properties.isFalsy_of_found? gathered.runtimeVersion) gathered.complete.id wrong
  | built gathered os version runtime lastUsed id =>
    rw [gathered.fst_exec_build]
    exact assemble_eq_ok_iff.2 ⟨os, version, runtime, lastUsed, id⟩

/-- Whatever was supplied and whatever is found, one of the outcomes is there. -/
theorem exists_outcome (b : Builder) (properties : Properties) (version : Version.Source) (s : Session) :
    ∃ r, Outcome b properties version s r := by
  cases id : b.id.isFalsy with
  | true => exact ⟨_, .noId id⟩
  | false =>
  by_cases unset : b.lastUsedMillis = .null
  · exact ⟨_, .noLastUsed id unset⟩
  have complete : b.Complete := ⟨id, unset⟩
  cases missing : properties.missing? s.world.platform with
  | some key => exact ⟨_, .noOsProperty complete missing⟩
  | none =>
  cases os : properties.osText? s.world.platform with
  | none =>
    obtain ⟨key, among, value, found, long⟩ := (Properties.osText?_eq_none_iff missing).1 os
    exact ⟨_, .osWithoutText complete missing among found long⟩
  | some operatingSystem =>
  cases offered : version.offer s with
  | error failure => exact ⟨_, .versionFails complete os offered⟩
  | ok bentoVersion =>
  cases truthy : bentoVersion.isFalsy with
  | true => exact ⟨_, .noVersion complete os offered truthy⟩
  | false =>
  cases runtime : properties.found? s.world.platform javaVersion with
  | none => exact ⟨_, .noRuntime complete os offered truthy runtime⟩
  | some runtimeVersion =>
  have gathered : Gathered b properties version s operatingSystem bentoVersion runtimeVersion :=
    ⟨complete, os, offered, truthy, runtime⟩
  by_cases wrong : complaints bentoVersion runtimeVersion b.lastUsedMillis b.id = []
  · obtain ⟨m, made⟩ := exists_assemble_eq_ok (Properties.osText?_ne_empty os) truthy
      (Properties.isFalsy_of_found? runtime) id wrong
    obtain ⟨os, version, runtime, lastUsed, id⟩ := assemble_eq_ok_iff.1 made
    exact ⟨_, .built gathered os version runtime lastUsed id⟩
  · exact ⟨_, .notCarried gathered wrong⟩

/-- Building gives exactly the outcome whose conditions hold. -/
theorem build_eq_iff_outcome (b : Builder) (properties : Properties) (version : Version.Source) (s : Session)
    (r : Except Failure Message) :
    (exec (b.build properties version) s).1 = r ↔ Outcome b properties version s r := by
  constructor
  · intro built
    obtain ⟨r', outcome⟩ := exists_outcome b properties version s
    rwa [← built, outcome.fst_exec_build]
  · exact Outcome.fst_exec_build

/-- A whole number with one digit more than a numeral may have. -/
def longNumber : Value := .int (10 ^ Text.maxDigits)

theorem longNumber_holdsLong : longNumber.HoldsLong := by
  refine .int (Text.lt_length_digits ?_)
  simp [Int.natAbs_pow]

/-- Properties of which the first has no text. -/
def longName : Properties :=
  .given [(osName, longNumber), (osVersion, .text "5.10"), (osArch, .text "x86_64"),
    (javaVersion, .text "17")]

theorem found?_longName (platform : Platform) : longName.found? platform osName = some longNumber := by
  have truthy : longNumber.isFalsy = false := by
    simp only [longNumber, Value.isFalsy, beq_eq_false_iff_ne]
    exact Int.pow_ne_zero (by decide)
  simp [longName, Properties.found?, Option.filter, truthy]

/-- Everything is there and of the right kind, except that the operating system's name has no text. -/
theorem build_longName :
    (⟨.text "a", .int 1⟩ : Builder).Complete ∧ longName.missing? default = none ∧
    (Version.Source.value (.text "2.0.0")).offer default = .ok (.text "2.0.0") ∧
    longName.found? default javaVersion = some (.text "17") ∧
    complaints (.text "2.0.0") (.text "17") (.int 1) (.text "a") = [] ∧
    (exec ((⟨.text "a", .int 1⟩ : Builder).build longName (.value (.text "2.0.0"))) default).1 =
      .error .tooManyDigits := by
  have complete : (⟨.text "a", .int 1⟩ : Builder).Complete := ⟨rfl, by simp⟩
  have others : ∀ platform, longName.found? platform osVersion = some (.text "5.10") ∧
      longName.found? platform osArch = some (.text "x86_64") ∧
      longName.found? platform javaVersion = some (.text "17") := by
    simp [longName, Properties.found?, List.lookup_cons, osName, osVersion, osArch, javaVersion,
      Option.filter, Value.isFalsy]
  have present : ∀ platform, longName.missing? platform = none := by
    intro platform
    simp [Properties.missing?, Properties.osKeys, found?_longName, others platform]
  exact ⟨complete, present _, rfl, (others _).2.2, rfl,
    (Outcome.osWithoutText complete (present _) (List.mem_cons_self ..) (found?_longName _)
      longNumber_holdsLong).fst_exec_build⟩

end Checkin.Builder
