import Checkin.Proofs.Builder.Outcome

/-!
# Runs of a builder

A builder may be supplied with values again and again and asked to build in between, while the properties, the
version source and the world around it change. Building remembers nothing and leaves nothing behind: it always
gives what a fresh builder would give that was supplied the last values only.
-/

namespace Checkin.Builder

open Checkin.Action

/-- What may happen to a builder and around it. -/
inductive Step
  | withId (id : Value)
  | withLastUsedMillis (millis : Value)
  | build
  | put (key : String) (value : Value)
  | erase (key : String)
  | setVersion (version : Version.Source)
  /-- The variables, the platform, the installed package, the clock and the files are others from now on. -/
  | enter (world : World)

namespace Step

/-- The id that a step supplies. -/
def id? : Step → Option Value
  | withId id => some id
  | _ => none

/-- The time of last use that a step supplies. -/
def millis? : Step → Option Value
  | withLastUsedMillis millis => some millis
  | _ => none

/-- Whether a step builds a message. -/
def builds : Step → Bool
  | build => true
  | _ => false

end Step

/-- A fresh builder that was supplied only the last values of some steps. -/
def ofLast (steps : List Step) : Builder :=
  let supplied := (steps.filterMap Step.id?).getLast?.elim new new.withId
  (steps.filterMap Step.millis?).getLast?.elim supplied supplied.withLastUsedMillis

/-- A builder, and where it looks up what it is not supplied with. -/
structure Bench where
  session : Session
  builder : Builder
  properties : Properties
  version : Version.Source

namespace Bench

/-- A builder that has been supplied nothing. -/
def start (session : Session) (properties : Properties) (version : Version.Source) : Bench :=
  ⟨session, .new, properties, version⟩

/-- What building gives, and the session that it leaves. -/
def build (b : Bench) : Except Failure Message × Session :=
  exec (b.builder.build b.properties b.version) b.session

/-- What a step makes of it all. -/
def step (b : Bench) : Step → Bench
  | .withId id => { b with builder := b.builder.withId id }
  | .withLastUsedMillis millis => { b with builder := b.builder.withLastUsedMillis millis }
  | .build => { b with session := b.build.2 }
  | .put key value => { b with properties := b.properties.put key value }
  | .erase key => { b with properties := b.properties.erase key }
  | .setVersion version => { b with version }
  | .enter world => { b with session := { b.session with world } }

/-- What steps make of it all, one after another. -/
def after (b : Bench) (steps : List Step) : Bench :=
  steps.foldl step b

@[simp] theorem after_nil (b : Bench) : b.after [] = b := rfl

@[simp] theorem after_cons (b : Bench) (step : Step) (steps : List Step) :
    b.after (step :: steps) = (b.step step).after steps := rfl

theorem after_concat (b : Bench) (steps : List Step) (step : Step) :
    b.after (steps ++ [step]) = (b.after steps).step step := by
  rw [after, List.foldl_append]
  rfl

/-! ## What is supplied -/

theorem ofLast_eq (steps : List Step) :
    ofLast steps = ⟨(steps.filterMap Step.id?).getLast?.getD .null,
      (steps.filterMap Step.millis?).getLast?.getD .null⟩ := by
  unfold ofLast
  cases (steps.filterMap Step.id?).getLast? <;> cases (steps.filterMap Step.millis?).getLast? <;> rfl

/-- Of the values that were supplied, the builder holds the last ones. -/
theorem builder_after (session : Session) (properties : Properties) (version : Version.Source)
    (steps : List Step) : ((start session properties version).after steps).builder = ofLast steps := by
  induction steps using List.reverseRecOn with
  | nil => rfl
  | append_singleton steps step ih =>
    rw [ofLast_eq] at ih ⊢
    rw [after_concat]
    cases step with
    | withId id => simp [Bench.step, ih, withId, Step.id?, Step.millis?]
    | withLastUsedMillis millis => simp [Bench.step, ih, withLastUsedMillis, Step.id?, Step.millis?]
    | _ => simp [Bench.step, ih, Step.id?, Step.millis?]

/-! ## What building leaves behind -/

/-- Building writes at most the record that says where the version was read. -/
theorem build_session (b : Bench) :
    b.build.2 = b.session ∨ ∃ r : Record, r.level = .debug ∧ b.build.2 = b.session.write r := by
  rcases snd_exec_build b.builder b.properties b.version b.session with same | asked
  · exact .inl same
  · rw [build, asked]
    exact Version.snd_exec_get b.version b.session

/-- Two benches differ at most in what was logged, and in the files to which it may have been. -/
structure Alike (b b' : Bench) : Prop where
  builder : b.builder = b'.builder
  properties : b.properties = b'.properties
  version : b.version = b'.version
  sink : b.session.sink = b'.session.sink
  world : b.session.world = { b'.session.world with files := b.session.world.files }

theorem Alike.refl (b : Bench) : Alike b b := ⟨rfl, rfl, rfl, rfl, rfl⟩

theorem Alike.trans {a b c : Bench} (first : Alike a b) (second : Alike b c) : Alike a c := by
  refine ⟨first.builder.trans second.builder, first.properties.trans second.properties,
    first.version.trans second.version, first.sink.trans second.sink, ?_⟩
  rw [first.world, second.world]

/-- What building gives does not depend on what was logged. -/
theorem Alike.build_eq {b b' : Bench} (alike : Alike b b') : b.build.1 = b'.build.1 := by
  have platform : b.session.world.platform = b'.session.world.platform := by rw [alike.world]
  simp only [build, fst_exec_build, Version.fst_exec_get, alike.builder, alike.properties, alike.version,
    platform, Version.Source.offer_congr alike.sink alike.world]

/-- Building makes no other difference. -/
theorem alike_step_build (b : Bench) : Alike (b.step .build) b := by
  rcases b.build_session with same | ⟨r, -, logged⟩
  · simp only [Bench.step, same]
    exact .refl b
  · simp only [Bench.step, logged]
    exact ⟨rfl, rfl, rfl, b.session.write_sink r, b.session.write_world r⟩

theorem Alike.step {b b' : Bench} (alike : Alike b b') {step : Step} (other : step.builds = false) :
    Alike (b.step step) (b'.step step) := by
  obtain ⟨builder, properties, version, sink, world⟩ := alike
  cases step with
  | build => cases other
  | withId id => exact ⟨congrArg (·.withId id) builder, properties, version, sink, world⟩
  | withLastUsedMillis millis =>
    exact ⟨congrArg (·.withLastUsedMillis millis) builder, properties, version, sink, world⟩
  | put key value => exact ⟨builder, congrArg (·.put key value) properties, version, sink, world⟩
  | erase key => exact ⟨builder, congrArg (·.erase key) properties, version, sink, world⟩
  | setVersion source => exact ⟨builder, properties, rfl, sink, world⟩
  | enter surroundings => exact ⟨builder, properties, version, sink, rfl⟩

/-- Steps that build may be left out. -/
theorem alike_after_filter (b : Bench) (steps : List Step) :
    Alike (b.after steps) (b.after (steps.filter fun step => !step.builds)) := by
  induction steps using List.reverseRecOn with
  | nil => exact .refl b
  | append_singleton steps step ih =>
    rw [after_concat, List.filter_append]
    cases builds : step.builds with
    | true =>
      obtain rfl : step = .build := by
        cases step <;> first | rfl | cases builds
      simpa [builds] using (alike_step_build _).trans ih
    | false => simpa [builds, after_concat] using ih.step builds

/-- Building remembers nothing and changes nothing. After any steps it gives what a fresh builder gives in the same
place that was supplied only the last values; it gives what it would give if nothing had been built before; it
leaves the builder, the properties and the version source as they are and writes at most one debug record. So it
succeeds as soon as everything is there, whatever failed before. -/
theorem build_after (session : Session) (properties : Properties) (version : Version.Source)
    (steps : List Step) :
    let b := (start session properties version).after steps
    b.build.1 = (exec ((ofLast steps).build b.properties b.version) b.session).1 ∧
    b.build.1 = ((start session properties version).after (steps.filter fun step => !step.builds)).build.1 ∧
    (∃ left, b.step .build = { b with session := left } ∧
      (left = b.session ∨ ∃ r : Record, r.level = .debug ∧ left = b.session.write r)) ∧
    ∀ m, Outcome (ofLast steps) b.properties b.version b.session (.ok m) → b.build.1 = .ok m := by
  intro b
  have fresh : b.build.1 = (exec ((ofLast steps).build b.properties b.version) b.session).1 := by
    rw [build, builder_after]
  refine ⟨fresh, (alike_after_filter _ steps).build_eq, ⟨b.build.2, rfl, b.build_session⟩, ?_⟩
  intro m outcome
  rw [fresh, outcome.fst_exec_build]

end Bench

end Checkin.Builder
