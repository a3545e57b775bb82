import Checkin.Builder
import Checkin.Proofs.Message.Validation

/-!
# Messages from gathered values

A builder hands each value to validation under the name of its field. Values that are there can only be of a
wrong kind, so `complaints` lists all that validation reports about them.
-/

namespace Checkin.Builder

/-- The named values of a message. -/
def arguments (operatingSystem : String) (bentoVersion runtimeVersion millis id : Value) :
    Message.Arguments :=
  [(Message.Field.operatingSystem.name, .text operatingSystem),
    (Message.Field.bentoVersion.name, bentoVersion), (Message.Field.javaVersion.name, runtimeVersion),
    (Message.Field.lastUsedMillis.name, millis), (Message.Field.id.name, id)]

section Assembling

variable {operatingSystem : String} {bentoVersion runtimeVersion millis id : Value}

theorem assemble_eq :
    assemble operatingSystem bentoVersion runtimeVersion millis id =
      (Message.ofArguments (arguments operatingSystem bentoVersion runtimeVersion millis id)).mapError
        .notCarried :=
  rfl

/-- Each field that has to be supplied is, under its own name. -/
theorem supplied?_arguments (field : Message.Field) :
    field.supplied? (arguments operatingSystem bentoVersion runtimeVersion millis id) =
      match field with
      | .type | .format => none
      | .operatingSystem => some (field.name, .text operatingSystem)
      | .bentoVersion => some (field.name, bentoVersion)
      | .javaVersion => some (field.name, runtimeVersion)
      | .lastUsedMillis => some (field.name, millis)
      | .id => some (field.name, id) := by
  cases field <;>
    simp [Message.Field.supplied?, arguments, Entries.last?, List.lookup_cons, Message.Field.name,
      Message.Field.wireName]

theorem unexpected_arguments :
    Message.unexpected (arguments operatingSystem bentoVersion runtimeVersion millis id) = [] := by
  simp only [Message.unexpected, Message.Field.all, List.filterMap_cons, List.filterMap_nil,
    supplied?_arguments, Option.map_none, Option.map_some]
  simp [arguments]

theorem makes_arguments_iff {m : Message} :
    Message.Makes (arguments operatingSystem bentoVersion runtimeVersion millis id) m ↔
      operatingSystem = m.operatingSystem ∧ bentoVersion.Spells m.bentoVersion ∧
        runtimeVersion.Spells m.javaVersion ∧ millis = .int m.lastUsedMillis ∧ id.Spells m.id := by
  have supplied := @supplied?_arguments operatingSystem bentoVersion runtimeVersion millis id
  constructor
  · intro makes
    have os := (Message.requiredText_iff (supplied .operatingSystem)).1 makes.operatingSystem
    exact ⟨Value.spells_text_iff.1 os,
      (Message.requiredText_iff (supplied .bentoVersion)).1 makes.bentoVersion,
      (Message.requiredText_iff (supplied .javaVersion)).1 makes.javaVersion,
      (Message.requiredMillis_iff (supplied .lastUsedMillis)).1 makes.lastUsedMillis,
      (Message.requiredText_iff (supplied .id)).1 makes.id⟩
  · rintro ⟨os, version, runtime, lastUsed, given⟩
    exact {
      type := by simp [Message.constant, supplied]
      format := by simp [Message.constant, supplied]
      operatingSystem :=
        (Message.requiredText_iff (supplied .operatingSystem)).2 (Value.spells_text_iff.2 os)
      bentoVersion := (Message.requiredText_iff (supplied .bentoVersion)).2 version
      javaVersion := (Message.requiredText_iff (supplied .javaVersion)).2 runtime
      lastUsedMillis := (Message.requiredMillis_iff (supplied .lastUsedMillis)).2 lastUsed
      id := (Message.requiredText_iff (supplied .id)).2 given
      expected := unexpected_arguments }

/-- The message that the values make has them in its fields. -/
theorem assemble_eq_ok_iff {m : Message} :
    assemble operatingSystem bentoVersion runtimeVersion millis id = .ok m ↔
      operatingSystem = m.operatingSystem ∧ bentoVersion.Spells m.bentoVersion ∧
        runtimeVersion.Spells m.javaVersion ∧ millis = .int m.lastUsedMillis ∧ id.Spells m.id := by
  rw [← makes_arguments_iff, ← Message.ofArguments_eq_ok_iff, assemble_eq]
  cases Message.ofArguments (arguments operatingSystem bentoVersion runtimeVersion millis id) <;>
    simp

/-- What is wrong with the values that a message is to have besides the operating system. -/
def complaints (bentoVersion runtimeVersion millis id : Value) : List Complaint :=
  [bentoVersion.textProblem?.map (⟨Message.Field.bentoVersion.name, ·⟩),
    runtimeVersion.textProblem?.map (⟨Message.Field.javaVersion.name, ·⟩),
    millis.millisProblem?.map (⟨Message.Field.lastUsedMillis.name, ·⟩),
    id.textProblem?.map (⟨Message.Field.id.name, ·⟩)].filterMap (·)

theorem complaints_eq_nil_iff :
    complaints bentoVersion runtimeVersion millis id = [] ↔
      bentoVersion.textProblem? = none ∧ runtimeVersion.textProblem? = none ∧
        millis.millisProblem? = none ∧ id.textProblem? = none := by
  simp [complaints, List.filterMap_eq_nil_iff]

theorem complaints_arguments (os : operatingSystem ≠ "") (version : bentoVersion.isFalsy = false)
    (runtime : runtimeVersion.isFalsy = false) (supplied : id.isFalsy = false) :
    Message.complaints (arguments operatingSystem bentoVersion runtimeVersion millis id) =
      complaints bentoVersion runtimeVersion millis id := by
  have found := @supplied?_arguments operatingSystem bentoVersion runtimeVersion millis id
  have osTruthy : (Value.text operatingSystem).isFalsy = false := by simpa [Value.isFalsy] using os
  have constants : ∀ field expected, field = .type ∨ field = .format →
      Message.constant (arguments operatingSystem bentoVersion runtimeVersion millis id) field
        (Message.checkConstant expected) = .ok () := by
    rintro field expected (rfl | rfl) <;> simp [Message.constant, found]
  unfold Message.complaints
  rw [constants .type _ (.inl rfl), constants .format _ (.inr rfl),
    Message.complaint?_required (found .operatingSystem) fun _ => Message.checkText_eq_error_iff osTruthy,
    Message.complaint?_required (found .bentoVersion) fun _ => Message.checkText_eq_error_iff version,
    Message.complaint?_required (found .javaVersion) fun _ => Message.checkText_eq_error_iff runtime,
    Message.complaint?_required (found .lastUsedMillis) fun _ => Message.checkMillis_eq_error_iff,
    Message.complaint?_required (found .id) fun _ => Message.checkText_eq_error_iff supplied,
    unexpected_arguments, List.append_nil]
  rfl

/-- Values that are there make no message only for their kinds, and everything wrong is reported. -/
theorem assemble_eq_error (os : operatingSystem ≠ "") (version : bentoVersion.isFalsy = false)
    (runtime : runtimeVersion.isFalsy = false) (supplied : id.isFalsy = false)
    (wrong : complaints bentoVersion runtimeVersion millis id ≠ []) :
    assemble operatingSystem bentoVersion runtimeVersion millis id =
      .error (.notCarried (.fields (complaints bentoVersion runtimeVersion millis id))) := by
  have makesNone : ∀ m,
      ¬ Message.Makes (arguments operatingSystem bentoVersion runtimeVersion millis id) m := by
    intro m makes
    obtain ⟨-, version, runtime, lastUsed, given⟩ := makes_arguments_iff.1 makes
    exact wrong (complaints_eq_nil_iff.2 ⟨Value.textProblem?_eq_none_iff.2 ⟨_, version⟩,
      Value.textProblem?_eq_none_iff.2 ⟨_, runtime⟩, Value.millisProblem?_eq_none_iff.2 ⟨_, lastUsed⟩,
      Value.textProblem?_eq_none_iff.2 ⟨_, given⟩⟩)
  rw [assemble_eq, Message.ofArguments_eq_error makesNone, complaints_arguments os version runtime supplied]
  rfl

/-- Values of the right kinds that are there make a message. -/
theorem exists_assemble_eq_ok (os : operatingSystem ≠ "") (version : bentoVersion.isFalsy = false)
    (runtime : runtimeVersion.isFalsy = false) (supplied : id.isFalsy = false)
    (fine : complaints bentoVersion runtimeVersion millis id = []) :
    ∃ m, assemble operatingSystem bentoVersion runtimeVersion millis id = .ok m := by
  obtain ⟨version', runtime', lastUsed, given⟩ := complaints_eq_nil_iff.1 fine
  obtain ⟨bentoText, spellsVersion⟩ := Value.textProblem?_eq_none_iff.1 version'
  obtain ⟨runtimeText, spellsRuntime⟩ := Value.textProblem?_eq_none_iff.1 runtime'
  obtain ⟨n, lastUsed⟩ := Value.millisProblem?_eq_none_iff.1 lastUsed
  obtain ⟨idText, spellsId⟩ := Value.textProblem?_eq_none_iff.1 given
  let m : Message := {
    operatingSystem := ⟨operatingSystem, os⟩
    bentoVersion := ⟨bentoText, spellsVersion.ne_empty version⟩
    javaVersion := ⟨runtimeText, spellsRuntime.ne_empty runtime⟩
    lastUsedMillis := n
    id := ⟨idText, spellsId.ne_empty supplied⟩ }
  exact ⟨m, assemble_eq_ok_iff.2 ⟨rfl, spellsVersion, spellsRuntime, lastUsed, spellsId⟩⟩

end Assembling

end Checkin.Builder
