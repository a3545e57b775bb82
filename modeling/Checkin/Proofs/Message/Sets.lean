import Checkin.Proofs.Builder.Kinds
import Checkin.Proofs.Message.Runs
import Mathlib.Data.Finset.Dedup
import Mathlib.Data.Finset.Card
import Std.Data.HashSet.Lemmas

/-!
# Sets of messages

A message goes by its seven fields, in whatever way it was made: they tell whether two messages are the same, and
they are what a message is hashed by. So a set of messages has as many elements as there are different wire
forms.
-/

namespace Checkin

namespace Message

variable {m m' : Message} (hash : List Value → UInt64)

/-- Two messages are the same exactly if all of their fields are. -/
theorem eq_iff_fieldValue : m = m' ↔ ∀ field, m.fieldValue field = m'.fieldValue field := by
  constructor
  · rintro rfl field
    rfl
  · intro same
    have text : ∀ {s s' : NonemptyText}, Value.text s = .text s' → s = s' :=
      fun equal => Subtype.ext (Value.text.inj equal)
    obtain ⟨os, bento, java, millis, id⟩ := m
    obtain ⟨os', bento', java', millis', id'⟩ := m'
    obtain rfl := text (same .operatingSystem)
    obtain rfl := text (same .bentoVersion)
    obtain rfl := text (same .javaVersion)
    obtain rfl : millis = millis' := Subtype.ext (Value.int.inj (same .lastUsedMillis))
    obtain rfl := text (same .id)
    rfl

/-- The hash of a message is that of its fields, in their order. -/
def hashOf (m : Message) : UInt64 :=
  hash (Field.all.map m.fieldValue)

theorem hashOf_eq_of_fieldValue (same : ∀ field, m.fieldValue field = m'.fieldValue field) :
    m.hashOf hash = m'.hashOf hash := by
  rw [hashOf, hashOf, List.map_congr_left fun field _ => same field]

/-- Messages go into sets by the hashes of their fields. -/
@[reducible]
def hashable : Hashable Message := ⟨hashOf hash⟩

theorem lawfulHashable : @LawfulHashable Message _ (hashable hash) := by
  let := hashable hash
  exact ⟨fun m m' same => hashOf_eq_of_fieldValue hash (eq_iff_fieldValue.1 (eq_of_beq same))⟩

/-- How many elements the set of some messages has. -/
def sizeOfSet (ms : List Message) : Nat :=
  letI := hashable hash
  (Std.HashSet.ofList ms).size

theorem sizeOfSet_eq_card (ms : List Message) : sizeOfSet hash ms = ms.toFinset.card := by
  let := hashable hash
  have := lawfulHashable hash
  -- A hash set keeps its elements apart, so that the hash has no say in how many there are.
  have distinct : (Std.HashSet.ofList ms).toList.Nodup :=
    Std.HashSet.distinct_toList.imp fun different same => by simp [same] at different
  have members : (Std.HashSet.ofList ms).toList.toFinset = ms.toFinset := by
    ext m
    simp [Std.HashSet.mem_toList]
  rw [sizeOfSet, ← Std.HashSet.length_toList, ← List.toFinset_card_of_nodup distinct, members]

theorem wire_injective : Function.Injective wire := by
  intro m m' same
  have both := read_wire m
  rw [same, read_wire m'] at both
  exact (Except.ok.inj both).symm

theorem card_wires (ms : List Message) : (ms.map wire).toFinset.card = ms.toFinset.card := by
  have wires : (ms.map wire).toFinset = ms.toFinset.image wire := by
    ext s
    simp
  rw [wires, Finset.card_image_of_injective _ wire_injective]

end Message

/-! ## Messages of runs -/

namespace Workshop

variable {w : Workshop} {m : Message}

theorem returned_build (built : w.bench.build.1 = .ok m) (steps : List Step) :
    w.returned (.builder .build :: steps) = m :: (w.step (.builder .build)).1.returned steps := by
  simp [returned, step, offer, built, Answer.message?]

theorem returned_construct {args : Message.Arguments} (made : Message.ofArguments args = .ok m)
    (steps : List Step) :
    w.returned (.construct args :: steps) = m :: (w.step (.construct args)).1.returned steps := by
  simp [returned, step, offer, made, Answer.message?]

theorem returned_parse {s : String} (read : Message.read s = .ok m) (steps : List Step) :
    w.returned (.parse s :: steps) = m :: (w.step (.parse s)).1.returned steps := by
  simp [returned, step, offer, read, Answer.message?]

/-- Any messages are those of some run. -/
theorem exists_returned (w : Workshop) (ms : List Message) : ∃ steps, w.returned steps = ms := by
  induction ms generalizing w with
  | nil => exact ⟨[], rfl⟩
  | cons m ms ih =>
    obtain ⟨steps, rest⟩ := ih (w.step (.construct m.arguments)).1
    exact ⟨_, (returned_construct m.ofArguments_arguments steps).trans (congrArg (m :: ·) rest)⟩

/-- Let messages be made in a run, in any ways and as often as one likes. Whatever the hash of a list of values is, and
in whatever order the messages come, the set of them has as many elements as they have different wire forms. Two
of them compare equal exactly if all of their seven fields agree, and then they have the same hash. Any
finite list of messages is made in some run. -/
theorem set_of_run (hash : List Value → UInt64) (bench : Builder.Bench) (steps : List Step) :
    let ms := ((start bench).after steps).messages
    (∀ order : List Message, order.Perm ms →
      Message.sizeOfSet hash order = (ms.map Message.wire).toFinset.card) ∧
    (∀ m ∈ ms, ∀ m' ∈ ms,
      ((m == m') = true ↔ ∀ field, m.fieldValue field = m'.fieldValue field) ∧
      ((m == m') = true → m.hashOf hash = m'.hashOf hash)) ∧
    ∀ others, ∃ steps', ((start bench).after steps').messages = others := by
  intro ms
  refine ⟨fun order perm => ?_, fun m _ m' _ => ?_, fun others => ?_⟩
  · rw [Message.sizeOfSet_eq_card, Message.card_wires, List.toFinset_eq_of_perm _ _ perm]
  · have same : (m == m') = true ↔ ∀ field, m.fieldValue field = m'.fieldValue field :=
      beq_iff_eq.trans Message.eq_iff_fieldValue
    exact ⟨same, fun equal => Message.hashOf_eq_of_fieldValue hash (same.1 equal)⟩
  · obtain ⟨steps', returned⟩ := (start bench).exists_returned others
    exact ⟨steps', (messages_after _ _).trans returned⟩

/-- A builder that has been supplied with all that is not looked up. -/
def linuxBench : Builder.Bench :=
  ⟨default, ⟨.octets [98], .int 7⟩, Builder.linux, .value (.text "2.0")⟩

/-- One message by a builder, by the server's names and from its wire form, and another one by the names of its
fields. -/
def mixedSteps : List Step :=
  [.builder .build,
    .construct [("type", .text "checkversion"), ("os", .text "Linux 5.10 x86_64"), ("bento_version", .text "2.0"),
      ("java_version", .text "17"), ("last_used", .int 7), ("id", .octets [98])],
    .construct (Builder.arguments "Linux 5.10 x86_64" (.text "2.0") (.text "17") (.int 7) (.text "c")),
    .parse (linuxMessage ⟨"b", by decide⟩).wire]

theorem messages_mixedSteps :
    ((start linuxBench).after mixedSteps).messages =
      [linuxMessage ⟨"b", by decide⟩, linuxMessage ⟨"b", by decide⟩, linuxMessage ⟨"c", by decide⟩,
        linuxMessage ⟨"b", by decide⟩] := by
  have built : (start linuxBench).bench.build.1 = .ok (linuxMessage ⟨"b", by decide⟩) := by rfl
  rw [messages_after, mixedSteps, returned_build built,
    returned_construct (m := linuxMessage ⟨"b", by decide⟩) (by rfl),
    returned_construct (m := linuxMessage ⟨"c", by decide⟩) (by rfl), returned_parse (Message.read_wire _)]
  rfl

/-- Four messages, of which three are the same. -/
theorem set_of_run_mixedSteps :
    Message.sizeOfSet (fun _ => 0) ((start linuxBench).after mixedSteps).messages.reverse = 2 ∧
    (linuxMessage ⟨"b", by decide⟩ == linuxMessage ⟨"c", by decide⟩) = false := by
  obtain ⟨size, pairs, -⟩ := set_of_run (fun _ => 0) linuxBench mixedSteps
  have all := messages_mixedSteps
  constructor
  · rw [size _ (List.reverse_perm _), Message.card_wires, all]
    decide
  · have apart := (pairs (linuxMessage ⟨"b", by decide⟩) (by simp [all])
      (linuxMessage ⟨"c", by decide⟩) (by simp [all])).1
    refine Bool.eq_false_iff.2 fun same => ?_
    simpa [Message.fieldValue, linuxMessage] using apart.1 same .id

end Workshop

end Checkin
