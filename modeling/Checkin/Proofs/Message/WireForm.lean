import Checkin.Proofs.Json.Objects
import Checkin.Proofs.Message.Reading

/-!
# Messages and their wire forms

A message is read back from its wire form, whatever characters its texts hold and whatever time of last use
it has, so two messages are equal exactly when their wire forms are.
-/

namespace Checkin.Message

open Checkin.Json Checkin.Text

/-- The value of each field. -/
def fieldValue (m : Message) : Field → Checkin.Value
  | .type => .text type
  | .format => .text format
  | .operatingSystem => .text m.operatingSystem
  | .bentoVersion => .text m.bentoVersion
  | .javaVersion => .text m.javaVersion
  | .lastUsedMillis => .int m.lastUsedMillis
  | .id => .text m.id

/-- The value of each field as JSON has it. -/
def jsonValue (m : Message) : Field → Json.Value
  | .type => .text type
  | .format => .text format
  | .operatingSystem => .text m.operatingSystem
  | .bentoVersion => .text m.bentoVersion
  | .javaVersion => .text m.javaVersion
  | .lastUsedMillis => .int m.lastUsedMillis
  | .id => .text m.id

theorem plain_jsonValue (m : Message) (field : Field) : (m.jsonValue field).plain = m.fieldValue field := by
  cases field <;> rfl

/-- The fields of a message under the server's names for them, as arguments to make a message of. -/
def arguments (m : Message) : Arguments :=
  Field.all.map fun field => (field.wireName, m.fieldValue field)

/-! ## Writing -/

/-- A time of last use has no more digits than a number may have. -/
theorem length_digits_millis (n : Millis) : (digits n.val.natAbs).length ≤ maxWholeDigits := by
  obtain ⟨low, high⟩ := n.property
  simp only [minMillis, maxMillis] at low high
  have bound : n.val.natAbs < 10 ^ 19 := by omega
  have short := length_digits_le bound (by decide)
  have room : 19 ≤ maxWholeDigits := by decide
  omega

/-- What is written for a field stands for its value. -/
theorem written_fieldChars (m : Message) (field : Field) :
    Written (m.fieldChars field) (m.jsonValue field) := by
  cases field with
  | lastUsedMillis => exact written_numeralChars (length_digits_millis m.lastUsedMillis)
  | _ => exact written_stringChars _

/-- A field as a member of the object that is written. -/
def member (m : Message) (field : Field) : WrittenMember :=
  ⟨field.wireName, m.fieldChars field, m.jsonValue field, m.written_fieldChars field⟩

theorem nodup_wireNames : (Field.all.map Field.wireName).Nodup := by decide

/-- The wire form is the object of the seven fields. -/
theorem read?_wire (m : Message) :
    Json.read? m.wire = some (.object (Field.all.map fun field => (field.wireName, m.jsonValue field))) := by
  have object := read?_objectChars (Field.all.map m.member)
  have members : (Field.all.map m.member).map WrittenMember.read =
      Field.all.map fun field => (field.wireName, m.jsonValue field) := by
    simp [member, WrittenMember.read]
  have source : (Field.all.map m.member).map WrittenMember.source =
      Field.all.map fun field => (field.wireName, m.fieldChars field) := by
    simp [member, WrittenMember.source]
  rw [members, source] at object
  exact object

/-- There is no control character in a wire form, so it is one line. -/
theorem le_toNat_of_mem_wire {m : Message} {c : Char} (inside : c ∈ m.wire.toList) : 32 ≤ c.toNat := by
  rw [wire, String.toList_ofList] at inside
  refine le_toNat_of_mem_objectChars ?_ inside
  intro member among d inside
  obtain ⟨field, -, rfl⟩ := List.mem_map.1 among
  cases field with
  | lastUsedMillis => exact le_toNat_of_mem_numeralChars inside
  | _ => exact le_toNat_of_mem_stringChars inside

/-! ## Reading -/

theorem supplied?_arguments (m : Message) (field : Field) :
    field.supplied? m.arguments = some (field.wireName, m.fieldValue field) := by
  cases field <;> rfl

theorem checkText_val (s : NonemptyText) : checkText (.text s) = .ok s := by
  simp [checkText, s.property]

theorem checkMillis_val (n : Millis) : checkMillis (.int n) = .ok n := by
  have above : ¬ maxMillis < n.val := Int.not_lt.2 n.property.2
  have below : ¬ n.val < minMillis := Int.not_lt.2 n.property.1
  simp [checkMillis, above, below]

/-- Every name of the wire form supplies a field. -/
theorem unexpected_arguments (m : Message) : unexpected m.arguments = [] := by
  have used : (Field.all.filterMap fun field => (field.supplied? m.arguments).map (·.1)) =
      Field.all.map Field.wireName := by
    simp [supplied?_arguments]
  have known : ∀ arg ∈ m.arguments, arg.1 ∈ Field.all.map Field.wireName := by
    intro arg given
    obtain ⟨field, listed, rfl⟩ := List.mem_map.1 given
    exact List.mem_map_of_mem listed
  rw [unexpected, used, List.map_eq_nil_iff, List.filter_eq_nil_iff]
  intro arg given
  simpa using known arg given

/-- The fields of a message make that message. -/
theorem ofArguments_arguments (m : Message) : ofArguments m.arguments = .ok m := by
  simp only [ofArguments, validate, constant, required, supplied?_arguments, fieldValue, unexpected_arguments,
    checkConstant, checkText_val, checkMillis_val, if_true]
  rfl

theorem read_wire (m : Message) : read m.wire = .ok m := by
  have keys : ((Field.all.map fun field => (field.wireName, m.jsonValue field)).map Prod.fst).Nodup := by
    simpa [Function.comp_def] using nodup_wireNames
  have means : Json.Value.plainMembers (Field.all.map fun field => (field.wireName, m.jsonValue field)) =
      m.arguments := by
    simp [Json.Value.plainMembers_eq_map, arguments, plain_jsonValue]
  rw [read_of_object (read?_wire m), Entries.distinct_eq_self keys, means, ofArguments_arguments]

/-- The wire form of a message is read back as the message itself, and therefore tells messages apart. -/
theorem wire_readBack (m : Message) :
    read m.wire = .ok m ∧ ∀ other : Message, m.wire = other.wire ↔ m = other := by
  refine ⟨read_wire m, ?_⟩
  intro other
  constructor
  · intro same
    have both : Except.ok m = (Except.ok other : Except Report Message) := by
      rw [← read_wire m, same, read_wire other]
    exact Except.ok.inj both
  · rintro rfl
    rfl

end Checkin.Message
