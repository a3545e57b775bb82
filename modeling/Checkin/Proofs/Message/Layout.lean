import Checkin.Proofs.Json.Conformance
import Checkin.Proofs.Message.WireForm

/-!
# Layout of wire forms

A reader of standard JSON, which knows nothing of messages, finds the seven fields of a message in its wire
form, in their order and with their values.
-/

namespace Checkin.Message

open Checkin.Json Standard

variable (m : Message)

/-- The value of each field as standard JSON. -/
def fieldElement : Field → Element
  | .type => .string (codes type)
  | .format => .string (codes format)
  | .operatingSystem => .string (codes m.operatingSystem)
  | .bentoVersion => .string (codes m.bentoVersion)
  | .javaVersion => .string (codes m.javaVersion)
  | .lastUsedMillis => .number (numeralOf m.lastUsedMillis)
  | .id => .string (codes m.id)

theorem standsFor_fieldChars (field : Field) : StandsFor (m.fieldChars field) (m.fieldElement field) := by
  cases field with
  | lastUsedMillis => exact standsFor_numeralChars _
  | _ => exact standsFor_stringChars _

/-- A field as a member of the object that is written. -/
def standardMember (field : Field) : Standard.WrittenMember :=
  ⟨field.wireName, m.fieldChars field, m.fieldElement field, m.standsFor_fieldChars field⟩

theorem wire_eq_objectChars :
    m.wire = String.ofList (objectChars ((Field.all.map m.standardMember).map Standard.WrittenMember.source)) := by
  rw [List.map_map]
  rfl

/-- A wire form is standard JSON: one object with the seven fields in their order. The six texts are those of the
message, and the time of last use is a whole number without fraction or exponent. There is no white space
outside of strings, and no character below U+0020 at all. -/
theorem wire_conforms :
    (∃ n : Numeral, Standard.read? m.wire = some (.object [
        (codes "type", .string (codes type)), (codes "request_format", .string (codes format)),
        (codes "os", .string (codes m.operatingSystem)),
        (codes "bento_version", .string (codes m.bentoVersion)),
        (codes "java_version", .string (codes m.javaVersion)), (codes "last_used", .number n),
        (codes "id", .string (codes m.id))]) ∧
      n.fraction = none ∧ n.exponent = none ∧ n.wholePart = m.lastUsedMillis) ∧
    (∀ c ∈ Standard.outside m.wire.toList, Standard.isSpace c = false) ∧ ∀ c ∈ m.wire.toList, 0x20 ≤ c.toNat := by
  refine ⟨⟨numeralOf m.lastUsedMillis, ?_, rfl, rfl, wholePart_numeralOf _⟩, fun c inside => ?_,
    fun c => le_toNat_of_mem_wire⟩
  · rw [wire_eq_objectChars]
    exact read?_objectChars _ _
  · rw [wire_eq_objectChars, String.toList_ofList] at inside
    exact isSpace_of_mem_outside_objectChars _ _ inside

end Checkin.Message
