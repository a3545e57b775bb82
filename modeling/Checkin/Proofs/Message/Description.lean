import Checkin.Proofs.Message.Validation
import Checkin.Proofs.Message.WireForm

/-!
# Values that describe a message

Named values make a message exactly if they describe it field by field. So what a message holds was supplied,
and what is not fit for a message makes none.
-/

namespace Checkin.Message

/-- What is supplied for a field passes for its value: it is that value, or octets that hold the text. No octets
pass for the type and the format. -/
inductive Field.Takes (field : Field) : Value → Value → Prop
  | same (v : Value) : field.Takes v v
  | octets {bs : List UInt8} {s : String} : field ≠ .type → field ≠ .format → Text.decode bs = .ok s →
      field.Takes (.octets bs) (.text s)

/-- What is supplied for a field, if anything, passes for a value; only the type and the format may be left out.
-/
def Field.Matches (field : Field) (args : Arguments) (w : Value) : Prop :=
  (field.supplied? args = none ∧ (field = .type ∨ field = .format)) ∨
    ∃ name v, field.supplied? args = some (name, v) ∧ field.Takes v w

/-- Every field of a message matches what is supplied for it, and every name supplies a field. -/
structure Describes (args : Arguments) (m : Message) : Prop where
  fields : ∀ field : Field, field.Matches args (m.fieldValue field)
  expected : ∀ name, (Entries.last? args name).isSome →
    ∃ (field : Field) (v : Value), field.supplied? args = some (name, v)

theorem Field.mem_all (field : Field) : field ∈ Field.all := by
  cases field <;> decide

section Fields

variable {args : Arguments} {field : Field} {v : Value}

theorem Field.takes_int_iff {n : Int} : field.Takes v (.int n) ↔ v = .int n := by
  constructor
  · rintro ⟨⟩
    rfl
  · rintro rfl
    exact .same _

theorem Field.takes_text_iff (free : ¬ (field = .type ∨ field = .format)) {s : String} :
    field.Takes v (.text s) ↔ v.Spells s := by
  rw [not_or] at free
  constructor
  · rintro (_ | ⟨-, -, decoded⟩)
    · exact .text s
    · exact .octets decoded
  · rintro (_ | decoded)
    · exact .same _
    · exact .octets free.1 free.2 decoded

theorem Field.takes_constant_iff (pinned : field = .type ∨ field = .format) {s : String} :
    field.Takes v (.text s) ↔ checkConstant s v = .ok () := by
  constructor
  · rintro (_ | ⟨type, format, -⟩)
    · simp [checkConstant]
    · rcases pinned with rfl | rfl
      · exact absurd rfl type
      · exact absurd rfl format
  · intro checked
    cases v with
    | text t =>
      simp only [checkConstant] at checked
      split at checked
      · next same => exact same ▸ .same _
      · cases checked
    | _ => cases checked

theorem constant_eq_ok_iff (pinned : field = .type ∨ field = .format) {expected : String} :
    constant args field (checkConstant expected) = .ok () ↔ field.Matches args (.text expected) := by
  unfold constant Field.Matches
  rcases field.supplied? args with _ | ⟨name, v⟩
  · simp [pinned]
  · have taken := Field.takes_constant_iff (v := v) (s := expected) pinned
    cases checked : checkConstant expected v <;> simp [checked, taken]

theorem required_eq_ok_iff_matches {α : Type} {check : Value → Except Problem α} {a : α} {w : Value}
    (free : ¬ (field = .type ∨ field = .format))
    (takes : ∀ v, field.Takes v w ↔ check v = .ok a) :
    required args field check = .ok a ↔ field.Matches args w := by
  unfold Field.Matches
  cases supplied : field.supplied? args with
  | none => simp [required, supplied, free]
  | some given =>
    obtain ⟨name, v⟩ := given
    simp [required_eq_ok_iff supplied, takes]

theorem requiredText_eq_ok_iff (free : ¬ (field = .type ∨ field = .format)) {s : NonemptyText} :
    required args field checkText = .ok s ↔ field.Matches args (.text s) :=
  required_eq_ok_iff_matches free fun _ => (Field.takes_text_iff free).trans checkText_eq_ok_iff.symm

theorem requiredMillis_eq_ok_iff {n : Millis} :
    required args .lastUsedMillis checkMillis = .ok n ↔ Field.lastUsedMillis.Matches args (.int n) :=
  required_eq_ok_iff_matches (by simp) fun _ => Field.takes_int_iff.trans checkMillis_eq_ok_iff.symm

end Fields

/-- No name is unexpected if every name supplies a field. -/
theorem unexpected_eq_nil_iff_supplies {args : Arguments} :
    unexpected args = [] ↔ ∀ name, (Entries.last? args name).isSome →
      ∃ (field : Field) (v : Value), field.supplied? args = some (name, v) := by
  rw [unexpected_eq_nil_iff]
  refine forall₂_congr fun name _ => ?_
  rw [List.mem_filterMap]
  constructor
  · rintro ⟨field, -, used⟩
    obtain ⟨⟨name, v⟩, supplied, rfl⟩ := Option.map_eq_some_iff.1 used
    exact ⟨field, v, supplied⟩
  · rintro ⟨field, v, supplied⟩
    exact ⟨field, field.mem_all, by rw [supplied]; rfl⟩

theorem makes_iff_describes {args : Arguments} {m : Message} : Makes args m ↔ Describes args m := by
  constructor
  · rintro ⟨type, format, os, version, java, millis, id, expected⟩
    refine ⟨fun field => ?_, unexpected_eq_nil_iff_supplies.1 expected⟩
    cases field with
    | type => exact (constant_eq_ok_iff (by simp)).1 type
    | format => exact (constant_eq_ok_iff (by simp)).1 format
    | operatingSystem => exact (requiredText_eq_ok_iff (by simp)).1 os
    | bentoVersion => exact (requiredText_eq_ok_iff (by simp)).1 version
    | javaVersion => exact (requiredText_eq_ok_iff (by simp)).1 java
    | lastUsedMillis => exact requiredMillis_eq_ok_iff.1 millis
    | id => exact (requiredText_eq_ok_iff (by simp)).1 id
  · rintro ⟨fields, expected⟩
    exact ⟨(constant_eq_ok_iff (by simp)).2 (fields .type), (constant_eq_ok_iff (by simp)).2 (fields .format),
      (requiredText_eq_ok_iff (by simp)).2 (fields .operatingSystem),
      (requiredText_eq_ok_iff (by simp)).2 (fields .bentoVersion),
      (requiredText_eq_ok_iff (by simp)).2 (fields .javaVersion),
      requiredMillis_eq_ok_iff.2 (fields .lastUsedMillis),
      (requiredText_eq_ok_iff (by simp)).2 (fields .id), unexpected_eq_nil_iff_supplies.2 expected⟩

/-- Named values make a message exactly if they describe it. -/
theorem ofArguments_eq_ok_iff_describes {args : Arguments} {m : Message} :
    ofArguments args = .ok m ↔ Describes args m :=
  ofArguments_eq_ok_iff.trans makes_iff_describes

end Checkin.Message
