import Mathlib
import Checkin.Message.Reading
import Checkin.Proofs.Json.Grammar
import Checkin.Proofs.Message.Validation

/-!
# Messages from objects and from named values

A message may be read from a JSON object, whose values are checked as JSON has them, or made from the values of a
caller. A JSON value means a caller's value (`plain`), and what is found of the one is what is found of the
other. So both ways lead to the same message, and to the same report where no name of the object is repeated.
-/

namespace Checkin

namespace Json

/-- A text is written for an object with the given members: all of them, in the order in which they are
written. -/
def WritesObject (s : String) (members : List (String × Value)) : Prop :=
  ∃ trees, scan s = some (Tree.object trees).tokens ∧ Tree.namedValues trees = members

namespace Value

mutual

/-- The caller's value that a JSON value means. An object means the names of its members, once each, with their
last values. -/
def plain : Value → Checkin.Value
  | .null => .null
  | .bool b => .bool b
  | .int n => .int n
  | .float x => .float x
  | .text s => .text s
  | .list items => .list (plainItems items)
  | .object members => .dict (Entries.distinct (plainMembers members))

/-- What items mean. -/
def plainItems : List Value → List Checkin.Value
  | [] => []
  | item :: items => item.plain :: plainItems items

/-- What members mean, repeated names included. -/
def plainMembers : List (String × Value) → List (String × Checkin.Value)
  | [] => []
  | (name, v) :: members => (name, v.plain) :: plainMembers members

end

theorem plainMembers_eq_map (members : List (String × Value)) :
    plainMembers members = members.map fun member => (member.1, member.2.plain) := by
  induction members with
  | nil => rfl
  | cons member members ih => rw [plainMembers, ih, List.map_cons]

end Value

end Json

namespace Entries

variable {α β γ : Type} [BEq α]

theorem lookup_map (f : β → γ) (entries : List (α × β)) (key : α) :
    (entries.map fun entry => (entry.1, f entry.2)).lookup key = (entries.lookup key).map f := by
  induction entries with
  | nil => rfl
  | cons entry entries ih =>
    rw [List.map_cons, List.lookup_cons, List.lookup_cons, ih]
    split <;> rfl

theorem last?_map (f : β → γ) (entries : List (α × β)) (key : α) :
    last? (entries.map fun entry => (entry.1, f entry.2)) key = (last? entries key).map f := by
  rw [last?, ← List.map_reverse, lookup_map, last?]

end Entries

namespace Message

/-! ## Checks that agree -/

/-- Two sorts of values are checked alike: what is found of a value is what is found of the one that it stands
for. -/
structure Checks.Agree {β γ : Type} (checks : Checks β) (checks' : Checks γ) (f : β → γ) : Prop where
  text : ∀ v, checks'.text (f v) = checks.text v
  millis : ∀ v, checks'.millis (f v) = checks.millis v
  constant : ∀ expected v, checks'.constant expected (f v) = checks.constant expected v

section Agreement

variable {α β γ : Type} {checks : Checks β} {checks' : Checks γ} (f : β → γ) (args : List (String × β))
  (field : Field)

theorem supplied?_map : field.supplied? (args.map fun arg => (arg.1, f arg.2)) =
    (field.supplied? args).map fun given => (given.1, f given.2) := by
  unfold Field.supplied?
  rw [Entries.last?_map, Entries.last?_map]
  cases Entries.last? args field.wireName with
  | some value => rfl
  | none => cases Entries.last? args field.name <;> rfl

theorem required_map {check : β → Except Problem α} {check' : γ → Except Problem α}
    (agree : ∀ v, check' (f v) = check v) :
    required (args.map fun arg => (arg.1, f arg.2)) field check' = required args field check := by
  unfold required
  rw [supplied?_map]
  cases field.supplied? args with
  | none => rfl
  | some given => simp only [Option.map_some, agree]

theorem constant_map {check : β → Except Problem Unit} {check' : γ → Except Problem Unit}
    (agree : ∀ v, check' (f v) = check v) :
    constant (args.map fun arg => (arg.1, f arg.2)) field check' = constant args field check := by
  unfold constant
  rw [supplied?_map]
  cases field.supplied? args with
  | none => rfl
  | some given => simp only [Option.map_some, agree]

theorem unexpected_map : unexpected (args.map fun arg => (arg.1, f arg.2)) = unexpected args := by
  simp only [unexpected, supplied?_map, Option.map_map, List.filter_map, List.map_map]
  rfl

variable {f}

/-- Values that are checked alike make the same message, or are reported alike. -/
theorem validate_map (agree : checks.Agree checks' f) :
    validate checks' (args.map fun arg => (arg.1, f arg.2)) = validate checks args := by
  simp only [validate, constant_map f args _ (agree.constant _), required_map f args _ agree.text,
    required_map f args _ agree.millis, unexpected_map]

end Agreement

/-- A JSON value is checked as the value that it means. -/
theorem agree_read : Checks.Agree ⟨readText, readMillis, readConstant⟩ ⟨checkText, checkMillis, checkConstant⟩
    Json.Value.plain where
  text v := by cases v <;> rfl
  millis v := by cases v <;> rfl
  constant expected v := by cases v <;> rfl

/-! ## Reading objects -/

section Objects

variable {s : String} {members : List (String × Json.Value)} {m : Message}

/-- An object is read as what its members mean, each name taken once. -/
theorem read_of_object (accepted : Json.read? s = some (.object members)) :
    read s = ofArguments (Json.Value.plainMembers (Entries.distinct members)) := by
  rw [read, accepted, Json.Value.plainMembers_eq_map]
  exact (validate_map _ agree_read).symm

theorem exists_object_of_read (made : read s = .ok m) : ∃ members, Json.read? s = some (.object members) := by
  unfold read at made
  split at made
  · cases made
  · next members accepted => exact ⟨members, accepted⟩
  · cases made

/-- Of a name that is repeated the last value counts. -/
theorem last?_plainMembers_distinct (members : List (String × Json.Value)) (name : String) :
    Entries.last? (Json.Value.plainMembers (Entries.distinct members)) name =
      (Entries.last? members name).map Json.Value.plain := by
  rw [Json.Value.plainMembers_eq_map, Entries.last?_map, Entries.last?_distinct]

/-- Values under distinct names that are the last values of an object's members make the message that the
object is read as. -/
theorem read_eq_ok_iff_of_last (accepted : Json.read? s = some (.object members)) {args : Arguments}
    (last : ∀ name, Entries.last? args name = (Entries.last? members name).map Json.Value.plain) :
    read s = .ok m ↔ ofArguments args = .ok m := by
  have same : ∀ name, Entries.last? (Json.Value.plainMembers (Entries.distinct members)) name =
      Entries.last? args name := fun name => by rw [last?_plainMembers_distinct, last]
  rw [read_of_object accepted, ofArguments_eq_ok_iff, ofArguments_eq_ok_iff]
  exact ⟨fun makes => makes.congr same, fun makes => makes.congr fun name => (same name).symm⟩

/-- Let a text be read as an object with some members, which are all that is written in it. A message is read from
it if and only if the last values of their names make one, in whatever order these are given, and it is the
same message. If no name is repeated, what is reported of the text is what is reported of its members. -/
theorem read_eq_ofArguments (accepted : Json.read? s = some (.object members)) :
    Json.WritesObject s members ∧
    (∀ args : Arguments, (args.map Prod.fst).Nodup →
      (∀ name, args.lookup name = (Entries.last? members name).map Json.Value.plain) →
        ∀ m, read s = .ok m ↔ ofArguments args = .ok m) ∧
    ((members.map Prod.fst).Nodup →
      ∀ report, read s = .error report ↔ ofArguments (Json.Value.plainMembers members) = .error report) := by
  refine ⟨Json.exists_members_of_read? accepted, fun args unique last m => ?_, fun unique report => ?_⟩
  · refine read_eq_ok_iff_of_last accepted fun name => ?_
    rw [Entries.last?_eq_lookup unique, last]
  · rw [read_of_object accepted, Entries.distinct_eq_self unique]

end Objects

/-- A text whose members give the id twice, first as a number. -/
def repeatedId : String :=
  "\x7b\"os\":\"L 5 x\",\"bento_version\":\"2\",\"java_version\":\"3\",\"id\":7,\"last_used\":7,\"id\":\"b\"\x7d"

/-- There, the last id counts. -/
theorem read_eq_ofArguments_repeatedId :
    Json.WritesObject repeatedId [("os", .text "L 5 x"), ("bento_version", .text "2"),
      ("java_version", .text "3"), ("id", .int 7), ("last_used", .int 7), ("id", .text "b")] ∧
    ∀ m, read repeatedId = .ok m ↔
      ofArguments [("id", .text "b"), ("last_used", .int 7), ("java_version", .text "3"),
        ("bento_version", .text "2"), ("os", .text "L 5 x")] = .ok m := by
  have scanned : Json.scan repeatedId =
      some (Json.Tree.object [("os", .text "L 5 x"), ("bento_version", .text "2"),
        ("java_version", .text "3"), ("id", .word (.int 7)), ("last_used", .word (.int 7)),
        ("id", .text "b")]).tokens := by cbv
  have accepted : Json.read? repeatedId = some (.object [("os", .text "L 5 x"),
      ("bento_version", .text "2"), ("java_version", .text "3"), ("id", .int 7), ("last_used", .int 7),
      ("id", .text "b")]) := Json.read?_of_tokens scanned
  obtain ⟨written, made, -⟩ := read_eq_ofArguments accepted
  refine ⟨written, made _ (by decide) fun name => ?_⟩
  rw [← Entries.last?_map]
  simp only [Entries.last?, List.map_cons, List.map_nil, Json.Value.plain, List.reverse_cons, List.reverse_nil,
    List.nil_append, List.cons_append, List.lookup_cons]
  grind

end Message

end Checkin
