import Checkin.Message.Validation
import Checkin.Proofs.Basic
import Checkin.Proofs.Entries

/-!
# Validation of messages

What becomes of named values: a message whose fields they are (`Makes`), or a report of everything that is
wrong with them (`complaints`). Only the last value of a name counts for the message; the order and the
repetitions show in the report alone.
-/

namespace Checkin

/-! ## Values of single fields -/

namespace Value

/-- A value stands for a text: the text itself, or octets that hold it in UTF-8. -/
inductive Spells : Value → String → Prop
  | text (s : String) : Spells (.text s) s
  | octets {bs : List UInt8} {s : String} : Text.decode bs = .ok s → Spells (.octets bs) s

/-- What keeps a value from standing for a text. -/
def textProblem? : Value → Option Problem
  | .text _ => none
  | .octets bs =>
    match Text.decode bs with
    | .ok _ => none
    | .error _ => some .notUtf8
  | _ => some .notText

/-- What keeps a value from being a time of last use. -/
def millisProblem? : Value → Option Problem
  | .int n =>
    if maxMillis < n then some .aboveMaximum else if n < minMillis then some .belowMinimum else none
  | _ => some .notInteger

theorem spells_text_iff {s t : String} : (Value.text s).Spells t ↔ s = t := by
  constructor
  · rintro ⟨⟩
    rfl
  · rintro rfl
    exact .text s

theorem Spells.unique {v : Value} {s t : String} (first : v.Spells s) (second : v.Spells t) : s = t := by
  cases first with
  | text => exact spells_text_iff.1 second
  | octets decoded =>
    cases second with
    | octets again => exact Except.ok.inj (decoded.symm.trans again)

theorem textProblem?_eq_none_iff {v : Value} : v.textProblem? = none ↔ ∃ s, v.Spells s := by
  constructor
  · intro fine
    cases v with
    | text s => exact ⟨s, .text s⟩
    | octets bs =>
      cases decoded : Text.decode bs with
      | ok s => exact ⟨s, .octets decoded⟩
      | error fault => simp [textProblem?, decoded] at fine
    | _ => cases fine
  · rintro ⟨s, spells⟩
    cases spells with
    | text => rfl
    | octets decoded => simp [textProblem?, decoded]

theorem millisProblem?_eq_none_iff {v : Value} :
    v.millisProblem? = none ↔ ∃ n : Millis, v = .int n := by
  constructor
  · intro fine
    cases v with
    | int n =>
      simp only [millisProblem?] at fine
      split at fine
      · cases fine
      split at fine
      · cases fine
      next above below => exact ⟨⟨n, Int.not_lt.1 below, Int.not_lt.1 above⟩, rfl⟩
    | _ => cases fine
  · rintro ⟨n, rfl⟩
    simp [millisProblem?, Int.not_lt.2 n.property.1, Int.not_lt.2 n.property.2]

end Value

namespace Text

theorem decodeFrom_eq_nil {bs : List UInt8} {position : Nat} {within : Option Partial}
    (decoded : decodeFrom position within bs = .ok []) : bs = [] ∧ within = none := by
  have notNil : ∀ (c : Char) (rest : Except Utf8Fault (List Char)), (c :: ·) <$> rest ≠ .ok [] := by
    intro c rest
    cases rest <;> simp [Functor.map, Except.map]
  fun_induction decodeFrom position within bs with
  | case1 => exact ⟨rfl, rfl⟩
  | case3 => exact absurd decoded (notNil _ _)
  | case5 _ _ _ _ _ _ ih => exact absurd (ih decoded).2 (by simp)
  | case6 => exact absurd decoded (notNil _ _)
  | case7 _ _ _ _ _ _ _ _ ih => exact absurd (ih decoded).2 (by simp)
  | _ => cases decoded

/-- Only no octets at all hold the empty text. -/
theorem decode_eq_empty {bs : List UInt8} (decoded : decode bs = .ok "") : bs = [] := by
  unfold decode at decoded
  cases read : decodeFrom 0 none bs with
  | error fault => simp [read, Functor.map, Except.map] at decoded
  | ok cs =>
    simp only [read, Functor.map, Except.map, Except.ok.injEq] at decoded
    have none : cs = [] := by simpa using congrArg String.toList decoded
    exact (decodeFrom_eq_nil (none ▸ read)).1

end Text

/-- What a value that is not falsy spells is no empty text. -/
theorem Value.Spells.ne_empty {v : Value} {s : String} (spells : v.Spells s) (truthy : v.isFalsy = false) :
    s ≠ "" := by
  rintro rfl
  cases spells with
  | text => cases truthy
  | octets decoded =>
    rw [Text.decode_eq_empty decoded] at truthy
    cases truthy

namespace Message

theorem checkText_eq_ok_iff {v : Value} {s : NonemptyText} : checkText v = .ok s ↔ v.Spells s := by
  constructor
  · intro checked
    cases v with
    | text t =>
      simp only [checkText] at checked
      split at checked
      · cases checked
      · cases checked
        exact .text t
    | octets bs =>
      simp only [checkText] at checked
      split at checked
      · cases checked
      · next t decoded =>
        split at checked
        · cases checked
        · cases checked
          exact .octets decoded
    | _ => cases checked
  · intro spells
    obtain ⟨s, some⟩ := s
    cases spells with
    | text => simp [checkText, some]
    | octets decoded => simp [checkText, decoded, some]

/-- A value that is not falsy is no empty text, so it is refused only for its kind. -/
theorem checkText_eq_error_iff {v : Value} {problem : Problem} (truthy : v.isFalsy = false) :
    checkText v = .error problem ↔ v.textProblem? = some problem := by
  cases v with
  | text s =>
    have some : s ≠ "" := (Value.Spells.text s).ne_empty truthy
    simp [checkText, Value.textProblem?, some]
  | octets bs =>
    cases decoded : Text.decode bs with
    | error fault => simp [checkText, Value.textProblem?, decoded]
    | ok s =>
      have some : s ≠ "" := (Value.Spells.octets decoded).ne_empty truthy
      simp [checkText, Value.textProblem?, decoded, some]
  | _ => simp [checkText, Value.textProblem?]

theorem checkMillis_eq_ok_iff {v : Value} {n : Millis} : checkMillis v = .ok n ↔ v = .int n := by
  constructor
  · intro checked
    cases v with
    | int i =>
      simp only [checkMillis] at checked
      split at checked
      · cases checked
      split at checked
      · cases checked
      · cases checked
        rfl
    | _ => cases checked
  · rintro rfl
    simp [checkMillis, Int.not_lt.2 n.property.1, Int.not_lt.2 n.property.2]

theorem checkMillis_eq_error_iff {v : Value} {problem : Problem} :
    checkMillis v = .error problem ↔ v.millisProblem? = some problem := by
  cases v with
  | int n =>
    simp only [checkMillis, Value.millisProblem?]
    split
    · simp
    · split <;> simp
  | _ => simp [checkMillis, Value.millisProblem?]

section Required

variable {α : Type} {args : Arguments} {field : Field} {name : String} {value : Value}
  {check : Value → Except Problem α}

theorem required_eq_ok_iff (supplied : field.supplied? args = some (name, value)) {a : α} :
    required args field check = .ok a ↔ check value = .ok a := by
  unfold required
  rw [supplied]
  dsimp only
  cases check value <;> simp

theorem requiredText_iff (supplied : field.supplied? args = some (name, value)) {s : NonemptyText} :
    required args field checkText = .ok s ↔ value.Spells s := by
  rw [required_eq_ok_iff supplied, checkText_eq_ok_iff]

theorem requiredMillis_iff (supplied : field.supplied? args = some (name, value)) {n : Millis} :
    required args field checkMillis = .ok n ↔ value = .int n := by
  rw [required_eq_ok_iff supplied, checkMillis_eq_ok_iff]

theorem complaint?_required (supplied : field.supplied? args = some (name, value))
    {problem? : Option Problem}
    (refuses : ∀ problem, check value = .error problem ↔ problem? = some problem) :
    complaint? (required args field check) = problem?.map (⟨name, ·⟩) := by
  unfold required
  rw [supplied]
  cases checked : check value with
  | ok a =>
    have fine : problem? = none := by
      rw [Option.eq_none_iff_forall_ne_some]
      intro problem found
      rw [(refuses problem).2 found] at checked
      cases checked
    rw [fine]
    simp [checked, complaint?]
  | error problem =>
    rw [(refuses problem).1 checked]
    simp [checked, complaint?]

end Required

/-! ## All fields together -/

/-- Named values make a message: each field has its checked value, and every name supplies a field. -/
structure Makes (args : Arguments) (m : Message) : Prop where
  type : constant args .type (checkConstant Message.type) = .ok ()
  format : constant args .format (checkConstant Message.format) = .ok ()
  operatingSystem : required args .operatingSystem checkText = .ok m.operatingSystem
  bentoVersion : required args .bentoVersion checkText = .ok m.bentoVersion
  javaVersion : required args .javaVersion checkText = .ok m.javaVersion
  lastUsedMillis : required args .lastUsedMillis checkMillis = .ok m.lastUsedMillis
  id : required args .id checkText = .ok m.id
  expected : unexpected args = []

/-- Everything that is wrong with named values: the fields in their order, then the names without a field.
-/
def complaints (args : Arguments) : List Complaint :=
  [complaint? (constant args .type (checkConstant Message.type)),
    complaint? (constant args .format (checkConstant Message.format)),
    complaint? (required args .operatingSystem checkText),
    complaint? (required args .bentoVersion checkText), complaint? (required args .javaVersion checkText),
    complaint? (required args .lastUsedMillis checkMillis),
    complaint? (required args .id checkText)].filterMap (·) ++ unexpected args

theorem ofArguments_eq_ok_iff {args : Arguments} {m : Message} :
    ofArguments args = .ok m ↔ Makes args m := by
  constructor
  · intro made
    simp only [ofArguments, validate] at made
    split at made
    · next type format operatingSystem bentoVersion javaVersion lastUsedMillis id expected =>
      cases made
      exact ⟨type, format, operatingSystem, bentoVersion, javaVersion, lastUsedMillis, id, expected⟩
    · cases made
  · intro makes
    simp only [ofArguments, validate, makes.type, makes.format, makes.operatingSystem, makes.bentoVersion,
      makes.javaVersion, makes.lastUsedMillis, makes.id, makes.expected]

/-- Named values that make no message are reported with everything that is wrong. -/
theorem ofArguments_eq_error {args : Arguments} (makesNone : ∀ m, ¬ Makes args m) :
    ofArguments args = .error (.fields (complaints args)) := by
  cases made : ofArguments args with
  | ok m => exact absurd (ofArguments_eq_ok_iff.1 made) (makesNone m)
  | error report =>
    simp only [ofArguments, validate] at made
    split at made
    · cases made
    · cases made
      rfl

/-! ## Which values of a name count -/

section View

variable {args others : Arguments}

theorem supplied?_congr (same : ∀ key, Entries.last? args key = Entries.last? others key) (field : Field) :
    field.supplied? args = field.supplied? others := by
  simp only [Field.supplied?, same]

theorem unexpected_eq_nil_iff {args : Arguments} :
    unexpected args = [] ↔ ∀ key, (Entries.last? args key).isSome →
      key ∈ Field.all.filterMap fun field => (field.supplied? args).map (·.1) := by
  simp only [unexpected, List.map_eq_nil_iff, List.filter_eq_nil_iff, Entries.isSome_last?_iff]
  simp

/-- Whether named values make a message depends on the last value of each name alone. -/
theorem Makes.congr {m : Message} (makes : Makes args m)
    (same : ∀ key, Entries.last? args key = Entries.last? others key) : Makes others m := by
  have supplied := supplied?_congr same
  obtain ⟨type, format, operatingSystem, bentoVersion, javaVersion, lastUsedMillis, id, expected⟩ := makes
  rw [unexpected_eq_nil_iff] at expected
  simp only [constant, required, supplied, same] at *
  exact ⟨type, format, operatingSystem, bentoVersion, javaVersion, lastUsedMillis, id,
    unexpected_eq_nil_iff.2 expected⟩

end View

end Message

end Checkin
