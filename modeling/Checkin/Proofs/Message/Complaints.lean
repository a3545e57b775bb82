import Checkin.Proofs.Message.Description

/-!
# Complaints about named values

What may be said against named values, rule by rule (`Field.Refuses`, `Field.Offends`, `Unexpected`), without
regard to how they are checked. If the names are not repeated, they make a message as soon as there is nothing
to say against them; else everything there is to say is reported, once and in order.
-/

namespace Checkin.Message

variable {args others : Arguments} {field : Field} {name : String} {v : Value} {problem : Problem}
  {c : Complaint}

/-- The name under which a value is given for a field, and the value: the field's own name counts if the
server's name for it is not given. -/
inductive Field.Given (field : Field) (args : Arguments) : String → Value → Prop
  | wireName {v : Value} : (field.wireName, v) ∈ args → field.Given args field.wireName v
  | name {v : Value} : field.wireName ∉ args.map Prod.fst → (field.name, v) ∈ args →
      field.Given args field.name v

/-- The value of a field that is the same in every message. -/
def Field.constant? : Field → Option String
  | .type => some Message.type
  | .format => some Message.format
  | _ => none

/-- A field holds a text of the caller's. -/
def Field.HoldsText (field : Field) : Prop :=
  field.constant? = none ∧ field ≠ .lastUsedMillis

/-- The rules by which a field refuses a value. -/
inductive Field.Refuses : Field → Value → Problem → Prop
  | notConstant {field : Field} {expected : String} {v : Value} : field.constant? = some expected →
      v ≠ .text expected → field.Refuses v (.notConstant expected)
  | notText {field : Field} {v : Value} : field.HoldsText → (∀ s, v ≠ .text s) → (∀ bs, v ≠ .octets bs) →
      field.Refuses v .notText
  | notUtf8 {field : Field} {bs : List UInt8} : field.HoldsText → (∀ s, Text.decode bs ≠ .ok s) →
      field.Refuses (.octets bs) .notUtf8
  | emptyText {field : Field} {v : Value} : field.HoldsText → v.Spells "" → field.Refuses v .emptyText
  | notInteger {v : Value} : (∀ n, v ≠ .int n) → Field.lastUsedMillis.Refuses v .notInteger
  | aboveMaximum {n : Int} : maxMillis < n → Field.lastUsedMillis.Refuses (.int n) .aboveMaximum
  | belowMinimum {n : Int} : n < minMillis → Field.lastUsedMillis.Refuses (.int n) .belowMinimum

/-- What there is to say against what is given for a field. Only a constant may be left out. -/
inductive Field.Offends (field : Field) (args : Arguments) : Complaint → Prop
  | missing : field.constant? = none → (∀ name v, ¬field.Given args name v) →
      field.Offends args ⟨field.wireName, .missing⟩
  | refused {name : String} {v : Value} {problem : Problem} : field.Given args name v →
      field.Refuses v problem → field.Offends args ⟨name, problem⟩

/-- A name gives no field its value. -/
def Unexpected (args : Arguments) (name : String) : Prop :=
  ∀ (field : Field) (v : Value), ¬field.Given args name v

/-- There is nothing to say against named values. -/
structure Faultless (args : Arguments) : Prop where
  fields : ∀ (field : Field) (c : Complaint), ¬field.Offends args c
  names : ∀ name ∈ args.map Prod.fst, ¬Unexpected args name

/-! ## Single values -/

theorem checkText_eq_error_iff_refuses (holds : field.HoldsText) :
    checkText v = .error problem ↔ field.Refuses v problem := by
  obtain ⟨free, notMillis⟩ := holds
  constructor
  · intro refused
    cases v with
    | text s =>
      simp only [checkText] at refused
      split at refused
      · next empty =>
        cases refused
        exact .emptyText ⟨free, notMillis⟩ (empty ▸ .text s)
      · cases refused
    | octets bs =>
      simp only [checkText] at refused
      split at refused
      · next fault failed =>
        cases refused
        exact .notUtf8 ⟨free, notMillis⟩ (by simp [failed])
      · next s decoded =>
        split at refused
        · next empty =>
          cases refused
          exact .emptyText ⟨free, notMillis⟩ (.octets (empty ▸ decoded))
        · cases refused
    | _ =>
      cases refused
      exact .notText ⟨free, notMillis⟩ (by simp) (by simp)
  · intro refuses
    cases refuses with
    | notConstant pinned _ => simp [free] at pinned
    | notText _ noText noOctets =>
      cases v with
      | text s => exact absurd rfl (noText s)
      | octets bs => exact absurd rfl (noOctets bs)
      | _ => rfl
    | @notUtf8 _ bs _ undecoded =>
      cases decoded : Text.decode bs with
      | ok s => exact absurd decoded (undecoded s)
      | error fault => simp [checkText, decoded]
    | emptyText _ spells =>
      cases spells with
      | text => simp [checkText]
      | octets decoded => simp [checkText, decoded]
    | notInteger | aboveMaximum | belowMinimum => exact absurd rfl notMillis

theorem checkMillis_eq_error_iff_refuses :
    checkMillis v = .error problem ↔ Field.lastUsedMillis.Refuses v problem := by
  constructor
  · intro refused
    cases v with
    | int n =>
      simp only [checkMillis] at refused
      split at refused
      · next above =>
        cases refused
        exact .aboveMaximum above
      split at refused
      · next below =>
        cases refused
        exact .belowMinimum below
      · cases refused
    | _ =>
      cases refused
      exact .notInteger (by simp)
  · intro refuses
    cases refuses with
    | notConstant pinned _ => cases pinned
    | notText holds | notUtf8 holds | emptyText holds => exact absurd rfl holds.2
    | notInteger noInt =>
      cases v with
      | int n => exact absurd rfl (noInt n)
      | _ => rfl
    | aboveMaximum above => simp [checkMillis, above]
    | @belowMinimum n below =>
      have notAbove : ¬maxMillis < n := fun above =>
        absurd (Int.lt_trans above below) (by decide)
      simp [checkMillis, notAbove, below]

theorem checkConstant_eq_error_iff_refuses {expected : String} (pinned : field.constant? = some expected) :
    checkConstant expected v = .error problem ↔ field.Refuses v problem := by
  constructor
  · intro refused
    have other : v ≠ .text expected := by
      rintro rfl
      simp [checkConstant] at refused
    have same : problem = .notConstant expected := by
      cases v with
      | text s =>
        have unequal : s ≠ expected := fun equal => other (equal ▸ rfl)
        simpa [checkConstant, unequal, eq_comm] using refused
      | _ => cases refused; rfl
    exact same ▸ .notConstant pinned other
  · intro refuses
    cases refuses with
    | @notConstant _ other _ pinned' unequal =>
      cases pinned.symm.trans pinned'
      cases v with
      | text s =>
        have unequal' : s ≠ expected := fun equal => unequal (equal ▸ rfl)
        simp [checkConstant, unequal']
      | _ => rfl
    | notText holds | notUtf8 holds | emptyText holds => cases pinned.symm.trans holds.1
    | notInteger | aboveMaximum | belowMinimum => cases pinned

/-! ## What is given for a field -/

theorem Field.exists_given_iff : (∃ v, field.Given args name v) ↔
    name ∈ args.map Prod.fst ∧
      (name = field.wireName ∨ name = field.name ∧ field.wireName ∉ args.map Prod.fst) := by
  constructor
  · rintro ⟨v, given⟩
    cases given with
    | wireName member => exact ⟨List.mem_map.2 ⟨_, member, rfl⟩, .inl rfl⟩
    | name absent member => exact ⟨List.mem_map.2 ⟨_, member, rfl⟩, .inr ⟨rfl, absent⟩⟩
  · rintro ⟨member, rfl | ⟨rfl, absent⟩⟩
    · obtain ⟨⟨_, v⟩, member, rfl⟩ := List.mem_map.1 member
      exact ⟨v, .wireName member⟩
    · obtain ⟨⟨_, v⟩, member, same⟩ := List.mem_map.1 member
      exact ⟨v, .name absent (same ▸ member)⟩

instance (args : Arguments) (name : String) : Decidable (Unexpected args name) :=
  decidable_of_iff (∀ field ∈ Field.all, ¬(name ∈ args.map Prod.fst ∧
      (name = field.wireName ∨ name = field.name ∧ field.wireName ∉ args.map Prod.fst))) <| by
    simp only [← Field.exists_given_iff, not_exists]
    exact ⟨fun none field => none field field.mem_all, fun none field _ => none field⟩

theorem supplied?_eq_some_iff (unique : (args.map Prod.fst).Nodup) :
    field.supplied? args = some (name, v) ↔ field.Given args name v := by
  unfold Field.supplied?
  constructor
  · intro supplied
    split at supplied
    · next found =>
      cases supplied
      exact .wireName ((Entries.last?_eq_some_iff unique).1 found)
    · next absent =>
      obtain ⟨v, found, same⟩ := Option.map_eq_some_iff.1 supplied
      cases same
      exact .name (Entries.last?_eq_none_iff.1 absent) ((Entries.last?_eq_some_iff unique).1 found)
  · intro given
    cases given with
    | wireName member => rw [(Entries.last?_eq_some_iff unique).2 member]
    | name absent member =>
      rw [Entries.last?_eq_none_iff.2 absent, (Entries.last?_eq_some_iff unique).2 member]
      rfl

theorem supplied?_eq_none_iff (unique : (args.map Prod.fst).Nodup) :
    field.supplied? args = none ↔ ∀ name v, ¬field.Given args name v := by
  simp only [Option.eq_none_iff_forall_ne_some, ne_eq, Prod.forall, supplied?_eq_some_iff unique]

/-! ## Fields that offend -/

section Offences

variable {α : Type} {check : Value → Except Problem α}

/-- Where something is given for a field, its check finds what there is to say against it. -/
theorem complaint?_mapError_eq_some_iff (unique : (args.map Prod.fst).Nodup)
    (given : field.Given args name v)
    (refuses : ∀ v problem, check v = .error problem ↔ field.Refuses v problem) :
    complaint? ((check v).mapError (⟨name, ·⟩)) = some c ↔ field.Offends args c := by
  constructor
  · intro complains
    cases checked : check v with
    | ok a =>
      rw [checked] at complains
      cases complains
    | error problem =>
      rw [checked] at complains
      cases complains
      exact .refused given ((refuses v problem).1 checked)
  · intro offends
    cases offends with
    | missing _ none => exact absurd given (none _ _)
    | refused given' refused =>
      have supplied := (supplied?_eq_some_iff unique).2 given
      have supplied' := (supplied?_eq_some_iff unique).2 given'
      cases supplied.symm.trans supplied'
      rw [(refuses _ _).2 refused]
      rfl

theorem complaint?_required_eq_some_iff (unique : (args.map Prod.fst).Nodup) (free : field.constant? = none)
    (refuses : ∀ v problem, check v = .error problem ↔ field.Refuses v problem) :
    complaint? (required args field check) = some c ↔ field.Offends args c := by
  unfold required
  cases supplied : field.supplied? args with
  | some given =>
    exact complaint?_mapError_eq_some_iff unique ((supplied?_eq_some_iff unique).1 supplied) refuses
  | none =>
    have ungiven := (supplied?_eq_none_iff unique).1 supplied
    constructor
    · rintro ⟨⟩
      exact .missing free ungiven
    · intro offends
      cases offends with
      | missing => rfl
      | refused given => exact absurd given (ungiven _ _)

theorem complaint?_constant_eq_some_iff (unique : (args.map Prod.fst).Nodup) {expected : String}
    (pinned : field.constant? = some expected) :
    complaint? (constant args field (checkConstant expected)) = some c ↔ field.Offends args c := by
  unfold constant
  cases supplied : field.supplied? args with
  | some given =>
    exact complaint?_mapError_eq_some_iff unique ((supplied?_eq_some_iff unique).1 supplied)
      fun _ _ => checkConstant_eq_error_iff_refuses pinned
  | none =>
    have ungiven := (supplied?_eq_none_iff unique).1 supplied
    constructor
    · rintro ⟨⟩
    · intro offends
      cases offends with
      | missing free => cases pinned.symm.trans free
      | refused given => exact absurd given (ungiven _ _)

end Offences

/-- What is complained about a field. -/
def offence? (args : Arguments) : Field → Option Complaint
  | .type => complaint? (constant args .type (checkConstant Message.type))
  | .format => complaint? (constant args .format (checkConstant Message.format))
  | .operatingSystem => complaint? (required args .operatingSystem checkText)
  | .bentoVersion => complaint? (required args .bentoVersion checkText)
  | .javaVersion => complaint? (required args .javaVersion checkText)
  | .lastUsedMillis => complaint? (required args .lastUsedMillis checkMillis)
  | .id => complaint? (required args .id checkText)

theorem complaints_eq (args : Arguments) :
    complaints args = Field.all.filterMap (offence? args) ++ unexpected args := rfl

theorem offence?_eq_some_iff (unique : (args.map Prod.fst).Nodup) :
    offence? args field = some c ↔ field.Offends args c := by
  have text {field : Field} (holds : field.HoldsText) :
      complaint? (required args field checkText) = some c ↔ field.Offends args c :=
    complaint?_required_eq_some_iff unique holds.1 fun _ _ => checkText_eq_error_iff_refuses holds
  cases field with
  | type => exact complaint?_constant_eq_some_iff unique rfl
  | format => exact complaint?_constant_eq_some_iff unique rfl
  | operatingSystem => exact text ⟨rfl, by decide⟩
  | bentoVersion => exact text ⟨rfl, by decide⟩
  | javaVersion => exact text ⟨rfl, by decide⟩
  | lastUsedMillis =>
    exact complaint?_required_eq_some_iff unique rfl fun _ _ => checkMillis_eq_error_iff_refuses
  | id => exact text ⟨rfl, by decide⟩

/-! ## Everything there is to say -/

theorem unexpected_eq_map (unique : (args.map Prod.fst).Nodup) :
    unexpected args = ((args.map Prod.fst).filter (Unexpected args ·)).map (⟨·, .unexpected⟩) := by
  have used (name : String) : name ∈ (Field.all.filterMap fun field => (field.supplied? args).map (·.1)) ↔
      ¬Unexpected args name := by
    simp only [Unexpected, not_forall, not_not, List.mem_filterMap, Option.map_eq_some_iff]
    constructor
    · rintro ⟨field, -, ⟨name, v⟩, supplied, rfl⟩
      exact ⟨field, v, (supplied?_eq_some_iff unique).1 supplied⟩
    · rintro ⟨field, v, given⟩
      exact ⟨field, field.mem_all, (name, v), (supplied?_eq_some_iff unique).2 given, rfl⟩
  rw [unexpected, List.filter_map, List.map_map]
  refine congrArg (List.map _) (List.filter_congr fun arg _ => ?_)
  rw [Bool.eq_iff_iff]
  simp [used]

theorem complaint?_eq_none_iff {α : Type} {checked : Except Complaint α} :
    complaint? checked = none ↔ ∃ a, checked = .ok a := by
  cases checked <;> simp [complaint?]

theorem exists_makes_iff : (∃ m, Makes args m) ↔ complaints args = [] := by
  constructor
  · rintro ⟨m, type, format, os, version, java, millis, id, expected⟩
    simp [complaints, type, format, os, version, java, millis, id, expected, complaint?]
  · intro nothing
    rw [complaints_eq, List.append_eq_nil_iff, List.filterMap_eq_nil_iff] at nothing
    obtain ⟨fields, expected⟩ := nothing
    have fine (field : Field) : offence? args field = none := fields field field.mem_all
    obtain ⟨⟨⟩, type⟩ := complaint?_eq_none_iff.1 (fine .type)
    obtain ⟨⟨⟩, format⟩ := complaint?_eq_none_iff.1 (fine .format)
    obtain ⟨operatingSystem, os⟩ := complaint?_eq_none_iff.1 (fine .operatingSystem)
    obtain ⟨bentoVersion, version⟩ := complaint?_eq_none_iff.1 (fine .bentoVersion)
    obtain ⟨javaVersion, java⟩ := complaint?_eq_none_iff.1 (fine .javaVersion)
    obtain ⟨lastUsedMillis, millis⟩ := complaint?_eq_none_iff.1 (fine .lastUsedMillis)
    obtain ⟨text, id⟩ := complaint?_eq_none_iff.1 (fine .id)
    exact ⟨⟨operatingSystem, bentoVersion, javaVersion, lastUsedMillis, text⟩,
      type, format, os, version, java, millis, id, expected⟩

theorem faultless_iff (unique : (args.map Prod.fst).Nodup) : Faultless args ↔ complaints args = [] := by
  rw [complaints_eq, List.append_eq_nil_iff, List.filterMap_eq_nil_iff, unexpected_eq_map unique,
    List.map_eq_nil_iff, List.filter_eq_nil_iff]
  simp only [decide_eq_true_eq]
  constructor
  · rintro ⟨fields, names⟩
    refine ⟨fun field _ => ?_, names⟩
    rw [Option.eq_none_iff_forall_ne_some]
    exact fun c found => fields field c ((offence?_eq_some_iff unique).1 found)
  · rintro ⟨fields, names⟩
    refine ⟨fun field c offends => ?_, names⟩
    have found := (offence?_eq_some_iff unique).2 offends
    rw [fields field field.mem_all] at found
    cases found

/-- A list has what there is to say against each field, in the order of the fields, and then each unexpected
name in the order given. -/
def Reports (args : Arguments) (list : List Complaint) : Prop :=
  ∃ offence : Field → Option Complaint, (∀ field c, offence field = some c ↔ field.Offends args c) ∧
    list = Field.all.filterMap offence ++
      ((args.map Prod.fst).filter (Unexpected args ·)).map (⟨·, .unexpected⟩)

theorem reports_complaints (unique : (args.map Prod.fst).Nodup) : Reports args (complaints args) :=
  ⟨offence? args, fun _ _ => offence?_eq_some_iff unique, by rw [complaints_eq, unexpected_eq_map unique]⟩

/-! ## The order of the arguments -/

theorem complaints_perm (unique : (args.map Prod.fst).Nodup) (same : args.Perm others) :
    (complaints args).Perm (complaints others) := by
  have supplied := supplied?_congr (Entries.last?_perm unique same)
  have offences : offence? args = offence? others := by
    funext field
    cases field <;> simp only [offence?, constant, required, supplied]
  rw [complaints_eq, complaints_eq, offences]
  refine List.Perm.append_left _ ?_
  simp only [unexpected, supplied]
  exact (same.filter _).map _

theorem ofArguments_eq_ok_congr (unique : (args.map Prod.fst).Nodup) (same : args.Perm others)
    (m : Message) : ofArguments others = .ok m ↔ ofArguments args = .ok m := by
  have values := Entries.last?_perm unique same
  rw [ofArguments_eq_ok_iff, ofArguments_eq_ok_iff]
  exact ⟨fun makes => makes.congr fun key => (values key).symm, fun makes => makes.congr values⟩

theorem ofArguments_cases (args : Arguments) :
    (∃ m, ofArguments args = .ok m) ∨ ofArguments args = .error (.fields (complaints args)) := by
  by_cases makes : ∃ m, Makes args m
  · exact .inl (makes.imp fun _ => ofArguments_eq_ok_iff.2)
  · exact .inr (ofArguments_eq_error (not_exists.1 makes))

/-- Without repeated names, named values make a message exactly if there is nothing to say against them, and
its fields are what was given; else everything there is to say is reported. Their order makes no difference to
the message, nor to what is said. -/
theorem ofArguments_sound_and_complete (unique : (args.map Prod.fst).Nodup) :
    ((∃ m, ofArguments args = .ok m) ↔ Faultless args) ∧
    (∀ m, ofArguments args = .ok m → ∀ (field : Field) (name : String) (v : Value),
      field.Given args name v → field.Takes v (m.fieldValue field)) ∧
    (¬Faultless args → ∃ list, ofArguments args = .error (.fields list) ∧ Reports args list) ∧
    ∀ others, args.Perm others →
      (∀ m, ofArguments others = .ok m ↔ ofArguments args = .ok m) ∧
      ∀ list, ofArguments args = .error (.fields list) →
        ∃ list', ofArguments others = .error (.fields list') ∧ list.Perm list' := by
  have faultless : (∃ m, ofArguments args = .ok m) ↔ Faultless args := by
    rw [faultless_iff unique, ← exists_makes_iff]
    exact exists_congr fun _ => ofArguments_eq_ok_iff
  refine ⟨faultless, fun m made field name v given => ?_, fun faulty => ?_, fun others same => ?_⟩
  · rcases (ofArguments_eq_ok_iff_describes.1 made).fields field with ⟨none, -⟩ | ⟨name', v', supplied, takes⟩
    · exact absurd given ((supplied?_eq_none_iff unique).1 none _ _)
    · cases supplied.symm.trans ((supplied?_eq_some_iff unique).2 given)
      exact takes
  · rcases ofArguments_cases args with made | refused
    · exact absurd (faultless.1 made) faulty
    · exact ⟨_, refused, reports_complaints unique⟩
  · refine ⟨ofArguments_eq_ok_congr unique same, fun list refused => ?_⟩
    have refused' : ofArguments args = .error (.fields (complaints args)) := by
      rcases ofArguments_cases args with ⟨m, made⟩ | refused'
      · cases made.symm.trans refused
      · exact refused'
    cases refused.symm.trans refused'
    rcases ofArguments_cases others with ⟨m, made⟩ | refusedToo
    · cases ((ofArguments_eq_ok_congr unique same m).1 made).symm.trans refused
    · exact ⟨_, refusedToo, complaints_perm unique same⟩

/-- Named values with many faults: the operating system is given under both its names, and one name is that of
no field. -/
def faultyArguments : Arguments :=
  [("operating_system", .text "x"), ("last_used", .text "1"), ("extra", .null), ("os", .octets [])]

theorem ofArguments_sound_and_complete_faultyArguments :
    ¬Faultless faultyArguments ∧
    (∃ list, ofArguments faultyArguments = .error (.fields list) ∧ Reports faultyArguments list) ∧
    ∀ m, ofArguments faultyArguments.reverse ≠ .ok m := by
  have faulty : ¬Faultless faultyArguments := fun faultless =>
    faultless.names "extra" (by decide) (by decide)
  have unique : (faultyArguments.map Prod.fst).Nodup := by decide
  obtain ⟨makes, -, reported, ordered⟩ := ofArguments_sound_and_complete unique
  refine ⟨faulty, reported faulty, fun m made => ?_⟩
  exact faulty (makes.1 ⟨m, ((ordered _ (List.reverse_perm _).symm).1 m).1 made⟩)

example : complaints faultyArguments =
    [⟨"os", .emptyText⟩, ⟨"bento_version", .missing⟩, ⟨"java_version", .missing⟩, ⟨"last_used", .notInteger⟩,
      ⟨"id", .missing⟩, ⟨"operating_system", .unexpected⟩, ⟨"extra", .unexpected⟩] := by
  decide

end Checkin.Message
