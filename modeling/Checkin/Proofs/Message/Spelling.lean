import Checkin.Proofs.Json.Spelling
import Checkin.Proofs.Message.Description

/-!
# Spellings of messages

A message may be written in many ways besides its wire form: its fields in any order and under either of
their names, the two that are the same in every message perhaps left out, with white space between and
escapes within. It is read from every one of them.
-/

namespace Checkin.Message

open Checkin.Json

/-! ## Names of fields -/

/-- A field goes by the server's name for it and by its own. -/
def Field.GoesBy (field : Field) (name : String) : Prop :=
  name = field.wireName ∨ name = field.name

/-- No two fields share a name. -/
theorem Field.GoesBy.unique {field other : Field} {name : String} (first : field.GoesBy name)
    (second : other.GoesBy name) : field = other := by
  have apart : ∀ field ∈ Field.all, ∀ other ∈ Field.all,
      field.wireName = other.wireName ∨ field.wireName = other.name ∨ field.name = other.wireName ∨
        field.name = other.name → field = other := by decide
  apply apart field field.mem_all other other.mem_all
  rcases first with rfl | rfl
  · rcases second with same | same
    · exact .inl same
    · exact .inr (.inl same)
  · rcases second with same | same
    · exact .inr (.inr (.inl same))
    · exact .inr (.inr (.inr same))

/-! ## Fields as members -/

section Members

variable {m : Message} {fields : List Field} {named : Field → String}

/-- The values of some fields, under names for them. -/
def members (m : Message) (named : Field → String) (fields : List Field) : Arguments :=
  fields.map fun field => (named field, m.fieldValue field)

theorem nodup_members (once : fields.Nodup) (known : ∀ field ∈ fields, field.GoesBy (named field)) :
    ((m.members named fields).map Prod.fst).Nodup := by
  rw [members, List.map_map]
  refine List.Nodup.map_on ?_ once
  intro field listed other listed' same
  have shared : named field = named other := same
  exact (known field listed).unique (shared ▸ known other listed')

/-- A name that is given is that of the field that goes by it. -/
theorem mem_members_iff (known : ∀ field ∈ fields, field.GoesBy (named field)) {field : Field}
    {name : String} (goes : field.GoesBy name) :
    name ∈ (m.members named fields).map Prod.fst ↔ field ∈ fields ∧ named field = name := by
  rw [members, List.map_map, List.mem_map]
  constructor
  · rintro ⟨other, listed, rfl⟩
    obtain rfl := goes.unique (known other listed)
    exact ⟨listed, rfl⟩
  · rintro ⟨listed, rfl⟩
    exact ⟨field, listed, rfl⟩

/-- A field is supplied under the name that is given for it, or not at all. -/
theorem supplied?_members (once : fields.Nodup) (known : ∀ field ∈ fields, field.GoesBy (named field))
    (field : Field) :
    field.supplied? (m.members named fields) =
      if field ∈ fields then some (named field, m.fieldValue field) else none := by
  have unique := nodup_members (m := m) once known
  have absent : ∀ name, field.GoesBy name → ¬ (field ∈ fields ∧ named field = name) →
      Entries.last? (m.members named fields) name = none := by
    intro name goes other
    rw [Entries.last?_eq_lookup unique]
    exact Entries.lookup_eq_none_of_notMem fun given => other ((mem_members_iff known goes).1 given)
  by_cases listed : field ∈ fields
  · have present : Entries.last? (m.members named fields) (named field) = some (m.fieldValue field) := by
      rw [Entries.last?_eq_lookup unique]
      exact Entries.lookup_of_mem unique (List.mem_map_of_mem listed)
    rw [if_pos listed, Field.supplied?]
    by_cases server : named field = field.wireName
    · rw [← server, present]
    · have own : named field = field.name := (known field listed).resolve_left server
      rw [absent _ (.inl rfl) (fun given => server given.2), ← own, present]
      rfl
  · rw [if_neg listed, Field.supplied?, absent _ (.inl rfl) (fun given => listed given.1),
      absent _ (.inr rfl) (fun given => listed given.1)]
    rfl

/-- The fields of a message describe it, if none but the two constant ones are left out. -/
theorem describes_members (once : fields.Nodup) (known : ∀ field ∈ fields, field.GoesBy (named field))
    (complete : ∀ field, field ∈ fields ∨ field = .type ∨ field = .format) :
    Describes (m.members named fields) m := by
  have supplied := supplied?_members (m := m) once known
  constructor
  · intro field
    by_cases listed : field ∈ fields
    · exact .inr ⟨_, _, (supplied field).trans (if_pos listed), .same _⟩
    · exact .inl ⟨(supplied field).trans (if_neg listed), (complete field).resolve_left listed⟩
  · intro name given
    rw [Entries.isSome_last?_iff, members, List.map_map, List.mem_map] at given
    obtain ⟨field, listed, rfl⟩ := given
    exact ⟨field, _, (supplied field).trans (if_pos listed)⟩

end Members

/-- However a message is spelled, it is read: its fields may come in any order, each under the server's name or
its own, and the type and the format may be left out. -/
theorem read_spelling (m : Message) {fields : List Field} (once : fields.Nodup)
    (complete : ∀ field, field ∈ fields ∨ field = .type ∨ field = .format) {named : Field → String}
    (known : ∀ field ∈ fields, named field = field.wireName ∨ named field = field.name) {s : String}
    (spelled : SpellsObject (fields.map fun field => (named field, m.jsonValue field)) s.toList) :
    read s = .ok m := by
  have short : ∀ member ∈ fields.map fun field => (named field, m.jsonValue field), Short member.2 := by
    intro member given
    obtain ⟨field, -, rfl⟩ := List.mem_map.1 given
    cases field with
    | lastUsedMillis => exact length_digits_millis m.lastUsedMillis
    | _ => trivial
  have keys : ((fields.map fun field => (named field, m.jsonValue field)).map Prod.fst).Nodup := by
    simpa [members, Function.comp_def] using nodup_members (m := m) once known
  have means : Json.Value.plainMembers (fields.map fun field => (named field, m.jsonValue field)) =
      m.members named fields := by
    simp [Json.Value.plainMembers_eq_map, members, plain_jsonValue]
  rw [read_of_object (spelled.read?_eq short), Entries.distinct_eq_self keys, means,
    ofArguments_eq_ok_iff_describes]
  exact describes_members once known complete

/-- A message whose id is one character beyond U+FFFF. -/
def smiling : Message where
  operatingSystem := ⟨"/", by decide⟩
  bentoVersion := ⟨"2", by decide⟩
  javaVersion := ⟨"3", by decide⟩
  lastUsedMillis := ⟨-5, by decide⟩
  id := ⟨String.singleton (Char.ofNat 0x1F600), by decide⟩

/-- The same message without its type, some fields under the server's names for them and others under their own.
The operating system, and the name and the value of the id, are escaped. -/
def smilingSpelling : String :=
  " \x7b\"\\u0069d\" :\"\\ud83D\\uDE00\",\n\"operating_system\":\"\\/\",\"java_version\":\"3\"," ++
    "\"bento_version\":\"2\",\"format\":\"bento-checkin-1.0.0\",\"last_used\":-5\t\x7d"

/-- It is read as that message. -/
theorem read_spelling_smiling : read smilingSpelling = .ok smiling := by
  have letter : SpellsCode 'i'.toNat ['0', '0', '6', '9'] :=
    @SpellsCode.mk 0 0 6 9 _ _ _ _ (by decide) (by decide) (by decide) (by decide)
  have high : SpellsCode 0xD83D ['d', '8', '3', 'D'] :=
    @SpellsCode.mk 13 8 3 13 _ _ _ _ (by decide) (by decide) (by decide) (by decide)
  have low : SpellsCode 0xDE00 ['D', 'E', '0', '0'] :=
    @SpellsCode.mk 13 14 0 0 _ _ _ _ (by decide) (by decide) (by decide) (by decide)
  have d : SpellsChar 'd' ['d'] := .plain (by decide) (by decide) (by decide)
  have name : SpellsString "id" _ := @SpellsString.mk "id" _ (.cons (.code letter) (.cons d .nil))
  have pair : SpellsChar (Char.ofNat 0x1F600) _ :=
    .pair (by decide) (by decide) (by decide) (by decide) (by decide) high low
  have smile : SpellsString smiling.id _ := @SpellsString.mk smiling.id _ (.cons pair .nil)
  have solidus : SpellsString "/" _ :=
    @SpellsString.mk "/" _ (.cons (.short (by decide : ('/', '/') ∈ shortEscapes)) .nil)
  have minusFive : SpellsValue (.int (-5)) ['-', '5'] := by
    rw [← show Text.digits 5 = ['5'] from Text.digits_of_lt (by decide)]
    exact .negative 5
  have plain := spellsString_plain
  have colon := mark_bare ':'
  have comma := mark_bare ','
  have space : Mark ':' [' ', ':'] := @Mark.mk ':' [' '] [] (by simp [Space]) (by simp [Space])
  have line : Mark ',' [',', '\n'] := @Mark.mk ',' [] ['\n'] (by simp [Space]) (by simp [Space])
  have opening : Mark '\x7b' [' ', '\x7b'] := @Mark.mk '\x7b' [' '] [] (by simp [Space]) (by simp [Space])
  have closing : Mark '\x7d' ['\t', '\x7d'] := @Mark.mk '\x7d' ['\t'] [] (by simp [Space]) (by simp [Space])
  have spelled := SpellsObject.members opening
    (.more (.mk name space (.text smile)) line <|
      .more (.mk (plain "operating_system" (by decide)) colon (.text solidus)) comma <|
      .more (.mk (plain "java_version" (by decide)) colon (.text (plain "3" (by decide)))) comma <|
      .more (.mk (plain "bento_version" (by decide)) colon (.text (plain "2" (by decide)))) comma <|
      .more (.mk (plain "format" (by decide)) colon
        (.text (plain "bento-checkin-1.0.0" (by decide)))) comma <|
      .last (.mk (plain "last_used" (by decide)) colon minusFive)) closing
  refine @read_spelling smiling
    [.id, .operatingSystem, .javaVersion, .bentoVersion, .format, .lastUsedMillis] (by decide) ?_
    (fun field => if field = .lastUsedMillis then field.wireName else field.name) ?_ _ ?_
  · rintro (_ | _) <;> decide
  · decide
  · convert spelled using 1
    · rfl
    · cbv

end Checkin.Message
