import Checkin.Value

/-!
# Values without a text

The one thing that keeps a value from having a text is a whole number that is too long to be written: the
value itself, or one somewhere inside it.
-/

namespace Checkin.Value

open Checkin.Text

/-- A value is a whole number with more digits than a numeral may have, or holds one. -/
inductive HoldsLong : Value → Prop
  | int {n : Int} : maxDigits < (digits n.natAbs).length → HoldsLong (.int n)
  | item {items : List Value} {item : Value} : item ∈ items → item.HoldsLong → HoldsLong (.list items)
  | member {members : List (String × Value)} {member : String × Value} :
    member ∈ members → member.2.HoldsLong → HoldsLong (.dict members)

theorem holdsLong_int_iff {n : Int} :
    (Value.int n).HoldsLong ↔ maxDigits < (digits n.natAbs).length :=
  ⟨fun | .int long => long, .int⟩

theorem holdsLong_list_iff {items : List Value} :
    (Value.list items).HoldsLong ↔ ∃ item ∈ items, item.HoldsLong :=
  ⟨fun | .item among long => ⟨_, among, long⟩, fun ⟨_, among, long⟩ => .item among long⟩

theorem holdsLong_dict_iff {members : List (String × Value)} :
    (Value.dict members).HoldsLong ↔ ∃ member ∈ members, member.2.HoldsLong :=
  ⟨fun | .member among long => ⟨_, among, long⟩, fun ⟨_, among, long⟩ => .member among long⟩

mutual

theorem literal?_eq_none_iff (v : Value) : v.literal? = none ↔ v.HoldsLong := by
  match v with
  | .int n => simp [literal?, numeral?, holdsLong_int_iff]
  | .list items =>
    rw [holdsLong_list_iff, ← literals?_eq_none_iff items]
    simp [literal?]
  | .dict members =>
    rw [holdsLong_dict_iff, ← memberLiterals?_eq_none_iff members]
    simp [literal?]
  | .null | .bool true | .bool false | .float _ | .text _ | .octets _ =>
    simp only [literal?, reduceCtorEq, false_iff]
    rintro ⟨⟩

theorem literals?_eq_none_iff (items : List Value) :
    literals? items = none ↔ ∃ item ∈ items, item.HoldsLong := by
  match items with
  | [] => simp [literals?]
  | item :: items =>
    simp only [literals?, List.mem_cons, exists_eq_or_imp]
    rw [← literal?_eq_none_iff item, ← literals?_eq_none_iff items]
    cases item.literal? <;> cases literals? items <;> simp

theorem memberLiterals?_eq_none_iff (members : List (String × Value)) :
    memberLiterals? members = none ↔ ∃ member ∈ members, member.2.HoldsLong := by
  match members with
  | [] => simp [memberLiterals?]
  | (key, value) :: members =>
    simp only [memberLiterals?, List.mem_cons, exists_eq_or_imp]
    rw [← literal?_eq_none_iff value, ← memberLiterals?_eq_none_iff members]
    cases value.literal? <;> cases memberLiterals? members <;> simp

end

/-- A value has a text unless it is or holds a number that is too long. -/
theorem text?_eq_none_iff {v : Value} : v.text? = none ↔ v.HoldsLong := by
  cases v with
  | text s =>
    simp only [text?, reduceCtorEq, false_iff]
    rintro ⟨⟩
  | _ => exact literal?_eq_none_iff _

end Checkin.Value
