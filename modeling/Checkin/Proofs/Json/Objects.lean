import Checkin.Proofs.Basic
import Checkin.Proofs.Json.Grammar
import Checkin.Proofs.Json.Scanning
import Checkin.Proofs.Text.Blank

/-!
# Reading objects that were written

An object written by `objectChars` is read back as its members, whatever kind of value each of them is
written for, as long as the written value is one token (`Written`). The members come out in order.
-/

namespace Checkin.Json

open Checkin.Text

/-- The token that a value without parts is. -/
def tokenOf : Value → Token
  | .text s => .text s
  | v => .value v

/-- Some characters are one token, which stands for a value, when punctuation follows them. -/
def Written (cs : List Char) (v : Value) : Prop :=
  ∀ c token, punctuation? c = some token →
    Scans .between (cs ++ [c]) .between [tokenOf v, token]

theorem written_stringChars (s : String) : Written (stringChars s) (.text s) :=
  fun _ _ mark => (scans_stringChars s).append (scans_punctuation mark)

theorem written_numeralChars {i : Int} (short : (digits i.natAbs).length ≤ maxWholeDigits) :
    Written (numeralChars i) (.int i) :=
  fun _ _ mark => scans_numeralChars short mark

/-- A member of an object: its name, what is written for its value, and the value. -/
structure WrittenMember where
  name : String
  chars : List Char
  value : Value
  written : Written chars value

namespace WrittenMember

/-- The member as `objectChars` takes it. -/
def source (m : WrittenMember) : String × List Char := (m.name, m.chars)

/-- The member as the reader gives it. -/
def read (m : WrittenMember) : String × Value := (m.name, m.value)

/-- The tokens of a member. -/
def tokens (m : WrittenMember) : List Token := [.text m.name, .colon, tokenOf m.value]

theorem scans (m : WrittenMember) {c : Char} {token : Token} (mark : punctuation? c = some token) :
    Scans .between (memberChars m.source ++ [c]) .between (m.tokens ++ [token]) := by
  have name := scans_stringChars m.name
  have colon : Scans .between [':'] .between [.colon] := scans_punctuation rfl
  have whole := (name.append colon).append (m.written c token mark)
  simpa [memberChars, source, tokens] using whole

end WrittenMember

/-- The tokens of an object from its first member on. -/
def tailTokens : List WrittenMember → List Token
  | [] => [.closeObject]
  | [m] => m.tokens ++ [.closeObject]
  | m :: next :: members => m.tokens ++ .comma :: tailTokens (next :: members)

theorem scans_tail (members : List WrittenMember) :
    Scans .between
      (List.intercalate [','] ((members.map WrittenMember.source).map memberChars) ++ ['\x7d'])
      .between (tailTokens members) := by
  induction members with
  | nil => exact scans_punctuation rfl
  | cons m members ih =>
    cases members with
    | nil => simpa [tailTokens] using m.scans (c := '\x7d') rfl
    | cons next members =>
      have both := (m.scans (c := ',') rfl).append ih
      simpa [List.intercalate_cons_cons, tailTokens] using both

/-! ## The object as a text -/

/-- A value without parts as it is written. -/
def leaf : Value → Tree
  | .text s => .text s
  | v => .word v

theorem tokens_leaf (v : Value) : (leaf v).tokens = [tokenOf v] := by
  cases v <;> rfl

theorem value_leaf (v : Value) : (leaf v).value = v := by
  cases v <;> rfl

theorem fits_leaf (depth : Nat) (v : Value) : (leaf v).fits depth = true := by
  cases v <;> rfl

/-- The members as they are written. -/
def leaves (members : List WrittenMember) : List (String × Tree) :=
  members.map fun m => (m.name, leaf m.value)

theorem tailTokens_eq (m : WrittenMember) (members : List WrittenMember) :
    tailTokens (m :: members) = m.tokens ++ Tree.moreMembers (leaves members) := by
  induction members generalizing m with
  | nil => rfl
  | cons next members ih => simp [tailTokens, ih, leaves, Tree.moreMembers, tokens_leaf, WrittenMember.tokens]

theorem tokens_leaves (members : List WrittenMember) :
    (Tree.object (leaves members)).tokens = .openObject :: tailTokens members := by
  cases members with
  | nil => rfl
  | cons m members => simp [tailTokens_eq, leaves, Tree.tokens, tokens_leaf, WrittenMember.tokens]

theorem namedValues_leaves (members : List WrittenMember) :
    Tree.namedValues (leaves members) = members.map WrittenMember.read := by
  induction members with
  | nil => rfl
  | cons m members ih =>
    rw [leaves] at ih ⊢
    simp [Tree.namedValues, value_leaf, WrittenMember.read, ih]

theorem membersFit_leaves (depth : Nat) (members : List WrittenMember) :
    Tree.membersFit depth (leaves members) = true := by
  induction members with
  | nil => rfl
  | cons m members ih =>
    rw [leaves] at ih ⊢
    simp [Tree.membersFit, fits_leaf, ih]

theorem fits_leaves (members : List WrittenMember) : (Tree.object (leaves members)).fits 0 = true := by
  cases members with
  | nil => rfl
  | cons m members =>
    have room : 0 < maxDepth := by decide
    have rest := membersFit_leaves 1 members
    rw [leaves] at rest ⊢
    simp [Tree.fits, room, fits_leaf, rest]

/-- A text with the tokens of an object is read as its members, in order. -/
theorem read?_of_scans {s : String} {members : List WrittenMember}
    (scans : Scans .between s.toList .between (.openObject :: tailTokens members)) :
    read? s = some (.object (members.map WrittenMember.read)) := by
  have scanned := scans.scan_eq
  rw [String.ofList_toList, ← tokens_leaves] at scanned
  rw [read?_of_tokens scanned, if_pos (fits_leaves members), Tree.value, namedValues_leaves]

/-- An object that was written is read back with its members in order. -/
theorem read?_objectChars (members : List WrittenMember) :
    read? (String.ofList (objectChars (members.map WrittenMember.source))) =
      some (.object (members.map WrittenMember.read)) := by
  have brace : Scans .between ['\x7b'] .between [.openObject] := scans_punctuation rfl
  apply read?_of_scans
  rw [String.toList_ofList]
  exact brace.append (scans_tail members)

/-! ## Control characters -/

section Controls

variable {c : Char}

theorem le_toNat_of_mem_escaped {d : Char} (inside : d ∈ escaped c) : 32 ≤ d.toNat := by
  have short : ∀ {e : Char}, 32 ≤ e.toNat → d ∈ ['\\', e] → 32 ≤ d.toNat := by
    intro e plain inside
    rw [List.mem_cons, List.mem_singleton] at inside
    rcases inside with rfl | rfl
    · decide
    · exact plain
  unfold escaped at inside
  iterate 7
    split at inside
    · exact short (by decide) inside
  split at inside
  · rw [List.mem_cons, List.mem_cons] at inside
    rcases inside with rfl | rfl | digit
    · decide
    · decide
    · have visible := isVisible_of_mem_hexDigits digit
      simp only [isVisible, Bool.and_eq_true, decide_eq_true_eq] at visible
      omega
  · next plain =>
    rw [List.mem_singleton.1 inside]
    exact Nat.not_lt.1 plain

theorem le_toNat_of_mem_stringChars {s : String} (inside : c ∈ stringChars s) : 32 ≤ c.toNat := by
  rw [stringChars, List.cons_append, List.mem_cons, List.mem_append, List.mem_singleton] at inside
  rcases inside with rfl | inside | rfl
  · decide
  · obtain ⟨d, -, inside⟩ := List.mem_flatMap.1 inside
    exact le_toNat_of_mem_escaped inside
  · decide

/-- An object has no control character outside the values of its members. -/
theorem le_toNat_of_mem_objectChars {members : List (String × List Char)}
    (values : ∀ member ∈ members, ∀ c ∈ member.2, 32 ≤ c.toNat) (inside : c ∈ objectChars members) :
    32 ≤ c.toNat := by
  rw [objectChars, List.cons_append, List.mem_cons, List.mem_append, List.mem_singleton] at inside
  rcases inside with rfl | inside | rfl
  · decide
  · by_cases comma : c = ','
    · subst comma
      decide
    · obtain ⟨chars, listed, inside⟩ := (mem_intercalate_of_ne comma _).1 inside
      obtain ⟨member, among, rfl⟩ := List.mem_map.1 listed
      rw [memberChars, List.mem_append, List.mem_cons] at inside
      rcases inside with inside | rfl | inside
      · exact le_toNat_of_mem_stringChars inside
      · decide
      · exact values member among c inside
  · decide

end Controls

end Checkin.Json
