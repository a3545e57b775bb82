import Mathlib.Data.List.DropRight
import Checkin.Text.CharacterClass
import Checkin.Text.Numeral

/-!
# Blank characters stripped

What is left of a text when it is stripped is the one part of it with nothing but blank characters before and
after it that has no blank character at its own ends (`Strips`). Visible characters of ASCII, those of an
installation id among them, are never stripped.
-/

namespace Checkin.Text

variable {cs core : List Char} {c : Char}

/-! ## Stripping -/

/-- Some characters neither begin nor end with a blank one. -/
structure Bare (cs : List Char) : Prop where
  first : ∀ c ∈ cs.head?, isBlank c = false
  last : ∀ c ∈ cs.getLast?, isBlank c = false

/-- Some characters are a core between blank ones, and the core has no blank one at its ends. -/
def Strips (cs core : List Char) : Prop :=
  ∃ before after, cs = before ++ core ++ after ∧ (∀ c ∈ before, isBlank c = true) ∧
    (∀ c ∈ after, isBlank c = true) ∧ Bare core

theorem stripEnd_eq (cs : List Char) : stripEnd cs = cs.rdropWhile isBlank := rfl

theorem Bare.stripEnd (bare : Bare cs) : stripEnd cs = cs := by
  rw [stripEnd_eq, List.rdropWhile_eq_self_iff]
  intro some
  simp [bare.last _ (List.getLast?_eq_getLast_of_ne_nil some)]

theorem stripEnd_append (after : ∀ c ∈ cs, isBlank c = true) : stripEnd (core ++ cs) = stripEnd core := by
  have back : ∀ c ∈ cs.reverse, isBlank c = true := fun c inside => after c (List.mem_reverse.1 inside)
  rw [stripEnd, List.reverse_append, List.dropWhile_append_of_pos back, stripEnd]

/-- No blank character is left at either end. -/
theorem bare_strip (cs : List Char) : Bare (strip cs) := by
  rw [strip, stripEnd_eq]
  constructor
  · intro c first
    obtain ⟨rest, left⟩ := List.head?_eq_some_iff.1 first
    obtain ⟨after, whole⟩ := List.rdropWhile_prefix isBlank (cs.dropWhile isBlank)
    have starts : (cs.dropWhile isBlank).head? = some c := by
      rw [← whole, left]
      rfl
    simpa [starts] using List.head?_dropWhile_not isBlank cs
  · intro c last
    obtain ⟨front, left⟩ := List.getLast?_eq_some_iff.1 last
    have notEmpty : (cs.dropWhile isBlank).rdropWhile isBlank ≠ [] := by simp [left]
    simpa [left] using List.rdropWhile_last_not isBlank (cs.dropWhile isBlank) notEmpty

theorem strips_strip (cs : List Char) : Strips cs (strip cs) := by
  refine ⟨cs.takeWhile isBlank, (cs.dropWhile isBlank).rtakeWhile isBlank, ?_, ?_, ?_, bare_strip cs⟩
  · rw [List.append_assoc, strip, stripEnd_eq, List.rdropWhile_append_rtakeWhile,
      List.takeWhile_append_dropWhile]
  · exact fun c inside => List.mem_takeWhile_imp inside
  · exact fun c inside => List.mem_rtakeWhile_imp inside

/-- Stripping finds the core of some characters, and there is no other one. -/
theorem strip_eq_iff : strip cs = core ↔ Strips cs core := by
  constructor
  · rintro rfl
    exact strips_strip cs
  · rintro ⟨before, after, rfl, blankBefore, blankAfter, bare⟩
    rw [strip, List.append_assoc, List.dropWhile_append_of_pos blankBefore]
    cases core with
    | nil =>
      have none : after.dropWhile isBlank = [] := List.dropWhile_eq_nil_iff.2 blankAfter
      rw [List.nil_append, none]
      rfl
    | cons c core =>
      have front : ((c :: core) ++ after).dropWhile isBlank = (c :: core) ++ after :=
        List.dropWhile_cons_of_neg (by simp [bare.first c rfl])
      rw [front, stripEnd_append blankAfter, bare.stripEnd]

/-- Characters are left as they are exactly if there is no blank one at their ends. -/
theorem strip_eq_self_iff : strip cs = cs ↔ Bare cs := by
  constructor
  · intro same
    rw [← same]
    exact bare_strip cs
  · intro bare
    exact strip_eq_iff.2 ⟨[], [], by simp, by simp, by simp, bare⟩

/-- One more blank character at the end makes no difference. -/
theorem strip_concat (blank : isBlank c = true) (cs : List Char) : strip (cs ++ [c]) = strip cs := by
  obtain ⟨before, after, whole, blankBefore, blankAfter, bare⟩ := strips_strip cs
  refine strip_eq_iff.2 ⟨before, after ++ [c], ?_, blankBefore, ?_, bare⟩
  · rw [← List.append_assoc, ← whole]
  · intro d inside
    rcases List.mem_append.1 inside with inside | inside
    · exact blankAfter d inside
    · rwa [List.mem_singleton.1 inside]

theorem mem_of_mem_strip (inside : c ∈ strip cs) : c ∈ cs := by
  obtain ⟨before, after, whole, -⟩ := strips_strip cs
  rw [whole]
  simp [inside]

/-! ## Visible characters -/

/-- A visible character of ASCII: neither blank nor a line break. -/
def isVisible (c : Char) : Bool :=
  33 ≤ c.toNat && c.toNat < 127

theorem isVisible_hexDigit : ∀ n < 16, isVisible (hexDigit n) = true := by decide

theorem isVisible_of_mem_hexDigits {width n : Nat} (digit : c ∈ hexDigits width n) :
    isVisible c = true := by
  induction width generalizing n with
  | zero => simp [hexDigits] at digit
  | succ width ih =>
    rw [hexDigits, List.mem_append, List.mem_singleton] at digit
    rcases digit with digit | rfl
    · exact ih digit
    · exact isVisible_hexDigit _ (by omega)

theorem isBlank_of_isVisible (visible : isVisible c = true) : isBlank c = false := by
  simp [isVisible] at visible
  simp [isBlank]
  omega

theorem bare_of_visible (visible : ∀ c ∈ cs, isVisible c = true) : Bare cs :=
  ⟨fun c first => isBlank_of_isVisible (visible c (List.mem_of_mem_head? first)),
    fun c last => isBlank_of_isVisible (visible c (List.mem_of_mem_getLast? last))⟩

/-- The line feed after a value is stripped, and nothing of the value is. -/
theorem strip_append_lineFeed (visible : ∀ c ∈ cs, isVisible c = true) : strip (cs ++ ['\n']) = cs := by
  have lineFeed : isBlank '\n' = true := by decide
  exact strip_eq_iff.2 ⟨[], ['\n'], rfl, by simp, by simp [lineFeed], bare_of_visible visible⟩

end Checkin.Text
