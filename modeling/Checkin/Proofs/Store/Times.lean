import Checkin.Proofs.Store.Uses

/-!
# Times of last use written and read

A time of last use is read from what is left of the text of its file when it is stripped, if that is a
numeral. What is written for a time is such a numeral, so that the last time which was written is read, unless
it has too many digits to be written at all.
-/

namespace Checkin.Store

open Checkin.Text Checkin.Action FileTree

variable {files t t' : FileTree} {here : Place} {depth : Nat} {p : Path} {text name value : String}
  {core : List Char} {n : Int} {s s' : Session}

/-! ## Which texts are times -/

theorem ofList_eq_empty_iff : String.ofList core = "" ↔ core = [] := by
  rw [← String.toList_inj, String.toList_ofList]
  rfl

theorem readValue_of_strips (read : files.read here p = .ok (encode text))
    (strips : Strips (unifyLineBreaks text.toList) core) :
    readValue files here p =
      if core = [] then .error (.state (.empty p.text)) else .ok (String.ofList core) := by
  have value : valueIn (String.ofList (unifyLineBreaks text.toList)) = String.ofList core := by
    rw [valueIn, String.toList_ofList, strip_eq_iff.2 strips]
  simp only [readValue, readText, read, decode_encode, value, ofList_eq_empty_iff]

theorem readLastUsed_of_isNumeral (read : files.read here p = .ok (encode text))
    (strips : Strips (unifyLineBreaks text.toList) core) (numeral : IsNumeral core n) :
    readLastUsed files here p = .ok n := by
  have value := readValue_of_strips read strips
  rw [if_neg numeral.ne_nil] at value
  simp only [readLastUsed, value, String.toList_ofList, readNumeral?_eq_some_iff.2 numeral]

theorem readLastUsed_of_not_isNumeral (read : files.read here p = .ok (encode text))
    (strips : Strips (unifyLineBreaks text.toList) core) (other : ∀ n, ¬IsNumeral core n) :
    readLastUsed files here p = .error (.state
      (if core = [] then .empty p.text else .notATimestamp p.text (String.ofList core))) := by
  have value := readValue_of_strips read strips
  have noNumeral : readNumeral? core = none := by
    rw [Option.eq_none_iff_forall_ne_some]
    intro n numeral
    exact other n (readNumeral?_eq_some_iff.1 numeral)
  by_cases blank : core = []
  · rw [if_pos blank] at value
    simp only [readLastUsed, value, if_pos blank]
  · rw [if_neg blank] at value
    simp only [readLastUsed, value, String.toList_ofList, noNumeral, if_neg blank]

/-- From a file of text in UTF-8 a time is read exactly if what is left of the text, once its line breaks are
unified and its blank ends are stripped, is a numeral, and then it is the number of that numeral. Any other
text is said to be empty, or no time. -/
theorem readLastUsed_eq_ok_iff_isNumeral (read : files.read here p = .ok (encode text)) :
    (∀ n, readLastUsed files here p = .ok n ↔
      ∃ core, Strips (unifyLineBreaks text.toList) core ∧ IsNumeral core n) ∧
    ((¬∃ core n, Strips (unifyLineBreaks text.toList) core ∧ IsNumeral core n) →
      ∃ core, Strips (unifyLineBreaks text.toList) core ∧
        readLastUsed files here p = .error (.state
          (if core = [] then .empty p.text else .notATimestamp p.text (String.ofList core)))) := by
  have strips := strips_strip (unifyLineBreaks text.toList)
  refine ⟨fun n => ?_, fun none => ⟨_, strips, ?_⟩⟩
  · constructor
    · intro accepted
      by_cases some : ∃ n, IsNumeral (strip (unifyLineBreaks text.toList)) n
      · obtain ⟨n', numeral⟩ := some
        rw [readLastUsed_of_isNumeral read strips numeral] at accepted
        cases accepted
        exact ⟨_, strips, numeral⟩
      · rw [readLastUsed_of_not_isNumeral read strips (not_exists.1 some)] at accepted
        cases accepted
    · rintro ⟨core, strips, numeral⟩
      exact readLastUsed_of_isNumeral read strips numeral
  · exact readLastUsed_of_not_isNumeral read strips fun n numeral => none ⟨_, n, strips, numeral⟩

/-- A tree with one state file. -/
def timeTree (text : String) : FileTree :=
  FileTree.empty.set ["time"] (.file (encode text))

theorem read_timeTree (text : String) :
    (timeTree text).read .root ⟨.absolute, ["time"]⟩ = .ok (encode text) :=
  read_root (by decide) rfl

/-- A sign, a leading zero, an underscore and a digit of another script between blanks make a time, and two
underscores do not. -/
theorem readLastUsed_timeTree :
    readLastUsed (timeTree "\u00a0-0_٤2\r\n") .root ⟨.absolute, ["time"]⟩ = .ok (-42) ∧
    readLastUsed (timeTree "4__2\n") .root ⟨.absolute, ["time"]⟩ =
      .error (.state (.notATimestamp "/time" "4__2")) := by
  refine ⟨?_, ?_⟩
  · refine ((readLastUsed_eq_ok_iff_isNumeral (read_timeTree _)).1 _).2 ⟨['-', '0', '_', '٤', '2'], ?_, ?_⟩
    · exact strip_eq_iff.1 (by decide)
    · exact readNumeral?_eq_some_iff.1 (by decide)
  · have stripped : ∀ core, Strips (unifyLineBreaks "4__2\n".toList) core ↔ core = ['4', '_', '_', '2'] := by
      intro core
      rw [← strip_eq_iff, eq_comm]
      exact Iff.of_eq (congrArg (core = ·) (by decide))
    have none : readNumeral? ['4', '_', '_', '2'] = none := by decide
    obtain ⟨core, strips, failed⟩ := (readLastUsed_eq_ok_iff_isNumeral (read_timeTree "4__2\n")).2 <| by
      rintro ⟨core, n, strips, numeral⟩
      rw [(stripped core).1 strips, ← readNumeral?_eq_some_iff, none] at numeral
      cases numeral
    rw [failed, (stripped core).1 strips]
    rfl

/-! ## Times written -/

/-- What was written to a file is all that is read from it. -/
theorem Writes.read (writes : Writes t here depth p value t') :
    t'.read here p = .ok (encode (value ++ "\n")) := by
  obtain ⟨made, l, opened, -, opens, rfl⟩ := writes
  obtain ⟨content, there⟩ := get?_of_openFile opens
  refine read_eq_content (find_of_openFile opens (retains_set_file there)) ?_
  exact get?_set_self (ne_root_of_get?_eq_file there)

theorem Writes.readLastUsed (short : (digits n.natAbs).length ≤ maxDigits)
    (writes : Writes t here depth p (numeral n) t') : readLastUsed t' here p = .ok n := by
  have value : readValue t' here p = .ok (numeral n) :=
    readValue_eq_ok_iff.2 ⟨_, writes.read, valueOf?_numeral n⟩
  refine readLastUsed_eq_ok_iff.2 ⟨_, value, ?_⟩
  rw [numeral, String.toList_ofList, readNumeral?_numeralChars short]

theorem exec_writeLastUsed_of_short (short : (digits n.natAbs).length ≤ maxDigits) (p : Path) (s : Session) :
    exec (writeLastUsed p (.int n)) s = exec (writeValue p (numeral n) >>= fun _ => pure (.int n)) s := by
  have spelled : (Value.int n).text? = some (numeral n) := if_pos short
  show exec (writeTime p (.int n)) s = _
  rw [writeTime, spelled]

/-- A whole number with too many digits is refused before anything else happens. -/
theorem exec_writeLastUsed_of_long (long : maxDigits < (digits n.natAbs).length) (p : Path) (s : Session) :
    exec (writeLastUsed p (.int n)) s = (.error .tooManyDigits, s) := by
  have unspelled : (Value.int n).text? = none := if_neg (Nat.not_le.2 long)
  show exec (writeTime p (.int n)) s = _
  rw [writeTime, unspelled]
  rfl

/-- A whole number is written if it has few enough digits and its numeral can be written. -/
theorem exec_writeLastUsed_int_eq_ok_iff {written : Value} :
    exec (writeLastUsed p (.int n)) s = (.ok written, s') ↔
      written = .int n ∧ (digits n.natAbs).length ≤ maxDigits ∧
        ∃ t', Writes s.world.files s.world.workingDirectory s.world.depth p (numeral n) t' ∧
          s' = s.withFiles t' := by
  by_cases short : (digits n.natAbs).length ≤ maxDigits
  · rw [exec_writeLastUsed_of_short short, ← exec_writeValue_eq_ok_iff, exec_bind]
    cases exec (writeValue p (numeral n)) s with
    | mk result after => cases result <;> simp [short, eq_comm]
  · simp [exec_writeLastUsed_of_long (Nat.not_le.1 short), short]

/-- Writes times of last use to one file, one after another. -/
def writeTimes (p : Path) (times : List Int) : Action Unit :=
  forM times fun n => discard (writeLastUsed p (.int n))

theorem exec_writeTimes_cons_iff {times : List Int} :
    exec (writeTimes p (n :: times)) s = (.ok (), s') ↔
      ∃ between, exec (writeLastUsed p (.int n)) s = (.ok (.int n), between) ∧
        exec (writeTimes p times) between = (.ok (), s') := by
  rw [writeTimes, List.forM_cons]
  constructor
  · intro ran
    obtain ⟨⟨⟩, between, first, rest⟩ := exists_of_exec_bind ran
    obtain ⟨written, first⟩ := exists_of_exec_discard first
    obtain ⟨rfl, -⟩ := exec_writeLastUsed_int_eq_ok_iff.1 first
    exact ⟨between, first, rest⟩
  · rintro ⟨between, first, rest⟩
    rw [exec_bind_of_ok (exec_discard_of_ok first)]
    exact rest

/-- After some times were written the last one is read, whatever was in the file before. A time with more
digits than a numeral may have is refused, and nothing is changed. -/
theorem readLastUsed_of_writeTimes (p : Path) :
    (∀ times s s' (some : times ≠ []), exec (writeTimes p times) s = (.ok (), s') →
      readLastUsed s'.world.files s'.world.workingDirectory p = .ok (times.getLast some)) ∧
    ∀ (n : Int) s, 10 ^ maxDigits ≤ n.natAbs →
      exec (writeLastUsed p (.int n)) s = (.error .tooManyDigits, s) := by
  refine ⟨fun times s s' some ran => ?_, fun n s long => exec_writeLastUsed_of_long (lt_length_digits long) p s⟩
  obtain ⟨n, times, rfl⟩ := List.exists_cons_of_ne_nil some
  induction times generalizing n s with
  | nil =>
    obtain ⟨between, wrote, done⟩ := exec_writeTimes_cons_iff.1 ran
    obtain ⟨-, short, t', writes, rfl⟩ := exec_writeLastUsed_int_eq_ok_iff.1 wrote
    cases done
    exact writes.readLastUsed short
  | cons next times ih =>
    obtain ⟨between, -, ran⟩ := exec_writeTimes_cons_iff.1 ran
    rw [List.getLast_cons_cons]
    exact ih between next (by simp) ran

/-- Of a long time and a short one the short one is read, and then a time that is too long changes nothing. -/
theorem readLastUsed_of_two_writes :
    ∃ s', exec (writeTimes ⟨.absolute, ["time"]⟩ [12345678901234567890, -7]) (atRoot .empty) = (.ok (), s') ∧
      readLastUsed s'.world.files s'.world.workingDirectory ⟨.absolute, ["time"]⟩ = .ok (-7) ∧
      exec (writeLastUsed ⟨.absolute, ["time"]⟩ (.int (10 ^ maxDigits : Nat))) s' =
        (.error .tooManyDigits, s') := by
  have usable : UsableIn ⟨.absolute, []⟩ "time" := by decide
  have short : ∀ n < 10 ^ 20, (digits n).length ≤ maxDigits :=
    fun n small => (length_digits_le small (by decide)).trans (by decide)
  obtain ⟨t, writes, there⟩ := exists_writes_atRoot .empty .root usable
    (fun node there => by cases there) (numeral 12345678901234567890)
  obtain ⟨t', writes', -⟩ := exists_writes_atRoot t .root usable
    (fun node there' => ⟨_, Option.some.inj (there'.symm.trans there)⟩) (numeral (-7))
  have ran : exec (writeTimes ⟨.absolute, ["time"]⟩ [12345678901234567890, -7]) (atRoot .empty) =
      (.ok (), ((atRoot .empty).withFiles t).withFiles t') := by
    refine exec_writeTimes_cons_iff.2 ⟨(atRoot .empty).withFiles t, ?_, ?_⟩
    · exact exec_writeLastUsed_int_eq_ok_iff.2
        ⟨rfl, short _ (by decide), t, writes _, rfl⟩
    · refine exec_writeTimes_cons_iff.2 ⟨((atRoot .empty).withFiles t).withFiles t', ?_, rfl⟩
      exact exec_writeLastUsed_int_eq_ok_iff.2
        ⟨rfl, short _ (by decide), t', writes' _, rfl⟩
  obtain ⟨last, refused⟩ := readLastUsed_of_writeTimes ⟨.absolute, ["time"]⟩
  exact ⟨_, ran, last _ _ _ (by simp) ran, refused _ _ (Nat.le_of_eq (Int.natAbs_natCast _).symm)⟩

end Checkin.Store
