import Checkin.Proofs.Store.Times

/-!
# Values that last

A value is written with a line feed after it, and read without the blank characters at its ends and with its
line breaks unified. So not every value that can be written is read again as it was: those are that have
no blank character at their ends and no carriage return anywhere (`Lasting`). Everything that is read is such
a value.
-/

namespace Checkin.Store

open Checkin.Text Checkin.Action FileTree

variable {t t' : FileTree} {here : Place} {depth : Nat} {p : Path} {value : String} {octets : List UInt8}

/-- A value that a state file keeps as it is. -/
structure Lasting (value : String) : Prop where
  notEmpty : value ≠ ""
  bare : Bare value.toList
  noReturn : '\r' ∉ value.toList

/-- Whatever a state file holds, the value that is found in it lasts. -/
theorem lasting_of_valueOf? (valued : valueOf? octets = some value) : Lasting value := by
  have notEmpty := valueOf?_ne_empty valued
  unfold valueOf? at valued
  split at valued
  · cases valued
  · next text _ =>
    dsimp only at valued
    split at valued
    · cases valued
    · have found : value.toList = strip (unifyLineBreaks text.toList) := by
        rw [← Option.some.inj valued, valueIn, String.toList_ofList, String.toList_ofList]
      refine ⟨notEmpty, ?_, ?_⟩
      · rw [found]
        exact bare_strip _
      · rw [found]
        exact fun inside => noReturn_unifyLineBreaks text.toList (mem_of_mem_strip inside)

/-- A value that lasts is what is found where it was written. -/
theorem Lasting.valueOf? (lasting : Lasting value) : valueOf? (encode (value ++ "\n")) = some value := by
  have lines : unifyLineBreaks (value ++ "\n").toList = value.toList ++ ['\n'] := by
    rw [String.toList_append]
    refine unifyLineBreaks_eq_self fun inside => ?_
    rcases List.mem_append.1 inside with inside | inside
    · exact lasting.noReturn inside
    · exact absurd inside (by decide)
  have stripped : strip (value.toList ++ ['\n']) = value.toList := by
    rw [strip_concat (by decide), strip_eq_self_iff.2 lasting.bare]
  rw [Store.valueOf?, decode_encode]
  simp only [lines, valueIn, String.toList_ofList, stripped, String.ofList_toList,
    if_neg lasting.notEmpty]

theorem valueOf?_encode_iff : valueOf? (encode (value ++ "\n")) = some value ↔ Lasting value :=
  ⟨lasting_of_valueOf?, Lasting.valueOf?⟩

theorem Writes.readValue_iff (writes : Writes t here depth p value t') :
    readValue t' here p = .ok value ↔ Lasting value := by
  rw [readValue_eq_ok_iff, ← valueOf?_encode_iff]
  constructor
  · rintro ⟨octets, read, valued⟩
    cases writes.read.symm.trans read
    exact valued
  · exact fun valued => ⟨_, writes.read, valued⟩

theorem lasting_of_readValue (read : readValue t here p = .ok value) : Lasting value := by
  obtain ⟨octets, -, valued⟩ := readValue_eq_ok_iff.1 read
  exact lasting_of_valueOf? valued

/-- A value that was written is read again exactly if it lasts. Every value that is read lasts, whatever the
file holds, so that it may be written anywhere and is read there. -/
theorem readValue_of_writeValue :
    (∀ p value s s', exec (writeValue p value) s = (.ok (), s') →
      (readValue s'.world.files s'.world.workingDirectory p = .ok value ↔ Lasting value)) ∧
    ∀ files here p value, readValue files here p = .ok value → Lasting value ∧
      ∀ q s s', exec (writeValue q value) s = (.ok (), s') →
        readValue s'.world.files s'.world.workingDirectory q = .ok value := by
  have written : ∀ p value s s', exec (writeValue p value) s = (.ok (), s') →
      (readValue s'.world.files s'.world.workingDirectory p = .ok value ↔ Lasting value) := by
    intro p value s s' ran
    obtain ⟨t', writes, rfl⟩ := exec_writeValue_eq_ok_iff.1 ran
    exact writes.readValue_iff
  refine ⟨written, fun files here p value read => ?_⟩
  have lasting := lasting_of_readValue read
  exact ⟨lasting, fun q s s' ran => (written q value s s' ran).2 lasting⟩

theorem exists_writeValue_atRoot (value : String) :
    ∃ t', exec (writeValue ⟨.absolute, ["value"]⟩ value) (atRoot .empty) = (.ok (), atRoot t') := by
  obtain ⟨t', writes, -⟩ := exists_writes_atRoot .empty .root (show UsableIn ⟨.absolute, []⟩ "value" by decide)
    (fun node there => by cases there) value
  exact ⟨t', exec_writeValue_eq_ok_iff.2 ⟨t', writes _, rfl⟩⟩

/-- Two lines that are read between blanks are written elsewhere without loss, while a value with a carriage
return is not read again. -/
theorem readValue_of_writeValue_lines :
    readValue (timeTree "\u00a0two\r\nlines \n") .root ⟨.absolute, ["time"]⟩ = .ok "two\nlines" ∧
    (∃ t', exec (writeValue ⟨.absolute, ["value"]⟩ "two\nlines") (atRoot .empty) = (.ok (), atRoot t') ∧
      readValue t' .root ⟨.absolute, ["value"]⟩ = .ok "two\nlines") ∧
    ∃ t', exec (writeValue ⟨.absolute, ["value"]⟩ "two\rlines") (atRoot .empty) = (.ok (), atRoot t') ∧
      readValue t' .root ⟨.absolute, ["value"]⟩ ≠ .ok "two\rlines" := by
  obtain ⟨written, kept⟩ := readValue_of_writeValue
  have strips : Strips (unifyLineBreaks "\u00a0two\r\nlines \n".toList) "two\nlines".toList :=
    strip_eq_iff.1 (by decide)
  have read : readValue (timeTree "\u00a0two\r\nlines \n") .root ⟨.absolute, ["time"]⟩ = .ok "two\nlines" :=
    readValue_of_strips (read_timeTree _) strips
  refine ⟨read, ?_, ?_⟩
  · obtain ⟨t', ran⟩ := exists_writeValue_atRoot "two\nlines"
    exact ⟨t', ran, (kept _ _ _ _ read).2 _ _ _ ran⟩
  · obtain ⟨t', ran⟩ := exists_writeValue_atRoot "two\rlines"
    refine ⟨t', ran, fun same => ?_⟩
    exact absurd ((written _ _ _ _ ran).1 same).noReturn (by decide)

end Checkin.Store
