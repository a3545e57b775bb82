import Checkin.Proofs.FileTree.Faults
import Checkin.Proofs.Store.Writing

/-!
# State files that cannot be used

What goes wrong with a state file is reported, with few exceptions: a file whose octets are no text, a NUL
character in its path (`Unreadable`), and too many directories that would have to be made.
-/

namespace Checkin.Store

open Checkin.Action FileTree

variable {files files' : FileTree} {here : Place} {depth : Nat} {p q : Path} {failure : Failure} {s s' : Session}

/-- A file cannot be read, for a reason that is not reported. -/
inductive Unreadable (files : FileTree) (here : Place) (p : Path) : Failure → Prop
  | nul : p.text.toList.contains '\x00' = true →
      Unreadable files here p (.system .embeddedNul (some p.text))
  | octets {content fault} : files.read here p = .ok content → Text.decode content = .error fault →
      Unreadable files here p (.undecodable fault)

theorem Unreadable.isReported (unreadable : Unreadable files here p failure) :
    failure.isReported = false := by
  cases unreadable <;> rfl

theorem readText_eq_error_of_unreadable (unreadable : Unreadable files here p failure) :
    readText files here p = .error failure := by
  cases unreadable with
  | nul nul => rw [readText, read_of_nul nul]
  | octets read refused => simp only [readText, read, refused]

theorem unreadable_of_readText (failed : readText files here p = .error failure)
    (unreported : failure.isReported = false) : Unreadable files here p failure := by
  unfold readText at failed
  cases read : files.read here p with
  | error fault =>
    simp only [read] at failed
    cases failed
    cases nul : p.text.toList.contains '\x00' with
    | true =>
      rw [read_of_nul nul] at read
      cases read
      exact .nul nul
    | false =>
      have numbered := number?_isSome_of_read nul read
      simp [Failure.isReported, numbered] at unreported
  | ok content =>
    simp only [read] at failed
    split at failed
    · next fault refused =>
      cases failed
      exact .octets read refused
    · cases failed

theorem readValue_eq_error_of_unreadable (unreadable : Unreadable files here p failure) :
    readValue files here p = .error failure := by
  have failed := readText_eq_error_of_unreadable unreadable
  unfold readValue
  cases unreadable <;> simp only [failed]

theorem unreadable_of_readValue (failed : readValue files here p = .error failure)
    (unreported : failure.isReported = false) : Unreadable files here p failure := by
  unfold readValue at failed
  split at failed
  · cases failed
    cases unreported
  · next other _ failedText =>
    cases failed
    exact unreadable_of_readText failedText unreported
  · simp only at failed
    split at failed
    · cases failed
      cases unreported
    · cases failed

theorem readLastUsed_eq_error_of_unreadable (unreadable : Unreadable files here p failure) :
    readLastUsed files here p = .error failure := by
  simp only [readLastUsed, readValue_eq_error_of_unreadable unreadable]

theorem unreadable_of_readLastUsed (failed : readLastUsed files here p = .error failure)
    (unreported : failure.isReported = false) : Unreadable files here p failure := by
  unfold readLastUsed at failed
  split at failed
  · next failedValue =>
    cases failed
    exact unreadable_of_readValue failedValue unreported
  · split at failed
    · cases failed
    · cases failed
      cases unreported

/-! ## Writing -/

/-- The directories above a state file cannot be made, for a reason that is not reported. -/
inductive Unmakeable (files : FileTree) (here : Place) (depth : Nat) (p : Path) : Failure → Prop
  | intro {fault q files'} : files.makeDirectories here depth p = (.error (fault, q), files') →
      fault.number? = none → Unmakeable files here depth p (.system fault (some q.text))

theorem Unmakeable.isReported (unmakeable : Unmakeable files here depth p failure) :
    failure.isReported = false := by
  obtain ⟨-, unnumbered⟩ := unmakeable
  simp [Failure.isReported, unnumbered]

theorem exec_writeValue_of_unmakeable
    (unmakeable : Unmakeable s.world.files s.world.workingDirectory s.world.depth p.parent failure)
    (value : String) :
    ∃ s', exec (writeValue p value) s = (.error failure, s') := by
  obtain ⟨failed, -⟩ := unmakeable
  unfold writeValue
  simp only [exec_bind, exec_world, failed, exec_setFiles]
  exact ⟨_, rfl⟩

/-- Once its directory is there, a state file can be written, or the failure is reported. -/
theorem unmakeable_of_writeValue {directory : Path} {name value : String} (plain : '\x00' ∉ name.toList)
    (failed : exec (writeValue (directory.child name) value) s = (.error failure, s'))
    (unreported : failure.isReported = false) :
    Unmakeable s.world.files s.world.workingDirectory s.world.depth directory failure := by
  unfold writeValue at failed
  rw [Path.parent_child] at failed
  simp only [exec_bind, exec_world] at failed
  cases makes : s.world.files.makeDirectories s.world.workingDirectory s.world.depth directory with
  | mk result made =>
    simp only [makes, exec_setFiles] at failed
    cases result with
    | error stopped =>
      obtain ⟨fault, q⟩ := stopped
      cases failed
      refine .intro makes ?_
      simpa [Failure.isReported] using unreported
    | ok done =>
      have noNul : (directory.child name).text.toList.contains '\x00' = false := by
        rw [Path.contains_nul_child plain]
        exact noNul_of_makeDirectories makes
      simp only [exec_bind, exec_onPath, write_eq] at failed
      cases opens : made.openFile s.world.workingDirectory (directory.child name) with
      | ok opened => simp [opens, Except.map] at failed
      | error fault =>
        simp only [opens, Except.map, mapError_error] at failed
        cases failed
        have numbered := number?_isSome_of_openFile noNul opens
        simp [Failure.isReported, numbered] at unreported

/-! ## Asking for an id -/

/-- Why asking for an id fails without a report: there is a file that cannot be read, or there is none and
its directory cannot be made. -/
inductive Unanswerable (files : FileTree) (here : Place) (depth : Nat) (directory : Path) (name : String) :
    Failure → Prop
  | unreadable {cause} : files.exists? here (directory.child name) = .ok true →
      Unreadable files here (directory.child name) cause → Unanswerable files here depth directory name cause
  | unmakeable {cause} : files.exists? here (directory.child name) = .ok false →
      Unmakeable files here depth directory cause → Unanswerable files here depth directory name cause

theorem Unanswerable.isReported {directory : Path} {name : String}
    (unanswerable : Unanswerable files here depth directory name failure) : failure.isReported = false := by
  cases unanswerable with
  | unreadable _ unreadable => exact unreadable.isReported
  | unmakeable _ unmakeable => exact unmakeable.isReported

theorem exec_existingId?_of_unreadable
    (present : s.world.files.exists? s.world.workingDirectory p = .ok true)
    (unreadable : Unreadable s.world.files s.world.workingDirectory p failure) :
    exec (existingId? p) s = (.error failure, s) := by
  unfold existingId?
  rw [exec_bind_of_ok (exec_world s), present, exec_bind_of_ok (exec_onPath p (.ok true) s), if_pos rfl,
    readText_eq_error_of_unreadable unreadable]
  rfl

theorem unreadable_of_existingId? {second : Int} (clock : s.world.now.wholePart = .ok second)
    (failed : exec (existingId? p) s = (.error failure, s')) (unreported : failure.isReported = false) :
    s.world.files.exists? s.world.workingDirectory p = .ok true ∧
      Unreadable s.world.files s.world.workingDirectory p failure := by
  rcases exec_existingId?_cases p s with ⟨cause, stopped, why⟩ | ⟨id, found⟩ | ⟨-, absent⟩ |
    ⟨l, content, after, -, -, -, -, absent⟩
  · rw [failed] at stopped
    cases stopped
    rcases why with ⟨fault, looked, rfl⟩ | ⟨present, unread⟩ | timeless
    · rw [exists?_fault looked] at unreported
      cases unreported
    · exact ⟨present, unreadable_of_readText unread unreported⟩
    · rw [clock] at timeless
      cases timeless
  · rw [failed] at found
    cases found
  · rw [failed] at absent
    cases absent
  · rw [failed] at absent
    cases absent

theorem exec_writeIdIfAbsent_of_unanswerable {directory : Path} {name : String}
    (unanswerable : Unanswerable s.world.files s.world.workingDirectory s.world.depth directory name failure) :
    ∃ s', exec (writeIdIfAbsent (directory.child name)) s = (.error failure, s') := by
  cases unanswerable with
  | unreadable present unreadable =>
    exact ⟨s, exec_writeIdIfAbsent_of_error (exec_existingId?_of_unreadable present unreadable)⟩
  | unmakeable missing unmakeable =>
    obtain ⟨s', failed⟩ := exec_writeValue_of_unmakeable (s := s.drawn) (p := directory.child name)
      (by rw [Path.parent_child]; exact unmakeable) (installationId s.nextDraw)
    rw [exec_writeIdIfAbsent_of_none (exec_existingId?_of_missing missing), failed]
    exact ⟨s', rfl⟩

theorem unanswerable_of_writeIdIfAbsent {directory : Path} {name : String} {second : Int}
    (plain : '\x00' ∉ name.toList) (clock : s.world.now.wholePart = .ok second)
    (failed : exec (writeIdIfAbsent (directory.child name)) s = (.error failure, s'))
    (unreported : failure.isReported = false) :
    Unanswerable s.world.files s.world.workingDirectory s.world.depth directory name failure := by
  have unwritten : ∀ {before : Session}, exec (existingId? (directory.child name)) s = (.ok none, before) →
      Unmakeable before.world.files before.world.workingDirectory before.world.depth directory failure := by
    intro before absent
    rw [exec_writeIdIfAbsent_of_none absent] at failed
    cases wrote : exec (writeValue (directory.child name) (installationId before.nextDraw)) before.drawn with
    | mk result after =>
      rw [wrote] at failed
      cases result with
      | ok done => cases failed
      | error other =>
        cases failed
        exact unmakeable_of_writeValue (s := before.drawn) plain wrote unreported
  cases looked : exec (existingId? (directory.child name)) s with
  | mk result before =>
    cases result with
    | error other =>
      rw [exec_writeIdIfAbsent_of_error looked] at failed
      cases failed
      obtain ⟨present, unreadable⟩ := unreadable_of_existingId? clock looked unreported
      exact .unreadable present unreadable
    | ok existing =>
      rcases exec_existingId?_cases (directory.child name) s with ⟨_, other, -⟩ | ⟨id, other⟩ |
        ⟨missing, absent⟩ | ⟨l, content, after, found, there, -, logged, absent⟩
      · rw [looked] at other; cases other
      · rw [exec_writeIdIfAbsent_of_some other] at failed
        cases failed
      · exact .unmakeable missing (unwritten absent)
      · -- A file that is there, if blank, has a directory.
        obtain ⟨fails, unnumbered⟩ := unwritten absent
        obtain ⟨-, found', content', there'⟩ := find_of_logged found there logged
        have numbered := number?_isSome_of_makeDirectories plain (exists?_eq_true found' there') fails
        rw [unnumbered] at numbered
        cases numbered

end Checkin.Store
