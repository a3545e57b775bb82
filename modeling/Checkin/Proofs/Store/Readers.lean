import Checkin.Proofs.FileTree.Nesting
import Checkin.Proofs.Store.Faults

/-!
# Readers of state files

Where a path leads to no value (`Valueless`), both readers fail. They say that the file is missing or empty,
unless what they came upon is not taken for that (`Overlooked`).

An installation id has two readers: the plain one, and the one that asks for a new id where there is none.
They agree on which id is in a file and on which failures are none of a missing id.
-/

namespace Checkin.Store

open Checkin.Text Checkin.Action FileTree

variable {files : FileTree} {here : Place} {s s' : Session} {p q : Path} {failure : Failure} {fault : Fault}
  {cause : StateFault} {id : String}

/-! ## How reading fails -/

theorem readText_of_stat (looked : files.stat here p = .error fault) :
    readText files here p = .error (.system fault (some p.text)) := by
  have read : files.read here p = .error fault := bind_of_error looked
  simp only [readText, read]

theorem readValue_of_notFound (lost : files.stat here p = .error .notFound) :
    readValue files here p = .error (.state (.notFound p.text)) := by
  simp only [readValue, readText_of_stat lost]

theorem readValue_of_stat (looked : files.stat here p = .error fault) (other : fault ≠ .notFound) :
    readValue files here p = .error (.system fault (some p.text)) := by
  simp only [readValue, readText_of_stat looked]
  split
  · next same => cases same; exact absurd rfl other
  · next same => cases same; rfl
  · next same => cases same

theorem readValue_of_blank {text : String} (read : readText files here p = .ok text)
    (blank : valueIn text = "") :
    readValue files here p = .error (.state (.empty p.text)) := by
  simp only [readValue, read, if_pos blank]

theorem readLastUsed_of_error (failed : readValue files here p = .error failure) :
    readLastUsed files here p = .error failure := by
  simp only [readLastUsed, failed]

/-- Octets that stand for no value are no text, or blank text. -/
theorem valueOf?_eq_none_cases {octets : List UInt8} (read : files.read here p = .ok octets)
    (valueless : valueOf? octets = none) :
    (∃ fault, decode octets = .error fault) ∨
      ∃ text, readText files here p = .ok text ∧ valueIn text = "" := by
  unfold valueOf? at valueless
  cases decoded : decode octets with
  | error fault => exact .inl ⟨fault, rfl⟩
  | ok raw =>
    refine .inr ⟨String.ofList (unifyLineBreaks raw.toList), by simp only [readText, read, decoded], ?_⟩
    simp only [decoded] at valueless
    split at valueless
    · assumption
    · cases valueless

/-! ## Paths without a value -/

/-- A path leads to no value: it names nothing, or a file whose octets stand for none. -/
inductive Valueless (files : FileTree) (here : Place) (p : Path) : Prop
  | absent : files.exists? here p = .ok false → Valueless files here p
  | worthless {octets} : files.read here p = .ok octets → valueOf? octets = none → Valueless files here p

/-- What is not taken for a missing or an empty file: a file, a loop of links or a NUL character in the
path, and octets that are no text. -/
inductive Overlooked (files : FileTree) (here : Place) (p : Path) : Failure → Prop
  | obstacle {fault : Fault} : files.stat here p = .error fault →
      fault ∈ [.notADirectory, .tooManyLinks, .embeddedNul] →
      Overlooked files here p (.system fault (some p.text))
  | octets {content : List UInt8} {fault : Utf8Fault} : files.read here p = .ok content →
      decode content = .error fault → Overlooked files here p (.undecodable fault)

theorem not_overlooked_of_notFound (lost : files.stat here p = .error .notFound) :
    ¬Overlooked files here p failure := by
  rintro (⟨looked, among⟩ | ⟨read, -⟩)
  · rw [lost] at looked
    cases looked
    exact absurd among (by decide)
  · rw [FileTree.read, bind_of_error lost] at read
    cases read

theorem not_overlooked_of_readText {text : String} (read : readText files here p = .ok text) :
    ¬Overlooked files here p failure := by
  rintro (⟨looked, -⟩ | ⟨there, refused⟩)
  · rw [readText_of_stat looked] at read
    cases read
  · simp only [readText, there, refused, reduceCtorEq] at read

/-- At a path without a value reading fails, and says that the file is missing or empty unless it came upon
something else. -/
theorem readValue_of_valueless (valueless : Valueless files here p) :
    ∃ failure, readValue files here p = .error failure ∧
      (Overlooked files here p failure ∨
        failure ∈ [.state (.notFound p.text), .state (.empty p.text)] ∧
          ∀ other, ¬Overlooked files here p other) := by
  cases valueless with
  | absent missing =>
    obtain ⟨fault, looked, short⟩ := exists?_eq_false_iff.1 missing
    by_cases lost : fault = .notFound
    · subst lost
      exact ⟨_, readValue_of_notFound looked, .inr ⟨by simp, fun _ => not_overlooked_of_notFound looked⟩⟩
    · refine ⟨_, readValue_of_stat looked lost, .inl (.obstacle looked ?_)⟩
      have among := stat_fault looked
      simp only [List.mem_cons, List.not_mem_nil, or_false, lost, short, false_or] at among ⊢
      exact among
  | worthless read valueless =>
    rcases valueOf?_eq_none_cases read valueless with ⟨fault, refused⟩ | ⟨text, readable, blank⟩
    · exact ⟨_, readValue_eq_error_of_unreadable (.octets read refused), .inl (.octets read refused)⟩
    · exact ⟨_, readValue_of_blank readable blank,
        .inr ⟨by simp, fun _ => not_overlooked_of_readText readable⟩⟩

/-- Where a path leads to no value, both readers of state files fail alike, and they say that the file is
missing or empty exactly if there is nothing that is overlooked. A value that is no number is no time of
last use. -/
theorem readers_fail_of_valueless (files : FileTree) (here : Place) (p : Path) :
    (Valueless files here p → ∃ failure, readId files here p = .error failure ∧
      readLastUsed files here p = .error failure ∧
      (Overlooked files here p failure ∨
        failure ∈ [.state (.notFound p.text), .state (.empty p.text)] ∧
          ∀ other, ¬Overlooked files here p other)) ∧
    ∀ octets text, files.read here p = .ok octets → valueOf? octets = some text →
      readNumeral? text.toList = none →
      readLastUsed files here p = .error (.state (.notATimestamp p.text text)) := by
  refine ⟨?_, ?_⟩
  · intro valueless
    obtain ⟨failure, failed, why⟩ := readValue_of_valueless valueless
    exact ⟨failure, failed, readLastUsed_of_error failed, why⟩
  · intro octets text read valued noNumber
    have value : readValue files here p = .ok text := readValue_eq_ok_iff.2 ⟨octets, read, valued⟩
    simp only [readLastUsed, value, noNumber]

/-- A tree with three state files: an id, octets that are no text, and a word. -/
def stateTree : FileTree :=
  ((FileTree.empty.set ["uuid"] (.file (encode "keep-me\n"))).set ["raw"] (.file [0xff])).set ["word"]
    (.file (encode "soon\n"))

theorem read_stateTree_raw : stateTree.read .root ⟨.absolute, ["raw"]⟩ = .ok [0xff] :=
  read_root (by decide) rfl

/-- Octets that are no text are not said to be missing, a word is said to be no time. -/
theorem readers_fail_of_valueless_stateTree :
    (∃ failure, readId stateTree .root ⟨.absolute, ["raw"]⟩ = .error failure ∧
      readLastUsed stateTree .root ⟨.absolute, ["raw"]⟩ = .error failure ∧
      Overlooked stateTree .root ⟨.absolute, ["raw"]⟩ failure) ∧
    readLastUsed stateTree .root ⟨.absolute, ["word"]⟩ =
      .error (.state (.notATimestamp "/word" "soon")) := by
  refine ⟨?_, ?_⟩
  · obtain ⟨failure, failedId, failedTime, overlooked | ⟨-, none⟩⟩ :=
      (readers_fail_of_valueless stateTree .root ⟨.absolute, ["raw"]⟩).1 (.worthless read_stateTree_raw rfl)
    · exact ⟨failure, failedId, failedTime, overlooked⟩
    · exact absurd (.octets read_stateTree_raw rfl) (none _)
  · exact (readers_fail_of_valueless stateTree .root ⟨.absolute, ["word"]⟩).2 _ "soon"
      (read_root (by decide) rfl) (by decide) (by decide)

/-! ## The two readers of an id -/

theorem read_of_readText {text : String} (read : readText files here p = .ok text) :
    ∃ octets, files.read here p = .ok octets := by
  cases seen : files.read here p with
  | error fault => simp only [readText, seen, reduceCtorEq] at read
  | ok octets => exact ⟨octets, rfl⟩

theorem exec_existingId?_of_readId (read : readId s.world.files s.world.workingDirectory p = .ok id) :
    exec (existingId? p) s = (.ok (some id), s) := by
  obtain ⟨octets, there, valued⟩ := readValue_eq_ok_iff.1 read
  obtain ⟨l, found, held⟩ := read_eq_ok there
  exact exec_existingId?_of_valueOf? found held valued

theorem readId_of_existingId? (found : exec (existingId? p) s = (.ok (some id), s')) :
    readId s.world.files s.world.workingDirectory p = .ok id := by
  unfold existingId? at found
  rw [exec_bind_of_ok (exec_world s), exec_bind, exec_onPath] at found
  cases looked : s.world.files.exists? s.world.workingDirectory p with
  | error fault => simp [looked] at found
  | ok present =>
    cases present with
    | false => simp [looked] at found
    | true =>
      simp only [looked, mapError_ok, if_true, exec_bind, exec_ofExcept] at found
      cases read : readText s.world.files s.world.workingDirectory p with
      | error failure => simp [read] at found
      | ok text =>
        simp only [read] at found
        split at found
        · simp only [exec_bind] at found
          split at found <;> simp at found
        · next some =>
          simp only [exec_pure, Prod.mk.injEq, Except.ok.injEq, Option.some.injEq] at found
          simp only [readId, readValue, read, if_neg some]
          rw [found.1]

theorem readText_of_present (present : files.exists? here p = .ok true)
    (unread : readText files here p = .error failure) :
    failure = .system .isADirectory (some p.text) ∨ ∃ fault, failure = .undecodable fault := by
  obtain ⟨node, looked⟩ := exists?_eq_true_iff.1 present
  cases node with
  | file content =>
    have read : files.read here p = .ok content := bind_of_ok looked
    simp only [readText, read] at unread
    split at unread
    · cases unread
      exact .inr ⟨_, rfl⟩
    · cases unread
  | directory | link =>
    have read : files.read here p = .error .isADirectory := bind_of_ok looked
    simp only [readText, read, Except.error.injEq] at unread
    exact .inl unread.symm

/-- What is there and cannot be read is not said to be missing or empty. -/
theorem readId_of_readText (present : files.exists? here p = .ok true)
    (unread : readText files here p = .error failure) :
    readId files here p = .error failure ∧ ∀ fault, failure ≠ .state fault := by
  rcases readText_of_present present unread with rfl | ⟨fault, rfl⟩
  · exact ⟨by simp only [readId, readValue, unread], by simp⟩
  · exact ⟨by simp only [readId, readValue, unread], by simp⟩

theorem exec_existingId?_of_readText (present : s.world.files.exists? s.world.workingDirectory p = .ok true)
    (unread : readText s.world.files s.world.workingDirectory p = .error failure) :
    exec (existingId? p) s = (.error failure, s) := by
  unfold existingId?
  rw [exec_bind_of_ok (exec_world s), present, exec_bind_of_ok (exec_onPath p (.ok true) s), if_pos rfl,
    unread]
  rfl

/-- Where something is that no id can be read from, no new one is asked for either. -/
theorem exec_writeIdIfAbsent_of_readId
    (failed : readId s.world.files s.world.workingDirectory p = .error failure)
    (other : ∀ fault, failure ≠ .state fault)
    (present : s.world.files.exists? s.world.workingDirectory p = .ok true) :
    exec (writeIdIfAbsent p) s = (.error failure, s) := by
  cases read : readText s.world.files s.world.workingDirectory p with
  | error cause =>
    have same := (readId_of_readText present read).1
    rw [failed] at same
    cases same
    exact exec_writeIdIfAbsent_of_error (exec_existingId?_of_readText present read)
  | ok text =>
    simp only [readId, readValue, read] at failed
    split at failed
    · cases failed
      exact absurd rfl (other _)
    · cases failed

/-! ## Asking for a new id -/

theorem readId_state_cases (failed : readId files here p = .error (.state cause)) :
    cause = .notFound p.text ∧ files.stat here p = .error .notFound ∨
    cause = .empty p.text ∧ ∃ text, readText files here p = .ok text ∧ valueIn text = "" := by
  cases looked : files.stat here p with
  | error fault =>
    by_cases lost : fault = .notFound
    · subst lost
      rw [readId, readValue_of_notFound looked] at failed
      cases failed
      exact .inl ⟨rfl, rfl⟩
    · rw [readId, readValue_of_stat looked lost] at failed
      cases failed
  | ok node =>
    have present : files.exists? here p = .ok true := exists?_eq_true_iff.2 ⟨node, looked⟩
    cases read : readText files here p with
    | error failure =>
      obtain ⟨same, other⟩ := readId_of_readText present read
      rw [failed] at same
      cases same
      exact absurd rfl (other cause)
    | ok text =>
      by_cases blank : valueIn text = ""
      · rw [readId, readValue_of_blank read blank] at failed
        cases failed
        exact .inr ⟨rfl, text, rfl, blank⟩
      · simp only [readId, readValue, read, if_neg blank, reduceCtorEq] at failed

/-- Where a state file is missing or empty there is no id, and the log is told of an empty one, which takes
a time. -/
theorem exec_existingId?_of_state
    (failed : readId s.world.files s.world.workingDirectory p = .error (.state cause)) :
    (s.world.files.exists? s.world.workingDirectory p = .ok false ∧
      exec (existingId? p) s = (.ok none, s)) ∨
    (∃ l content s', s.world.files.find s.world.workingDirectory p .target = .ok ⟨l, 0⟩ ∧
      s.world.files.get? l = some (.file content) ∧ (s' = s ∨ ∃ r, s' = s.write r) ∧
      exec (existingId? p) s = (.ok none, s')) ∨
    ∃ failure, cause = .empty p.text ∧ s.world.files.exists? s.world.workingDirectory p = .ok true ∧
      s.world.now.wholePart = .error failure ∧ exec (existingId? p) s = (.error failure, s) := by
  rcases readId_state_cases failed with ⟨-, lost⟩ | ⟨empty, text, read, -⟩
  · have missing := exists?_eq_false_iff.2 ⟨_, lost, by decide⟩
    exact .inl ⟨missing, exec_existingId?_of_missing missing⟩
  obtain ⟨octets, seen⟩ := read_of_readText read
  obtain ⟨l, found, there⟩ := read_eq_ok seen
  have present := exists?_eq_true found there
  rcases exec_existingId?_cases p s with ⟨failure, ran, ⟨fault, looked, -⟩ | ⟨-, unread⟩ | timeless⟩ |
    ⟨id, ran⟩ | ⟨missing, -⟩ | ⟨l, content, s', found, there, -, logged, ran⟩
  · rw [present] at looked
    cases looked
  · rw [read] at unread
    cases unread
  · exact .inr (.inr ⟨failure, empty, present, timeless, ran⟩)
  · rw [readId_of_existingId? ran] at failed
    cases failed
  · rw [present] at missing
    cases missing
  · exact .inr (.inl ⟨l, content, s', found, there, logged, ran⟩)

/-- How a value comes to be written, or where it stops. -/
theorem exec_writeValue_cases (p : Path) (value : String) (s : Session) :
    (∃ files, exec (writeValue p value) s = (.ok (), s.withFiles files)) ∨
    (∃ fault q made,
      s.world.files.makeDirectories s.world.workingDirectory s.world.depth p.parent =
        (.error (fault, q), made) ∧
      exec (writeValue p value) s = (.error (.system fault (some q.text)), s.withFiles made)) ∨
    ∃ fault made, made.openFile s.world.workingDirectory p = .error fault ∧
      exec (writeValue p value) s = (.error (.system fault (some p.text)), s.withFiles made) := by
  cases makes : s.world.files.makeDirectories s.world.workingDirectory s.world.depth p.parent with
  | mk result made =>
    cases result with
    | error stopped =>
      exact .inr (.inl ⟨stopped.1, stopped.2, made, rfl, exec_writeValue_of_stopped makes value⟩)
    | ok done =>
      cases opens : made.openFile s.world.workingDirectory p with
      | error fault => exact .inr (.inr ⟨fault, made, opens, exec_writeValue_of_refused makes opens value⟩)
      | ok opened => exact .inl ⟨_, exec_writeValue_of_opened makes opens value⟩

/-- What comes of asking for an id where there is none, if there are not too many directories to be made: a
new id, which is there from then on, or a fault of the system. Only for the warning about an empty file does
the clock have to show a time. -/
inductive Renewed (p : Path) (s : Session) : Prop
  | written {s' : Session} : exec (writeIdIfAbsent p) s = (.ok (installationId s.nextDraw, true), s') →
      readId s'.world.files s'.world.workingDirectory p = .ok (installationId s.nextDraw) → Renewed p s
  | refused {fault : Fault} {q : String} {s' : Session} :
      exec (writeIdIfAbsent p) s = (.error (.system fault (some q)), s') →
      fault.number?.isSome = true → Renewed p s
  | timeless {failure : Failure} :
      readId s.world.files s.world.workingDirectory p = .error (.state (.empty p.text)) →
      s.world.now.wholePart = .error failure →
      exec (writeIdIfAbsent p) s = (.error failure, s) → Renewed p s

theorem nextDraw_of_logged (logged : s' = s ∨ ∃ r, s' = s.write r) : s'.nextDraw = s.nextDraw := by
  rcases logged with rfl | ⟨r, rfl⟩
  · rfl
  · rw [Session.nextDraw, Session.write_world]
    rfl

theorem noNul_of_state (failed : readId files here p = .error (.state cause)) :
    p.text.toList.contains '\x00' = false := by
  cases nul : p.text.toList.contains '\x00' with
  | false => rfl
  | true =>
    rw [readId, readValue_of_stat (stat_of_nul nul) (by decide)] at failed
    cases failed

/-- Where there is no id and the directories above can be made, a new one is written, or the system refuses.
-/
theorem renewed_of_none (failed : readId s.world.files s.world.workingDirectory p = .error (.state cause))
    (logged : s' = s ∨ ∃ r, s' = s.write r) (absent : exec (existingId? p) s = (.ok none, s'))
    (shallow : ¬OrphanedThrough s'.world.files s'.world.workingDirectory s'.world.depth p.parent) :
    Renewed p s := by
  have asked := exec_writeIdIfAbsent_of_none absent
  rw [nextDraw_of_logged logged] at asked
  have noNul := noNul_of_state failed
  rcases exec_writeValue_cases p (installationId s.nextDraw) s'.drawn with
    ⟨files', wrote⟩ | ⟨fault, q, made, stopped, wrote⟩ | ⟨fault, made, refused, wrote⟩
  · rw [wrote] at asked
    obtain ⟨l, content, found, there, valued⟩ := find_of_writeIdIfAbsent asked
    have sameHere : (s'.drawn.withFiles files').world.workingDirectory = s.world.workingDirectory := by
      rcases logged with rfl | ⟨r, rfl⟩
      · rfl
      · show (s.write r).world.workingDirectory = _
        rw [Session.write_world]
    rw [← sameHere] at found
    exact .written asked (readId_of_valueOf? found there valued)
  · rw [wrote] at asked
    rcases makeDirectories_fault (noNul_parent noNul) stopped with numbered | rfl
    · exact .refused asked numbered
    · exact absurd (orphanedThrough_of_makeDirectories stopped) shallow
  · rw [wrote] at asked
    exact .refused asked (number?_isSome_of_openFile noNul refused)

theorem existingId?_of_writeIdIfAbsent (kept : (exec (writeIdIfAbsent p) s).1 = .ok (id, false)) :
    ∃ s', exec (existingId? p) s = (.ok (some id), s') := by
  cases searched : exec (existingId? p) s with
  | mk result s' =>
    cases result with
    | error failure =>
      rw [exec_writeIdIfAbsent_of_error searched] at kept
      cases kept
    | ok existing =>
      cases existing with
      | some other =>
        rw [exec_writeIdIfAbsent_of_some searched] at kept
        cases kept
        exact ⟨s', rfl⟩
      | none =>
        rw [exec_writeIdIfAbsent_of_none searched] at kept
        cases wrote : (exec (writeValue p (installationId s'.nextDraw)) s'.drawn).1 <;>
          simp [wrote, Except.map] at kept

theorem readId_of_writeIdIfAbsent (kept : (exec (writeIdIfAbsent p) s).1 = .ok (id, false)) :
    readId s.world.files s.world.workingDirectory p = .ok id := by
  obtain ⟨s', found⟩ := existingId?_of_writeIdIfAbsent kept
  exact readId_of_existingId? found

/-- Where the plain reader says that the file is missing or empty, a new id is written or the system
refuses, unless more directories are missing one above another than can be made. -/
theorem exec_writeIdIfAbsent_of_state
    (failed : readId s.world.files s.world.workingDirectory p = .error (.state cause)) :
    (OrphanedThrough s.world.files s.world.workingDirectory s.world.depth p.parent →
      ∃ q, exec (writeIdIfAbsent p) s = (.error (.system .directoriesTooDeep (some q)), s.drawn)) ∧
    (¬OrphanedThrough s.world.files s.world.workingDirectory s.world.depth p.parent → Renewed p s) := by
  rcases exec_existingId?_of_state failed with ⟨missing, absent⟩ |
    ⟨l, content, s', found, there, logged, absent⟩ | ⟨failure, empty, present, timeless, ran⟩
  · refine ⟨fun through => ?_, fun shallow => renewed_of_none failed (.inl rfl) absent shallow⟩
    obtain ⟨q, stopped⟩ := through.makeDirectories
    rw [exec_writeIdIfAbsent_of_none absent,
      exec_writeValue_of_stopped (s := s.drawn) stopped (installationId s.nextDraw)]
    exact ⟨q.text, rfl⟩
  · -- A file that is there has a directory to be in, also after the log was told of it.
    have present := exists?_eq_true found there
    refine ⟨fun through => absurd present (Orphaned.not_exists through.orphaned), fun _ => ?_⟩
    obtain ⟨-, found', content', there'⟩ := find_of_logged found there logged
    exact renewed_of_none failed logged absent
      fun through => Orphaned.not_exists through.orphaned (exists?_eq_true found' there')
  · subst empty
    exact ⟨fun through => absurd present (Orphaned.not_exists through.orphaned),
      fun _ => .timeless failed timeless (exec_writeIdIfAbsent_of_error ran)⟩

/-- A session at the root of a tree, in which nothing has been said. -/
def atRoot (files : FileTree) : Session :=
  .start { (default : World) with files } .unsettled

/-- The two readers of an id agree. The one that asks for a new id where there is none gives an id that is
not new exactly if the plain one reads it, and then changes nothing. Where the plain one says that the file
is missing or empty, a new id is written or the system refuses, unless more directories are missing one
above another than can be made: then none is made. Where the plain one fails at something else that is
there, the other one fails alike. -/
theorem readers_agree (p : Path) (s : Session) :
    (∀ id, readId s.world.files s.world.workingDirectory p = .ok id ↔
      (exec (writeIdIfAbsent p) s).1 = .ok (id, false)) ∧
    (∀ id s', exec (writeIdIfAbsent p) s = (.ok (id, false), s') → s' = s) ∧
    (∀ cause, readId s.world.files s.world.workingDirectory p = .error (.state cause) →
      (OrphanedThrough s.world.files s.world.workingDirectory s.world.depth p.parent →
        ∃ q, exec (writeIdIfAbsent p) s = (.error (.system .directoriesTooDeep (some q)), s.drawn)) ∧
      (¬OrphanedThrough s.world.files s.world.workingDirectory s.world.depth p.parent → Renewed p s)) ∧
    ∀ failure, readId s.world.files s.world.workingDirectory p = .error failure →
      (∀ cause, failure ≠ .state cause) →
      s.world.files.exists? s.world.workingDirectory p = .ok true →
      exec (writeIdIfAbsent p) s = (.error failure, s) := by
  have kept : ∀ {id}, readId s.world.files s.world.workingDirectory p = .ok id →
      exec (writeIdIfAbsent p) s = (.ok (id, false), s) :=
    fun read => exec_writeIdIfAbsent_of_some (exec_existingId?_of_readId read)
  refine ⟨fun id => ⟨fun read => by rw [kept read], readId_of_writeIdIfAbsent⟩, ?_,
    fun cause failed => exec_writeIdIfAbsent_of_state failed,
    fun failure failed other present => exec_writeIdIfAbsent_of_readId failed other present⟩
  intro id s' ran
  have read : readId s.world.files s.world.workingDirectory p = .ok id :=
    readId_of_writeIdIfAbsent (by rw [ran])
  rw [kept read] at ran
  cases ran
  rfl

/-- What comes of asking for an id in a tree: the id that is there, a new one, or the failure of the plain
reader. -/
theorem readers_agree_stateTree :
    (exec (writeIdIfAbsent ⟨.absolute, ["uuid"]⟩) (atRoot stateTree)).1 = .ok ("keep-me", false) ∧
    Renewed ⟨.absolute, ["id"]⟩ (atRoot stateTree) ∧
    ∃ fault, exec (writeIdIfAbsent ⟨.absolute, ["raw"]⟩) (atRoot stateTree) =
      (.error (.undecodable fault), atRoot stateTree) := by
  refine ⟨?_, ?_, ?_⟩
  · obtain ⟨same, -⟩ := readers_agree ⟨.absolute, ["uuid"]⟩ (atRoot stateTree)
    exact (same "keep-me").1 (readValue_eq_ok_iff.2 ⟨_, read_root (by decide) rfl, rfl⟩)
  · have found : ∀ purpose, stateTree.find .root ⟨.absolute, ["id"]⟩ purpose = .ok ⟨["id"], 0⟩ := by
      intro purpose
      rw [find_eq_walk (by decide) (by decide)]
      show stateTree.walk _ _ _ ["id"] = _
      rw [walk_plain (by decide) (by decide) (by simp) (by decide) (by decide)]
      rfl
    have lost : stateTree.stat .root ⟨.absolute, ["id"]⟩ = .error .notFound := bind_of_ok (found .target)
    obtain ⟨-, -, new, -⟩ := readers_agree ⟨.absolute, ["id"]⟩ (atRoot stateTree)
    exact (new _ (readValue_of_notFound lost)).2 fun through => through.orphaned.1 rfl
  · obtain ⟨-, -, -, alike⟩ := readers_agree ⟨.absolute, ["raw"]⟩ (atRoot stateTree)
    have present : stateTree.exists? .root ⟨.absolute, ["raw"]⟩ = .ok true := by
      obtain ⟨l, found, there⟩ := read_eq_ok read_stateTree_raw
      exact exists?_eq_true found there
    have failed := readValue_eq_error_of_unreadable (.octets read_stateTree_raw rfl)
    exact ⟨_, alike _ failed (by simp) present⟩

/-- Where a thousand missing directories can be made one above another, a path below one more of them. The
plain reader says that the file is missing, and yet asking for an id gives none and meets with no fault of the
system. -/
theorem not_renewed_deepPath :
    (∃ cause, readId .empty .root (deepPath 1003) = .error (.state cause)) ∧
    (∀ id s', exec (writeIdIfAbsent (deepPath 1003))
      (.start { (default : World) with files := .empty, depth := 1000 } .unsettled) ≠ (.ok (id, true), s')) ∧
    ∀ fault q s', fault.number?.isSome = true → exec (writeIdIfAbsent (deepPath 1003))
      (.start { (default : World) with files := .empty, depth := 1000 } .unsettled) ≠
        (.error (.system fault q), s') := by
  have failed : readId .empty .root (deepPath 1003) = .error (.state (.notFound (deepPath 1003).text)) :=
    readValue_of_notFound (bind_of_error (find_deepPath (by decide) .target))
  have through : OrphanedThrough .empty .root 1000 (deepPath 1003).parent := by
    rw [deepPath_parent]
    exact orphanedThrough_deepPath 1000 (by decide)
  obtain ⟨q, ran⟩ := (exec_writeIdIfAbsent_of_state
    (s := .start { (default : World) with files := .empty, depth := 1000 } .unsettled) failed).1 through
  rw [ran]
  refine ⟨⟨_, failed⟩, by simp, ?_⟩
  intro fault q s' numbered same
  cases same
  cases numbered

end Checkin.Store
