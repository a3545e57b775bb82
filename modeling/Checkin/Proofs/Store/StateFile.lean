import Checkin.Proofs.Action
import Checkin.Proofs.FileTree.Change
import Checkin.Proofs.Text.Blank
import Checkin.Proofs.Text.Utf8
import Checkin.Store

/-!
# State files

What the octets of a state file stand for (`valueOf?`), that an installation id stands for itself, and what
the search for an id in a state file can end with.
-/

namespace Checkin

/-! ## Installation ids as text -/

theorem isVisible_of_mem_installationId {draw : Draw} {c : Char}
    (inside : c ∈ (installationId draw).toList) : Text.isVisible c = true := by
  have digits : ∀ {octets : List UInt8},
      c ∈ octets.flatMap (fun b => Text.hexDigits 2 b.toNat) → Text.isVisible c = true := by
    intro octets inside
    obtain ⟨b, -, digit⟩ := List.mem_flatMap.1 inside
    exact Text.isVisible_of_mem_hexDigits digit
  simp only [installationId, Draw.grouped, String.toList_ofList, List.intercalate, List.intersperse,
    List.flatten_cons, List.flatten_nil, List.append_nil, List.mem_append, List.mem_singleton] at inside
  rcases inside with inside | rfl | inside | rfl | inside | rfl | inside | rfl | inside
  all_goals first | exact digits inside | rfl

theorem installationId_ne_empty (draw : Draw) : installationId draw ≠ "" := by
  intro empty
  have none : (installationId draw).toList = [] := by rw [empty]; rfl
  simp [installationId, Draw.grouped, List.intercalate, List.intersperse] at none

namespace Store

open Checkin.Text Checkin.Action

/-- The value that the octets of a state file stand for, if they are text that is not blank. -/
def valueOf? (octets : List UInt8) : Option String :=
  match decode octets with
  | .error _ => none
  | .ok text =>
    let value := valueIn (String.ofList (unifyLineBreaks text.toList))
    if value = "" then none else some value

theorem valueOf?_ne_empty {octets : List UInt8} {value : String} (valued : valueOf? octets = some value) :
    value ≠ "" := by
  unfold valueOf? at valued
  split at valued
  · cases valued
  · dsimp only at valued
    split at valued
    · cases valued
    · next some =>
      rwa [Option.some.inj valued] at some

/-- What is written for a value without blanks is read as that value. -/
theorem valueOf?_of_visible {value : String} (notEmpty : value ≠ "")
    (visible : ∀ c ∈ value.toList, isVisible c = true) :
    valueOf? (encode (value ++ "\n")) = some value := by
  have noReturn : '\r' ∉ (value ++ "\n").toList := by
    intro inside
    rw [String.toList_append, List.mem_append] at inside
    rcases inside with inside | inside
    · have := visible '\r' inside
      simp [isVisible] at this
    · simp at inside
  have stripped : valueIn (value ++ "\n") = value := by
    rw [valueIn, String.toList_append]
    show String.ofList (strip (_ ++ ['\n'])) = _
    rw [strip_append_lineFeed visible, String.ofList_toList]
  rw [valueOf?, decode_encode]
  simp only [unifyLineBreaks_eq_self noReturn, String.ofList_toList, stripped, if_neg notEmpty]

/-- What is written for an installation id is read as that id. -/
theorem valueOf?_installationId (draw : Draw) :
    valueOf? (encode (installationId draw ++ "\n")) = some (installationId draw) :=
  valueOf?_of_visible (installationId_ne_empty draw) fun _ inside => isVisible_of_mem_installationId inside

/-! ## Reading -/

section Reading

variable {files : FileTree} {here : Place} {s : Session} {p : Path} {l : Location}
  {content : List UInt8} {value : String}

/-- How the text of a file relates to what its octets stand for. -/
theorem valueOf?_of_readText {text : String} (found : files.find here p .target = .ok ⟨l, 0⟩)
    (there : files.get? l = some (.file content)) (read : readText files here p = .ok text) :
    valueOf? content = if valueIn text = "" then none else some (valueIn text) := by
  rw [readText, FileTree.read_eq_content found there] at read
  unfold valueOf?
  cases decoded : decode content with
  | error fault => simp only [decoded, reduceCtorEq] at read
  | ok raw =>
    simp only [decoded, Except.ok.injEq] at read
    simp only [read]

theorem readText_of_valueOf? (found : files.find here p .target = .ok ⟨l, 0⟩)
    (there : files.get? l = some (.file content)) (valued : valueOf? content = some value) :
    ∃ text, readText files here p = .ok text ∧ valueIn text = value ∧ value ≠ "" := by
  unfold valueOf? at valued
  cases decoded : decode content with
  | error fault => simp only [decoded, reduceCtorEq] at valued
  | ok raw =>
    simp only [decoded] at valued
    split at valued
    · cases valued
    · next some =>
      rw [Option.some.injEq] at valued
      refine ⟨_, by simp only [readText, FileTree.read_eq_content found there, decoded], valued, ?_⟩
      rwa [valued] at some

/-- An id in a file is read. -/
theorem readId_of_valueOf? (found : files.find here p .target = .ok ⟨l, 0⟩)
    (there : files.get? l = some (.file content)) (valued : valueOf? content = some value) :
    readId files here p = .ok value := by
  obtain ⟨text, read, rfl, some⟩ := readText_of_valueOf? found there valued
  simp only [readId, readValue, read, if_neg some]

/-- Reading gives the value that the octets of a file stand for, and only that. -/
theorem readValue_eq_ok_iff :
    readValue files here p = .ok value ↔
      ∃ octets, files.read here p = .ok octets ∧ valueOf? octets = some value := by
  unfold readValue readText
  cases files.read here p with
  | error fault => cases fault <;> simp
  | ok octets =>
    simp only [Except.ok.injEq, exists_eq_left', valueOf?]
    cases decode octets with
    | error fault => simp
    | ok text =>
      dsimp only
      split <;> simp

theorem readLastUsed_eq_ok_iff {n : Int} :
    readLastUsed files here p = .ok n ↔
      ∃ text, readValue files here p = .ok text ∧ readNumeral? text.toList = some n := by
  unfold readLastUsed
  cases readValue files here p with
  | error failure => simp
  | ok text =>
    simp only [Except.ok.injEq, exists_eq_left']
    cases readNumeral? text.toList <;> simp

/-- An id in a file is the one there is. -/
theorem exec_existingId?_of_valueOf?
    (found : s.world.files.find s.world.workingDirectory p .target = .ok ⟨l, 0⟩)
    (there : s.world.files.get? l = some (.file content)) (valued : valueOf? content = some value) :
    exec (existingId? p) s = (.ok (some value), s) := by
  obtain ⟨text, read, rfl, some⟩ := readText_of_valueOf? found there valued
  unfold existingId?
  simp only [exec_bind, exec_world, FileTree.exists?_eq_true found there, exec_onPath, mapError_ok,
    if_pos, read, exec_ofExcept, if_neg some, exec_pure]

/-- Where a path names nothing there is no id. -/
theorem exec_existingId?_of_missing
    (missing : s.world.files.exists? s.world.workingDirectory p = .ok false) :
    exec (existingId? p) s = (.ok none, s) := by
  unfold existingId?
  rw [exec_bind_of_ok (exec_world s), missing, exec_bind_of_ok (exec_onPath p (.ok false) s)]
  rfl

theorem exec_writeIdIfAbsent_of_valueOf?
    (found : s.world.files.find s.world.workingDirectory p .target = .ok ⟨l, 0⟩)
    (there : s.world.files.get? l = some (.file content)) (valued : valueOf? content = some value) :
    exec (writeIdIfAbsent p) s = (.ok (value, false), s) := by
  unfold writeIdIfAbsent
  rw [exec_bind_of_ok (exec_existingId?_of_valueOf? found there valued)]
  rfl

/-- What the search for an id can end with. A blank file has none; that is put into the log, if it is
shown. -/
theorem exec_existingId?_cases (p : Path) (s : Session) :
    (∃ failure, exec (existingId? p) s = (.error failure, s) ∧
      ((∃ fault, s.world.files.exists? s.world.workingDirectory p = .error fault ∧
          failure = .system fault (some p.text)) ∨
        (s.world.files.exists? s.world.workingDirectory p = .ok true ∧
          readText s.world.files s.world.workingDirectory p = .error failure) ∨
        s.world.now.wholePart = .error failure)) ∨
    (∃ id, exec (existingId? p) s = (.ok (some id), s)) ∨
    (s.world.files.exists? s.world.workingDirectory p = .ok false ∧
      exec (existingId? p) s = (.ok none, s)) ∨
    (∃ l content s', s.world.files.find s.world.workingDirectory p .target = .ok ⟨l, 0⟩ ∧
      s.world.files.get? l = some (.file content) ∧ valueOf? content = none ∧
      (s' = s ∨ ∃ r, s' = s.write r) ∧ exec (existingId? p) s = (.ok none, s')) := by
  unfold existingId?
  rw [exec_bind_of_ok (exec_world s)]
  cases looked : s.world.files.exists? s.world.workingDirectory p with
  | error fault =>
    exact .inl ⟨_, exec_bind_of_error (exec_onPath p (.error fault) s) _, .inl ⟨fault, rfl, rfl⟩⟩
  | ok present =>
    rw [exec_bind_of_ok (exec_onPath p (.ok present) s)]
    cases present with
    | false => exact .inr (.inr (.inl ⟨rfl, rfl⟩))
    | true =>
      rw [if_pos rfl]
      cases read : readText s.world.files s.world.workingDirectory p with
      | error failure =>
        exact .inl ⟨_, exec_bind_of_error (exec_ofExcept (.error failure) s) _, .inr (.inl ⟨rfl, rfl⟩)⟩
      | ok text =>
        rw [exec_bind_of_ok (exec_ofExcept (.ok text) s)]
        by_cases blank : valueIn text = ""
        · obtain ⟨content, seen⟩ : ∃ content,
              s.world.files.read s.world.workingDirectory p = .ok content := by
            unfold readText at read
            cases seen : s.world.files.read s.world.workingDirectory p with
            | error fault => simp only [seen, reduceCtorEq] at read
            | ok content => exact ⟨content, rfl⟩
          obtain ⟨l, found, there⟩ := FileTree.read_eq_ok seen
          have valueless : valueOf? content = none := by
            rw [valueOf?_of_readText found there read, if_pos blank]
          simp only [if_pos blank]
          rcases exec_log_cases .warning logger ("Id file " ++ p.text ++ " is blank, generating a new id") s
            with hidden | shown | ⟨failure, timeless, failed⟩
          · exact .inr (.inr (.inr ⟨l, content, s, found, there, valueless, .inl rfl,
              exec_bind_of_ok hidden _⟩))
          · exact .inr (.inr (.inr ⟨l, content, _, found, there, valueless, .inr ⟨_, rfl⟩,
              exec_bind_of_ok shown _⟩))
          · exact .inl ⟨failure, exec_bind_of_error failed _, .inr (.inr timeless)⟩
        · exact .inr (.inl ⟨valueIn text, by simp only [if_neg blank, exec_pure]⟩)

end Reading

end Store

end Checkin
