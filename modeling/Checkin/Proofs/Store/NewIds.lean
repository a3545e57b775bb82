import Checkin.Proofs.InstallationId
import Checkin.Proofs.Store.Uses

/-!
# New ids

An id that is created in a state file is the one that the next draw makes, and it is read again as it is.
-/

namespace Checkin.Store

open Checkin.Action FileTree

variable {p : Path} {s s' : Session} {id : String}

/-- An id that is new is made of the next draw. -/
theorem eq_installationId_of_writeIdIfAbsent (ran : exec (writeIdIfAbsent p) s = (.ok (id, true), s')) :
    id = installationId s.nextDraw := by
  have drawn : ∀ {before : Session}, (before = s ∨ ∃ r, before = s.write r) →
      exec (existingId? p) s = (.ok none, before) → id = installationId s.nextDraw := by
    intro before logged absent
    rw [exec_writeIdIfAbsent_of_none absent, nextDraw_of_logged logged] at ran
    cases wrote : (exec (writeValue p (installationId s.nextDraw)) before.drawn).1 with
    | error failure =>
      rw [wrote] at ran
      cases ran
    | ok done =>
      rw [wrote] at ran
      cases ran
      rfl
  rcases exec_existingId?_cases p s with ⟨failure, failed, -⟩ | ⟨other, present⟩ | ⟨-, absent⟩ |
    ⟨l, content, before, -, -, -, logged, absent⟩
  · rw [exec_writeIdIfAbsent_of_error failed] at ran
    cases ran
  · rw [exec_writeIdIfAbsent_of_some present] at ran
    cases ran
  · exact drawn (.inl rfl) absent
  · exact drawn logged absent

theorem readId_of_new (ran : exec (writeIdIfAbsent p) s = (.ok (id, true), s')) :
    readId s'.world.files s.world.workingDirectory p = .ok id := by
  obtain ⟨l, content, found, there, valued⟩ := find_of_writeIdIfAbsent ran
  exact readId_of_valueOf? found there valued

/-- A session at the root of an empty tree, with one draw to come. -/
def drawing (draw : Draw) : Session :=
  .start { (default : World) with files := .empty, draws := [draw] } .unsettled

/-- Where there is nothing an id is created, whatever is drawn. -/
theorem exists_new (draw : Draw) : ∃ s', exec (writeIdIfAbsent ⟨.absolute, ["id"]⟩) (drawing draw) =
    (.ok (installationId draw, true), s') := by
  have usable : UsableIn ⟨.absolute, []⟩ "id" := by decide
  have found : FileTree.empty.find .root ⟨.absolute, ["id"]⟩ .target = .ok ⟨["id"], 0⟩ :=
    find_atRoot_of_not_link usable (fun target linked => by cases linked) .target
  have lost : FileTree.empty.stat .root ⟨.absolute, ["id"]⟩ = .error .notFound := bind_of_ok found
  have absent := exec_existingId?_of_missing (s := drawing draw) (exists?_eq_false_iff.2 ⟨_, lost, by decide⟩)
  obtain ⟨t, writes, -⟩ := exists_writes_atRoot .empty .root usable (fun node there => by cases there)
    (installationId draw)
  have wrote : exec (writeValue ⟨.absolute, ["id"]⟩ (installationId draw)) (drawing draw).drawn =
      (.ok (), (drawing draw).drawn.withFiles t) := exec_writeValue_eq_ok_iff.2 ⟨t, writes _, rfl⟩
  have asked := exec_writeIdIfAbsent_of_none absent
  rw [show (drawing draw).nextDraw = draw from rfl, wrote] at asked
  exact ⟨_, asked⟩

/-- Any draw may become an id. An id that is created is a UUID of version 4 in its usual form, which has all of the
bits that were drawn but six. It is read again as it is. Two ids that are created, wherever that is, are the same
exactly if what was drawn for them agrees on the other 122 bits. -/
theorem newIds :
    ((List.finRange 128).filter fun k => (fixedBit? k).isNone).length = 122 ∧
    (∀ draw, ∃ p s s' id, s.nextDraw = draw ∧ exec (writeIdIfAbsent p) s = (.ok (id, true), s')) ∧
    ∀ p s s' id, exec (writeIdIfAbsent p) s = (.ok (id, true), s') →
      (∃ digits, IsUuidOf s.nextDraw id digits) ∧
      readId s'.world.files s.world.workingDirectory p = .ok id ∧
      ∀ q r r' other, exec (writeIdIfAbsent q) r = (.ok (other, true), r') →
        (id = other ↔ ∀ k, fixedBit? k = none → s.nextDraw.bit k = r.nextDraw.bit k) := by
  refine ⟨length_freeBits, fun draw => ?_, fun p s s' id ran => ?_⟩
  · obtain ⟨s', ran⟩ := exists_new draw
    exact ⟨_, _, s', _, rfl, ran⟩
  · have made := eq_installationId_of_writeIdIfAbsent ran
    refine ⟨⟨s.nextDraw.stamped.digits, ?_⟩, readId_of_new ran, ?_⟩
    · rw [made]
      exact isUuidOf_installationId s.nextDraw
    · intro q r r' other ran'
      rw [made, eq_installationId_of_writeIdIfAbsent ran', installationId_eq_iff]

/-- A draw with nothing but zeros outside of the bits that are fixed. -/
def markedDraw : Draw := #v[0, 0, 0, 0, 0, 0, 0xF0, 0, 0xC0, 0, 0, 0, 0, 0, 0, 0]

/-- A draw that ends with a one. -/
def lastDraw : Draw := Draw.zeros.set 15 1

/-- Draws that differ in fixed bits only make the same id, and one more bit makes another. -/
theorem newIds_zeros : ∃ s' r' q',
    exec (writeIdIfAbsent ⟨.absolute, ["id"]⟩) (drawing .zeros) =
      (.ok ("00000000-0000-4000-8000-000000000000", true), s') ∧
    readId s'.world.files .root ⟨.absolute, ["id"]⟩ = .ok "00000000-0000-4000-8000-000000000000" ∧
    exec (writeIdIfAbsent ⟨.absolute, ["id"]⟩) (drawing markedDraw) =
      (.ok ("00000000-0000-4000-8000-000000000000", true), r') ∧
    exec (writeIdIfAbsent ⟨.absolute, ["id"]⟩) (drawing lastDraw) = (.ok (installationId lastDraw, true), q') ∧
    installationId lastDraw ≠ "00000000-0000-4000-8000-000000000000" := by
  have zeros : installationId .zeros = "00000000-0000-4000-8000-000000000000" := by decide
  obtain ⟨s', ran⟩ := exists_new .zeros
  obtain ⟨r', ran'⟩ := exists_new markedDraw
  obtain ⟨q', last⟩ := exists_new lastDraw
  rw [zeros] at ran
  obtain ⟨-, -, created⟩ := newIds
  obtain ⟨-, read, same⟩ := created _ _ _ _ ran
  -- The two draws agree on every bit that is not fixed.
  have marked := (same _ _ _ _ ran').2 (by decide)
  rw [← marked] at ran'
  refine ⟨s', r', q', ran, read, ran', last, fun other => ?_⟩
  exact absurd ((same _ _ _ _ last).1 other.symm ⟨127, by decide⟩ (by decide)) (by decide)

end Checkin.Store
