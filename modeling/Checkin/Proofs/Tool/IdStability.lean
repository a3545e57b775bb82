import Checkin.Proofs.Tool.Operations

/-!
# Stability of installation ids

An id in a state file outlives whatever the tool does, one operation after another, as long as neither a
time of last use nor a log is written to the file, with one exception: an id that is asked for late, by a
path with a directory missing in front of a double dot, is replaced.
-/

namespace Checkin

open Checkin.Action Store FileTree

/-! ## One operation after another -/

/-- A step in the life of the state files: an operation, and all that it finds but the files. -/
structure Step where
  session : Session
  operation : Operation

namespace Step

/-- The session in which a step is taken. -/
def before (step : Step) (t : FileTree) : Session :=
  step.session.withFiles t

/-- The files after a step. -/
def after (step : Step) (t : FileTree) : FileTree :=
  (step.operation.run (step.before t)).world.files

/-- A step that writes neither a time of last use nor a log to the file at a location. -/
def Apart (l : Location) (step : Step) (t : FileTree) : Prop :=
  step.operation.Apart (step.before t) l

/-- A step that asks for an id by a path which names nothing but lands on the file at a location. -/
def Late (l : Location) (step : Step) (t : FileTree) : Prop :=
  step.operation.Late (step.before t) l

end Step

/-- The files after some steps. -/
def filesAfter (t : FileTree) (steps : List Step) : FileTree :=
  steps.foldl (fun t step => step.after t) t

/-- A condition holds of every step, with the files that the steps before it leave. -/
def Throughout (condition : Step → FileTree → Prop) (t : FileTree) : List Step → Prop
  | [] => True
  | step :: steps => condition step t ∧ Throughout condition (step.after t) steps

/-- A path leads to a file with an id. -/
structure IdAt (t : FileTree) (here : Place) (p : Path) (l : Location) (content : List UInt8)
    (id : String) : Prop where
  found : t.find here p .target = .ok ⟨l, 0⟩
  there : t.get? l = some (.file content)
  valued : valueOf? content = some id

/-- A path has an id: one that is in its file, or one that was new when it was asked for. -/
inductive HasId (t : FileTree) (here : Place) (p : Path) (id : String) : Prop
  | there {l content} : IdAt t here p l content id → HasId t here p id
  | new {s s'} : exec (Store.writeIdIfAbsent p) s = (.ok (id, true), s') →
      s.world.workingDirectory = here → s'.world.files = t → HasId t here p id

/-- Whoever asks for the id by its path, or reads it, is given the one there is, and changes nothing. -/
structure Answers (t : FileTree) (here : Place) (p : Path) (id : String) : Prop where
  writeIdIfAbsent : ∀ s, s.world.files = t → s.world.workingDirectory = here →
    exec (Store.writeIdIfAbsent p) s = (.ok (id, false), s)
  generateId : ∀ s cfg second, s.world.files = t → s.world.workingDirectory = here → cfg.idFile = p →
    s.world.now.wholePart = .ok second →
    exec (Usage.generateId cfg) s = (.ok id, s) ∨
      exec (Usage.generateId cfg) s = (.ok id, s.write ⟨.debug, Usage.idLogger,
        "Installation id already present in " ++ p.text⟩)
  readId : Store.readId t here p = .ok id

theorem IdAt.answers {t : FileTree} {here : Place} {p : Path} {l : Location} {content : List UInt8}
    {id : String} (idAt : IdAt t here p l content id) : Answers t here p id := by
  obtain ⟨found, there, valued⟩ := idAt
  refine ⟨?_, ?_, readId_of_valueOf? found there valued⟩
  · rintro s rfl rfl
    exact exec_writeIdIfAbsent_of_valueOf? found there valued
  · rintro s cfg second rfl rfl rfl clock
    have asked := exec_writeIdIfAbsent_of_valueOf? found there valued
    unfold Usage.generateId
    rw [exec_bind_of_ok asked]
    rcases exec_log_cases .debug Usage.idLogger
        ("Installation id already present in " ++ cfg.idFile.text) s
      with hidden | shown | ⟨failure, stopped, -⟩
    · exact .inl (exec_bind_of_ok hidden _)
    · exact .inr (exec_bind_of_ok shown _)
    · rw [clock] at stopped
      cases stopped

/-- Files with an id at a location keep it through steps none of which is late, and nothing of what was
there is taken away. -/
theorem holds_filesAfter {t : FileTree} {l : Location} {content : List UInt8} {id : String}
    (there : t.get? l = some (.file content)) (valued : valueOf? content = some id) (steps : List Step)
    (apart : Throughout (Step.Apart l) t steps)
    (prompt : Throughout (fun step t => ¬step.Late l t) t steps) :
    Retains t (filesAfter t steps) ∧ (filesAfter t steps).get? l = some (.file content) := by
  induction steps generalizing t with
  | nil => exact ⟨Retains.refl t, there⟩
  | cons step steps ih =>
    obtain ⟨apart, apartLater⟩ := apart
    obtain ⟨prompt, promptLater⟩ := prompt
    have holding : Holding t l content (step.before t) :=
      ⟨Retains.refl t, there, fun threshold sunk => apart.log (.already sunk)⟩
    have holding' := Operation.holding_run_of_not_late holding valued apart prompt
    obtain ⟨retains, held⟩ := ih holding'.holds apartLater promptLater
    exact ⟨holding'.retains.trans retains, held⟩

theorem HasId.idAt {t : FileTree} {here : Place} {p : Path} {id : String} (hasId : HasId t here p id) :
    ∃ l content, IdAt t here p l content id := by
  cases hasId with
  | there idAt => exact ⟨_, _, idAt⟩
  | new ran sameHere sameFiles =>
    obtain ⟨l, content, found, there, valued⟩ := find_of_writeIdIfAbsent ran
    rw [sameFiles] at found there
    rw [sameHere] at found
    exact ⟨l, content, found, there, valued⟩

/-- The id of a path is in a file, which keeps it octet for octet, and is the answer from then on, whatever
steps are taken, as long as none is late. The first step that is late replaces the id in the file by one
that it draws. -/
theorem id_stable {t : FileTree} {here : Place} {p : Path} {id : String} (hasId : HasId t here p id) :
    ∃ l content, IdAt t here p l content id ∧ ∀ steps, Throughout (Step.Apart l) t steps →
      Throughout (fun step t => ¬step.Late l t) t steps →
      (filesAfter t steps).get? l = some (.file content) ∧ Answers (filesAfter t steps) here p id ∧
      ∀ step : Step, step.Apart l (filesAfter t steps) → step.Late l (filesAfter t steps) →
        (step.after (filesAfter t steps)).get? l =
          some (.file (Text.encode (installationId step.session.nextDraw ++ "\n"))) := by
  obtain ⟨l, content, idAt⟩ := hasId.idAt
  refine ⟨l, content, idAt, ?_⟩
  intro steps apart prompt
  obtain ⟨retains, held⟩ := holds_filesAfter idAt.there idAt.valued steps apart prompt
  have found := find_eq_ok_of_retains retains idAt.found fun absent => by simp [idAt.there] at absent
  refine ⟨held, IdAt.answers ⟨found, held, idAt.valued⟩, ?_⟩
  intro step apartThen late
  have holding : Holding (filesAfter t steps) l content (step.before (filesAfter t steps)) :=
    ⟨Retains.refl _, held, fun threshold sunk => apartThen.log (.already sunk)⟩
  exact (Operation.holding_run_of_late holding apartThen late).holds

/-! ## An id that is kept, and one that is not -/

/-- A tree with nothing but a file that holds an id. -/
def idTree : FileTree :=
  FileTree.empty.set ["uuid"] (.file (Text.encode "keep-me\n"))

/-- The tree once more, with a directory that was missing. -/
def idTreeWithMissing : FileTree :=
  idTree.set ["missing"] .directory

/-- The path of the file, and one that needs the missing directory to lead there. -/
def straightPath : Path := ⟨.relative, ["uuid"]⟩
def detourPath : Path := ⟨.relative, ["missing", "..", "uuid"]⟩

/-- Asking for an id at the root of a tree, with room for one missing directory in another. -/
def asking (p : Path) : Step :=
  ⟨.start { (default : World) with depth := 1 } .unsettled, .writeIdIfAbsent p⟩

theorem find_root {names : List String}
    (noNul : (⟨.relative, names⟩ : Path).text.toList.contains '\x00' = false)
    (fits : ¬maxPathSize < (⟨.relative, names⟩ : Path).text.utf8ByteSize) (t : FileTree)
    (purpose : Purpose) :
    t.find .root ⟨.relative, names⟩ purpose = t.walk purpose maxLinks .root names := by
  rw [find_eq_walk noNul fits]
  rfl

theorem idAt_idTree :
    IdAt idTree .root straightPath ["uuid"] (Text.encode "keep-me\n") "keep-me" := by
  refine ⟨?_, rfl, by decide⟩
  rw [straightPath, find_root (by decide) (by decide),
    walk_plain (by decide) (by decide) (by simp) (by decide) (by decide)]
  rfl

theorem landsLate_idTree : LandsLate idTree .root 1 detourPath ["uuid"] := by
  have missing : ∀ purpose names,
      idTree.walk purpose maxLinks .root ("missing" :: ".." :: names) = .error .notFound := by
    intro purpose names
    rw [walk_plain (by decide) (by decide) (by simp) (by decide) (by decide)]
    rfl
  have through : ∀ purpose names, idTreeWithMissing.walk purpose maxLinks .root ("missing" :: ".." :: names) =
      idTreeWithMissing.walk purpose maxLinks .root names := by
    intro purpose names
    rw [walk_plain (by decide) (by decide) (by simp) (by decide) (by decide)]
    exact walk_up
  refine ⟨?_, idTreeWithMissing, idTreeWithMissing, ?_, ?_⟩
  · have lost : idTree.find .root detourPath .target = .error .notFound := by
      rw [detourPath, find_root (by decide) (by decide), missing]
    rw [exists?, stat, bind_of_error lost]
    rfl
  · have first : idTree.makeDirectory .root ⟨.relative, ["missing", ".."]⟩ = .error .notFound := by
      rw [makeDirectory, find_root (by decide) (by decide), missing]
      rfl
    have made : idTree.makeDirectory .root ⟨.relative, ["missing"]⟩ = .ok idTreeWithMissing := by
      rw [makeDirectory, find_root (by decide) (by decide),
        walk_plain (by decide) (by decide) (by simp) (by decide) (by decide)]
      rfl
    have again : idTreeWithMissing.makeDirectory .root ⟨.relative, ["missing", ".."]⟩ =
        .error .alreadyExists := by
      rw [makeDirectory, find_root (by decide) (by decide), through, walk]
      rfl
    have there : idTreeWithMissing.isDirectory .root ⟨.relative, ["missing", ".."]⟩ = .ok true := by
      rw [isDirectory, stat, find_root (by decide) (by decide), through, walk]
      rfl
    show idTree.makeDirectories .root 1 ⟨.relative, ["missing", ".."]⟩ = _
    simp [makeDirectories, first, Path.parent, made, again, settle, there]
  · rw [openFile, detourPath, find_root (by decide) (by decide), through,
      walk_plain (by decide) (by decide) (by simp) (by decide) (by decide)]
    rfl

/-- The id stays when it is asked for by its own path, and is lost when it is asked for by one through a
directory that is missing. -/
theorem id_stable_idTree :
    (filesAfter idTree [asking straightPath]).get? ["uuid"] = some (.file (Text.encode "keep-me\n")) ∧
      ((asking detourPath).after idTree).get? ["uuid"] =
        some (.file (Text.encode (installationId .zeros ++ "\n"))) := by
  have apart : ∀ p, (asking p).Apart ["uuid"] idTree := by
    intro p
    refine ⟨?_, ?_⟩
    · intro s' q records
      cases records
    · intro logs
      cases logs with
      | already sunk => cases sunk
  obtain ⟨l, content, idAt, stable⟩ := id_stable (.there idAt_idTree)
  have located := idAt.found
  rw [idAt_idTree.found] at located
  cases located
  have filled := idAt.there
  rw [idAt_idTree.there] at filled
  cases filled
  refine ⟨?_, ?_⟩
  · refine (stable [asking _] ⟨apart _, trivial⟩ ⟨?_, trivial⟩).1
    rintro ⟨s', p, asks, missing, -⟩
    have present := exists?_eq_true idAt_idTree.found idAt_idTree.there
    cases asks
    rw [show idTree.exists? .root straightPath = .ok false from missing] at present
    cases present
  · exact (stable [] trivial trivial).2.2 _ (apart _) ⟨_, _, .writeIdIfAbsent, landsLate_idTree⟩

end Checkin
