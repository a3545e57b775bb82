import Checkin.Proofs.FileTree.Descent
import Checkin.Proofs.FileTree.Twins
import Checkin.Proofs.Tool.Likeness

/-!
# Logs that go elsewhere

Two sessions that are the same but for where the log goes, or for how much of it is shown, are taken by a
command to sessions of which this can be said again. What is different afterwards is no more than what the
log holds: the records of one session are those of the other one that matter more (`Detailed`), or the same
text stands at the end of a file (`Diverted`).
-/

namespace Checkin

open Checkin.Action

variable {known : String → Prop} {s s' : Session} {said : String} {earlier : List Record}
  {threshold : Level} {l : Location} {before : List UInt8} {w : World} {p : Path}

theorem Session.write_of_standardError (sunk : s.sink = .standardError threshold) (r : Record) :
    s.write r =
      { s with journal := s.journal ++ [r], errors := s.errors ++ r.line s.world.now } := by
  obtain ⟨world, sink, journal, output, errors⟩ := s
  obtain rfl : sink = _ := sunk
  rfl

theorem Session.write_of_file (sunk : s.sink = .file threshold l) (r : Record) :
    s.write r =
      { s.withFiles (s.world.files.append l (Text.encode (r.line s.world.now))) with
        journal := s.journal ++ [r] } := by
  obtain ⟨world, sink, journal, output, errors⟩ := s
  obtain rfl : sink = _ := sunk
  rfl

/-- Where worlds are different in their files only, it is enough that records and printed lines keep sessions
related. -/
theorem likeness_of_world {related : Session → Session → Prop}
    (world : ∀ {s s'}, related s s' → s'.world = { s.world with files := s'.world.files })
    (log : ∀ level logger message,
      Agrees related (Action.log level logger message) (Action.log level logger message))
    (print : ∀ line, Agrees related (Action.print line) (Action.print line)) : Likeness known related where
  environment := fun alike _ _ => by rw [world alike]
  workingDirectory := fun alike => by rw [world alike]
  accounts := fun alike => by rw [world alike]
  clock := fun alike => by rw [world alike]
  platform := fun alike => by rw [world alike]
  packageVersion := fun alike => by rw [world alike]
  log := log
  print := print

/-! ## More of the log -/

/-- Records as they are shown while the clock stands still. -/
def logText (now : Binary64) (records : List Record) : String :=
  String.join (records.map (·.line now))

theorem logText_concat (now : Binary64) (records : List Record) (r : Record) :
    logText now (records ++ [r]) = logText now records ++ r.line now := by
  simp [logText, String.join]

/-- The records that are shown without being asked for. -/
def withoutDetails (records : List Record) : List Record :=
  records.filter (·.level ≠ .debug)

/-- Both sessions say the same on standard error, but for the details that only the second one shows. -/
structure Detailed (earlier : List Record) (said : String) (s s' : Session) : Prop where
  world : s'.world = s.world
  output : s'.output = s.output
  timed : ∃ second, s.world.now.wholePart = .ok second
  sink : s.sink = .standardError .info
  sink' : s'.sink = .standardError .debug
  records : ∃ records, s.journal = earlier ++ withoutDetails records ∧ s'.journal = earlier ++ records ∧
    s.errors = said ++ logText s.world.now (withoutDetails records) ∧
    s'.errors = said ++ logText s.world.now records

namespace Detailed

theorem write (detailed : Detailed earlier said s s') {r : Record} (shown : r.level ≠ .debug) :
    Detailed earlier said (s.write r) (s'.write r) := by
  obtain ⟨world, output, timed, sink, sink', records, journal, journal', errors, errors'⟩ := detailed
  have kept : withoutDetails (records ++ [r]) = withoutDetails records ++ [r] := by
    simp [withoutDetails, List.filter_append, shown]
  rw [Session.write_of_standardError sink, Session.write_of_standardError sink']
  refine ⟨world, output, timed, sink, sink', records ++ [r], ?_, ?_, ?_, ?_⟩
  · simp only [journal, kept, List.append_assoc]
  · simp only [journal', List.append_assoc]
  · simp only [errors, kept, logText_concat, String.append_assoc]
  · simp only [errors', world, logText_concat, String.append_assoc]

/-- A record that only the second session shows is a detail. -/
theorem write_detail (detailed : Detailed earlier said s s') {r : Record} (detail : r.level = .debug) :
    Detailed earlier said s (s'.write r) := by
  obtain ⟨world, output, timed, sink, sink', records, journal, journal', errors, errors'⟩ := detailed
  have kept : withoutDetails (records ++ [r]) = withoutDetails records := by
    simp [withoutDetails, List.filter_append, detail]
  rw [Session.write_of_standardError sink']
  refine ⟨world, output, timed, sink, sink', records ++ [r], ?_, ?_, ?_, ?_⟩
  · rw [kept, journal]
  · simp only [journal', List.append_assoc]
  · rw [kept, errors]
  · simp only [errors', world, logText_concat, String.append_assoc]

theorem log (level : Level) (logger message : String) :
    Agrees (Detailed earlier said) (Action.log level logger message)
      (Action.log level logger message) := by
  intro s s' detailed
  obtain ⟨second, clock⟩ := detailed.timed
  have clock' : s'.world.now.wholePart = .ok second := by rw [detailed.world, clock]
  have shows' : s'.sink.shows level = true := by
    rw [detailed.sink']
    cases level <;> rfl
  rw [exec_log, exec_log, if_pos shows', clock, clock']
  by_cases detail : level = .debug
  · have hidden : ¬s.sink.shows level = true := by
      rw [detailed.sink, detail]
      decide
    rw [if_neg hidden]
    exact ⟨rfl, detailed.write_detail detail⟩
  · have shows : s.sink.shows level = true := by
      rw [detailed.sink]
      cases level <;> first | rfl | exact absurd rfl detail
    rw [if_pos shows]
    exact ⟨rfl, detailed.write detail⟩

theorem print (line : String) :
    Agrees (Detailed earlier said) (Action.print line) (Action.print line) :=
  agrees_modify fun s s' ⟨world, output, timed, sink, sink', records⟩ =>
    ⟨world, by simp only [output], timed, sink, sink', records⟩

theorem likeness : Likeness known (Detailed earlier said) :=
  likeness_of_world (fun detailed => by rw [detailed.world]) log print

theorem tends (p : Path) : Tends (Detailed earlier said) (Detailed earlier said) p where
  present := fun detailed => by rw [detailed.world]
  text := fun detailed => by rw [detailed.world]
  draws := by
    rintro s s' ⟨world, output, timed, sink, sink', records⟩
    rw [exec_draw, exec_draw]
    refine ⟨by rw [Session.nextDraw, Session.nextDraw, world], ?_, output, timed, sink, sink', records⟩
    simp only [Session.drawn, world]
  writes := by
    rintro value s s' ⟨world, output, timed, sink, sink', records⟩
    rw [Store.exec_writeValue, Store.exec_writeValue, world]
    refine ⟨rfl, ?_, output, timed, sink, sink', records⟩
    simp only [Session.withFiles, world]

theorem explores : Explores (Detailed earlier said) :=
  explores_of_looks (fun detailed _ => by rw [detailed.world]) fun detailed _ _ => by rw [detailed.world]

end Detailed

/-! ## The log in a file -/

/-- What the first session says on standard error stands in the second one at the end of a file, from some
point on; all else is the same. -/
structure Diverted (threshold : Level) (l : Location) (before : List UInt8) (said : String)
    (s s' : Session) : Prop where
  world : s'.world = { s.world with files := s'.world.files }
  output : s'.output = s.output
  sink : s.sink = .standardError threshold
  sink' : s'.sink = .file threshold l
  errors : s'.errors = said
  text : ∃ text, s.errors = said ++ text ∧
    FileTree.Twins l before (before ++ Text.encode text) s.world.files s'.world.files

namespace Diverted

theorem write (diverted : Diverted threshold l before said s s') (r : Record) :
    Diverted threshold l before said (s.write r) (s'.write r) := by
  obtain ⟨world, output, sink, sink', errors, text, added, twins⟩ := diverted
  have clock : s'.world.now = s.world.now := by rw [world]
  rw [Session.write_of_standardError sink, Session.write_of_file sink', clock]
  refine ⟨?_, output, sink, sink', errors, text ++ r.line s.world.now, ?_, ?_⟩
  · simp only [Session.withFiles]
    rw [world]
  · simp only [added, String.append_assoc]
  · rw [Text.encode_append, ← List.append_assoc]
    exact twins.append_right _

theorem log (level : Level) (logger message : String) :
    Agrees (Diverted threshold l before said) (Action.log level logger message)
      (Action.log level logger message) := by
  refine agrees_logComposed ?_ ?_ (fun _ _ r diverted => diverted.write r) logger (.ok message)
  · intro s s' diverted
    rw [diverted.sink, diverted.sink']
    rfl
  · intro s s' diverted
    rw [diverted.world]

theorem print (line : String) :
    Agrees (Diverted threshold l before said) (Action.print line) (Action.print line) :=
  agrees_modify fun s s' ⟨world, output, sink, sink', errors, text⟩ =>
    ⟨world, by simp only [output], sink, sink', errors, text⟩

theorem likeness : Likeness known (Diverted threshold l before said) :=
  likeness_of_world (fun diverted => diverted.world) log print

end Diverted

/-- No state file is read or written where the log is. -/
structure Apart (w : World) (l : Location) (p : Path) : Prop where
  found : w.files.find w.workingDirectory p .target ≠ .ok ⟨l, 0⟩
  lands : ¬Store.Lands w.files w.workingDirectory w.depth p l

theorem Apart.of_find {other : Location} {content : List UInt8}
    (found : w.files.find w.workingDirectory p .target = .ok ⟨other, 0⟩)
    (there : w.files.get? other = some (.file content)) (distinct : other ≠ l) : Apart w l p := by
  refine ⟨?_, fun lands => distinct (lands.eq_of_find found there)⟩
  rw [found]
  rintro ⟨⟩
  exact distinct rfl

/-- Before a state file is written, the first session has the files of a world still, and the second one lists
the same names. -/
structure Looking (threshold : Level) (l : Location) (before : List UInt8) (said : String) (w : World)
    (s s' : Session) : Prop extends Diverted threshold l before said s s' where
  unchanged : s.world = { w with draws := s.world.draws }
  housed : FileTree.Housed w.files ⟨l, 0⟩
  names : FileTree.SameNames s.world.files s'.world.files

/-- A value is written alike where the log is not. -/
theorem Store.written_of_twins {x x' : List UInt8} {t t' : FileTree} {here : Place}
    {depth : Nat} (twins : FileTree.Twins l x x' t t') (apart : ¬Store.Lands t here depth p l) (value : String) :
    (written t' here depth p value).1 = (written t here depth p value).1 ∧
      FileTree.Twins l x x' (written t here depth p value).2 (written t' here depth p value).2 := by
  obtain ⟨u', made', alike⟩ := twins.makeDirectories here depth p.parent
  unfold written
  rw [made']
  cases made : t.makeDirectories here depth p.parent with
  | mk result u =>
    rw [made] at alike
    cases result with
    | error stopped => exact ⟨rfl, alike⟩
    | ok done =>
      have elsewhere : ∀ v, u.openFile here p ≠ .ok (l, v) := fun v opened => apart ⟨u, v, made, opened⟩
      dsimp only
      rcases alike.write elsewhere (Text.encode (value ++ "\n")) with
        ⟨fault, refused, refused'⟩ | ⟨v, v', wrote, wrote', alike'⟩
      · rw [refused, refused']
        exact ⟨rfl, alike⟩
      · rw [wrote, wrote']
        exact ⟨rfl, alike'⟩

namespace Looking

theorem write (looking : Looking threshold l before said w s s') (r : Record) :
    Looking threshold l before said w (s.write r) (s'.write r) := by
  obtain ⟨diverted, unchanged, housed, names⟩ := looking
  obtain ⟨text, -, twins⟩ := diverted.text
  have aloud : ∀ threshold l, s.sink ≠ .file threshold l := by
    rw [diverted.sink]
    exact fun _ _ => nofun
  have files : s.world.files = w.files := by rw [unchanged]
  have housed' : FileTree.Housed s'.world.files ⟨l, 0⟩ := by
    refine ⟨rfl, fun front front_before other => ?_⟩
    rw [twins.elsewhere front other, files]
    exact housed.above front front_before other
  refine ⟨diverted.write r, ?_, housed, ?_⟩
  · rw [Session.write_world_of_no_file aloud, unchanged]
  · rw [Session.write_world_of_no_file aloud, Session.write_files_of_file diverted.sink']
    exact fun directory p =>
      (FileTree.sameNames_append housed' twins.right _ directory p).trans (names directory p)

theorem log (level : Level) (logger message : String) :
    Agrees (Looking threshold l before said w) (Action.log level logger message)
      (Action.log level logger message) := by
  refine agrees_logComposed ?_ ?_ (fun _ _ r looking => looking.write r) logger (.ok message)
  · intro s s' looking
    rw [looking.sink, looking.sink']
    rfl
  · intro s s' looking
    rw [looking.world]

theorem print (line : String) :
    Agrees (Looking threshold l before said w) (Action.print line) (Action.print line) := by
  apply agrees_modify
  rintro s s' ⟨diverted, unchanged, housed, names⟩
  exact ⟨(Diverted.print line s s' diverted).2, unchanged, housed, names⟩

theorem likeness : Likeness known (Looking threshold l before said w) :=
  likeness_of_world (fun looking => looking.world) log print

theorem explores : Explores (Looking threshold l before said w) := by
  apply explores_of_looks
  · intro s s' looking p
    obtain ⟨text, -, twins⟩ := looking.text
    rw [looking.world]
    exact (Tool.rootIn_of_twins twins _ _ p).symm
  · intro s s' looking lib stem
    obtain ⟨text, -, twins⟩ := looking.text
    rw [looking.world]
    exact (ShellEnvironment.distributionIn_of_twins twins looking.names _ lib stem).symm

/-- A state file that is not where the log is may be read, and written once. -/
theorem tends (apart : Apart w l p) :
    Tends (Looking threshold l before said w) (Diverted threshold l before said) p where
  present := by
    intro s s' looking
    obtain ⟨text, -, twins⟩ := looking.text
    rw [looking.world]
    exact (twins.exists? _ p).symm
  text := by
    intro s s' looking
    obtain ⟨text, -, twins⟩ := looking.text
    have elsewhere : s.world.files.find s.world.workingDirectory p .target ≠ .ok ⟨l, 0⟩ := by
      rw [looking.unchanged]
      exact apart.found
    rw [looking.world]
    simp only [Store.readText, twins.read elsewhere]
  draws := by
    rintro s s' ⟨⟨world, output, sink, sink', errors, text⟩, unchanged, housed, names⟩
    rw [exec_draw, exec_draw]
    refine ⟨?_, ⟨?_, output, sink, sink', errors, text⟩, ?_, housed, names⟩
    · rw [Session.nextDraw, Session.nextDraw, world]
    · simp only [Session.drawn]
      rw [world]
    · simp only [Session.drawn]
      rw [unchanged]
  writes := by
    rintro value s s' ⟨⟨world, output, sink, sink', errors, text, added, twins⟩, unchanged, -, -⟩
    have here : s'.world.workingDirectory = s.world.workingDirectory := by rw [world]
    have depth : s'.world.depth = s.world.depth := by rw [world]
    have elsewhere : ¬Store.Lands s.world.files s.world.workingDirectory s.world.depth p l := by
      rw [unchanged]
      exact apart.lands
    obtain ⟨same, alike⟩ := Store.written_of_twins twins elsewhere value
    rw [Store.exec_writeValue, Store.exec_writeValue, here, depth]
    refine ⟨same.symm, ?_, output, sink, sink', errors, text, added, alike⟩
    simp only [Session.withFiles]
    rw [world]

end Looking

end Checkin
