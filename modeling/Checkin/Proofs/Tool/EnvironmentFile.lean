import Mathlib
import Checkin.Proofs.EnvironmentFile
import Checkin.Proofs.Tool.Variables

/-!
# Runs with an environment file

A run with an environment file in reach is a run without one, in an environment that has the values from the
file already. The lines of the file that cannot be read are all that can be told of it.
-/

namespace Checkin.Tool

open Checkin.Action Checkin.EnvironmentFile

variable {w : World} {directory : Location} {s s' : Session}

/-! ## Loading the file -/

/-- The text of the environment file that is nearest to a directory. -/
def nearestText? (w : World) (directory : Location) : Option String :=
  match (candidates directory).find? (namesFile w.files w.workingDirectory) with
  | none => none
  | some p => (Store.readText w.files w.workingDirectory p).toOption

/-- The value that the nearest environment file binds a variable to. -/
def fileValue? (w : World) (directory : Location) (name : String) : Option String :=
  (nearestText? w directory).bind fun text => ((w.grammar.bindings w.environment text).lookup name).join

/-- The lines of the nearest environment file that cannot be read. -/
def unreadLines (w : World) (directory : Location) : List Nat :=
  (nearestText? w directory).elim [] w.grammar.unread

/-- The log record about a line that cannot be read. -/
def unreadRecord (line : Nat) : Record :=
  ⟨.warning, "dotenv.main", warning line⟩

/-- What standard error shows of lines that cannot be read. -/
def unreadText (lines : List Nat) : String :=
  lines.foldr (fun line rest => warning line ++ "\n" ++ rest) ""

/-- An environment, and what is said of the nearest environment file. -/
def fileSetting (w : World) (directory : Location) (environment : Environment) : Setting :=
  ⟨environment, (unreadLines w directory).map unreadRecord, unreadText (unreadLines w directory)⟩

/-- While nobody has said where the log goes, the lines that cannot be read are named on standard error. -/
theorem exec_warnings {lines : List Nat} (unsettled : s.sink = .unsettled)
    (told : exec (lines.forM fun line => Action.log .warning "dotenv.main" (warning line)) s =
      (.ok (), s')) :
    s' = { s with
      journal := s.journal ++ lines.map unreadRecord, errors := s.errors ++ unreadText lines } := by
  induction lines generalizing s with
  | nil =>
    cases told
    simp [unreadText]
  | cons line lines ih =>
    obtain ⟨⟨⟩, between, toldFirst, toldRest⟩ := exists_of_exec_bind told
    have shows : s.sink.shows .warning = true := by rw [unsettled]; rfl
    rw [exec_log, if_pos shows] at toldFirst
    split at toldFirst
    · cases toldFirst
    · cases toldFirst
      rw [ih (by rw [Session.write_sink, unsettled]) toldRest]
      obtain ⟨world, sink, journal, output, errors⟩ := s
      obtain rfl : sink = .unsettled := unsettled
      simp [Session.write, unreadRecord, unreadText, List.append_assoc, String.append_assoc]

/-- Loading the environment file leaves an environment in which the variables that were not set have the
values that the file binds them to. -/
theorem exec_loadEnvironmentFile (enabled : isDisabled w.environment = false)
    (loaded : exec (loadEnvironmentFile directory) (.start w .unsettled) = (.ok (), s')) :
    ∃ environment, s' = (Session.start w .unsettled).within (fileSetting w directory environment) ∧
      ∀ name, environment.get? name = (w.environment.get? name).or (fileValue? w directory name) := by
  unfold loadEnvironmentFile at loaded
  rw [exec_bind_of_ok (exec_world _)] at loaded
  simp only [show (Session.start w .unsettled).world = w from rfl, enabled, Bool.false_eq_true, if_false,
    locate?_eq_find?] at loaded
  cases located : (candidates directory).find? (namesFile w.files w.workingDirectory) with
  | none =>
    rw [located] at loaded
    cases loaded
    have none : nearestText? w directory = none := by simp only [nearestText?, located]
    refine ⟨w.environment, ?_, fun name => by simp [fileValue?, none]⟩
    simp only [Session.within, fileSetting, unreadLines, none, Option.elim]
    rfl
  | some p =>
    simp only [located] at loaded
    obtain ⟨text, between, read, loaded⟩ := exists_of_exec_bind loaded
    rw [exec_ofExcept, Prod.mk.injEq] at read
    obtain ⟨read, rfl⟩ := read
    simp only [load] at loaded
    obtain ⟨⟨⟩, warned, told, loaded⟩ := exists_of_exec_bind loaded
    obtain ⟨environment, between, bound, loaded⟩ := exists_of_exec_bind loaded
    rw [exec_ofExcept, Prod.mk.injEq] at bound
    obtain ⟨bound, rfl⟩ := bound
    cases loaded
    have nearest : nearestText? w directory = some text := by
      simp only [nearestText?, located, read, Except.toOption]
    refine ⟨environment, ?_, fun name => ?_⟩
    · rw [exec_warnings rfl told]
      simp [Session.within, Session.start, fileSetting, unreadLines, nearest]
    · rw [get?_foldlM_bind (w.grammar.distinct _ _) bound, fileValue?, nearest]
      rfl

theorem exec_loadEnvironmentFile_of_disabled (disabled : isDisabled w.environment = true) :
    exec (loadEnvironmentFile directory) (.start w .unsettled) = (.ok (), .start w .unsettled) := by
  unfold loadEnvironmentFile
  rw [exec_bind_of_ok (exec_world _)]
  simp only [show (Session.start w .unsettled).world = w from rfl, disabled, if_true]
  rfl

/-- A file that can be read is loaded if its names and values can be those of variables, while the clock
shows a time. -/
theorem fst_exec_loadEnvironmentFile {p : Path} {text : String} {environment : Environment} {second : Int}
    (enabled : isDisabled w.environment = false)
    (located : (candidates directory).find? (namesFile w.files w.workingDirectory) = some p)
    (read : Store.readText w.files w.workingDirectory p = .ok text)
    (bound : (w.grammar.bindings w.environment text).foldlM bind w.environment = .ok environment)
    (clock : w.now.wholePart = .ok second) :
    (exec (loadEnvironmentFile directory) (.start w .unsettled)).1 = .ok () := by
  have warns : Keeps (fun s => s.world.now = w.now) (fun _ => False)
      ((w.grammar.unread text).forM fun line => Action.log .warning "dotenv.main" (warning line)) := by
    refine Keeps.forM (fun line => keeps_logComposed ?_ ?_ (fun _ failed => by cases failed)) _
    · intro s text same
      rwa [Session.write_world]
    · intro s failure same failed
      rw [same, clock] at failed
      cases failed
  obtain ⟨⟨⟩, warned, told, -⟩ := warns.exec_eq_ok (s := .start w .unsettled) rfl
  unfold loadEnvironmentFile
  rw [exec_bind_of_ok (exec_world _)]
  simp only [show (Session.start w .unsettled).world = w from rfl, enabled, Bool.false_eq_true, if_false,
    locate?_eq_find?, located, read, load]
  rw [exec_bind_of_ok (exec_ofExcept _ _), exec_bind_of_ok told, bound]
  rfl

/-! ## Runs -/

theorem exec_openProgram_of_read (program : Path) {content : List UInt8}
    (read : s.world.files.read s.world.workingDirectory program.normal = .ok content) :
    exec (openProgram program) s = (.ok program.normal.parent.names, s) := by
  unfold openProgram
  rw [exec_bind_of_ok (exec_world _)]
  dsimp only
  rw [read]
  rfl

/-- Opening a program only gives the directory that it is in. -/
theorem eq_of_exec_openProgram {program : Path}
    (opened : exec (openProgram program) s = (.ok directory, s')) :
    directory = program.normal.parent.names ∧ s' = s := by
  unfold openProgram at opened
  rw [exec_bind_of_ok (exec_world s)] at opened
  obtain ⟨⟨⟩, between, read, gave⟩ := exists_of_exec_bind opened
  rw [exec_discard, exec_onPath, Prod.mk.injEq] at read
  cases gave
  exact ⟨rfl, read.2.symm⟩

theorem exec_openProgram {program : Path}
    (opened : (exec (openProgram program) s).1 = .ok directory) :
    exec (openProgram program) s = (.ok directory, s) := by
  obtain ⟨-, same⟩ := eq_of_exec_openProgram (Prod.ext opened rfl)
  exact Prod.ext opened same

/-- A program in the root is opened. -/
theorem exec_openProgram_atRoot {name : String} {content : List UInt8}
    (usable : FileTree.UsableIn ⟨.absolute, []⟩ name) (there : w.files.get? [name] = some (.file content)) :
    exec (openProgram ⟨.absolute, [name]⟩) (.start w .unsettled) = (.ok [], .start w .unsettled) := by
  have read : w.files.read w.workingDirectory ⟨.absolute, [name]⟩ = .ok content :=
    FileTree.read_root usable there
  have noUps : ".." ∉ [name] := by
    rw [List.mem_singleton]
    rintro rfl
    exact usable.1 (by decide)
  have normal : Path.normal ⟨.absolute, [name]⟩ = ⟨.absolute, [name]⟩ := Path.normal_of_noUps noUps
  rw [exec_openProgram_of_read (s := .start w .unsettled) ⟨.absolute, [name]⟩ (by rw [normal]; exact read),
    normal]
  rfl

/-- An environment file in the root is the nearest one there. -/
theorem find?_candidates_atRoot {content : List UInt8}
    (there : w.files.get? [".env"] = some (.file content)) :
    (candidates []).find? (namesFile w.files w.workingDirectory) = some ⟨.absolute, [".env"]⟩ := by
  have found : w.files.find w.workingDirectory ⟨.absolute, [".env"]⟩ .target = .ok ⟨[".env"], 0⟩ :=
    FileTree.find_atRoot (by decide) there .target
  rw [candidates_eq_cons]
  exact List.find?_cons_of_pos (namesFile_iff.2 ⟨_, FileTree.stat_eq_file found there⟩)

/-- Without an environment file in the root, there is none for what is there. -/
theorem locate?_atRoot_of_none (absent : w.files.get? [".env"] = none) :
    locate? w.files w.workingDirectory [] = none := by
  have found : w.files.find w.workingDirectory ⟨.absolute, [".env"]⟩ .target = .ok ⟨[".env"], 0⟩ :=
    FileTree.find_atRoot_of_not_link (by decide) (by simp [absent]) .target
  have lost : w.files.stat w.workingDirectory ⟨.absolute, [".env"]⟩ = .error .notFound := by
    rw [FileTree.stat, bind_of_ok found]
    simp [FileTree.nodeAt, absent]
  rw [locate?, List.nil_append, lost]
  rfl

/-- After what loading its environment file left, a run goes as one without such a file does in an
environment with the same variables. -/
theorem run_of_loaded {program : Path} {c : Setting} {merged : Environment} (args : List String)
    (opened : (exec (openProgram program) (.start w .unsettled)).1 = .ok directory)
    (loaded : exec (loadEnvironmentFile directory) (.start w .unsettled) =
      (.ok (), (Session.start w .unsettled).within c))
    (same : ∀ name, c.environment.get? name = merged.get? name) :
    (run (some program) args).run (.start w .unsettled) =
      (((run none args).run (.start { w with environment := merged } .unsettled)).1,
        ((run none args).run (.start { w with environment := merged } .unsettled)).2.within
          { c with environment := w.environment }) := by
  have prepared : exec (prepare (some program)) (.start w .unsettled) =
      (.ok (), (Session.start w .unsettled).within c) := by
    show exec (openProgram program >>= loadEnvironmentFile) _ = _
    rw [exec_bind_of_ok (exec_openProgram opened), loaded]
  have alike : Alike c (fun _ => True) ((Session.start w .unsettled).within c)
      (.start { w with environment := merged } .unsettled) :=
    .intro (.start { w with environment := merged } .unsettled) fun name _ => same name
  have agrees : Agrees (Alike c fun _ => True) (respond args) (respond args) :=
    alike_respond fun _ _ _ => ⟨fun _ => ⟨trivial, trivial, trivial⟩, fun _ => trivial, fun _ => trivial⟩
  obtain ⟨given, left⟩ := agrees _ _ alike
  rw [run_eq, run_none_eq, exec_start, exec_bind_of_ok prepared, given, left.eq_within]
  rfl

/-- With an environment file in reach, a run ends and does as one without it does in any environment that
has, besides the variables that are set, those that the nearest file binds, with its values. All that is
different is what is said first, of the lines of that file that cannot be read; and the environment is the
same afterwards. -/
theorem run_with_environmentFile {program : Path} {merged : Environment} (args : List String)
    (opened : (exec (openProgram program) (.start w .unsettled)).1 = .ok directory)
    (enabled : isDisabled w.environment = false)
    (loaded : (exec (loadEnvironmentFile directory) (.start w .unsettled)).1 = .ok ())
    (merges : ∀ name, merged.get? name = (w.environment.get? name).or (fileValue? w directory name)) :
    (run (some program) args).run (.start w .unsettled) =
      (((run none args).run (.start { w with environment := merged } .unsettled)).1,
        ((run none args).run (.start { w with environment := merged } .unsettled)).2.within
          (fileSetting w directory w.environment)) := by
  obtain ⟨environment, left, valued⟩ := exec_loadEnvironmentFile enabled (Prod.ext loaded rfl)
  have same : ∀ name, environment.get? name = merged.get? name := fun name => by rw [valued, merges]
  exact run_of_loaded args opened (Prod.ext loaded left) same

/-! ## A file with a line that cannot be read -/

/-- The text of an environment file: it binds a variable, and its second line cannot be read. -/
def partlyRead : String := "KIJI_HOME=/k\na b\n"

/-- A world with a program and an environment file at the root, in which no variable is set. -/
def partlyReadWorld : World :=
  { (default : World) with
    files := (FileTree.empty.set ["main.py"] (.file [])).set [".env"] (.file (Text.encode partlyRead)) }

/-- The environment with what the file binds. -/
def partlyReadEnvironment : Environment := ⟨[("KIJI_HOME", "/k")]⟩

theorem opened_partlyReadWorld :
    (exec (openProgram ⟨.absolute, ["main.py"]⟩) (.start partlyReadWorld .unsettled)).1 = .ok [] := by
  have there : partlyReadWorld.files.get? ["main.py"] = some (.file []) :=
    (FileTree.get?_set_of_ne (by simp) (by decide)).trans (FileTree.get?_set_self (by simp))
  rw [exec_openProgram_atRoot (by decide) there]

theorem file_partlyReadWorld :
    partlyReadWorld.files.get? [".env"] = some (.file (Text.encode partlyRead)) :=
  FileTree.get?_set_self (by simp)

theorem located_partlyReadWorld :
    (candidates []).find? (namesFile partlyReadWorld.files .root) = some ⟨.absolute, [".env"]⟩ :=
  find?_candidates_atRoot file_partlyReadWorld

theorem readText_partlyReadWorld :
    Store.readText partlyReadWorld.files .root ⟨.absolute, [".env"]⟩ = .ok partlyRead := by
  have read : partlyReadWorld.files.read .root ⟨.absolute, [".env"]⟩ = .ok (Text.encode partlyRead) :=
    FileTree.read_root (by decide) file_partlyReadWorld
  simp only [Store.readText, read]
  rfl

theorem nearestText?_partlyReadWorld : nearestText? partlyReadWorld [] = some partlyRead := by
  simp only [nearestText?, show partlyReadWorld.workingDirectory = .root from rfl, located_partlyReadWorld,
    readText_partlyReadWorld, Except.toOption]

theorem bindings_partlyRead : Grammar.usual.bindings ⟨[]⟩ partlyRead = [("KIJI_HOME", some "/k")] := by cbv

theorem unread_partlyRead : Grammar.usual.unread partlyRead = [2] := by cbv

/-- The environment file is loaded, although one of its lines cannot be read. -/
theorem partlyRead_loaded :
    (exec (loadEnvironmentFile []) (.start partlyReadWorld .unsettled)).1 = .ok () :=
  fst_exec_loadEnvironmentFile rfl located_partlyReadWorld readText_partlyReadWorld (by
    show (Grammar.usual.bindings ⟨[]⟩ partlyRead).foldlM bind ⟨[]⟩ = .ok partlyReadEnvironment
    rw [bindings_partlyRead]
    rfl) rfl

theorem fileValue?_partlyReadWorld (name : String) :
    partlyReadEnvironment.get? name =
      (partlyReadWorld.environment.get? name).or (fileValue? partlyReadWorld [] name) := by
  rw [fileValue?, nearestText?_partlyReadWorld, show partlyReadWorld.environment = ⟨[]⟩ from rfl]
  show _ = (Environment.get? ⟨[]⟩ name).or ((Grammar.usual.bindings ⟨[]⟩ partlyRead).lookup name).join
  rw [bindings_partlyRead]
  by_cases same : name = "KIJI_HOME"
  · subst same
    rfl
  · have other : (name == "KIJI_HOME") = false := by simpa using same
    simp [partlyReadEnvironment, Environment.get?, List.lookup, other]

/-- A run with this file in reach is one in which the variable is set, after a word about the second line.
-/
theorem run_with_environmentFile_partlyReadWorld :
    (run (some ⟨.absolute, ["main.py"]⟩) ["--help"]).run (.start partlyReadWorld .unsettled) =
      (((run none ["--help"]).run
          (.start { partlyReadWorld with environment := partlyReadEnvironment } .unsettled)).1,
        ((run none ["--help"]).run
          (.start { partlyReadWorld with environment := partlyReadEnvironment } .unsettled)).2.within
          (fileSetting partlyReadWorld [] partlyReadWorld.environment)) :=
  run_with_environmentFile ["--help"] opened_partlyReadWorld rfl partlyRead_loaded fileValue?_partlyReadWorld

/-- And what it shows on standard error is not what the other one shows. -/
theorem errors_partlyReadWorld :
    (exec (openProgram ⟨.absolute, ["main.py"]⟩) (.start partlyReadWorld .unsettled)).1 = .ok [] ∧
    isDisabled partlyReadWorld.environment = false ∧
    (exec (loadEnvironmentFile []) (.start partlyReadWorld .unsettled)).1 = .ok () ∧
    (∀ name, partlyReadEnvironment.get? name =
      (partlyReadWorld.environment.get? name).or (fileValue? partlyReadWorld [] name)) ∧
    ((run (some ⟨.absolute, ["main.py"]⟩) ["--help"]).run (.start partlyReadWorld .unsettled)).2.errors ≠
      ((run none ["--help"]).run
        (.start { partlyReadWorld with environment := partlyReadEnvironment } .unsettled)).2.errors := by
  refine ⟨opened_partlyReadWorld, rfl, partlyRead_loaded, fileValue?_partlyReadWorld, ?_⟩
  have loaded : exec (loadEnvironmentFile []) (.start partlyReadWorld .unsettled) = (.ok (), _) :=
    Prod.ext partlyRead_loaded rfl
  obtain ⟨environment, left, valued⟩ := exec_loadEnvironmentFile rfl loaded
  have same : ∀ name, environment.get? name = partlyReadEnvironment.get? name :=
    fun name => by rw [valued, fileValue?_partlyReadWorld]
  have said : unreadLines partlyReadWorld [] = [2] := by
    rw [unreadLines, nearestText?_partlyReadWorld]
    exact unread_partlyRead
  rw [run_of_loaded ["--help"] opened_partlyReadWorld (Prod.ext partlyRead_loaded left) same]
  simp only [Session.within, fileSetting, said]
  intro equal
  have longer := congrArg String.length equal
  rw [String.length_append] at longer
  have some : (unreadText [2]).length = (warning 2).length + 1 := by
    simp only [unreadText, List.foldr, String.length_append]
    rfl
  omega

end Checkin.Tool
