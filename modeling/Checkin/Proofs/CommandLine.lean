import Checkin.CommandLine.Request
import Checkin.Entries
import Mathlib.Data.List.TakeDrop

/-!
# Options with arguments

An option that stands first is a setting to start from: what the rest of the command line asks for stays the
same, and what its own options set counts for more. The option of a command is read where the command is.
-/

namespace Checkin.CommandLine

/-! ## Other settings to start from -/

/-- What a command line that asks for a command, once its settings are made others. -/
def Request.mapSettings (f : Settings → Settings) : Request → Request
  | .run command settings => .run command (f settings)
  | .help scope => .help scope
  | .reject scope r => .reject scope r

/-- What comes of reading arguments, once the settings are made others. -/
def Reading.mapSettings (f : Settings → Settings) : Reading → Reading
  | .help => .help
  | .rejected r => .rejected r
  | .command word rest settings extra => .command word rest (f settings) extra
  | .done settings extra => .done (f settings) extra

/-- A change of settings that an option undoes where it sets something itself. -/
def Defers (f : Settings → Settings) : Prop :=
  ∀ settings flag argument,
    applyFlag (f settings) flag argument = (applyFlag settings flag argument).map f

variable {f : Settings → Settings} {settings : Settings} {command : Command} {extra args : List String}
  {scope : Scope} {flag : Flag} {spelling : String}

theorem Defers.applyFlags (defers : Defers f) (settings : Settings) (next : String)
    (flags : List (Flag × Option String)) :
    applyFlags (f settings) next flags = (applyFlags settings next flags).map f := by
  induction flags generalizing settings with
  | nil => rfl
  | cons flag flags ih =>
    obtain ⟨flag, argument⟩ := flag
    simp only [CommandLine.applyFlags, defers settings flag]
    cases applyFlag settings flag (argument.getD next) with
    | none => rfl
    | some settings => exact ih settings

theorem Defers.readTokens (defers : Defers f) (scope : Scope) (settings : Settings) (extra : List String)
    (tokens : List Token) :
    readTokens scope (f settings) extra tokens = (readTokens scope settings extra tokens).mapSettings f := by
  fun_induction CommandLine.readTokens scope settings extra tokens with
  | case1 settings extra =>
    rw [CommandLine.readTokens]
    rfl
  | case2 settings extra arg rest ih => rw [CommandLine.readTokens, ih]
  | case3 settings extra s rest tool =>
    rw [CommandLine.readTokens, if_pos tool]
    rfl
  | case4 settings extra s rest own ih => rw [CommandLine.readTokens, if_neg own, ih]
  | case5 settings extra rest marks =>
    rw [CommandLine.readTokens, if_pos marks]
    rfl
  | case6 settings extra rest last ih => rw [CommandLine.readTokens, if_neg last, ih]
  | case7 settings extra arg flag spelling argument rest r refused =>
    rw [CommandLine.readTokens]
    simp only [refused, Reading.mapSettings]
  | case8 settings extra arg flag spelling argument flags given rest complete after applied ih =>
    rw [CommandLine.readTokens]
    simp only [given, complete, defers.applyFlags, applied, Option.map_some, ih]
  | case9 settings extra arg flag spelling argument flags given rest complete helps =>
    rw [CommandLine.readTokens]
    simp only [given, complete, defers.applyFlags, helps, Option.map_none, Reading.mapSettings]
  | case10 settings extra arg flag spelling argument flags given last next rest waits after applied ih =>
    rw [CommandLine.readTokens]
    simp only [given, waits, defers.applyFlags, applied, Option.map_some, ih]
  | case11 settings extra arg flag spelling argument flags given last next rest waits helps =>
    rw [CommandLine.readTokens]
    simp only [given, waits, defers.applyFlags, helps, Option.map_none, Reading.mapSettings]
  | case12 settings extra arg flag spelling argument rest flags given last waits noWord =>
    rw [CommandLine.readTokens]
    simp only [given, waits, Reading.mapSettings]

theorem Defers.parseCommand (defers : Defers f) (command : Command) (settings : Settings)
    (extra args : List String) :
    parseCommand command (f settings) extra args =
      (parseCommand command settings extra args).mapSettings f := by
  unfold CommandLine.parseCommand
  cases classifyAll (.command command) args with
  | error r => rfl
  | ok tokens =>
    simp only [defers.readTokens]
    cases CommandLine.readTokens (.command command) settings [] tokens with
    | done settings more =>
      simp only [Reading.mapSettings]
      split <;> rfl
    | help | rejected | command => rfl

/-! ## An option in front -/

/-- A single option that stands first, with its argument if it has one, is a change of the settings that the
rest of the command line starts from. -/
theorem parse_option_cons {arg spelling : String} {flag : Flag} {argument : Option String}
    (defers : Defers f) (notMark : arg ≠ "--")
    (option : classify .tool arg = .ok (.option arg flag spelling argument))
    (single : flagsOf .tool flag spelling.toList (argument.map String.toList) = .ok [(flag, argument)])
    (complete : pending? [(flag, argument)] = none)
    (applied : applyFlags .default "" [(flag, argument)] = some (f .default)) (args : List String) :
    parse (arg :: args) = (parse args).mapSettings f := by
  have tokens : classifyAll .tool (arg :: args) =
      (classifyAll .tool args).map (.option arg flag spelling argument :: ·) := by
    rw [classifyAll, if_neg notMark, option]
    cases classifyAll .tool args <;> rfl
  unfold parse
  rw [tokens]
  cases classifyAll .tool args with
  | error r => rfl
  | ok tokens =>
    have goesOn : readTokens .tool .default [] (.option arg flag spelling argument :: tokens) =
        (readTokens .tool .default [] tokens).mapSettings f := by
      rw [readTokens, ← defers.readTokens]
      simp only [single, complete, applied]
    simp only [Except.map, goesOn]
    cases readTokens .tool .default [] tokens with
    | command word rest settings extra =>
      simp only [Reading.mapSettings]
      cases Command.ofName? word with
      | none => rfl
      | some command => exact defers.parseCommand command settings extra _
    | help | rejected | done => rfl

/-- The settings with all that is logged shown. -/
def Settings.verbosely (settings : Settings) : Settings :=
  { settings with verbose := true }

/-- The settings with a log file, unless they have one. -/
def Settings.loggingTo (file : String) (settings : Settings) : Settings :=
  { settings with logFile := settings.logFile.or (some file) }

theorem defers_verbosely : Defers Settings.verbosely := by
  intro settings flag argument
  cases flag <;> rfl

theorem defers_loggingTo (file : String) : Defers (Settings.loggingTo file) := by
  intro settings flag argument
  cases flag <;> rfl

/-- The option for more of the log is a setting to start from. -/
theorem parse_verbose_cons (args : List String) :
    parse ("-v" :: args) = (parse args).mapSettings Settings.verbosely := by
  have option : classify .tool "-v" = .ok (.option "-v" .verbose "-v" none) := by rfl
  have single : flagsOf .tool .verbose "-v".toList (Option.map String.toList none) =
      .ok [(.verbose, none)] := by
    rw [Option.map_none, flagsOf]
  exact parse_option_cons defers_verbosely (by decide) option single rfl rfl args

theorem splitAtEquals_append {before : List Char} (noEquals : '=' ∉ before) (after : List Char) :
    splitAtEquals (before ++ '=' :: after) = (before, some after) := by
  have others : ∀ c ∈ before, (c != '=') = true := by
    intro c inside
    rw [bne_iff_ne]
    rintro rfl
    exact noEquals inside
  unfold splitAtEquals
  rw [List.span_eq_takeWhile_dropWhile, List.takeWhile_append_of_pos others,
    List.dropWhile_append_of_pos others]
  simp

theorem ne_mark_of_equals {arg : String} (equals : '=' ∈ arg.toList) : arg ≠ "--" := by
  rintro rfl
  exact absurd equals (by decide)

/-- No option is spelled with an equals sign. -/
theorem lookup_of_equals {arg : String} (equals : '=' ∈ arg.toList) : scope.spellings.lookup arg = none := by
  apply Entries.lookup_eq_none_of_notMem
  intro spelled
  have none : ∀ scope : Scope, ∀ spelling ∈ scope.spellings.map Prod.fst, '=' ∉ spelling.toList := by
    rintro (_ | ⟨⟨⟩⟩) <;> decide
  exact none scope _ spelled equals

/-- A long option with an equals sign brings its argument along. -/
theorem classify_withArgument (spelled : scope.spellings.lookup spelling = some flag)
    (long : ∃ rest, spelling.toList = '-' :: '-' :: rest) (noEquals : '=' ∉ spelling.toList)
    (argument : String) :
    classify scope (spelling ++ "=" ++ argument) =
      .ok (.option (spelling ++ "=" ++ argument) flag spelling (some argument)) := by
  have chars : (spelling ++ "=" ++ argument).toList = spelling.toList ++ '=' :: argument.toList := by
    simp [String.toList_append]
  have notSpelled : scope.spellings.lookup (spelling ++ "=" ++ argument) = none :=
    lookup_of_equals (by simp)
  obtain ⟨rest, dashed⟩ := long
  unfold classify
  simp only [chars, notSpelled, splitAtEquals_append noEquals, String.ofList_toList, spelled]
  simp only [dashed, List.cons_append]

/-- The option for a log file is a setting to start from. -/
theorem parse_logFile_cons {file : String} (notMark : file ≠ "--") (args : List String) :
    parse (("--log-file=" ++ file) :: args) = (parse args).mapSettings (Settings.loggingTo file) := by
  have joined : "--log-file=" ++ file = "--log-file" ++ "=" ++ file := rfl
  have spelled : Scope.tool.spellings.lookup "--log-file" = some .logFile := by decide
  have single : flagsOf .tool .logFile "--log-file".toList (Option.map String.toList (some file)) =
      .ok [(.logFile, some file)] := by
    unfold flagsOf
    simp only [Option.map_some, Flag.hasArgument, if_true, String.ofList_toList]
  have applied : applyFlags .default "" [(.logFile, some file)] =
      some (Settings.loggingTo file .default) := by
    simp [applyFlags, applyFlag, argumentOf, notMark, Settings.loggingTo, Settings.default]
  rw [joined]
  exact parse_option_cons (defers_loggingTo file) (ne_mark_of_equals (by simp))
    (classify_withArgument spelled ⟨_, rfl⟩ (by decide) file) single rfl applied args

/-! ## The option of a command -/

/-- An option with an argument that it brings along is not one to be shortened: where it is not known, it is
kept as it is. -/
theorem classify_tool_kijiHome (text : String) :
    ∃ token, classify .tool ("--kiji-home" ++ "=" ++ text) = .ok token ∧
      token.arg = "--kiji-home" ++ "=" ++ text := by
  have chars : ("--kiji-home" ++ "=" ++ text).toList = "--kiji-home".toList ++ '=' :: text.toList := by
    simp [String.toList_append]
  have noEquals : '=' ∉ "--kiji-home".toList := by decide
  have unspelled : Scope.tool.spellings.lookup "--kiji-home" = none := by decide
  have dashed : "--kiji-home".toList = '-' :: '-' :: "kiji-home".toList := by decide
  have notSpelled : Scope.tool.spellings.lookup ("--kiji-home" ++ "=" ++ text) = none :=
    lookup_of_equals (by simp)
  have none : candidates .tool ("--kiji-home" ++ "=" ++ text) = [] := by
    unfold candidates
    rw [chars, dashed]
    simp only [List.cons_append]
    rw [← List.cons_append, ← List.cons_append, ← dashed, splitAtEquals_append noEquals]
    rfl
  unfold classify
  simp only [notSpelled, none, chars, splitAtEquals_append noEquals, String.ofList_toList, unspelled]
  simp only [dashed, List.cons_append]
  split
  · exact ⟨_, rfl, rfl⟩
  · exact ⟨_, rfl, rfl⟩

/-- The settings with a distribution's root that is given. -/
def Settings.about (text : String) : Settings :=
  { Settings.default with kijiHome := some (argumentOf text) }

/-- The option for a distribution's root sets it, whatever it is; the mark is dropped. -/
theorem parse_kijiHome (text : String) :
    parse ["env", "--kiji-home=" ++ text] = .run .env (.about text) := by
  have joined : "--kiji-home=" ++ text = "--kiji-home" ++ "=" ++ text := rfl
  have notMark : "--kiji-home" ++ "=" ++ text ≠ "--" := ne_mark_of_equals (by simp)
  obtain ⟨token, told, kept⟩ := classify_tool_kijiHome text
  have word : classify .tool "env" = .ok (.word "env") := by rfl
  have tokens : classifyAll .tool ["env", "--kiji-home" ++ "=" ++ text] = .ok [.word "env", token] := by
    simp only [classifyAll, word, told, if_neg notMark]
    rfl
  have option : classifyAll (.command .env) ["--kiji-home" ++ "=" ++ text] =
      .ok [.option ("--kiji-home" ++ "=" ++ text) .kijiHome "--kiji-home" (some text)] := by
    simp only [classifyAll, if_neg notMark,
      classify_withArgument (show (Scope.command .env).spellings.lookup "--kiji-home" = some .kijiHome by decide)
        ⟨_, rfl⟩ (by decide) text]
    rfl
  have single : flagsOf (.command .env) .kijiHome "--kiji-home".toList (some text.toList) =
      .ok [(.kijiHome, some text)] := by
    unfold flagsOf
    simp only [Flag.hasArgument, if_true, String.ofList_toList]
  have complete : pending? [(.kijiHome, some text)] = none := rfl
  have applied : applyFlags .default "" [(.kijiHome, some text)] =
      some (.about text) := rfl
  have goesOn : readTokens .tool .default [] [.word "env", token] = .command "env" [token] .default [] := by
    rw [readTokens, if_pos rfl]
  have named : Command.ofName? "env" = some .env := by decide
  have sets : parseCommand .env .default [] ["--kiji-home" ++ "=" ++ text] =
      .run .env (.about text) := by
    unfold parseCommand
    rw [option]
    simp only [readTokens, Option.map_some, single, complete, applied]
    rfl
  rw [joined, parse, tokens]
  simp only [goesOn, named, List.map_cons, List.map_nil, kept, sets]

end Checkin.CommandLine
