import Checkin.Session

/-!
# Running actions

`exec` runs an action in a session. Its equations take a sequence of steps apart one step at a time;
`Keeps` is for sequences of which no more has to be known than what they leave alone and how they fail.
-/

namespace Checkin

/-- The session with other files in its world. -/
def Session.withFiles (s : Session) (files : FileTree) : Session :=
  { s with world := { s.world with files } }

/-- The draw that comes next. -/
def Session.nextDraw (s : Session) : Draw :=
  s.world.draws.headD .zeros

/-- The session after a draw. -/
def Session.drawn (s : Session) : Session :=
  { s with world := { s.world with draws := s.world.draws.tail } }

/-- Writing a record keeps all but the record itself and the file that it is written to. -/
theorem Session.write_world (s : Session) (r : Record) :
    (s.write r).world = { s.world with files := (s.write r).world.files } := by
  obtain ⟨world, sink, journal, output, errors⟩ := s
  cases sink <;> rfl

/-- A record that goes to no file keeps the whole world. -/
theorem Session.write_world_of_no_file {s : Session} (aloud : ∀ threshold l, s.sink ≠ .file threshold l)
    (r : Record) : (s.write r).world = s.world := by
  obtain ⟨world, sink, journal, output, errors⟩ := s
  cases sink with
  | file threshold l => exact absurd rfl (aloud threshold l)
  | unsettled | journal | standardError => rfl

/-- A record that goes to no file is the same with other files. -/
theorem Session.write_withFiles {s : Session} (aloud : ∀ threshold l, s.sink ≠ .file threshold l)
    (files : FileTree) (r : Record) : (s.withFiles files).write r = (s.write r).withFiles files := by
  obtain ⟨world, sink, journal, output, errors⟩ := s
  cases sink with
  | file threshold l => exact absurd rfl (aloud threshold l)
  | unsettled | journal | standardError => rfl

/-- A record that goes to a file is added at its end. -/
theorem Session.write_files_of_file {s : Session} {threshold : Level} {l : Location}
    (sunk : s.sink = .file threshold l) (r : Record) :
    (s.write r).world.files = s.world.files.append l (Text.encode (r.line s.world.now)) := by
  unfold Session.write
  rw [sunk]

theorem Session.write_sink (s : Session) (r : Record) : (s.write r).sink = s.sink := by
  obtain ⟨world, sink, journal, output, errors⟩ := s
  cases sink <;> rfl

theorem Session.write_journal (s : Session) (r : Record) :
    (s.write r).journal = s.journal ++ [r] := by
  obtain ⟨world, sink, journal, output, errors⟩ := s
  cases sink <;> rfl

theorem Session.write_output (s : Session) (r : Record) : (s.write r).output = s.output := by
  obtain ⟨world, sink, journal, output, errors⟩ := s
  cases sink <;> rfl

namespace Action

variable {α β : Type} {s s' : Session}

/-- What an action gives in a session, and the session that it leaves. -/
def exec (a : Action α) (s : Session) : Except Failure α × Session :=
  a.run.run s

@[simp] theorem exec_pure (a : α) (s : Session) : exec (pure a) s = (.ok a, s) := rfl

@[simp] theorem exec_throw (failure : Failure) (s : Session) :
    exec (throw failure : Action α) s = (.error failure, s) := rfl

theorem exec_bind (a : Action α) (f : α → Action β) (s : Session) :
    exec (a >>= f) s =
      match exec a s with
      | (.ok x, s') => exec (f x) s'
      | (.error failure, s') => (.error failure, s') := by
  simp only [exec, ExceptT.run_bind, StateT.run_bind]
  show (match a.run.run s with | (x, s') => _) = _
  rcases a.run.run s with ⟨failure | x, s'⟩ <;> rfl

theorem exec_bind_of_ok {a : Action α} {x : α} (ran : exec a s = (.ok x, s')) (f : α → Action β) :
    exec (a >>= f) s = exec (f x) s' := by
  rw [exec_bind, ran]

theorem exec_bind_of_error {a : Action α} {failure : Failure} (ran : exec a s = (.error failure, s'))
    (f : α → Action β) : exec (a >>= f) s = (.error failure, s') := by
  rw [exec_bind, ran]

/-- A sequence that gave something did so step by step. -/
theorem exists_of_exec_bind {a : Action α} {f : α → Action β} {y : β}
    (ran : exec (a >>= f) s = (.ok y, s')) : ∃ x t, exec a s = (.ok x, t) ∧ exec (f x) t = (.ok y, s') := by
  rw [exec_bind] at ran
  cases first : exec a s with
  | mk result t =>
    rw [first] at ran
    cases result with
    | ok x => exact ⟨x, t, rfl, ran⟩
    | error failure => cases ran

theorem exec_tryCatch (a : Action α) (handler : Failure → Action α) (s : Session) :
    exec (tryCatch a handler) s =
      match exec a s with
      | (.ok x, s') => (.ok x, s')
      | (.error failure, s') => exec (handler failure) s' := by
  simp only [exec, ExceptT.run_tryCatch, StateT.run_bind]
  show (match a.run.run s with | (x, s') => _) = _
  rcases a.run.run s with ⟨failure | x, s'⟩ <;> rfl

theorem exec_map (f : α → β) (a : Action α) (s : Session) :
    exec (f <$> a) s = ((exec a s).1.map f, (exec a s).2) := by
  rw [← bind_pure_comp, exec_bind]
  cases exec a s with
  | mk x s' => cases x <;> rfl

theorem exec_discard (a : Action α) (s : Session) :
    exec (discard a) s = ((exec a s).1.map fun _ => (), (exec a s).2) := by
  show exec ((fun _ => ()) <$> a) s = _
  rw [exec_map]

theorem exec_discard_of_ok {a : Action α} {x : α} (ran : exec a s = (.ok x, s')) :
    exec (discard a) s = (.ok (), s') := by
  rw [exec_discard, ran]
  rfl

theorem exists_of_exec_discard {a : Action α} (ran : exec (discard a) s = (.ok (), s')) :
    ∃ x, exec a s = (.ok x, s') := by
  rw [exec_discard] at ran
  cases first : exec a s with
  | mk result after =>
    rw [first] at ran
    cases result with
    | ok x =>
      cases ran
      exact ⟨x, rfl⟩
    | error failure => cases ran

@[simp] theorem exec_get (s : Session) : exec get s = (.ok s, s) := rfl

@[simp] theorem exec_modify (f : Session → Session) (s : Session) :
    exec (modify f) s = (.ok (), f s) := rfl

@[simp] theorem exec_world (s : Session) : exec world s = (.ok s.world, s) := rfl

@[simp] theorem exec_setFiles (files : FileTree) (s : Session) :
    exec (setFiles files) s = (.ok (), s.withFiles files) := rfl

@[simp] theorem exec_ofExcept (result : Except Failure α) (s : Session) :
    exec (ofExcept result) s = (result, s) := by
  cases result <;> rfl

@[simp] theorem exec_onPath (p : Path) (result : Except Fault α) (s : Session) :
    exec (onPath p result) s = (result.mapError fun fault => .system fault (some p.text), s) := by
  cases result <;> rfl

theorem exec_draw (s : Session) : exec draw s = (.ok s.nextDraw, s.drawn) := by
  show exec (get >>= _) s = _
  rw [exec_bind_of_ok (exec_get s)]
  unfold Session.nextDraw Session.drawn
  cases draws : s.world.draws with
  | nil =>
    show (Except.ok Draw.zeros, s) = (.ok .zeros, { s with world := { s.world with draws := [] } })
    rw [← draws]
  | cons first rest => rfl

/-- A record that is shown is written once there are a time and a message for it. -/
theorem exec_logComposed (level : Level) (logger : String) (message : Except Failure String)
    (s : Session) :
    exec (logComposed level logger message) s =
      if s.sink.shows level then
        match s.world.now.wholePart, message with
        | .error failure, _ | .ok _, .error failure => (.error failure, s)
        | .ok _, .ok message => (.ok (), s.write ⟨level, logger, message⟩)
      else (.ok (), s) := by
  unfold logComposed
  rw [exec_bind_of_ok (exec_get s)]
  split
  · rw [exec_bind_of_ok (exec_world s)]
    cases read : s.world.now.wholePart with
    | error failure => rfl
    | ok second => cases message <;> rfl
  · rfl

theorem exec_log (level : Level) (logger message : String) (s : Session) :
    exec (log level logger message) s =
      if s.sink.shows level then
        match s.world.now.wholePart with
        | .error failure => (.error failure, s)
        | .ok _ => (.ok (), s.write ⟨level, logger, message⟩)
      else (.ok (), s) := by
  rw [log, exec_logComposed]
  cases s.world.now.wholePart <;> rfl

theorem exec_log_cases (level : Level) (logger message : String) (s : Session) :
    exec (log level logger message) s = (.ok (), s) ∨
    exec (log level logger message) s = (.ok (), s.write ⟨level, logger, message⟩) ∨
    ∃ failure, s.world.now.wholePart = .error failure ∧
      exec (log level logger message) s = (.error failure, s) := by
  rw [exec_log]
  split
  · cases s.world.now.wholePart with
    | error failure => exact .inr (.inr ⟨failure, rfl, rfl⟩)
    | ok second => exact .inr (.inl rfl)
  · exact .inl rfl

/-! ## What actions keep -/

/-- From a session with a property an action leaves one that has it too, and it fails only in some ways. -/
def Keeps (property : Session → Prop) (failing : Failure → Prop) (a : Action α) : Prop :=
  ∀ s, property s → property (exec a s).2 ∧ ∀ failure, (exec a s).1 = .error failure → failing failure

variable {property : Session → Prop} {failing : Failure → Prop}

theorem keeps_pure (a : α) : Keeps property failing (pure a) :=
  fun _ holds => ⟨holds, by simp⟩

theorem keeps_throw {failure : Failure} (fails : failing failure) :
    Keeps property failing (throw failure : Action α) := by
  intro s holds
  refine ⟨holds, ?_⟩
  rintro _ ⟨⟩
  exact fails

theorem Keeps.bind {a : Action α} {f : α → Action β} (first : Keeps property failing a)
    (next : ∀ x, Keeps property failing (f x)) : Keeps property failing (a >>= f) := by
  intro s holds
  obtain ⟨kept, fails⟩ := first s holds
  rw [exec_bind]
  cases ran : exec a s with
  | mk result s' =>
    rw [ran] at kept fails
    cases result with
    | ok x => exact next x s' kept
    | error failure => exact ⟨kept, by simpa using fails⟩

/-- An action that fails in no way gives something. -/
theorem Keeps.exec_eq_ok {a : Action α} (keeps : Keeps property (fun _ => False) a) (holds : property s) :
    ∃ x s', exec a s = (.ok x, s') ∧ property s' := by
  obtain ⟨kept, fails⟩ := keeps s holds
  cases ran : exec a s with
  | mk result s' =>
    rw [ran] at kept fails
    cases result with
    | ok x => exact ⟨x, s', rfl, kept⟩
    | error failure => exact (fails failure rfl).elim

/-- What a first action leaves is kept by what follows it. -/
theorem Keeps.exec_bind {a : Action α} {f : α → Action β} (next : ∀ x, Keeps property failing (f x))
    (left : property (exec a s).2) : property (exec (a >>= f) s).2 := by
  rw [Action.exec_bind]
  cases ran : exec a s with
  | mk result s' =>
    rw [ran] at left
    cases result with
    | ok x => exact (next x s' left).1
    | error failure => exact left

theorem Keeps.map (f : α → β) {a : Action α} (keeps : Keeps property failing a) :
    Keeps property failing (f <$> a) := by
  rw [← bind_pure_comp]
  exact keeps.bind fun _ => keeps_pure _

theorem keeps_ofExcept {result : Except Failure α}
    (fails : ∀ failure, result = .error failure → failing failure) :
    Keeps property failing (ofExcept result) := by
  intro s holds
  rw [exec_ofExcept]
  exact ⟨holds, fails⟩

theorem keeps_onPath {p : Path} {result : Except Fault α}
    (fails : ∀ fault, result = .error fault → failing (.system fault (some p.text))) :
    Keeps property failing (onPath p result) := by
  intro s holds
  rw [exec_onPath]
  refine ⟨holds, ?_⟩
  intro failure failed
  cases result with
  | ok a => cases failed
  | error fault =>
    cases failed
    exact fails fault rfl

theorem keeps_world : Keeps property failing world :=
  fun _ holds => ⟨holds, by simp⟩

theorem keeps_modify {f : Session → Session} (keeps : ∀ s, property s → property (f s)) :
    Keeps property failing (modify f) :=
  fun s holds => ⟨keeps s holds, by simp⟩

/-- A log record adds itself, or it fails for want of a time or of a message. -/
theorem keeps_logComposed {level : Level} {logger : String} {message : Except Failure String}
    (keeps : ∀ s text, property s → property (s.write ⟨level, logger, text⟩))
    (clock : ∀ s failure, property s → s.world.now.wholePart = .error failure → failing failure)
    (fails : ∀ failure, message = .error failure → failing failure) :
    Keeps property failing (logComposed level logger message) := by
  intro s holds
  rw [exec_logComposed]
  split
  · cases read : s.world.now.wholePart with
    | error failure =>
      refine ⟨holds, ?_⟩
      rintro _ ⟨⟩
      exact clock s failure holds read
    | ok second =>
      cases message with
      | error failure => exact ⟨holds, by simpa using fails⟩
      | ok text => exact ⟨keeps s text holds, by simp⟩
  · exact ⟨holds, by simp⟩

/-- While the clock shows a time, what is kept by writing to the log is kept by logging, which does not fail. -/
theorem exec_log_of_kept {level : Level} {logger message : String} {second : Int}
    (writes : ∀ s text, property s → property (s.write ⟨level, logger, text⟩))
    (clock : ∀ s, property s → s.world.now.wholePart = .ok second) (holds : property s) :
    ∃ s', exec (Action.log level logger message) s = (.ok (), s') ∧ property s' := by
  have keeps : Keeps property (fun _ => False) (Action.log level logger message) := by
    refine keeps_logComposed writes (fun s _ holds failed => ?_) fun _ failed => by cases failed
    cases (clock s holds).symm.trans failed
  obtain ⟨⟨⟩, s', told, holds'⟩ := keeps.exec_eq_ok holds
  exact ⟨s', told, holds'⟩

theorem Keeps.filterM {f : α → Action Bool} (each : ∀ x, Keeps property failing (f x)) (xs : List α) :
    Keeps property failing (xs.filterM f) := by
  have go : ∀ kept, Keeps property failing (xs.filterAuxM f kept) := by
    induction xs with
    | nil => exact fun kept => keeps_pure _
    | cons x xs ih =>
      intro kept
      exact (each x).bind fun _ => ih _
  exact (go []).bind fun _ => keeps_pure _

theorem Keeps.forM {f : α → Action PUnit} (each : ∀ x, Keeps property failing (f x)) (xs : List α) :
    Keeps property failing (xs.forM f) := by
  induction xs with
  | nil => exact keeps_pure _
  | cons x xs ih => exact (each x).bind fun _ => ih

end Action

end Checkin
