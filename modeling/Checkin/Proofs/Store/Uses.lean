import Checkin.Config
import Checkin.Proofs.FileTree.Fresh
import Checkin.Proofs.Store.Readers
import Checkin.Proofs.Text.Numeral

/-!
# Uses of the state files

The state files are used to ask for an id and to record a time. After any number of uses, the id is the one
that was there, or else the one that came of the first request, and the time is the last that was recorded.
What is needed for it is that both files are entries of one directory, and no links, once that directory is
made.
-/

namespace Checkin.Store

open Checkin.Text Checkin.Action FileTree

variable {t t' made : FileTree} {here place : Place} {depth : Nat} {cfg : Config} {name value : String}
  {draw : Draw} {millis : Int}

/-! ## What the state files hold -/

/-- The names of the state files. -/
def stateFileNames : List String := [".kiji-bento-uuid", ".kiji-last-used"]

theorem idName_mem : ".kiji-bento-uuid" ∈ stateFileNames := .head _

theorem lastUsedName_mem : ".kiji-last-used" ∈ stateFileNames := .tail _ (.head _)

/-- The names of the state files are plain, and short enough for any directory. -/
theorem isPlain_of_mem_stateFileNames :
    ∀ name ∈ stateFileNames, IsPlain name ∧ name.utf8ByteSize ≤ maxNameSize := by
  decide

/-- The id in the state files, if there is one. -/
def idIn (t : FileTree) (here : Place) (cfg : Config) : Option String :=
  (readId t here cfg.idFile).toOption

/-- The time of last use in the state files, if there is one. -/
def timeIn (t : FileTree) (here : Place) (cfg : Config) : Option Int :=
  (readLastUsed t here cfg.lastUsedFile).toOption

theorem idIn_eq_some_iff {id : String} :
    idIn t here cfg = some id ↔
      ∃ octets, t.read here cfg.idFile = .ok octets ∧ valueOf? octets = some id := by
  rw [idIn, toOption_eq_some_iff, readId, readValue_eq_ok_iff]

theorem timeIn_eq_some_iff :
    timeIn t here cfg = some millis ↔
      ∃ octets text, t.read here cfg.lastUsedFile = .ok octets ∧ valueOf? octets = some text ∧
        readNumeral? text.toList = some millis := by
  rw [timeIn, toOption_eq_some_iff, readLastUsed_eq_ok_iff]
  constructor
  · rintro ⟨text, value, numeral⟩
    obtain ⟨octets, read, valued⟩ := readValue_eq_ok_iff.1 value
    exact ⟨octets, text, read, valued, numeral⟩
  · rintro ⟨octets, text, read, valued, numeral⟩
    exact ⟨text, readValue_eq_ok_iff.2 ⟨octets, read, valued⟩, numeral⟩

/-- What is written for a whole number is read as its numeral. -/
theorem valueOf?_numeral (n : Int) : valueOf? (encode (numeral n ++ "\n")) = some (numeral n) := by
  refine valueOf?_of_visible ?_ fun c inside => isVisible_of_mem_numeralChars (n := n) ?_
  · intro empty
    have none : numeralChars n = [] := by
      rw [← String.toList_ofList (l := numeralChars n)]
      exact congrArg String.toList empty
    cases n with
    | ofNat n => exact absurd (length_digits_pos n) (by simp [show digits n = [] from none])
    | negSucc n => cases none
  · rwa [numeral, String.toList_ofList] at inside

/-! ## Uses -/

/-- With the directory above it made, a value is written to a state file. -/
def Writes (t : FileTree) (here : Place) (depth : Nat) (p : Path) (value : String) (t' : FileTree) : Prop :=
  ∃ made l opened, t.makeDirectories here depth p.parent = (.ok (), made) ∧
    made.openFile here p = .ok (l, opened) ∧ t' = opened.set l (.file (encode (value ++ "\n")))

/-- At the root a value can be written under each name at which there is no directory and no link. -/
theorem exists_writes_atRoot (t : FileTree) (here : Place) (usable : UsableIn ⟨.absolute, []⟩ name)
    (free : ∀ node, t.get? [name] = some node → ∃ content, node = .file content) (value : String) :
    ∃ t', (∀ depth, Writes t here depth ⟨.absolute, [name]⟩ value t') ∧
      t'.get? [name] = some (.file (encode (value ++ "\n"))) := by
  have makes (depth : Nat) : t.makeDirectories here depth (Path.mk .absolute [name]).parent = (.ok (), t) :=
    makeDirectories_of_isDirectory (isDirectory_root t here)
  have found : t.find here ⟨.absolute, [name]⟩ .file = .ok ⟨[name], 0⟩ := by
    refine find_atRoot_of_not_link usable (fun target linked => ?_) .file
    obtain ⟨content, file⟩ := free _ linked
    cases file
  obtain ⟨opened, opens⟩ : ∃ opened, t.openFile here ⟨.absolute, [name]⟩ = .ok ([name], opened) := by
    rw [openFile, bind_of_ok found]
    cases there : t.get? [name] with
    | none => exact ⟨t.set [name] (.file []), by simp [nodeAt, there]⟩
    | some node =>
      obtain ⟨content, rfl⟩ := free node there
      exact ⟨t, by simp [nodeAt, there]⟩
  refine ⟨_, fun depth => ⟨t, [name], opened, makes depth, opens, rfl⟩, ?_⟩
  rw [get?_set_of_openFile opens, if_pos rfl]

/-- What the state files are used for. -/
inductive Use
  | generate (draw : Draw)
  | record (millis : Int)

/-- The draw for a new id, if one may be needed. -/
def Use.draw? : Use → Option Draw
  | .generate draw => some draw
  | .record _ => none

/-- The time that is recorded, if one is. -/
def Use.millis? : Use → Option Int
  | .generate _ => none
  | .record millis => some millis

/-- What a use of the state files leaves of a tree. -/
inductive Use.Leaves (here : Place) (depth : Nat) (cfg : Config) : FileTree → Use → FileTree → Prop
  | kept {t : FileTree} {draw id} : idIn t here cfg = some id → Leaves here depth cfg t (.generate draw) t
  | renewed {t t' : FileTree} {draw} : idIn t here cfg = none →
      Writes t here depth cfg.idFile (installationId draw) t' → Leaves here depth cfg t (.generate draw) t'
  | recorded {t t' : FileTree} {millis} : (digits millis.natAbs).length ≤ maxDigits →
      Writes t here depth cfg.lastUsedFile (numeral millis) t' → Leaves here depth cfg t (.record millis) t'

/-- Uses of the state files, one after another. -/
inductive Uses (here : Place) (cfg : Config) : FileTree → List Use → FileTree → Prop
  | nil {t : FileTree} : Uses here cfg t [] t
  | cons {t between t' : FileTree} {depth use uses} : use.Leaves here depth cfg t between →
      Uses here cfg between uses t' → Uses here cfg t (use :: uses) t'

/-! ## One write -/

/-- The directory of the state files is there and has its entries at a place, and no state file is a link.
-/
structure Housed (t : FileTree) (here : Place) (cfg : Config) (place : Place) : Prop where
  there : t.isDirectory here cfg.stateDir = .ok true
  houses : Houses t here cfg.stateDir place
  plain : ∀ name ∈ stateFileNames, t.linkTarget? here (cfg.stateDir.child name) = none

theorem usableIn_stateDir {purpose : Purpose} (among : name ∈ stateFileNames)
    (found : t.find here (cfg.stateDir.child name) purpose = .ok place) : UsableIn cfg.stateDir name := by
  obtain ⟨plain, short⟩ := isPlain_of_mem_stateFileNames name among
  exact usableIn_of_find plain short found

theorem linkTarget?_eq_none_iff (houses : Houses t here cfg.stateDir place)
    (among : name ∈ stateFileNames) :
    t.linkTarget? here (cfg.stateDir.child name) = none ↔
      (UsableIn cfg.stateDir name →
        ∀ target, t.get? (place.child name).location ≠ some (.link target)) := by
  by_cases usable : UsableIn cfg.stateDir name
  · rw [houses.linkTarget?_eq_none_iff usable]
    exact ⟨fun noLink _ => noLink, fun noLink => noLink usable⟩
  · refine ⟨fun _ usable' => absurd usable' usable, fun _ => ?_⟩
    unfold linkTarget?
    split
    · next found => exact absurd (usableIn_stateDir among found) usable
    · rfl

theorem Housed.read_eq_ok_iff (housed : Housed t here cfg place) (among : name ∈ stateFileNames)
    {octets : List UInt8} :
    t.read here (cfg.stateDir.child name) = .ok octets ↔
      UsableIn cfg.stateDir name ∧ t.get? (place.child name).location = some (.file octets) := by
  have noLink := (linkTarget?_eq_none_iff housed.houses among).1 (housed.plain name among)
  constructor
  · intro read
    obtain ⟨l, found, -⟩ := read_eq_ok read
    have usable := usableIn_stateDir among found
    exact ⟨usable, (housed.houses.read_eq_ok_iff usable (noLink usable)).1 read⟩
  · rintro ⟨usable, there⟩
    exact (housed.houses.read_eq_ok_iff usable (noLink usable)).2 there

theorem location_child_inj {other : String} :
    (place.child other).location = (place.child name).location ↔ other = name := by
  simp [Place.child]

/-- Writing to a state file changes nothing but its entry in the directory. -/
theorem Housed.get?_of_writes (housed : Housed t here cfg place) (among : name ∈ stateFileNames)
    (writes : Writes t here depth (cfg.stateDir.child name) value t') :
    Retains t t' ∧ UsableIn cfg.stateDir name ∧ ∀ l, t'.get? l =
      if l = (place.child name).location then some (.file (encode (value ++ "\n"))) else t.get? l := by
  obtain ⟨there, houses, plain⟩ := housed
  obtain ⟨made, l, opened, makes, opens, rfl⟩ := writes
  rw [Path.parent_child, makeDirectories_of_isDirectory there] at makes
  cases makes
  have usable := usableIn_stateDir among (openFile_eq_ok opens).1
  have noLink := (houses.linkTarget?_eq_none_iff usable).1 (plain name among)
  obtain rfl := houses.location_of_openFile usable noLink opens
  exact ⟨retains_set_of_openFile opens, usable, fun other => get?_set_of_openFile opens⟩

/-- A value that is written to a state file is there, and the other state file is as it was. -/
theorem Housed.write (housed : Housed t here cfg place) (among : name ∈ stateFileNames)
    (writes : Writes t here depth (cfg.stateDir.child name) value t') :
    Housed t' here cfg place ∧ t'.read here (cfg.stateDir.child name) = .ok (encode (value ++ "\n")) ∧
      ∀ other ∈ stateFileNames, other ≠ name → ∀ octets,
        t'.read here (cfg.stateDir.child other) = .ok octets ↔
          t.read here (cfg.stateDir.child other) = .ok octets := by
  obtain ⟨retains, usable, entries⟩ := housed.get?_of_writes among writes
  have houses := housed.houses.of_retains retains
  have housed' : Housed t' here cfg place := by
    refine ⟨isDirectory_of_retains retains housed.there, houses, fun other among' => ?_⟩
    refine (linkTarget?_eq_none_iff houses among').2 fun usable' target => ?_
    rw [entries]
    split
    · simp
    · exact (linkTarget?_eq_none_iff housed.houses among').1 (housed.plain other among') usable' target
  refine ⟨housed', (housed'.read_eq_ok_iff among).2 ⟨usable, by rw [entries, if_pos rfl]⟩, ?_⟩
  intro other among' distinct octets
  rw [housed'.read_eq_ok_iff among', housed.read_eq_ok_iff among', entries,
    if_neg fun same => distinct (location_child_inj.1 same)]

/-! ## One use, and many -/

variable {use : Use} {history : List Use}

theorem Housed.idIn_of_write (housed : Housed t here cfg place)
    (writes : Writes t here depth cfg.idFile (installationId draw) t') :
    Housed t' here cfg place ∧ idIn t' here cfg = some (installationId draw) ∧
      timeIn t' here cfg = timeIn t here cfg := by
  obtain ⟨housed', written, elsewhere⟩ := housed.write idName_mem writes
  refine ⟨housed', idIn_eq_some_iff.2 ⟨_, written, valueOf?_installationId draw⟩, Option.ext fun time => ?_⟩
  simp only [timeIn_eq_some_iff, Config.lastUsedFile, elsewhere ".kiji-last-used" lastUsedName_mem (by simp)]

theorem Housed.timeIn_of_write (housed : Housed t here cfg place)
    (short : (digits millis.natAbs).length ≤ maxDigits)
    (writes : Writes t here depth cfg.lastUsedFile (numeral millis) t') :
    Housed t' here cfg place ∧ idIn t' here cfg = idIn t here cfg ∧ timeIn t' here cfg = some millis := by
  obtain ⟨housed', written, elsewhere⟩ := housed.write lastUsedName_mem writes
  refine ⟨housed', Option.ext fun id => ?_, ?_⟩
  · simp only [idIn_eq_some_iff, Config.idFile, elsewhere ".kiji-bento-uuid" idName_mem (by simp)]
  · refine timeIn_eq_some_iff.2 ⟨_, numeral millis, written, valueOf?_numeral millis, ?_⟩
    rw [numeral, String.toList_ofList, readNumeral?_numeralChars short]

/-- A use keeps the id that is there or else makes one, and it keeps the time unless it records one. -/
theorem Housed.leaves (housed : Housed t here cfg place) (leaves : use.Leaves here depth cfg t t') :
    Housed t' here cfg place ∧
      idIn t' here cfg = (idIn t here cfg).or (use.draw?.map installationId) ∧
      timeIn t' here cfg = use.millis?.or (timeIn t here cfg) := by
  cases leaves with
  | kept there => exact ⟨housed, by simp [there], rfl⟩
  | renewed absent writes =>
    obtain ⟨housed', new, same⟩ := housed.idIn_of_write writes
    exact ⟨housed', by simp [absent, new, Use.draw?], same⟩
  | recorded short writes =>
    obtain ⟨housed', same, new⟩ := housed.timeIn_of_write short writes
    exact ⟨housed', by simp [same, Use.draw?], new⟩

/-- After any uses the id is the one that was there, or else the one of the first request, and the time is
the last that was recorded. -/
theorem Housed.uses (housed : Housed t here cfg place) (used : Uses here cfg t history t') :
    idIn t' here cfg = (idIn t here cfg).or ((history.findSome? Use.draw?).map installationId) ∧
      timeIn t' here cfg = (history.reverse.findSome? Use.millis?).or (timeIn t here cfg) := by
  induction used with
  | nil => simp
  | @cons t between t' depth use history leaves rest ih =>
    obtain ⟨housed', id, time⟩ := housed.leaves leaves
    obtain ⟨idThen, timeThen⟩ := ih housed'
    refine ⟨?_, ?_⟩
    · rw [idThen, id, Option.or_assoc, List.findSome?_cons]
      cases use.draw? <;> simp
    · rw [timeThen, time, List.reverse_cons, List.findSome?_append, Option.or_assoc]
      cases recorded : use.millis? <;> simp [recorded]

/-! ## The first write -/

/-- Making the directory of the state files brings nothing to light: no id, and no link in the place of a
state file. -/
structure Prompt (t : FileTree) (here : Place) (cfg : Config) : Prop where
  id : ∀ {depth made}, t.makeDirectories here depth cfg.stateDir = (.ok (), made) →
    idIn made here cfg = idIn t here cfg
  link : ∀ {depth made}, t.makeDirectories here depth cfg.stateDir = (.ok (), made) → ∀ name ∈ stateFileNames,
    made.linkTarget? here (cfg.stateDir.child name) = t.linkTarget? here (cfg.stateDir.child name)

/-- Nothing is brought to light where the directory is there already. -/
theorem Prompt.of_isDirectory (there : t.isDirectory here cfg.stateDir = .ok true) : Prompt t here cfg := by
  refine ⟨fun makes => ?_, fun makes _ _ => ?_⟩
  all_goals
    rw [makeDirectories_of_isDirectory there] at makes
    cases makes
    rfl

theorem idIn_of_nothing
    (nothing : ∀ place, t.find here cfg.idFile .target = .ok place → t.nodeAt place = none) :
    idIn t here cfg = none := by
  rw [Option.eq_none_iff_forall_ne_some]
  intro id there
  obtain ⟨octets, read, -⟩ := idIn_eq_some_iff.1 there
  obtain ⟨l, found, there⟩ := read_eq_ok read
  have held : t.nodeAt ⟨l, 0⟩ = t.get? l := if_pos rfl
  rw [nothing _ found, there] at held
  cases held

/-- Nothing is brought to light by a path without double dots, in a tree in which nothing is below what is
missing. -/
theorem Prompt.of_isPlain (rooted : Rooted t) (plain : ∀ name ∈ cfg.stateDir.names, IsPlain name) :
    Prompt t here cfg := by
  have named := fun name among => (isPlain_of_mem_stateFileNames name among).1
  refine ⟨fun makes => ?_, fun makes name among => ?_⟩
  · rcases exists_fresh_of_makeDirectories rooted plain makes with ⟨-, rfl⟩ | ⟨place, fresh⟩
    · rfl
    · obtain ⟨before, after⟩ := fresh.names_nothing (named _ idName_mem) .target
      rw [idIn_of_nothing before, idIn_of_nothing after]
  · rcases exists_fresh_of_makeDirectories rooted plain makes with ⟨-, rfl⟩ | ⟨place, fresh⟩
    · rfl
    · obtain ⟨before, after⟩ := fresh.names_nothing (named name among) .entry
      rw [linkTarget?_of_nothing before, linkTarget?_of_nothing after]

/-- A value that is written is written to the tree in which the directory is made already. -/
theorem Writes.exists_made (writes : Writes t here depth (cfg.stateDir.child name) value t')
    (among : name ∈ stateFileNames) :
    ∃ made place, t.makeDirectories here depth cfg.stateDir = (.ok (), made) ∧
      Houses made here cfg.stateDir place ∧ Writes made here depth (cfg.stateDir.child name) value t' := by
  obtain ⟨made, l, opened, makes, opens, rfl⟩ := writes
  rw [Path.parent_child] at makes
  have there := isDirectory_of_makeDirectories makes
  have found := (openFile_eq_ok opens).1
  rcases houses_or_removed there with ⟨place, houses⟩ | removed
  · refine ⟨made, place, makes, houses, made, l, opened, ?_, opens, rfl⟩
    rw [Path.parent_child, makeDirectories_of_isDirectory there]
  · rw [removed made name (Retains.refl made) (usableIn_stateDir among found)] at found
    cases found

/-- Uses with a time among what they record go as they do once the directory of the state files is made. -/
theorem Uses.exists_made (used : Uses here cfg t history t') (prompt : Prompt t here cfg)
    (recorded : history.reverse.findSome? Use.millis? = some millis) :
    ∃ depth made place, t.makeDirectories here depth cfg.stateDir = (.ok (), made) ∧
      Houses made here cfg.stateDir place ∧ Uses here cfg made history t' := by
  induction used with
  | nil => cases recorded
  | @cons _ _ _ room _ _ leaves rest ih =>
    cases leaves with
    | @kept draw _ there =>
      rw [List.reverse_cons, List.findSome?_append] at recorded
      obtain ⟨depth, made, place, makes, houses, rest'⟩ :=
        ih prompt (by simpa [Use.millis?] using recorded)
      have kept : Use.Leaves here room cfg made (.generate draw) made := .kept ((prompt.id makes).trans there)
      exact ⟨depth, made, place, makes, houses, .cons kept rest'⟩
    | renewed absent writes =>
      obtain ⟨made, place, makes, houses, writes'⟩ := writes.exists_made idName_mem
      exact ⟨_, made, place, makes, houses, .cons (.renewed ((prompt.id makes).trans absent) writes') rest⟩
    | recorded short writes =>
      obtain ⟨made, place, makes, houses, writes'⟩ := writes.exists_made lastUsedName_mem
      exact ⟨_, made, place, makes, houses, .cons (.recorded short writes') rest⟩

/-- Uses of state files that are no links, at least one a request for an id and at least one a record of a
time, leave the id that was there or that of the first request, and the last time. -/
theorem Uses.idIn_and_timeIn (used : Uses here cfg t history t') (prompt : Prompt t here cfg)
    (plain : ∀ name ∈ stateFileNames, t.linkTarget? here (cfg.stateDir.child name) = none)
    (first : history.findSome? Use.draw? = some draw)
    (last : history.reverse.findSome? Use.millis? = some millis) :
    idIn t' here cfg = some ((idIn t here cfg).getD (installationId draw)) ∧
      timeIn t' here cfg = some millis := by
  obtain ⟨depth, made, place, makes, houses, used'⟩ := used.exists_made prompt last
  have housed : Housed made here cfg place :=
    ⟨isDirectory_of_makeDirectories makes, houses, fun name among => by
      rw [prompt.link makes name among, plain name among]⟩
  obtain ⟨id, time⟩ := housed.uses used'
  rw [prompt.id makes, first] at id
  rw [last] at time
  exact ⟨by rw [id]; cases idIn t here cfg <;> rfl, by rw [time]; rfl⟩

/-! ## Actions that use the state files -/

variable {s s' : Session} {p : Path}

theorem exec_writeValue_eq_ok_iff :
    exec (writeValue p value) s = (.ok (), s') ↔
      ∃ t', Writes s.world.files s.world.workingDirectory s.world.depth p value t' ∧ s' = s.withFiles t' := by
  constructor
  · intro ran
    cases makes : s.world.files.makeDirectories s.world.workingDirectory s.world.depth p.parent with
    | mk result made =>
      cases result with
      | error stopped =>
        rw [exec_writeValue_of_stopped makes] at ran
        cases ran
      | ok done =>
        cases opens : made.openFile s.world.workingDirectory p with
        | error fault =>
          rw [exec_writeValue_of_refused makes opens] at ran
          cases ran
        | ok opened =>
          rw [exec_writeValue_of_opened makes opens] at ran
          cases ran
          exact ⟨_, ⟨made, opened.1, opened.2, makes, opens, rfl⟩, rfl⟩
  · rintro ⟨t', ⟨made, l, opened, makes, opens, rfl⟩, rfl⟩
    exact exec_writeValue_of_opened makes opens value

theorem world_of_logged (aloud : ∀ threshold l, s.sink ≠ .file threshold l)
    (logged : s' = s ∨ ∃ r, s' = s.write r) : s'.world = s.world ∧ s'.sink = s.sink := by
  rcases logged with rfl | ⟨r, rfl⟩
  · exact ⟨rfl, rfl⟩
  · exact ⟨Session.write_world_of_no_file aloud r, Session.write_sink s r⟩

theorem idIn_of_existingId? (absent : exec (existingId? cfg.idFile) s = (.ok none, s')) :
    idIn s.world.files s.world.workingDirectory cfg = none := by
  rw [Option.eq_none_iff_forall_ne_some]
  intro id there
  rw [exec_existingId?_of_readId (toOption_eq_some_iff.1 there)] at absent
  cases absent

/-- Where there is no id, the one that is drawn is written. -/
theorem writes_of_writeIdIfAbsent {before : Session} {answer : String × Bool}
    (absent : exec (existingId? p) s = (.ok none, before))
    (ran : exec (writeIdIfAbsent p) s = (.ok answer, s')) :
    Writes before.world.files before.world.workingDirectory before.world.depth p (installationId before.nextDraw)
        s'.world.files ∧
      s'.sink = before.sink := by
  rw [exec_writeIdIfAbsent_of_none absent] at ran
  cases wrote : exec (writeValue p (installationId before.nextDraw)) before.drawn with
  | mk result after =>
    rw [wrote] at ran
    cases result with
    | error failure => cases ran
    | ok done =>
      cases ran
      obtain ⟨t', writes, rfl⟩ := exec_writeValue_eq_ok_iff.1 wrote
      exact ⟨writes, rfl⟩

/-- Asking for an id uses the state files, as long as the log goes to no file. -/
theorem leaves_of_writeIdIfAbsent {answer : String × Bool}
    (aloud : ∀ threshold l, s.sink ≠ .file threshold l)
    (ran : exec (writeIdIfAbsent cfg.idFile) s = (.ok answer, s')) :
    Use.Leaves s.world.workingDirectory s.world.depth cfg s.world.files (.generate s.nextDraw) s'.world.files ∧
      s'.sink = s.sink := by
  have renewed : ∀ {before : Session}, (before = s ∨ ∃ r, before = s.write r) →
      exec (existingId? cfg.idFile) s = (.ok none, before) →
      Use.Leaves s.world.workingDirectory s.world.depth cfg s.world.files (.generate s.nextDraw) s'.world.files ∧
        s'.sink = s.sink := by
    intro before logged absent
    obtain ⟨writes, sink⟩ := writes_of_writeIdIfAbsent absent ran
    obtain ⟨sameWorld, sameSink⟩ := world_of_logged aloud logged
    rw [Session.nextDraw, sameWorld] at writes
    exact ⟨.renewed (idIn_of_existingId? absent) writes, sink.trans sameSink⟩
  rcases exec_existingId?_cases cfg.idFile s with ⟨failure, failed, -⟩ | ⟨id, present⟩ | ⟨-, absent⟩ |
    ⟨l, content, before, -, -, -, logged, absent⟩
  · rw [exec_writeIdIfAbsent_of_error failed] at ran
    cases ran
  · rw [exec_writeIdIfAbsent_of_some present] at ran
    cases ran
    exact ⟨.kept (toOption_eq_some_iff.2 (readId_of_existingId? present)), rfl⟩
  · exact renewed (.inl rfl) absent
  · exact renewed logged absent

end Checkin.Store
