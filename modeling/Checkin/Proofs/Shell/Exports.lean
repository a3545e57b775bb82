import Checkin.Proofs.FileTree.Fresh
import Checkin.Proofs.FileTree.Unseen
import Checkin.Proofs.Shell.Distributions
import Mathlib

/-!
# The exported variables

Which variables are exported for a distribution, and in which order. Its Hadoop and its HBase are the
directories with the least names among those that begin as they should, however they are listed and whatever
else is there. Nothing that is put in front of a search path is empty. Only a path that is too long to be
looked at keeps the variables from being exported.
-/

namespace Checkin

open Checkin.Action

namespace ShellEnvironment

variable {t : FileTree} {here place : Place} {home lib : Path} {stem name path : String} {s : Session}
  {w : World} {second : Int} {hadoop hbase : Option Path}

/-! ## What a directory offers -/

/-- A directory has an entry whose name begins with a stem, and the entry is a directory, links followed. -/
structure Offers (t : FileTree) (here : Place) (lib : Path) (stem name : String) : Prop where
  isLib : t.isDirectory here lib = .ok true
  begins : stem.toList <+: name.toList
  directory : t.isDirectory here (lib.child name) = .ok true

/-- A directory lists a name that begins with a stem. -/
structure Lists (t : FileTree) (here : Place) (lib : Path) (stem name : String) : Prop where
  begins : stem.toList <+: name.toList
  listed : ∃ place, t.find here lib .target = .ok place ∧ name ∈ t.childNames place.location

/-- It can be told whether a path names a directory, and of each entry that begins with a stem whether it is
one. -/
structure Searchable (t : FileTree) (here : Place) (lib : Path) (stem : String) : Prop where
  told : ∃ yes, t.isDirectory here lib = .ok yes
  entries : t.isDirectory here lib = .ok true → ∀ name, Lists t here lib stem name →
    ∃ yes, t.isDirectory here (lib.child name) = .ok yes

/-- What the names of distributions begin with. -/
def stems : List String := ["hadoop-", "hbase-"]

/-- What begins as the names of distributions do is neither a single nor a double dot. -/
theorem isPlain_of_begins (isStem : stem ∈ stems) (begins : stem.toList <+: name.toList) :
    FileTree.IsPlain name := by
  intro special
  simp only [stems, List.mem_cons, List.not_mem_nil, or_false] at isStem special
  rcases isStem with rfl | rfl <;> rcases special with rfl | rfl | rfl <;> exact absurd begins (by decide)

/-- What is offered is listed. -/
theorem Offers.lists (offers : Offers t here lib stem name) (isStem : stem ∈ stems) :
    Lists t here lib stem name := by
  obtain ⟨isLib, begins, directory⟩ := offers
  obtain ⟨place, found, holds⟩ := FileTree.isDirectory_iff.1 isLib
  obtain ⟨inner, foundInner, holdsInner⟩ := FileTree.isDirectory_iff.1 directory
  obtain ⟨noNul, fits, -⟩ := FileTree.find_eq_ok foundInner
  have plain := isPlain_of_begins isStem begins
  obtain ⟨left, leads⟩ := FileTree.find_child found holds
  rw [leads t name .target (.refl t) plain.ne_empty noNul fits] at foundInner
  refine ⟨begins, place, found, FileTree.mem_childNames_of_get? ?_⟩
  cases there : t.get? (place.location ++ [name]) with
  | some node => rfl
  | none =>
    by_cases standing : place.lost = 0
    · obtain ⟨-, rfl⟩ := FileTree.walk_name plain (by simp) standing there foundInner
      rw [FileTree.nodeAt_child] at holdsInner
      cases there.symm.trans holdsInner
    · rw [FileTree.walk, if_neg plain.not_skipped, if_neg plain.not_up, if_neg (by simp), if_pos standing]
        at foundInner
      cases foundInner

/-! ## Searching -/

theorem leastName?_eq_some_iff {names : List String} {least : String} :
    leastName? names = some least ↔ IsLeast {name | name ∈ names} least := by
  constructor
  · intro found
    obtain ⟨member, smallest⟩ := leastName?_eq_some found
    exact ⟨member, fun name => smallest name⟩
  · intro isLeast
    cases found : leastName? names with
    | none =>
      rw [leastName?_eq_none_iff.1 found] at isLeast
      cases isLeast.1
    | some other =>
      obtain ⟨member, smallest⟩ := leastName?_eq_some found
      exact congrArg some (isLeast.unique ⟨member, fun name => smallest name⟩).symm

theorem lists_iff (found : t.find here lib .target = .ok place) :
    Lists t here lib stem name ↔
      name ∈ (t.childNames place.location).filter fun name => stem.toList.isPrefixOf name.toList := by
  rw [List.mem_filter, List.isPrefixOf_iff_prefix]
  constructor
  · rintro ⟨begins, place', found', member⟩
    cases found.symm.trans found'
    exact ⟨member, begins⟩
  · rintro ⟨member, begins⟩
    exact ⟨begins, place, found, member⟩

/-- Whether a path names a directory cannot be told only if the path is too long. -/
theorem nameTooLong_of_isDirectory {p : Path} {failure : Failure}
    (refused : (t.isDirectory here p).mapError (.system · (some p.text)) = .error failure) :
    t.isDirectory here p = .error .nameTooLong ∧ failure = .system .nameTooLong (some p.text) := by
  cases looked : t.isDirectory here p with
  | ok yes =>
    rw [looked] at refused
    cases refused
  | error fault =>
    obtain rfl := FileTree.isDirectory_fault looked
    rw [looked] at refused
    cases refused
    exact ⟨rfl, rfl⟩

/-- A search gives the least name that is offered, or it fails for a path that is too long. -/
theorem distributionIn_cases (t : FileTree) (here : Place) (lib : Path) (isStem : stem ∈ stems) :
    (Searchable t here lib stem ∧ ∃ names,
      distributionIn t here lib stem = .ok ((leastName? names).map lib.child) ∧
      ∀ name, name ∈ names ↔ Offers t here lib stem name) ∨
    (¬Searchable t here lib stem ∧ ∃ p,
      distributionIn t here lib stem = .error (.system .nameTooLong (some p.text)) ∧
      (p = lib ∨ ∃ name, Lists t here lib stem name ∧ p = lib.child name)) := by
  unfold distributionIn
  cases isLib : t.isDirectory here lib with
  | error fault =>
    obtain rfl := FileTree.isDirectory_fault isLib
    refine .inr ⟨fun searchable => ?_, lib, rfl, .inl rfl⟩
    obtain ⟨yes, looked⟩ := searchable.told
    cases isLib.symm.trans looked
  | ok yes =>
    cases yes with
    | false =>
      -- what is no directory lists nothing and offers nothing
      refine .inl ⟨⟨⟨false, isLib⟩, fun there => by cases isLib.symm.trans there⟩, [], rfl, fun name => ?_⟩
      simp only [List.not_mem_nil, false_iff]
      rintro ⟨there, -, -⟩
      cases isLib.symm.trans there
    | true =>
      obtain ⟨place, found, -⟩ := FileTree.isDirectory_iff.1 isLib
      simp only [found]
      rcases filterLooked_cases
          (fun name => (t.isDirectory here (lib.child name)).mapError (.system · (some (lib.child name).text)))
          ((t.childNames place.location).filter fun name => stem.toList.isPrefixOf name.toList) with
        ⟨name, member, failure, refused, failed⟩ | ⟨answers, kept, filtered, keeps⟩
      · obtain ⟨looked, rfl⟩ := nameTooLong_of_isDirectory refused
        have listed := (lists_iff found).2 member
        rw [failed]
        refine .inr ⟨fun searchable => ?_, lib.child name, rfl, .inr ⟨name, listed, rfl⟩⟩
        obtain ⟨yes, looked'⟩ := searchable.entries isLib name listed
        cases looked.symm.trans looked'
      · rw [filtered]
        simp only [mapError_eq_ok_iff] at answers keeps
        refine .inl ⟨⟨⟨true, isLib⟩, fun _ name listed => answers name ((lists_iff found).1 listed)⟩, kept, rfl,
          fun name => ?_⟩
        rw [keeps, ← lists_iff found]
        exact ⟨fun ⟨listed, yes⟩ => ⟨isLib, listed.begins, yes⟩,
          fun offers => ⟨offers.lists isStem, offers.directory⟩⟩

/-! ## Searches while the log is written -/

/-- If the log goes to a file, the file is there. -/
def LogIsThere (s : Session) : Prop :=
  ∀ threshold l, s.sink = .file threshold l →
    FileTree.Housed s.world.files ⟨l, 0⟩ ∧ ∃ content, s.world.files.get? l = some (.file content)

/-- A session sees the distributions that a world has. -/
structure Sees (w : World) (s : Session) : Prop where
  finds : ∀ lib stem, distributionIn s.world.files s.world.workingDirectory lib stem =
    distributionIn w.files w.workingDirectory lib stem
  clock : s.world.now = w.now
  logFile : LogIsThere s

/-- What is written to the log is no distribution. -/
theorem Sees.write (sees : Sees w s) (r : Record) : Sees w (s.write r) := by
  obtain ⟨finds, clock, logFile⟩ := sees
  obtain ⟨world, sink, journal, output, errors⟩ := s
  cases sink with
  | unsettled => exact ⟨finds, clock, fun _ _ file => by cases file⟩
  | journal => exact ⟨finds, clock, fun _ _ file => by cases file⟩
  | standardError threshold => exact ⟨finds, clock, fun _ _ file => by cases file⟩
  | file threshold l =>
    obtain ⟨housed, content, there⟩ := logFile threshold l rfl
    refine ⟨fun lib stem => ?_, clock, ?_⟩
    · rw [← finds]
      exact distributionIn_of_twins ((FileTree.Twins.refl there).append_right _)
        (FileTree.sameNames_append housed there _) world.workingDirectory lib stem
    · rintro _ _ ⟨⟩
      refine ⟨⟨rfl, fun front before other => ?_⟩, _, FileTree.get?_append_self there⟩
      exact (FileTree.get?_append_of_ne other).trans (housed.above front before other)

theorem Sees.log (sees : Sees w s) (clock : w.now.wholePart = .ok second) (level : Level)
    (logger message : String) :
    ∃ s', exec (Action.log level logger message) s = (.ok (), s') ∧ Sees w s' :=
  exec_log_of_kept (fun _ _ sees => sees.write _) (fun _ sees => by rw [sees.clock, clock]) sees

theorem Sees.requireDistribution (sees : Sees w s) (clock : w.now.wholePart = .ok second) (lib : Path)
    (stem : String) :
    ∃ s', exec (requireDistribution lib stem) s = (distributionIn w.files w.workingDirectory lib stem, s') ∧
      Sees w s' :=
  exec_requireDistribution_of_kept (fun _ message sees => sees.log clock .warning logger message) sees
    (sees.finds lib stem)

/-- The directory with the distributions of the cluster. -/
def libOf (home : Path) : Path :=
  (home.child "cluster").child "lib"

theorem Sees.fst_exec_compute (sees : Sees w s) (clock : w.now.wholePart = .ok second) (home : Path)
    (path : String) :
    (exec (compute home path) s).1 = (do
      let hadoop ← distributionIn w.files w.workingDirectory (libOf home) "hadoop-"
      let hbase ← distributionIn w.files w.workingDirectory (libOf home) "hbase-"
      return exportsFor home hadoop hbase path) := by
  obtain ⟨s₁, foundHadoop, sees₁⟩ := sees.requireDistribution clock (libOf home) "hadoop-"
  obtain ⟨s₂, foundHbase, -⟩ := sees₁.requireDistribution clock (libOf home) "hbase-"
  unfold ShellEnvironment.compute
  dsimp only
  rw [exec_bind, ← libOf, foundHadoop]
  cases distributionIn w.files w.workingDirectory (libOf home) "hadoop-" with
  | error failure => rfl
  | ok hadoop =>
    dsimp only
    rw [exec_bind, foundHbase]
    cases distributionIn w.files w.workingDirectory (libOf home) "hbase-" with
    | error failure => rfl
    | ok hbase => rfl

/-- A distribution whose path is too long has no variables. -/
theorem exec_compute_of_long (rooted : home.root = .absolute) (noNul : home.text.toList.contains '\x00' = false)
    (long : FileTree.maxPathSize < home.text.utf8ByteSize) (path : String) (s : Session) :
    (exec (compute home path) s).1 = .error (.system .nameTooLong (some (libOf home).text)) := by
  have noNul' : (libOf home).text.toList.contains '\x00' = false := by
    rw [libOf, Path.contains_nul_child (by decide), Path.contains_nul_child (by decide), noNul]
  have long' : FileTree.maxPathSize < (libOf home).text.utf8ByteSize :=
    calc FileTree.maxPathSize
      _ < home.text.utf8ByteSize := long
      _ ≤ (home.child "cluster").text.utf8ByteSize := Path.utf8ByteSize_text_le_child rooted "cluster"
      _ ≤ (libOf home).text.utf8ByteSize :=
        Path.utf8ByteSize_text_le_child (p := home.child "cluster") rooted "lib"
  have failed (stem : String) : exec (findDistribution (libOf home) stem) s =
      (.error (.system .nameTooLong (some (libOf home).text)), s) := by
    rw [exec_findDistribution, distributionIn, FileTree.isDirectory_of_long noNul' long']
  exact congrArg Prod.fst (exec_bind_of_error (exec_bind_of_error (failed "hadoop-") _) _)

/-! ## The directory that is chosen -/

/-- A variable is set if something with a stem is offered, and then to the path of the least of it. -/
structure Chosen (t : FileTree) (here : Place) (lib : Path) (stem : String) (value? : Option String) :
    Prop where
  isSome_iff : value?.isSome ↔ ∃ name, Offers t here lib stem name
  eq_some_iff : ∀ value, value? = some value ↔
    ∃ name, IsLeast {name | Offers t here lib stem name} name ∧ (lib.child name).text = value

theorem chosen_of_names {names : List String} (keeps : ∀ name, name ∈ names ↔ Offers t here lib stem name) :
    Chosen t here lib stem (((leastName? names).map lib.child).map Path.text) := by
  have same : {name | Offers t here lib stem name} = {name | name ∈ names} :=
    Set.ext fun name => (keeps name).symm
  refine ⟨?_, fun value => ?_⟩
  · rw [Option.isSome_map, Option.isSome_map, ← Option.ne_none_iff_isSome, ne_eq, leastName?_eq_none_iff,
      List.eq_nil_iff_forall_not_mem, not_forall_not]
    simp only [keeps]
  · rw [Option.map_map, Option.map_eq_some_iff]
    simp only [leastName?_eq_some_iff, same, Function.comp_apply]

/-! ## Search paths -/

/-- How many entries of a search path are empty. -/
def emptyEntries (path : String) : Nat :=
  (path.toList.splitOn ':').count []

theorem emptyEntries_intercalate {entries : List String} (some : entries ≠ []) :
    emptyEntries (":".intercalate entries) = (entries.map emptyEntries).sum := by
  induction entries with
  | nil => exact absurd rfl some
  | cons entry entries ih =>
    cases entries with
    | nil => simp
    | cons next entries =>
      have joined := ih (List.cons_ne_nil next entries)
      have colon : (":" : String).toList = [':'] := rfl
      rw [List.map_cons, List.sum_cons, ← joined, String.intercalate_cons_cons]
      unfold emptyEntries
      rw [String.toList_append, String.toList_append, colon, List.append_assoc, List.singleton_append,
        List.splitOn_append_cons_self, List.count_append]

theorem emptyEntries_of_noColon {entry : String} (some : entry ≠ "") (noColon : ':' ∉ entry.toList) :
    emptyEntries entry = 0 := by
  rw [emptyEntries, List.splitOn_eq_singleton noColon, List.count_eq_zero, List.mem_singleton]
  exact fun none => some (String.toList_eq_nil_iff.1 none.symm)

/-- What is put in front of the search path, given the other variables. -/
def binsOf (home : Path) (exports : List (String × String)) : List String :=
  [home.child "bin", (home.child "schema-shell").child "bin", (home.child "cluster").child "bin"].map
      Path.text ++
    (exports.lookup "HADOOP_HOME").toList.map (· ++ "/bin") ++
    (exports.lookup "HBASE_HOME").toList.map (· ++ "/bin")

theorem text_bin_ne_empty (p : Path) : (p.child "bin").text ≠ "" := by
  have inside : 'b' ∈ (p.child "bin").text.toList :=
    (Path.mem_text (by decide) (by decide) _).2 ⟨"bin", by simp [Path.child], by decide⟩
  intro empty
  rw [empty] at inside
  cases inside

theorem ne_empty_of_mem_binsOf {exports : List (String × String)} {bin : String}
    (member : bin ∈ binsOf home exports) : bin ≠ "" := by
  simp only [binsOf, List.map_cons, List.map_nil, List.mem_append, List.mem_cons, List.not_mem_nil, or_false,
    List.mem_map] at member
  rcases member with (((rfl | rfl | rfl) | ⟨value, -, rfl⟩) | ⟨value, -, rfl⟩)
  · exact text_bin_ne_empty _
  · exact text_bin_ne_empty _
  · exact text_bin_ne_empty _
  · simp
  · simp

/-! ## The variables -/

/-- The names of the variables that can be exported. -/
def exportedNames : List String :=
  ["KIJI_HOME", "BENTO_CLUSTER_HOME", "HADOOP_HOME", "HBASE_HOME", "PATH"]

/-- The variables that are exported for a distribution. -/
structure Exported (t : FileTree) (here : Place) (home : Path) (path : String)
    (exports : List (String × String)) : Prop where
  names : exports.map Prod.fst = exportedNames.filter fun name => (exports.lookup name).isSome
  root : exports.lookup "KIJI_HOME" = some home.text
  cluster : exports.lookup "BENTO_CLUSTER_HOME" = some (home.child "cluster").text
  hadoop : Chosen t here (libOf home) "hadoop-" (exports.lookup "HADOOP_HOME")
  hbase : Chosen t here (libOf home) "hbase-" (exports.lookup "HBASE_HOME")
  searchPath : exports.lookup "PATH" =
    some (":".intercalate (binsOf home exports ++ if path = "" then [] else [path]))
  bins : ∀ bin ∈ binsOf home exports, bin ≠ ""
  entries : (∀ bin ∈ binsOf home exports, ':' ∉ bin.toList) → ∀ value, exports.lookup "PATH" = some value →
    emptyEntries value = if path = "" then 0 else emptyEntries path

theorem lookup_hadoop_exportsFor :
    (exportsFor home hadoop hbase path).lookup "HADOOP_HOME" = hadoop.map Path.text := by
  cases hadoop <;> cases hbase <;> rfl

theorem lookup_hbase_exportsFor :
    (exportsFor home hadoop hbase path).lookup "HBASE_HOME" = hbase.map Path.text := by
  cases hadoop <;> cases hbase <;> rfl

theorem lookup_path_exportsFor (inLib : ∀ p, hadoop = some p ∨ hbase = some p → p.names ≠ []) :
    (exportsFor home hadoop hbase path).lookup "PATH" =
      some (":".intercalate (binsOf home (exportsFor home hadoop hbase path) ++
        if path = "" then [] else [path])) := by
  have texts (found : Option Path) (inLib : ∀ p, found = some p → p.names ≠ []) :
      (found.toList.map (·.child "bin")).map Path.text = (found.map Path.text).toList.map (· ++ "/bin") := by
    cases found with
    | none => rfl
    | some p =>
      have joined := Path.text_child (inLib p rfl) "bin"
      simpa [String.append_assoc] using joined
  have last : (exportsFor home hadoop hbase path).lookup "PATH" =
      (exportsFor home hadoop hbase path).getLast?.map Prod.snd := by
    cases hadoop <;> cases hbase <;> rfl
  rw [last, binsOf, lookup_hadoop_exportsFor, lookup_hbase_exportsFor,
    ← texts hadoop fun p found => inLib p (.inl found), ← texts hbase fun p found => inLib p (.inr found),
    ← List.map_append, ← List.map_append]
  simp only [exportsFor, List.getLast?_append, List.getLast?_singleton]
  rfl

theorem exported_exportsFor (chosen : Chosen t here (libOf home) "hadoop-" (hadoop.map Path.text))
    (chosen' : Chosen t here (libOf home) "hbase-" (hbase.map Path.text))
    (inLib : ∀ p, hadoop = some p ∨ hbase = some p → p.names ≠ []) :
    Exported t here home path (exportsFor home hadoop hbase path) := by
  refine ⟨?_, ?_, ?_, by rwa [lookup_hadoop_exportsFor], by rwa [lookup_hbase_exportsFor],
    lookup_path_exportsFor inLib, fun _ => ne_empty_of_mem_binsOf, ?_⟩
  · cases hadoop <;> cases hbase <;> rfl
  · rfl
  · rfl
  · intro plain value set
    rw [lookup_path_exportsFor inLib, Option.some_inj] at set
    have someBins : binsOf home (exportsFor home hadoop hbase path) ≠ [] := by simp [binsOf]
    have noneEmpty : ((binsOf home (exportsFor home hadoop hbase path)).map emptyEntries).sum = 0 := by
      rw [List.sum_eq_zero_iff_forall_eq_nat, List.forall_mem_map]
      exact fun bin member => emptyEntries_of_noColon (ne_empty_of_mem_binsOf member) (plain bin member)
    rw [← set, emptyEntries_intercalate (List.append_ne_nil_of_left_ne_nil someBins _), List.map_append,
      List.sum_append, noneEmpty]
    split <;> simp

/-- A path that is looked at for the variables of a distribution. -/
def Examined (t : FileTree) (here : Place) (home p : Path) : Prop :=
  p = libOf home ∨ ∃ stem ∈ stems, ∃ name, Lists t here (libOf home) stem name ∧ p = (libOf home).child name

/-- While the clock shows a time, the variables of a distribution are exported if its Hadoops and HBases can be
told, and a path that is looked at is too long if they cannot. -/
theorem compute_exports (logFile : LogIsThere s) (clock : s.world.now.wholePart = .ok second) (home : Path)
    (path : String) :
    ((∀ stem ∈ stems, Searchable s.world.files s.world.workingDirectory (libOf home) stem) →
      ∃ exports, (exec (compute home path) s).1 = .ok exports ∧
        Exported s.world.files s.world.workingDirectory home path exports) ∧
    ((¬∀ stem ∈ stems, Searchable s.world.files s.world.workingDirectory (libOf home) stem) →
      ∃ p, (exec (compute home path) s).1 = .error (.system .nameTooLong (some p.text)) ∧
        Examined s.world.files s.world.workingDirectory home p) := by
  have sees : Sees s.world s := ⟨fun _ _ => rfl, rfl, logFile⟩
  have ofHadoop : "hadoop-" ∈ stems := by decide
  have ofHbase : "hbase-" ∈ stems := by decide
  rw [sees.fst_exec_compute clock]
  rcases distributionIn_cases s.world.files s.world.workingDirectory (libOf home) ofHadoop with
    ⟨told, names, found, keeps⟩ | ⟨untold, p, failed, examined⟩
  · rcases distributionIn_cases s.world.files s.world.workingDirectory (libOf home) ofHbase with
      ⟨told', names', found', keeps'⟩ | ⟨untold', p, failed', examined⟩
    · rw [found, found']
      refine ⟨fun _ => ⟨_, rfl, ?_⟩, fun untold => ?_⟩
      · refine exported_exportsFor (chosen_of_names keeps) (chosen_of_names keeps') fun p isChosen => ?_
        simp only [Option.map_eq_some_iff] at isChosen
        rcases isChosen with ⟨name, -, rfl⟩ | ⟨name, -, rfl⟩ <;> simp [Path.child]
      · exact absurd (by simp [stems, told, told']) untold
    · rw [found, failed']
      refine ⟨fun told => absurd (told _ ofHbase) untold', fun _ => ⟨p, rfl, ?_⟩⟩
      exact examined.imp id fun listed => ⟨_, ofHbase, listed⟩
  · rw [failed]
    refine ⟨fun told => absurd (told _ ofHadoop) untold, fun _ => ⟨p, rfl, ?_⟩⟩
    exact examined.imp id fun listed => ⟨_, ofHadoop, listed⟩

/-- A world in which a Hadoop is a directory, one with a lesser name is a file, and an HBase is a link to a
directory. -/
def distributionWorld : World :=
  { (default : World) with
    files := ((((FileTree.empty.set ["cluster"] .directory).set ["cluster", "lib"] .directory).set
      ["cluster", "lib", "hadoop-1"] (.file [])).set ["cluster", "lib", "hadoop-2"] .directory).set
        ["cluster", "lib", "hbase-1"] (.link "hadoop-2") }

theorem find_lib_distributionWorld (here : Place) :
    distributionWorld.files.find here ⟨.absolute, ["cluster", "lib"]⟩ .target = .ok ⟨["cluster", "lib"], 0⟩ :=
  (FileTree.find_eq_walk (by decide) (by decide)).trans (by cbv)

theorem isDirectory_lib_distributionWorld (here : Place) :
    distributionWorld.files.isDirectory here ⟨.absolute, ["cluster", "lib"]⟩ = .ok true :=
  FileTree.isDirectory_iff.2 ⟨_, find_lib_distributionWorld here, by cbv⟩

theorem walk_link_distributionWorld :
    distributionWorld.files.walk .target FileTree.maxLinks .root ["cluster", "lib", "hbase-1"] =
      .ok ⟨["cluster", "lib", "hadoop-2"], 0⟩ :=
  calc
    _ = distributionWorld.files.walk .target FileTree.maxLinks ⟨["cluster"], 0⟩ ["lib", "hbase-1"] :=
      FileTree.walk_plain (by decide) (by decide) (by simp) (by simp [Place.root]) (by decide)
    _ = distributionWorld.files.walk .target FileTree.maxLinks ⟨["cluster", "lib"], 0⟩ ["hbase-1"] :=
      FileTree.walk_plain (by decide) (by decide) (by simp) (by simp) (by decide)
    _ = distributionWorld.files.walk .target 39 ⟨["cluster", "lib"], 0⟩ ["hadoop-2"] :=
      FileTree.walk_plain (by decide) (by decide) (by simp) (by simp) (by decide)
    _ = _ := by cbv

theorem isDirectory_distributionWorld (here : Place) :
    distributionWorld.files.isDirectory here ⟨.absolute, ["cluster", "lib", "hadoop-1"]⟩ = .ok false ∧
    distributionWorld.files.isDirectory here ⟨.absolute, ["cluster", "lib", "hadoop-2"]⟩ = .ok true ∧
    distributionWorld.files.isDirectory here ⟨.absolute, ["cluster", "lib", "hbase-1"]⟩ = .ok true := by
  have file : distributionWorld.files.nodeAt ⟨["cluster", "lib", "hadoop-1"], 0⟩ = some (.file []) := by cbv
  have directory : distributionWorld.files.nodeAt ⟨["cluster", "lib", "hadoop-2"], 0⟩ = some .directory := by
    cbv
  refine ⟨?_, ?_, ?_⟩
  · exact FileTree.isDirectory_of_there
      ((FileTree.find_eq_walk (by decide) (by decide)).trans (by cbv)) file
  · exact FileTree.isDirectory_of_there
      ((FileTree.find_eq_walk (by decide) (by decide)).trans (by cbv)) directory
  · exact FileTree.isDirectory_of_there
      ((FileTree.find_eq_walk (by decide) (by decide)).trans walk_link_distributionWorld) directory

theorem eq_of_lists_distributionWorld
    (lists : Lists distributionWorld.files here ⟨.absolute, ["cluster", "lib"]⟩ stem name) :
    name = "hadoop-1" ∨ name = "hadoop-2" ∨ name = "hbase-1" := by
  obtain ⟨-, place, found, listed⟩ := lists
  cases (find_lib_distributionWorld here).symm.trans found
  have names : distributionWorld.files.childNames ["cluster", "lib"] = ["hadoop-1", "hadoop-2", "hbase-1"] := by
    cbv
  simpa [names] using listed

theorem searchable_distributionWorld :
    Searchable distributionWorld.files here ⟨.absolute, ["cluster", "lib"]⟩ stem := by
  obtain ⟨file, directory, link⟩ := isDirectory_distributionWorld here
  refine ⟨⟨true, isDirectory_lib_distributionWorld here⟩, fun _ name lists => ?_⟩
  rcases eq_of_lists_distributionWorld lists with rfl | rfl | rfl
  · exact ⟨false, file⟩
  · exact ⟨true, directory⟩
  · exact ⟨true, link⟩

/-- The file is no Hadoop, and the link is the HBase. -/
theorem compute_exports_distributionWorld :
    ∃ exports, (exec (compute ⟨.absolute, []⟩ "/usr/bin") (.start distributionWorld .journal)).1 = .ok exports ∧
      exports.lookup "HADOOP_HOME" = some "/cluster/lib/hadoop-2" ∧
      exports.lookup "HBASE_HOME" = some "/cluster/lib/hbase-1" ∧
      exports.lookup "PATH" = some ("/bin:/schema-shell/bin:/cluster/bin:" ++
        "/cluster/lib/hadoop-2/bin:/cluster/lib/hbase-1/bin:/usr/bin") := by
  have clock : distributionWorld.now.wholePart = .ok 0 := by cbv
  obtain ⟨exports, computed, exported⟩ :=
    (compute_exports (s := .start distributionWorld .journal) (fun _ _ file => by cases file) clock
      ⟨.absolute, []⟩ "/usr/bin").1 fun _ _ => searchable_distributionWorld
  obtain ⟨file, directory, link⟩ := isDirectory_distributionWorld distributionWorld.workingDirectory
  have isLib := isDirectory_lib_distributionWorld distributionWorld.workingDirectory
  have hadoop : exports.lookup "HADOOP_HOME" = some "/cluster/lib/hadoop-2" := by
    refine (exported.hadoop.eq_some_iff _).2 ⟨"hadoop-2", ⟨⟨isLib, by decide, directory⟩, ?_⟩, rfl⟩
    intro name offers
    rcases eq_of_lists_distributionWorld (offers.lists (by decide)) with rfl | rfl | rfl
    · cases file.symm.trans offers.directory
    · exact le_rfl
    · exact absurd offers.begins (by decide)
  have hbase : exports.lookup "HBASE_HOME" = some "/cluster/lib/hbase-1" := by
    refine (exported.hbase.eq_some_iff _).2 ⟨"hbase-1", ⟨⟨isLib, by decide, link⟩, ?_⟩, rfl⟩
    intro name offers
    rcases eq_of_lists_distributionWorld (offers.lists (by decide)) with rfl | rfl | rfl
    · exact absurd offers.begins (by decide)
    · exact absurd offers.begins (by decide)
    · exact le_rfl
  refine ⟨exports, computed, hadoop, hbase, ?_⟩
  rw [exported.searchPath, binsOf, hadoop, hbase]
  rfl

theorem distributionIn_of_colons (here : Place) (stem : String) :
    distributionIn .empty here (libOf ⟨.absolute, ["a::b"]⟩) stem = .ok none := by
  have lost : FileTree.empty.find here (libOf ⟨.absolute, ["a::b"]⟩) .target = .error .notFound :=
    (FileTree.find_eq_walk (by decide) (by decide)).trans (by cbv)
  rw [distributionIn, FileTree.isDirectory_of_notFound lost]

/-- For a distribution whose path is too long no variables are exported, and for one with colons in its path
there are empty entries in front of the search path. -/
theorem exports_not_always_plain :
    (∀ exports,
      (exec (compute ⟨.absolute, FileTree.chain 2048⟩ "") (.start default .journal)).1 ≠ .ok exports) ∧
    (exec (compute ⟨.absolute, ["a::b"]⟩ "") (.start default .journal)).1 = .ok
      [("KIJI_HOME", "/a::b"), ("BENTO_CLUSTER_HOME", "/a::b/cluster"),
        ("PATH", "/a::b/bin:/a::b/schema-shell/bin:/a::b/cluster/bin")] ∧
    emptyEntries "/a::b/bin:/a::b/schema-shell/bin:/a::b/cluster/bin" = 3 := by
  refine ⟨fun exports exported => ?_, ?_, by decide⟩
  · have long : FileTree.maxPathSize < (⟨.absolute, FileTree.chain 2048⟩ : Path).text.utf8ByteSize := by
      rw [FileTree.utf8ByteSize_chain]
      decide
    cases (exec_compute_of_long rfl (FileTree.noNul_chain 2048) long "" _).symm.trans exported
  · have sees : Sees default (.start default .journal) := ⟨fun _ _ => rfl, rfl, fun _ _ file => by cases file⟩
    have clock : (default : World).now.wholePart = .ok 0 := by cbv
    rw [sees.fst_exec_compute clock, show (default : World).files = .empty from rfl, distributionIn_of_colons,
      distributionIn_of_colons]
    rfl

end ShellEnvironment

end Checkin
