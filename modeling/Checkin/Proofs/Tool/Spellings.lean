import Checkin.Proofs.Shell.Exports
import Checkin.Proofs.Tool.Exporting

/-!
# Spellings of a distribution's root

What `env` prints depends on the directory that it is given, not on how the path there is spelled, and not on
the working directory either once the path is absolute: different spellings of a directory lead to one root.
-/

namespace Checkin.Tool

open Checkin.CommandLine Checkin.FileTree Checkin.ShellEnvironment

variable {text other : String} {p : Path} {w : World} {l : Location} {here : Place} {second : Int}

/-- A text names a directory that is there. -/
structure Names (w : World) (text : String) (l : Location) : Prop where
  notEmpty : text ≠ ""
  found : w.files.find w.workingDirectory (.ofText text) .target = .ok ⟨l, 0⟩
  there : w.files.get? l = some .directory

/-- A text can be told from the mark that is dropped, and what it names can be resolved without trouble. -/
structure Usable (w : World) (text : String) : Prop where
  notMark : text ≠ "--"
  resolvable : Resolvable w.files w.workingDirectory (.ofText text)

/-- A path is the way from the root down to a directory: no name on it is empty, a dot or a double dot, all are
names of directories, and its text is read as the same path. -/
structure Canonical (t : FileTree) (home : Path) : Prop where
  absolute : home.root = .absolute
  plain : ∀ name ∈ home.names, IsPlain name
  directories : ∀ front, front <+: home.names → t.get? front = some .directory
  spelled : Path.ofText home.text = home

theorem canonical_of_standing (proper : Proper w.files) (standing : Standing w.files ⟨l, 0⟩) :
    Canonical w.files ⟨.absolute, l⟩ := by
  have real := proper.names (standing.above l (List.prefix_refl l))
  refine ⟨rfl, fun name member => (real name member).plain, standing.above, ?_⟩
  refine Path.ofText_text (fun name member => (real name member).noSlash) fun name member => ?_
  exact ⟨(real name member).plain.ne_empty, fun dot => (real name member).plain.not_skipped (.inl dot)⟩

/-- A resolved path is a root, even if it is too long to be looked at. -/
theorem rootIn_of_looked {t : FileTree} {root : Path} (resolved : t.resolve here depth p = .ok root)
    (looked : t.stat here root = .ok .directory ∨ t.stat here root = .error .nameTooLong) :
    rootIn t here depth p = .ok root := by
  unfold rootIn
  rw [resolved]
  dsimp only
  rcases looked with looked | looked <;> rw [looked]

theorem rootIn_of_resolve {t : FileTree} (proper : Proper t) (standing : Standing t ⟨l, 0⟩)
    (resolved : t.resolve here depth p = .ok ⟨.absolute, l⟩) : rootIn t here depth p = .ok ⟨.absolute, l⟩ :=
  rootIn_of_looked resolved (standing.stat proper here)

/-- The way to the root is the root's own path. -/
theorem rootIn_root {t : FileTree} (proper : Proper t) (here : Place) :
    rootIn t here depth ⟨.absolute, []⟩ = .ok ⟨.absolute, []⟩ :=
  rootIn_of_resolve proper (standing_root t) ((standing_root t).resolve proper here depth)

theorem IsGiven.of_names (names : Names w text l) (usable : Usable w text) : IsGiven text :=
  ⟨names.notEmpty, usable.notMark⟩

/-- What names a directory, without the troubles that a path can be in, stands for the way from the root down to
the directory. -/
theorem rootIn_of_names (proper : Proper w.files) (names : Names w text l) (usable : Usable w text) :
    rootIn w.files w.workingDirectory w.linkDepth (.ofText text) = .ok ⟨.absolute, l⟩ ∧
      Standing w.files ⟨l, 0⟩ := by
  have there : w.files.nodeAt ⟨l, 0⟩ = some .directory := names.there
  obtain ⟨resolved, standing⟩ := resolve_of_find proper usable.resolvable names.found there w.linkDepth.2
  exact ⟨rootIn_of_resolve proper standing resolved, standing⟩

/-- While the clock shows a time, a directory that has nothing for the cluster is exported as it is. -/
theorem envRun_of_absent (proper : Proper w.files) (given : IsGiven text) (standing : Standing w.files ⟨l, 0⟩)
    (root : rootIn w.files w.workingDirectory w.linkDepth (.ofText text) = .ok ⟨.absolute, l⟩)
    (clock : w.now.wholePart = .ok second) (absent : w.files.get? (l ++ ["cluster"]) = none)
    (short : (⟨.absolute, l ++ ["cluster", "lib"]⟩ : Path).text.utf8ByteSize ≤ maxPathSize) :
    (envRun none w text).1 = .exit 0 ∧ (envRun none w text).2.output =
      exportLines (exportsFor ⟨.absolute, l⟩ none none ((w.environment.get? "PATH").getD "")) ++ "\n" := by
  rw [envRun_eq none given root]
  exact exportRun_of_found clock (found_of_absent proper standing absent short)

/-- Runs of `env` that are given two spellings of one directory are the same. If they end well, they print as
the root the way from the root down to the directory; and given this way, `env` goes the same way in every
working directory. -/
theorem env_goesByDirectory (proper : Proper w.files) (names : Names w text l) (names' : Names w other l)
    (usable : Usable w text) (usable' : Usable w other) (program : Option Path) :
    let home : Path := ⟨.absolute, l⟩
    envRun program w text = envRun program w other ∧
    ((envRun program w text).1 = .exit 0 → ∃ more, (envRun program w text).2.output =
      exportLines (("KIJI_HOME", home.text) :: more) ++ "\n") ∧
    Canonical w.files home ∧
    ((∀ p, program = some p → p.isAbsolute = true) → ∀ here,
      envRun program { w with workingDirectory := here } home.text =
        ((envRun program w text).1, (envRun program w text).2.movedTo here)) := by
  intro home
  have given := IsGiven.of_names names usable
  obtain ⟨root, standing⟩ := rootIn_of_names proper names usable
  obtain ⟨root', -⟩ := rootIn_of_names proper names' usable'
  have canonical := canonical_of_standing proper standing
  have ran := envRun_eq program given root
  refine ⟨?_, ?_, canonical, ?_⟩
  · rw [ran, envRun_eq program (.of_names names' usable') root']
  · intro ended
    rcases envRun_cases program given w with ⟨other, -⟩ | ⟨home', -, -, more, root', -, -, -, printed⟩
    · exact absurd ended other
    · cases root.symm.trans root'
      exact ⟨more, printed⟩
  · intro absolute here
    have begins := Path.toList_text_absolute l
    have given' : IsGiven home.text :=
      ⟨fun same => by simp [home, same] at begins, fun same => by simp [home, same] at begins⟩
    have root' : rootIn w.files here w.linkDepth (.ofText home.text) = .ok home := by
      rw [canonical.spelled]
      exact rootIn_of_resolve proper standing (standing.resolve proper here w.linkDepth)
    rw [ran, ← exportRun_movedTo absolute rfl]
    exact envRun_eq program given' root'

/-- A world in whose working directory a link leads to a directory, through another link and back up. -/
def linkedWorld : World :=
  { (default : World) with
    files := (((FileTree.empty.set ["d"] .directory).set ["d", "e"] .directory).set ["t"] (.link "d/e")).set
      ["d", "s"] (.link "../t")
    workingDirectory := ⟨["d"], 0⟩ }

theorem proper_linked : Proper linkedWorld.files := by
  refine (((proper_empty.set (by simp) (by decide) (by simp)).set (by simp) (by decide) (by simp)).set
    (by simp) (by decide) ?_).set (by simp) (by decide) ?_ <;>
  · rintro _ ⟨⟩
    decide

theorem standing_linked : Standing linkedWorld.files linkedWorld.workingDirectory :=
  ((standing_root _).child "d").standing (by cbv)

theorem usable_linked : Usable linkedWorld "s" := by
  have met : linkedWorld.files.linksOn linkedWorld.workingDirectory (.ofText "s") =
      [(⟨.relative, ["s"]⟩, "../t"), (⟨.relative, ["..", "t"]⟩, "d/e")] := by cbv
  refine ⟨by decide, ?_, .inr (.inr standing_linked)⟩
  rw [met]
  decide

theorem usable_direct : Usable linkedWorld "/d/./e//" := by
  have met : linkedWorld.files.linksOn linkedWorld.workingDirectory (.ofText "/d/./e//") = [] := by cbv
  refine ⟨by decide, ?_, .inr (.inr standing_linked)⟩
  simp [met]

theorem names_linked : Names linkedWorld "s" ["d", "e"] :=
  ⟨by decide, by cbv, by cbv⟩

theorem env_goesByDirectory_linked :
    envRun none linkedWorld "s" = envRun none linkedWorld "/d/./e//" ∧
    (envRun none linkedWorld "s").1 = .exit 0 ∧
    (∃ more, (envRun none linkedWorld "s").2.output =
      exportLines (("KIJI_HOME", (Path.mk .absolute ["d", "e"]).text) :: more) ++ "\n") ∧
    envRun none { linkedWorld with workingDirectory := .root } (Path.mk .absolute ["d", "e"]).text =
      ((envRun none linkedWorld "s").1, (envRun none linkedWorld "s").2.movedTo .root) := by
  have names : Names linkedWorld "/d/./e//" ["d", "e"] := ⟨by decide, by cbv, by cbv⟩
  obtain ⟨same, printed, -, elsewhere⟩ :=
    env_goesByDirectory proper_linked names_linked names usable_linked usable_direct none
  have clock : linkedWorld.now.wholePart = .ok 0 := by cbv
  obtain ⟨root, standing⟩ := rootIn_of_names proper_linked names_linked usable_linked
  have given := IsGiven.of_names names_linked usable_linked
  obtain ⟨ended, -⟩ := envRun_of_absent proper_linked given standing root clock (by cbv) (by decide)
  exact ⟨same, ended, printed ended, elsewhere (by simp) .root⟩

/-! ## Where the spelling shows -/

/-- Two texts name the same directory, and `env` does not print the same for both. -/
def TellsApart (w : World) (text other : String) : Prop :=
  Proper w.files ∧ ∃ l, Names w text l ∧ Names w other l ∧
    (envRun none w text).2.output ≠ (envRun none w other).2.output

/-- A world with a directory that has the mark for a name. -/
def markedWorld : World :=
  { (default : World) with
    files := FileTree.empty.set ["--"] .directory
    accounts := twoHomes }

theorem proper_marked : Proper markedWorld.files :=
  proper_empty.set (by simp) (by decide) (by simp)

theorem found_marked : Found markedWorld ⟨.absolute, []⟩ none none :=
  found_of_absent proper_marked (standing_root _) (by cbv) (by decide)

/-- The mark is not passed on, and the root is the one that the configuration gives. -/
theorem envRun_mark_marked : envRun none markedWorld "--" = exportRun none markedWorld ⟨.absolute, []⟩ := by
  rw [envRun, run_none_eq, exec_respond_env (fun _ => rfl) (rootIn_root proper_marked _), exportRun_none]
  rfl

theorem tellsApart_marked : TellsApart markedWorld "--" "./--" := by
  have names : Names markedWorld "./--" ["--"] := ⟨by decide, by cbv, by cbv⟩
  have met : markedWorld.files.linksOn markedWorld.workingDirectory (.ofText "./--") = [] := by cbv
  have usable : Usable markedWorld "./--" := ⟨by decide, by simp [met], .inr (.inr (standing_root _))⟩
  have clock : markedWorld.now.wholePart = .ok 0 := by cbv
  obtain ⟨root, standing⟩ := rootIn_of_names proper_marked names usable
  have given := IsGiven.of_names names usable
  obtain ⟨-, printed⟩ := envRun_of_absent proper_marked given standing root clock (by cbv) (by decide)
  refine ⟨proper_marked, ["--"], ⟨by decide, by cbv, by cbv⟩, names, ?_⟩
  rw [printed, envRun_mark_marked, (exportRun_of_found clock found_marked).2]
  decide

/-- A world whose working directory was removed. -/
def removedWorld : World :=
  { (default : World) with
    files := FileTree.empty.set ["d"] .directory
    workingDirectory := ⟨["d", "e"], 1⟩ }

theorem tellsApart_removed : TellsApart removedWorld ".." "/d" := by
  have proper : Proper removedWorld.files := proper_empty.set (by simp) (by decide) (by simp)
  have standing : Standing removedWorld.files ⟨["d"], 0⟩ := ((standing_root _).child "d").standing (by cbv)
  have root : rootIn removedWorld.files removedWorld.workingDirectory removedWorld.linkDepth (.ofText "/d") = .ok ⟨.absolute, ["d"]⟩ :=
    rootIn_of_resolve proper standing (standing.resolve proper _ _)
  have clock : removedWorld.now.wholePart = .ok 0 := by cbv
  obtain ⟨-, printed⟩ := envRun_of_absent proper ⟨by decide, by decide⟩ standing root clock (by cbv) (by decide)
  have rootless : rootIn removedWorld.files removedWorld.workingDirectory removedWorld.linkDepth (.ofText "..") =
      .error (.system .notFound none) := by cbv
  have given : IsGiven ".." := ⟨by decide, by decide⟩
  refine ⟨proper, ["d"], ⟨by decide, by cbv, by cbv⟩, ⟨by decide, by cbv, by cbv⟩, ?_⟩
  rcases envRun_cases none given removedWorld with ⟨-, silent⟩ | ⟨_, _, _, _, root, -⟩
  · rw [silent, printed]
    decide
  · cases rootless.symm.trans root

/-- A world with a link in the last of many directories, one in another. -/
def deepWorld (depth : Nat) : World :=
  { (default : World) with files := deepTree (depth + 1) }

theorem tellsApart_deep {depth : Nat} (long : maxPathSize < 2 * (depth + 2)) :
    TellsApart (deepWorld depth) "/s/a" "/d" := by
  have proper : Proper (deepWorld depth).files := proper_deepTree _
  have standing : Standing (deepWorld depth).files ⟨["d"], 0⟩ := standing_deepTree_d _
  have root : rootIn (deepWorld depth).files (deepWorld depth).workingDirectory (deepWorld depth).linkDepth
      (.ofText "/d") = .ok ⟨.absolute, ["d"]⟩ :=
    rootIn_of_resolve proper standing (standing.resolve proper _ _)
  have clock : (deepWorld depth).now.wholePart = .ok 0 := by cbv
  obtain ⟨-, printed⟩ := envRun_of_absent proper ⟨by decide, by decide⟩ standing root clock
    (get?_deepTree_below "cluster" _) (by decide)
  have unseen : rootIn (deepWorld depth).files (deepWorld depth).workingDirectory (deepWorld depth).linkDepth
      (.ofText "/s/a") = .ok ⟨.absolute, chain (depth + 2)⟩ :=
    rootIn_of_looked (resolve_deepTree long _ (Nat.le_trans (by decide) (deepWorld depth).linkDepth.2))
      (.inr (stat_chain long _ _))
  have there := get?_deepTree_d (depth + 1)
  have names : Names (deepWorld depth) "/s/a" ["d"] := ⟨by decide, find_deepTree _ _, there⟩
  have names' : Names (deepWorld depth) "/d" ["d"] := ⟨by decide, standing.find proper (by decide) _, there⟩
  have given : IsGiven "/s/a" := ⟨by decide, by decide⟩
  refine ⟨proper, ["d"], names, names', ?_⟩
  rcases envRun_cases none given (deepWorld depth) with ⟨-, silent⟩ | ⟨_, s, path, _, root, -, -, computed, -⟩
  · rw [silent, printed]
    simp
  · cases unseen.symm.trans root
    have failed := exec_compute_of_long rfl (noNul_chain (depth + 2)) (by rwa [utf8ByteSize_chain]) path s
    cases failed.symm.trans computed

/-- By a text that is not usable, `env` does not always find the directory that it names: by the mark, by a
relative one without a working directory, and by one with a link that is not seen. -/
theorem env_not_goesByDirectory :
    TellsApart markedWorld "--" "./--" ∧ TellsApart removedWorld ".." "/d" ∧
      TellsApart (deepWorld 2046) "/s/a" "/d" :=
  ⟨tellsApart_marked, tellsApart_removed, tellsApart_deep (by decide)⟩

end Checkin.Tool
