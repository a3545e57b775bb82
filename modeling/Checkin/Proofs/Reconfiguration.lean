import Checkin.Proofs.Config
import Checkin.Proofs.Path
import Mathlib.Data.List.DropRight

/-!
# Configurations configured again

The paths of a configuration need nothing more done to them: none starts in a home directory, and each is read
back from its text (`Expanded`). So a configuration whose texts are given to the two variables is made once
more, in whatever working directory and with whatever home directories that is done.
-/

namespace Checkin

/-- The environment in which a variable is not set. -/
def Environment.without (env : Environment) (name : String) : Environment :=
  ⟨Entries.keep env.entries (· ≠ name)⟩

theorem Environment.get?_without (env : Environment) (name other : String) :
    (env.without name).get? other = if other = name then none else env.get? other := by
  rw [get?, without, Entries.lookup_keep]
  by_cases same : other = name <;> simp [same, get?]

/-- A variable that is empty is like one that is not set. -/
theorem Environment.nonempty?_set_empty (env : Environment) (name other : String) :
    (env.set name "").nonempty? other = (env.without name).nonempty? other := by
  rw [nonempty?, nonempty?, get?_set, get?_without]
  by_cases same : other = name
  · simp [same]
  · simp [same]

/-- Home directories as the accounts of a system have them: each is given by a text that starts at the root, or by
the empty one, which is the root. -/
def Homes.Rooted (homes : Homes) : Prop :=
  ∀ user home, homes.of? user = some home → home = "" ∨ Path.rootOf home ≠ .relative

namespace Config

variable {env env' : Environment} {homes : Homes} {here : Place} {p q : Path} {cfg : Config}

/-! ## Expanded paths -/

/-- A path with nothing left to expand, which is read back from its text. -/
structure Expanded (p : Path) : Prop where
  tidy : p.Tidy
  plain : ¬StartsInHome p

theorem expanded_of_root (tidy : p.Tidy) (rooted : p.root ≠ .relative) : Expanded p :=
  ⟨tidy, fun starts => rooted starts.1⟩

theorem Expanded.child {name : String} (expanded : Expanded p)
    (plain : '/' ∉ name.toList ∧ name ≠ "" ∧ name ≠ ".") (noTilde : name.toList.head? ≠ some '~') :
    Expanded (p.child name) := by
  obtain ⟨tidy, notHome⟩ := expanded
  refine ⟨tidy.append (q := ⟨.relative, [name]⟩) (by simpa [Path.Tidy] using plain), ?_⟩
  rintro ⟨relative, first, head, tilde⟩
  cases names : p.names with
  | nil =>
    rw [Path.child, names] at head
    cases head
    exact noTilde tilde
  | cons other names' =>
    rw [Path.child, names] at head
    exact notHome ⟨relative, first, by rw [names]; exact head, tilde⟩

/-- A home directory is known by a path from the root. -/
theorem homePath_rooted {user : String} (rooted : homes.Rooted) (known : homePath (homes.of? user) = .ok p) :
    p.Tidy ∧ p.root ≠ .relative := by
  cases given : homes.of? user with
  | none =>
    rw [given] at known
    cases known
  | some home =>
    rw [given, homePath] at known
    split at known
    · cases known
      exact ⟨by simp [Path.Tidy], by simp⟩
    · cases known
    · next notEmpty _ =>
      cases known
      refine ⟨Path.tidy_ofText _, ?_⟩
      show Path.rootOf (String.ofList (home.toList.rdropWhile (· == '/'))) ≠ .relative
      rw [Ne, Path.rootOf_eq_relative_iff, not_not, String.toList_ofList]
      obtain rfl | absolute := rooted user home given
      · exact absurd rfl notEmpty
      rw [Ne, Path.rootOf_eq_relative_iff, not_not] at absolute
      obtain ⟨slashes, whole⟩ := List.rdropWhile_prefix (· == '/') home.toList
      -- What is left without the slashes at the end starts as the whole text does.
      cases trimmed : home.toList.rdropWhile (· == '/') with
      | nil => exact absurd trimmed notEmpty
      | cons c cs =>
        rw [trimmed] at whole
        rwa [← whole] at absolute

theorem expandHome_expanded (rooted : homes.Rooted) (tidy : p.Tidy) (expands : expandHome homes p = .ok q) :
    Expanded q := by
  by_cases starts : StartsInHome p
  · obtain ⟨relative, name, head, tilde⟩ := starts
    obtain ⟨names, named⟩ := List.head?_eq_some_iff.1 head
    obtain ⟨user, chars⟩ := List.head?_eq_some_iff.1 tilde
    simp only [expandHome, relative, named, chars] at expands
    split at expands
    · cases expands
    · cases known : homePath (homes.of? (String.ofList user)) with
      | error failure =>
        rw [known] at expands
        cases expands
      | ok start =>
        rw [known] at expands
        cases expands
        obtain ⟨tidy', fromRoot⟩ := homePath_rooted rooted known
        refine expanded_of_root (tidy'.append (q := ⟨.relative, names⟩) fun name' among => ?_) fromRoot
        exact tidy name' (by rw [named]; exact List.mem_cons_of_mem _ among)
  · rw [expandHome_of_not_startsInHome starts] at expands
    cases expands
    exact ⟨tidy, starts⟩

theorem workingPath_tidy (tidy : (Path.mk .absolute here.location).Tidy) (stands : workingPath here = .ok p) :
    p.Tidy := by
  unfold workingPath at stands
  split at stands
  · cases stands
    exact tidy
  · cases stands

theorem givenKijiHome_tidy (tidy : (Path.mk .absolute here.location).Tidy)
    (gave : givenKijiHome env here = .ok p) : p.Tidy := by
  unfold givenKijiHome at gave
  split at gave
  · cases gave
    exact Path.tidy_ofText _
  · exact workingPath_tidy tidy gave

theorem chosenStateDir_expanded (rooted : homes.Rooted) (chose : chosenStateDir env homes = .ok p) :
    Expanded p := by
  unfold chosenStateDir at chose
  split at chose
  · exact expandHome_expanded rooted (Path.tidy_ofText _) chose
  · cases known : homePath homes.own with
    | error failure =>
      rw [known] at chose
      cases chose
    | ok start =>
      rw [known] at chose
      cases chose
      have known' : homePath (homes.of? "") = .ok start := known
      obtain ⟨tidy, fromRoot⟩ := homePath_rooted rooted known'
      exact (expanded_of_root tidy fromRoot).child (by decide) (by decide)

/-- The paths of a configuration are expanded. -/
theorem load_expanded (rooted : homes.Rooted) (tidy : (Path.mk .absolute here.location).Tidy)
    (loaded : load env homes here = .ok cfg) : Expanded cfg.kijiHome ∧ Expanded cfg.stateDir := by
  rw [load_eq] at loaded
  obtain ⟨given, gave, loaded⟩ := exists_of_bind_eq_ok loaded
  obtain ⟨stateDir, chose, loaded⟩ := exists_of_bind_eq_ok loaded
  obtain ⟨kijiHome, expands, loaded⟩ := exists_of_bind_eq_ok loaded
  cases loaded
  exact ⟨expandHome_expanded rooted (givenKijiHome_tidy tidy gave) expands,
    chosenStateDir_expanded rooted chose⟩

/-! ## Configured again -/

/-- Expanded paths are configured by their texts, wherever that is done. -/
theorem load_of_texts (kijiHome : Expanded cfg.kijiHome) (stateDir : Expanded cfg.stateDir)
    (given : env.get? kijiHomeVariable = some cfg.kijiHome.text)
    (chosen : env.get? stateDirVariable = some cfg.stateDir.text) (homes : Homes) (here : Place) :
    load env homes here = .ok cfg := by
  have nonempty : ∀ {p name}, Expanded p → env.get? name = some p.text → env.nonempty? name = some p.text := by
    intro p name expanded set
    rw [Environment.nonempty?, set]
    exact Option.filter_some_pos (by simpa using expanded.tidy.text_ne_empty)
  have kept : ∀ {p}, Expanded p → expandHome homes (.ofText p.text) = .ok p := by
    intro p expanded
    rw [expanded.tidy.ofText_text, expandHome_of_not_startsInHome expanded.plain]
  have gave : givenKijiHome env here = .ok (.ofText cfg.kijiHome.text) := by
    simp only [givenKijiHome, nonempty kijiHome given]
  have chose : chosenStateDir env homes = .ok cfg.stateDir := by
    simp only [chosenStateDir, nonempty stateDir chosen, kept stateDir]
  rw [load_eq, bind_of_ok gave, bind_of_ok chose, bind_of_ok (kept kijiHome)]
  rfl

theorem load_set_empty (env : Environment) (name : String) (homes : Homes) (here : Place) :
    load (env.set name "") homes here = load (env.without name) homes here := by
  simp only [load, Environment.nonempty?_set_empty]

/-- A variable that is empty is like one that is not set. Let a configuration be made where the home directories
are given by texts that start at the root, and where the working directory has names as directories have. Then
it is made once more from its own texts, in any working directory and with any home directories. None of its
paths starts in a home directory, and the two state files are different entries of the directory for them. -/
theorem load_again (env : Environment) (homes : Homes) (here : Place) :
    (∀ name ∈ [kijiHomeVariable, stateDirVariable],
      load (env.set name "") homes here = load (env.without name) homes here) ∧
    ∀ cfg, homes.Rooted → (Path.mk .absolute here.location).Tidy → load env homes here = .ok cfg →
      (∀ env' homes' here', env'.get? kijiHomeVariable = some cfg.kijiHome.text →
        env'.get? stateDirVariable = some cfg.stateDir.text → load env' homes' here' = .ok cfg) ∧
      (∀ p ∈ [cfg.kijiHome, cfg.stateDir, cfg.idFile, cfg.lastUsedFile], ¬StartsInHome p) ∧
      cfg.idFile.text ≠ cfg.lastUsedFile.text ∧
      ∀ file ∈ [cfg.idFile, cfg.lastUsedFile],
        file.parent = cfg.stateDir ∧ file.names.length = cfg.stateDir.names.length + 1 := by
  refine ⟨fun name _ => load_set_empty env name homes here, fun cfg rooted tidy loaded => ?_⟩
  obtain ⟨kijiHome, stateDir⟩ := load_expanded rooted tidy loaded
  have idFile : Expanded cfg.idFile := stateDir.child (by decide) (by decide)
  have lastUsedFile : Expanded cfg.lastUsedFile := stateDir.child (by decide) (by decide)
  refine ⟨fun env' homes' here' given chosen => load_of_texts kijiHome stateDir given chosen homes' here',
    ?_, ?_, ?_⟩
  · simp only [List.forall_mem_cons]
    exact ⟨kijiHome.plain, stateDir.plain, idFile.plain, lastUsedFile.plain, by simp⟩
  · intro same
    have paths := congrArg Path.ofText same
    rw [idFile.tidy.ofText_text, lastUsedFile.tidy.ofText_text] at paths
    simp [Config.idFile, Config.lastUsedFile, Path.child] at paths
  · simp only [List.forall_mem_cons]
    refine ⟨⟨Path.parent_child _ _, ?_⟩, ⟨Path.parent_child _ _, ?_⟩, by simp⟩
    · simp [Config.idFile, Path.child]
    · simp [Config.lastUsedFile, Path.child]

/-- The home directories of an account and of the administrator. -/
def tildeHomes : Homes := ⟨some "//h//", [("root", "/root")]⟩

theorem rooted_tildeHomes : tildeHomes.Rooted := by
  intro user home known
  by_cases own : user = ""
  · simp only [Homes.of?, own, tildeHomes, if_pos, Option.some.injEq] at known
    exact .inr (known ▸ by decide)
  · simp only [Homes.of?, if_neg own, tildeHomes, List.lookup_cons] at known
    split at known
    · cases known
      exact .inr (by decide)
    · cases known

/-- A configuration from two variables with tildes. -/
def tildeConfig : Config :=
  ⟨⟨.absolute, ["root", "w"]⟩, ⟨.doubleSlash, ["h", "s", "t"]⟩⟩

/-- It is made again where the working directory was removed and no home directory is known. -/
theorem load_again_tilde :
    load ⟨[(kijiHomeVariable, "~root/w"), (stateDirVariable, "~//s/./t/")]⟩ tildeHomes ⟨["w"], 0⟩ =
      .ok tildeConfig ∧
    load ⟨[(kijiHomeVariable, "/root/w"), (stateDirVariable, "//h/s/t")]⟩ ⟨none, []⟩ ⟨["w"], 1⟩ =
      .ok tildeConfig ∧
    ¬StartsInHome tildeConfig.stateDir ∧ tildeConfig.idFile.text ≠ tildeConfig.lastUsedFile.text := by
  have loaded : load ⟨[(kijiHomeVariable, "~root/w"), (stateDirVariable, "~//s/./t/")]⟩ tildeHomes ⟨["w"], 0⟩ =
      .ok tildeConfig := rfl
  obtain ⟨-, configured⟩ :=
    load_again ⟨[(kijiHomeVariable, "~root/w"), (stateDirVariable, "~//s/./t/")]⟩ tildeHomes ⟨["w"], 0⟩
  have tidy : (Path.mk .absolute ["w"]).Tidy := by simp [Path.Tidy]
  obtain ⟨again, plain, distinct, -⟩ := configured tildeConfig rooted_tildeHomes tidy loaded
  exact ⟨loaded, again _ _ _ rfl rfl, plain _ (by simp), distinct⟩

end Config

end Checkin
