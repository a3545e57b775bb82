import Checkin.Properties
import Checkin.Proofs.Basic
import Checkin.Proofs.Value

/-!
# Platform properties

A look-up finds a value that is not falsy, or it fails. The three look-ups for the operating system are made
in order, so the first that finds nothing is the one that is reported.
-/

namespace Checkin

namespace Properties

variable {properties : Properties} {platform : Platform} {key : String} {value : Value}

/-- The value of a key, if it has one that is not falsy. -/
def found? (properties : Properties) (platform : Platform) (key : String) : Option Value :=
  let value? :=
    match properties with
    | .live => (platform.properties.lookup key).map Value.text
    | .given values => values.lookup key
  value?.filter fun value => !value.isFalsy

/-- The keys of the properties that make up the operating system's text. -/
def osKeys : List String := [osName, osVersion, osArch]

/-- The first of the operating system's properties that has no value. -/
def missing? (properties : Properties) (platform : Platform) : Option String :=
  osKeys.find? fun key => (properties.found? platform key).isNone

/-- The text of the value of a key, if it has a value and that has a text. -/
def text? (properties : Properties) (platform : Platform) (key : String) : Option String :=
  (properties.found? platform key).bind Value.text?

/-- The texts of the operating system's properties with spaces between them, if there are all three. -/
def osText? (properties : Properties) (platform : Platform) : Option String :=
  (osKeys.mapM (properties.text? platform)).map " ".intercalate

theorem isFalsy_of_found? (found : properties.found? platform key = some value) : value.isFalsy = false := by
  simpa using (Option.filter_eq_some_iff.1 found).2

theorem get_eq (properties : Properties) (platform : Platform) (key : String) :
    properties.get platform key = (properties.found? platform key).elim (.error (.noProperty key)) .ok := by
  cases properties with
  | live =>
    simp only [get, found?]
    cases platform.properties.lookup key with
    | none => rfl
    | some text => cases falsy : (Value.text text).isFalsy <;> simp [Option.filter, falsy]
  | given values =>
    simp only [get, found?]
    cases values.lookup key with
    | none => rfl
    | some value => cases falsy : value.isFalsy <;> simp [Option.filter, falsy]

theorem operatingSystem_eq (properties : Properties) (platform : Platform) :
    properties.operatingSystem platform =
      match properties.missing? platform, properties.osText? platform with
      | some key, _ => .error (.noProperty key)
      | none, some os => .ok os
      | none, none => .error .tooManyDigits := by
  simp only [operatingSystem, missing?, osText?, osKeys, get_eq, List.find?_cons, List.find?_nil,
    List.mapM_cons, List.mapM_nil, text?]
  cases properties.found? platform osName with
  | none => rfl
  | some name =>
    cases properties.found? platform osVersion with
    | none => rfl
    | some version =>
      cases properties.found? platform osArch with
      | none => rfl
      | some arch =>
        show (do
          let name ← textOf name
          let version ← textOf version
          let arch ← textOf arch
          return name ++ " " ++ version ++ " " ++ arch) = _
        simp only [textOf, Option.bind_some]
        cases name.text? <;> cases version.text? <;> cases arch.text? <;> rfl

theorem osText?_eq_some_iff {os : String} :
    properties.osText? platform = some os ↔
      ∃ name version arch, properties.text? platform osName = some name ∧
        properties.text? platform osVersion = some version ∧ properties.text? platform osArch = some arch ∧
        name ++ " " ++ version ++ " " ++ arch = os := by
  simp only [osText?, osKeys, List.mapM_cons, List.mapM_nil]
  cases properties.text? platform osName with
  | none => simp
  | some name =>
    cases properties.text? platform osVersion with
    | none => simp
    | some version =>
      cases properties.text? platform osArch with
      | none => simp
      | some arch =>
        have joined : " ".intercalate [name, version, arch] = name ++ " " ++ version ++ " " ++ arch := rfl
        simp [joined]

theorem osText?_ne_empty {os : String} (joined : properties.osText? platform = some os) : os ≠ "" := by
  obtain ⟨name, version, arch, -, -, -, rfl⟩ := osText?_eq_some_iff.1 joined
  simp

/-- There is a text only if each of the properties has a value. -/
theorem missing?_of_osText? {os : String} (joined : properties.osText? platform = some os) :
    properties.missing? platform = none := by
  have there : ∀ {key text}, properties.text? platform key = some text →
      (properties.found? platform key).isNone = false := by
    intro key text spelled
    obtain ⟨value, found, -⟩ := Option.bind_eq_some_iff.1 spelled
    simp [found]
  obtain ⟨name, version, arch, hname, hversion, harch, -⟩ := osText?_eq_some_iff.1 joined
  simp [missing?, osKeys, there hname, there hversion, there harch]

/-- With values for all properties, the text is wanting only where one of them has none. -/
theorem osText?_eq_none_iff (present : properties.missing? platform = none) :
    properties.osText? platform = none ↔
      ∃ key ∈ osKeys, ∃ value, properties.found? platform key = some value ∧ value.HoldsLong := by
  have found : ∀ key ∈ osKeys, (properties.found? platform key).isSome := by
    simpa [missing?, List.find?_eq_none, Option.isSome_iff_ne_none] using present
  rw [osText?, Option.map_eq_none_iff, mapM_eq_none_iff]
  constructor
  · rintro ⟨key, among, textless⟩
    obtain ⟨value, there⟩ := Option.isSome_iff_exists.1 (found key among)
    rw [text?, there, Option.bind_some, Value.text?_eq_none_iff] at textless
    exact ⟨key, among, value, there, textless⟩
  · rintro ⟨key, among, value, there, long⟩
    refine ⟨key, among, ?_⟩
    rw [text?, there, Option.bind_some, Value.text?_eq_none_iff]
    exact long

/-! ## The live platform -/

theorem found?_live_eq_some_iff :
    Properties.live.found? platform key = some value ↔
      ∃ text, platform.properties.lookup key = some text ∧ text ≠ "" ∧ value = .text text := by
  simp only [found?, Option.filter_eq_some_iff, Option.map_eq_some_iff]
  constructor
  · rintro ⟨⟨text, listed, rfl⟩, truthy⟩
    exact ⟨text, listed, by simpa [Value.isFalsy] using truthy, rfl⟩
  · rintro ⟨text, listed, some, rfl⟩
    exact ⟨⟨text, listed, rfl⟩, by simpa [Value.isFalsy] using some⟩

theorem text?_live_eq_some_iff {text : String} :
    Properties.live.text? platform key = some text ↔
      platform.properties.lookup key = some text ∧ text ≠ "" := by
  simp only [text?, Option.bind_eq_some_iff, found?_live_eq_some_iff]
  constructor
  · rintro ⟨-, ⟨_, listed, some, rfl⟩, ⟨⟩⟩
    exact ⟨listed, some⟩
  · rintro ⟨listed, some⟩
    exact ⟨.text text, ⟨text, listed, some, rfl⟩, rfl⟩

theorem lookup_properties (platform : Platform) :
    platform.properties.lookup osName = some platform.system ∧
    platform.properties.lookup osVersion = some platform.release ∧
    platform.properties.lookup osArch = some platform.machine ∧
    platform.properties.lookup javaVersion = some platform.runtimeVersion := by
  simp [Platform.properties, List.lookup_cons, osName, osVersion, osArch, javaVersion]

theorem osText?_live_eq_some_iff {os : String} :
    Properties.live.osText? platform = some os ↔
      platform.system ≠ "" ∧ platform.release ≠ "" ∧ platform.machine ≠ "" ∧
        platform.system ++ " " ++ platform.release ++ " " ++ platform.machine = os := by
  obtain ⟨system, release, machine, -⟩ := lookup_properties platform
  simp only [osText?_eq_some_iff, text?_live_eq_some_iff, system, release, machine]
  grind

end Properties

end Checkin
