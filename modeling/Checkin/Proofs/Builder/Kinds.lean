import Checkin.Proofs.Builder.Outcome

/-!
# Kinds of supplied values

Where the platform and the version give no cause to fail, the kinds of the two supplied values decide. A time
of last use is taken as it is, or not at all. An id may be octets as well, which become the text they hold;
and an id that is falsy counts as none, whatever its kind.
-/

namespace Checkin.Builder

open Checkin.Action

/-- A result goes by kind: a message comes of a text and a time of last use that fits, which it carries as
they are, and anything else is reported to be of the wrong kind. -/
structure GoesByKind (id millis : Value) (r : Except Failure Message) : Prop where
  carries : ∀ m, r = .ok m → id = .text m.id ∧ millis = .int m.lastUsedMillis
  accepts : ∀ (text : String) (n : Millis), id = .text text → millis = .int n → ∃ m, r = .ok m
  refuses : (∀ m, r ≠ .ok m) → ∃ complaints, r = .error (.notCarried (.fields complaints))

/-- The pairs of values whose result does not go by kind. -/
inductive Misjudged : Value → Value → Prop
  /-- A falsy id counts as none, and not only one that is no value or an empty text. -/
  | falsy {id millis : Value} : id.isFalsy = true → Misjudged id millis
  /-- Octets that hold a text pass for it. -/
  | octets {bs : List UInt8} {text : String} {n : Millis} :
    Text.decode bs = .ok text → Misjudged (.octets bs) (.int n)

section Kinds

variable {properties : Properties} {version : Version.Source} {s : Session} {id millis : Value}
  {operatingSystem bentoVersion runtime : String}

/-- Whether a message comes of gathered texts depends on the supplied values alone. -/
theorem Gathered.build_cases
    (gathered : Gathered ⟨id, millis⟩ properties version s operatingSystem (.text bentoVersion)
      (.text runtime)) :
    (∃ m, (exec (build ⟨id, millis⟩ properties version) s).1 = .ok m ∧ id.Spells m.id ∧
      millis = .int m.lastUsedMillis) ∨
    (¬ ((∃ text, id.Spells text) ∧ ∃ n : Millis, millis = .int n) ∧ ∃ complaints,
      (exec (build ⟨id, millis⟩ properties version) s).1 = .error (.notCarried (.fields complaints))) := by
  have os := Properties.osText?_ne_empty gathered.operatingSystem
  have runs := Properties.isFalsy_of_found? gathered.runtimeVersion
  rw [gathered.fst_exec_build]
  by_cases wrong : complaints (.text bentoVersion) (.text runtime) millis id = []
  · obtain ⟨m, made⟩ := exists_assemble_eq_ok os gathered.truthy runs gathered.complete.id wrong
    obtain ⟨-, -, -, lastUsed, given⟩ := assemble_eq_ok_iff.1 made
    exact .inl ⟨m, made, given, lastUsed⟩
  · refine .inr ⟨?_, _, assemble_eq_error os gathered.truthy runs gathered.complete.id wrong⟩
    rintro ⟨spelled, fits⟩
    exact wrong (complaints_eq_nil_iff.2 ⟨rfl, rfl, Value.millisProblem?_eq_none_iff.2 fits,
      Value.textProblem?_eq_none_iff.2 spelled⟩)

theorem Gathered.goesByKind
    (gathered : Gathered ⟨id, millis⟩ properties version s operatingSystem (.text bentoVersion)
      (.text runtime)) (fair : ¬ Misjudged id millis) :
    GoesByKind id millis (exec (build ⟨id, millis⟩ properties version) s).1 := by
  rcases gathered.build_cases with ⟨m, made, spells, fits⟩ | ⟨refused, complaints, failed⟩
  · have kept : id = .text m.id := by
      cases spells with
      | text => rfl
      | octets decoded => exact absurd (fits ▸ .octets decoded) fair
    exact {
      carries := by
        intro m' made'
        cases made.symm.trans made'
        exact ⟨kept, fits⟩
      accepts := fun _ _ _ _ => ⟨m, made⟩
      refuses := fun none => absurd made (none m) }
  · exact {
      carries := by
        intro m made
        rw [failed] at made
        cases made
      accepts := by
        rintro text n rfl rfl
        exact absurd ⟨⟨text, .text text⟩, n, rfl⟩ refused
      refuses := fun _ => ⟨complaints, failed⟩ }

theorem Gathered.exists_of_octets {bs : List UInt8} {text : String} {n : Millis}
    (gathered : Gathered ⟨.octets bs, .int n⟩ properties version s operatingSystem (.text bentoVersion)
      (.text runtime)) (decoded : Text.decode bs = .ok text) :
    ∃ m, (exec (build ⟨.octets bs, .int n⟩ properties version) s).1 = .ok m ∧ m.id.val = text ∧
      m.lastUsedMillis = n := by
  rcases gathered.build_cases with ⟨m, made, spells, fits⟩ | ⟨refused, -⟩
  · exact ⟨m, made, spells.unique (.octets decoded), Subtype.ext (Value.int.inj fits).symm⟩
  · exact absurd ⟨⟨text, .octets decoded⟩, n, rfl⟩ refused

/-- Where all look-ups find texts, building goes by kind but for the misjudged values: of those a falsy id
is reported as missing, and octets make a message with the text that they hold. -/
theorem build_goesByKind {system release machine : String}
    (named : properties.found? s.world.platform osName = some (.text system))
    (released : properties.found? s.world.platform osVersion = some (.text release))
    (shaped : properties.found? s.world.platform osArch = some (.text machine))
    (runs : properties.found? s.world.platform javaVersion = some (.text runtime))
    (offered : version.offer s = .ok (.text bentoVersion)) (numbered : bentoVersion ≠ "")
    (timed : millis ≠ .null) :
    (GoesByKind id millis (exec (build ⟨id, millis⟩ properties version) s).1 ↔ ¬ Misjudged id millis) ∧
    (id.isFalsy = true →
      (exec (build ⟨id, millis⟩ properties version) s).1 = .error (.notSupplied .id)) ∧
    (∀ bs text (n : Millis), id = .octets bs → bs ≠ [] → Text.decode bs = .ok text → millis = .int n →
      ∃ m, (exec (build ⟨id, millis⟩ properties version) s).1 = .ok m ∧ m.id.val = text ∧
        m.lastUsedMillis = n) := by
  have missing : id.isFalsy = true →
      (exec (build ⟨id, millis⟩ properties version) s).1 = .error (.notSupplied .id) :=
    fun falsy => (Outcome.noId falsy).fst_exec_build
  have os : properties.osText? s.world.platform = some (system ++ " " ++ release ++ " " ++ machine) := by
    refine Properties.osText?_eq_some_iff.2 ⟨system, release, machine, ?_, ?_, ?_, rfl⟩
    · simp [Properties.text?, named, Value.text?]
    · simp [Properties.text?, released, Value.text?]
    · simp [Properties.text?, shaped, Value.text?]
  have gathered (truthy : id.isFalsy = false) : Gathered ⟨id, millis⟩ properties version s _
      (.text bentoVersion) (.text runtime) :=
    ⟨⟨truthy, timed⟩, os, offered, by simpa [Value.isFalsy] using numbered, runs⟩
  refine ⟨⟨?_, ?_⟩, missing, ?_⟩
  · intro judged misjudged
    cases falsy : id.isFalsy with
    | true =>
      obtain ⟨complaints, refused⟩ := judged.refuses (by simp [missing falsy])
      rw [missing falsy] at refused
      cases refused
    | false =>
      cases misjudged with
      | falsy falsy' =>
        rw [falsy'] at falsy
        cases falsy
      | octets decoded =>
        obtain ⟨m, made, -⟩ := (gathered falsy).exists_of_octets decoded
        exact absurd (judged.carries m made).1 (by simp)
  · intro fair
    have truthy : id.isFalsy = false := Bool.eq_false_iff.2 fun falsy => fair (.falsy falsy)
    exact (gathered truthy).goesByKind fair
  · rintro bs text n rfl some decoded rfl
    exact (gathered (by simpa [Value.isFalsy] using some)).exists_of_octets decoded

/-- A platform on which every look-up finds a text. -/
def linux : Properties :=
  .given [(osName, .text "Linux"), (osVersion, .text "5.10"), (osArch, .text "x86_64"),
    (javaVersion, .text "17")]

theorem found?_linux (platform : Platform) :
    linux.found? platform osName = some (.text "Linux") ∧
    linux.found? platform osVersion = some (.text "5.10") ∧
    linux.found? platform osArch = some (.text "x86_64") ∧
    linux.found? platform javaVersion = some (.text "17") := by
  simp [linux, Properties.found?, List.lookup_cons, osName, osVersion, osArch, javaVersion, Option.filter,
    Value.isFalsy]

/-- An id of three octets becomes a text in the message. -/
theorem build_goesByKind_octets :
    ¬ GoesByKind (.octets [0x61, 0x62, 0x63]) (.int 1)
      (exec (build ⟨.octets [0x61, 0x62, 0x63], .int 1⟩ linux (.value (.text "2.0.0"))) default).1 ∧
    ∃ m, (exec (build ⟨.octets [0x61, 0x62, 0x63], .int 1⟩ linux (.value (.text "2.0.0"))) default).1 =
        .ok m ∧ m.id.val = "abc" := by
  obtain ⟨named, released, shaped, runs⟩ := found?_linux default
  have decoded : Text.decode [0x61, 0x62, 0x63] = .ok "abc" := by rfl
  have one : minMillis ≤ 1 ∧ 1 ≤ maxMillis := by decide
  obtain ⟨byKind, -, decodes⟩ := @build_goesByKind linux (.value (.text "2.0.0")) default
    (.octets [0x61, 0x62, 0x63]) (.int 1) _ _ _ _ _ named released shaped runs rfl (by decide) (by simp)
  obtain ⟨m, made, kept, -⟩ := decodes _ _ ⟨1, one⟩ rfl (by simp) decoded rfl
  exact ⟨fun judged => byKind.1 judged (@Misjudged.octets _ _ ⟨1, one⟩ decoded), m, made, kept⟩

end Kinds

end Checkin.Builder
