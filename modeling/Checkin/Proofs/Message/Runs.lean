import Checkin.Proofs.Builder.Runs
import Checkin.Proofs.Message.Description

/-!
# Runs in which messages are made

Messages come from a builder, from named values and from JSON texts. Whichever way a message comes, it is what
was supplied and looked up; once it is there it stays as it is, whatever is done afterwards.
-/

namespace Checkin

/-! ## Valid messages -/

/-- What the upgrade server relies on. -/
structure Message.Valid (m : Message) : Prop where
  type : m.fieldValue .type = .text "checkversion"
  format : m.fieldValue .format = .text "bento-checkin-1.0.0"
  texts : ∀ field ∈ [Field.operatingSystem, .bentoVersion, .javaVersion, .id],
    ∃ s, m.fieldValue field = .text s ∧ s ≠ ""
  millis : ∃ n, m.fieldValue .lastUsedMillis = .int n ∧ -2 ^ 63 ≤ n ∧ n ≤ 2 ^ 63 - 1

theorem Message.valid (m : Message) : m.Valid where
  type := rfl
  format := rfl
  texts := by
    simp only [List.forall_mem_cons]
    exact ⟨⟨_, rfl, m.operatingSystem.property⟩, ⟨_, rfl, m.bentoVersion.property⟩,
      ⟨_, rfl, m.javaVersion.property⟩, ⟨_, rfl, m.id.property⟩, by simp⟩
  millis := ⟨_, rfl, m.lastUsedMillis.property⟩

/-! ## Steps -/

/-- A builder at its bench, and the messages made so far, the first one first. -/
structure Workshop where
  bench : Builder.Bench
  messages : List Message

namespace Workshop

/-- What may happen in a workshop. -/
inductive Step
  | builder (step : Builder.Step)
  | newBuilder
  | construct (args : Message.Arguments)
  | parse (s : String)
  | assign (i : Nat) (a : Message.Attribute)
  | remove (i : Nat) (name : String)
  /-- Anything else: files, variables, the platform or the clock change, or something is logged. -/
  | elsewhere (change : Session → Session)

/-- What a step answers. -/
inductive Answer
  | done
  | message (m : Message)
  | failure (f : Failure)
  | noMessage

namespace Answer

/-- The message that is returned. -/
def message? : Answer → Option Message
  | message m => some m
  | _ => none

end Answer

/-- A workshop in which nothing has been made yet. -/
def start (bench : Builder.Bench) : Workshop := ⟨bench, []⟩

/-- Returns a new message, or reports why there is none. -/
def offer (w : Workshop) : Except Failure Message → Workshop × Answer
  | .ok m => ({ w with messages := w.messages ++ [m] }, .message m)
  | .error f => (w, .failure f)

/-- Changes a message in its place, or reports why it is not changed. -/
def change (w : Workshop) (i : Nat) (f : Message → Except Report Message) : Workshop × Answer :=
  match w.messages[i]? with
  | none => (w, .noMessage)
  | some m =>
    match f m with
    | .ok m => ({ w with messages := w.messages.set i m }, .done)
    | .error report => (w, .failure (.invalid report))

/-- What a step makes of the workshop, and what it answers. -/
def step (w : Workshop) : Step → Workshop × Answer
  | .builder .build => { w with bench := w.bench.step .build }.offer w.bench.build.1
  | .builder step => ({ w with bench := w.bench.step step }, .done)
  | .newBuilder => ({ w with bench := { w.bench with builder := .new } }, .done)
  | .construct args => w.offer ((Message.ofArguments args).mapError .invalid)
  | .parse s => w.offer ((Message.read s).mapError .invalid)
  | .assign i a => w.change i (·.assign a)
  | .remove i name => w.change i (·.remove name)
  | .elsewhere change => ({ w with bench := { w.bench with session := change w.bench.session } }, .done)

/-- What steps make of the workshop, one after another. -/
def after (w : Workshop) (steps : List Step) : Workshop :=
  steps.foldl (fun w step => (w.step step).1) w

/-- The messages that steps return, one after another. -/
def returned (w : Workshop) : List Step → List Message
  | [] => []
  | step :: steps => (w.step step).2.message?.toList ++ (w.step step).1.returned steps

/-! ## What a step returns -/

variable {w : Workshop}

/-- Where the message that a step returns comes from. -/
inductive Gives (w : Workshop) : Step → Message → Prop
  | build {m : Message} :
      Builder.Outcome w.bench.builder w.bench.properties w.bench.version w.bench.session (.ok m) →
      Gives w (.builder .build) m
  | construct {args : Message.Arguments} {m : Message} : Message.Describes args m → Gives w (.construct args) m
  | parse {s : String} {members : List (String × Json.Value)} {m : Message} :
      Json.read? s = some (.object members) → Message.Describes (Json.Value.plainMembers members) m →
      Gives w (.parse s) m

theorem offer_eq_message_iff {result : Except Failure Message} {m : Message} :
    (w.offer result).2 = .message m ↔ result = .ok m := by
  cases result <;> simp [offer]

theorem read_eq_ok_iff {s : String} {m : Message} :
    Message.read s = .ok m ↔ ∃ members, Json.read? s = some (.object members) ∧
      Message.Describes (Json.Value.plainMembers members) m := by
  have made {members : List (String × Json.Value)} (accepted : Json.read? s = some (.object members)) :
      Message.read s = .ok m ↔ Message.Describes (Json.Value.plainMembers members) m := by
    rw [← Message.ofArguments_eq_ok_iff_describes]
    refine Message.read_eq_ok_iff_of_last accepted fun name => ?_
    rw [Json.Value.plainMembers_eq_map, Entries.last?_map]
  constructor
  · intro read
    obtain ⟨members, accepted⟩ := Message.exists_object_of_read read
    exact ⟨members, accepted, (made accepted).1 read⟩
  · rintro ⟨members, accepted, describes⟩
    exact (made accepted).2 describes

/-- A step returns a message exactly if there is one where it takes it from. -/
theorem step_eq_message_iff {step : Step} {m : Message} : (w.step step).2 = .message m ↔ Gives w step m := by
  have changes : ∀ i f, (w.change i f).2 ≠ .message m := by
    intro i f
    unfold change
    split
    · simp
    · split <;> simp
  cases step with
  | builder step =>
    cases step with
    | build =>
      refine offer_eq_message_iff.trans ((Builder.build_eq_iff_outcome ..).trans ⟨.build, fun gives => ?_⟩)
      cases gives with
      | build outcome => exact outcome
    | _ => exact ⟨nofun, nofun⟩
  | construct args =>
    refine offer_eq_message_iff.trans (mapError_eq_ok_iff.trans ?_)
    refine Message.ofArguments_eq_ok_iff_describes.trans ⟨.construct, fun gives => ?_⟩
    cases gives with
    | construct describes => exact describes
  | parse s =>
    refine offer_eq_message_iff.trans (mapError_eq_ok_iff.trans (read_eq_ok_iff.trans ⟨?_, ?_⟩))
    · rintro ⟨members, object, describes⟩
      exact .parse object describes
    · intro gives
      cases gives with
      | parse object describes => exact ⟨_, object, describes⟩
  | assign i a => exact ⟨fun same => absurd same (changes _ _), nofun⟩
  | remove i name => exact ⟨fun same => absurd same (changes _ _), nofun⟩
  | newBuilder => exact ⟨nofun, nofun⟩
  | elsewhere change => exact ⟨nofun, nofun⟩

/-! ## What becomes of messages -/

/-- An attribute that is taken leaves the message as it is. -/
theorem eq_of_assign {m m' : Message} {a : Message.Attribute} (taken : m.assign a = .ok m') :
    m' = m := by
  unfold Message.assign at taken
  split at taken
  · cases taken
    rfl
  · cases taken

/-- Where a message is left as it is, all are. -/
theorem change_of_kept {i : Nat} {m : Message} {f : Message → Except Report Message}
    (here : w.messages[i]? = some m) (kept : f m = .ok m) : w.change i f = (w, .done) := by
  unfold change
  rw [here]
  dsimp only
  rw [kept]
  obtain ⟨short, rfl⟩ := List.getElem?_eq_some_iff.1 here
  simp

/-- A step adds the message that it returns, and leaves those before it. -/
theorem messages_step (w : Workshop) (step : Step) :
    (w.step step).1.messages = w.messages ++ (w.step step).2.message?.toList := by
  have offered : ∀ (w : Workshop) result,
      (w.offer result).1.messages = w.messages ++ (w.offer result).2.message?.toList := by
    intro w result
    cases result <;> simp [offer, Answer.message?]
  have unchanged : ∀ i f, (∀ m m', f m = .ok m' → m' = m) →
      (w.change i f).1.messages = w.messages ++ (w.change i f).2.message?.toList := by
    intro i f keeps
    cases here : w.messages[i]? with
    | none => simp [change, here, Answer.message?]
    | some m =>
      cases changed : f m with
      | ok m' =>
        obtain rfl := keeps m m' changed
        rw [change_of_kept here changed]
        exact (List.append_nil _).symm
      | error report => simp [change, here, changed, Answer.message?]
  cases step with
  | builder step =>
    cases step with
    | build => exact offered _ _
    | _ => exact (List.append_nil _).symm
  | construct args => exact offered _ _
  | parse s => exact offered _ _
  | assign i a => exact unchanged _ _ fun _ _ => eq_of_assign
  | remove i name => exact unchanged _ _ fun _ _ => nofun
  | newBuilder => exact (List.append_nil _).symm
  | elsewhere change => exact (List.append_nil _).symm

/-- Steps add the messages that they return, one after another. -/
theorem messages_after (w : Workshop) (steps : List Step) :
    (w.after steps).messages = w.messages ++ w.returned steps := by
  induction steps generalizing w with
  | nil => exact (List.append_nil _).symm
  | cons step steps ih =>
    have rest := ih (w.step step).1
    rw [messages_step, List.append_assoc] at rest
    exact rest

/-- A message that was returned comes from one of the steps, as things were before that. -/
theorem gives_of_mem_returned {steps : List Step} {m : Message} (among : m ∈ w.returned steps) :
    ∃ before step rest, steps = before ++ step :: rest ∧ Gives (w.after before) step m := by
  induction steps generalizing w with
  | nil => cases among
  | cons step steps ih =>
    rcases List.mem_append.1 among with here | later
    · have answered : (w.step step).2 = .message m := by
        cases answer : (w.step step).2 with
        | message other =>
          rw [answer] at here
          rw [show m = other by simpa [Answer.message?] using here]
        | _ =>
          rw [answer] at here
          cases here
      exact ⟨[], step, steps, rfl, step_eq_message_iff.1 answered⟩
    · obtain ⟨before, other, rest, rfl, gives⟩ := ih later
      exact ⟨step :: before, other, rest, rfl, gives⟩

/-- Through any run, the messages there are are those that were returned. Each of them is valid and comes from what a
step was supplied with and found, and it stays as it is through any later run. No attribute can be assigned to it
unless the name begins with an underscore, and then nothing changes; none can be removed. A step that fails adds
no message. -/
theorem messages_of_run (bench : Builder.Bench) (steps later : List Step) :
    let w := (start bench).after steps
    let w' := w.after later
    w.messages = (start bench).returned steps ∧
    (∀ m ∈ w.messages, m.Valid ∧
      ∃ before step rest, steps = before ++ step :: rest ∧ Gives ((start bench).after before) step m) ∧
    (∀ (i : Nat) (m : Message), w.messages[i]? = some m → w'.messages[i]? = some m ∧
      (∀ a : Message.Attribute, a.isPrivate = false →
        w'.step (.assign i a) = (w', .failure (.invalid (.fields [⟨a.name, .frozen⟩])))) ∧
      (∀ a : Message.Attribute, a.isPrivate = true →
        w'.step (.assign i a) = (w', .done)) ∧
      ∀ name, w'.step (.remove i name) = (w', .failure (.invalid (.fields [⟨name, .frozen⟩])))) ∧
    ∀ step f, (w'.step step).2 = .failure f → (w'.step step).1.messages = w'.messages := by
  intro w w'
  have all : w.messages = (start bench).returned steps := messages_after (start bench) steps
  refine ⟨all, ?_, ?_, ?_⟩
  · intro m among
    exact ⟨m.valid, gives_of_mem_returned (all ▸ among)⟩
  · intro i m here
    have still : w'.messages[i]? = some m := by
      have short := (List.getElem?_eq_some_iff.1 here).1
      rw [messages_after, List.getElem?_append_left short, here]
    refine ⟨still, fun a plain => ?_, fun a beside => ?_, fun name => ?_⟩
    · simp [step, change, still, Message.assign, plain]
    · exact change_of_kept still (by simp [Message.assign, beside])
    · simp [step, change, still, Message.remove]
  · intro step f failed
    rw [messages_step, failed]
    exact List.append_nil _

/-- A message on `Builder.linux`. -/
def linuxMessage (id : NonemptyText) : Message where
  operatingSystem := ⟨"Linux 5.10 x86_64", by decide⟩
  bentoVersion := ⟨"2.0", by decide⟩
  javaVersion := ⟨"17", by decide⟩
  lastUsedMillis := ⟨7, by decide⟩
  id := id

/-- An attribute with an underscore before its name. -/
def besideAttribute : Message.Attribute := ⟨"_x", .int 1, by decide⟩

/-- Not every assignment to a message of a run fails. -/
theorem not_assignments_fail :
    ¬∀ (bench : Builder.Bench) (steps : List Step) (i : Nat) (m : Message) (a : Message.Attribute),
      ((start bench).after steps).messages[i]? = some m →
        ∃ f, (((start bench).after steps).step (.assign i a)).2 = .failure f := by
  intro fails
  let bench : Builder.Bench := .start default .live .current
  let m := linuxMessage ⟨"b", by decide⟩
  have made : ((start bench).after [.construct m.arguments]).messages = [m] := by
    simp [after, step, offer, start, m.ofArguments_arguments]
  obtain ⟨f, failed⟩ := fails bench [.construct m.arguments] 0 m besideAttribute (by rw [made]; rfl)
  have taken : m.assign besideAttribute = .ok m := rfl
  simp [step, change, made, taken] at failed

end Workshop

end Checkin
