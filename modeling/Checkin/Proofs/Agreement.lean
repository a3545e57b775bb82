import Checkin.Proofs.Action

/-!
# Actions that agree

Two actions agree over a relation between sessions if in related sessions they give the same, or fail alike,
and leave related sessions. What agrees step by step agrees as a whole. A step may also take one relation to
another, of which less is known afterwards.
-/

namespace Checkin.Action

variable {α β : Type} {related before between after : Session → Session → Prop}

/-- In sessions of one relation two actions give the same and leave sessions of another one. -/
def Carries (before after : Session → Session → Prop) (a b : Action α) : Prop :=
  ∀ s s', before s s' → (exec a s).1 = (exec b s').1 ∧ after (exec a s).2 (exec b s').2

/-- In related sessions two actions give the same and leave related sessions. -/
def Agrees (related : Session → Session → Prop) (a b : Action α) : Prop :=
  ∀ s s', related s s' → (exec a s).1 = (exec b s').1 ∧ related (exec a s).2 (exec b s').2

theorem agrees_pure (x : α) : Agrees related (pure x) (pure x) :=
  fun _ _ alike => ⟨rfl, alike⟩

theorem agrees_throw (failure : Failure) : Agrees related (throw failure : Action α) (throw failure) :=
  fun _ _ alike => ⟨rfl, alike⟩

theorem agrees_ofExcept (result : Except Failure α) :
    Agrees related (ofExcept result) (ofExcept result) := by
  intro s s' alike
  rw [exec_ofExcept, exec_ofExcept]
  exact ⟨rfl, alike⟩

theorem agrees_onPath (p : Path) (result : Except Fault α) :
    Agrees related (onPath p result) (onPath p result) := by
  intro s s' alike
  rw [exec_onPath, exec_onPath]
  exact ⟨rfl, alike⟩

theorem agrees_modify {f g : Session → Session} (step : ∀ s s', related s s' → related (f s) (g s')) :
    Agrees related (modify f) (modify g) :=
  fun s s' alike => ⟨rfl, step s s' alike⟩

theorem Carries.weaken {a b : Action α} (carries : Carries before between a b)
    (weaker : ∀ s s', between s s' → after s s') : Carries before after a b := by
  intro s s' alike
  obtain ⟨same, left⟩ := carries s s' alike
  exact ⟨same, weaker _ _ left⟩

/-- One step after another; where the first one fails, less is known afterwards than would be possible. -/
theorem Carries.bind {a b : Action α} {f g : α → Action β} (first : Carries before between a b)
    (next : ∀ x, Carries between after (f x) (g x)) (weaker : ∀ s s', between s s' → after s s') :
    Carries before after (a >>= f) (b >>= g) := by
  intro s s' alike
  obtain ⟨same, left⟩ := first s s' alike
  rw [exec_bind, exec_bind]
  cases ran : exec a s with
  | mk result t =>
    cases ran' : exec b s' with
    | mk result' t' =>
      rw [ran, ran'] at same left
      obtain rfl : result = result' := same
      cases result with
      | ok x => exact next x t t' left
      | error failure => exact ⟨rfl, weaker t t' left⟩

theorem Carries.tryCatch {a b : Action α} {handler handler' : Failure → Action α}
    (tried : Carries before after a b)
    (caught : ∀ failure, Agrees after (handler failure) (handler' failure)) :
    Carries before after (tryCatch a handler) (tryCatch b handler') := by
  intro s s' alike
  obtain ⟨same, left⟩ := tried s s' alike
  rw [exec_tryCatch, exec_tryCatch]
  cases ran : exec a s with
  | mk result t =>
    cases ran' : exec b s' with
    | mk result' t' =>
      rw [ran, ran'] at same left
      obtain rfl : result = result' := same
      cases result with
      | ok x => exact ⟨rfl, left⟩
      | error failure => exact caught failure t t' left

theorem Carries.map (f : α → β) {a b : Action α} (carries : Carries before after a b) :
    Carries before after (f <$> a) (f <$> b) := by
  rw [← bind_pure_comp, ← bind_pure_comp]
  exact carries.bind (fun _ => agrees_pure _) fun _ _ => id

theorem Carries.discard {a b : Action α} (carries : Carries before after a b) :
    Carries before after (discard a) (discard b) :=
  carries.map _

theorem Agrees.bind {a b : Action α} {f g : α → Action β} (first : Agrees related a b)
    (next : ∀ x, Agrees related (f x) (g x)) : Agrees related (a >>= f) (b >>= g) :=
  Carries.bind first next fun _ _ => id

theorem Agrees.map (f : α → β) {a b : Action α} (agrees : Agrees related a b) :
    Agrees related (f <$> a) (f <$> b) :=
  Carries.map f agrees

theorem Agrees.forM {f g : β → Action PUnit} (each : ∀ x, Agrees related (f x) (g x)) (xs : List β) :
    Agrees related (xs.forM f) (xs.forM g) := by
  induction xs with
  | nil => exact agrees_pure _
  | cons x xs ih => exact (each x).bind fun _ => ih

/-- What is done with the world carries a relation to another one if it does in the worlds of related
sessions. -/
theorem carries_world_bind {f g : World → Action α}
    (next : ∀ s s', before s s' → Carries before after (f s.world) (g s'.world)) :
    Carries before after (world >>= f) (world >>= g) := by
  intro s s' alike
  rw [exec_bind_of_ok (exec_world s), exec_bind_of_ok (exec_world s')]
  exact next s s' alike s s' alike

/-- What is done with the world agrees if it does in the worlds of related sessions. -/
theorem agrees_world_bind {f g : World → Action α}
    (next : ∀ s s', related s s' → Agrees related (f s.world) (g s'.world)) :
    Agrees related (world >>= f) (world >>= g) :=
  carries_world_bind next

/-- Log records agree where the same ones are shown, at the same time, and writing one keeps the relation.
-/
theorem agrees_logComposed {level : Level}
    (shown : ∀ s s', related s s' → s.sink.shows level = s'.sink.shows level)
    (clock : ∀ s s', related s s' → s.world.now = s'.world.now)
    (writes : ∀ s s' r, related s s' → related (s.write r) (s'.write r))
    (logger : String) (message : Except Failure String) :
    Agrees related (logComposed level logger message) (logComposed level logger message) := by
  intro s s' alike
  rw [exec_logComposed, exec_logComposed, shown s s' alike, clock s s' alike]
  split
  · cases s'.world.now.wholePart with
    | error failure => exact ⟨rfl, alike⟩
    | ok second =>
      cases message with
      | error failure => exact ⟨rfl, alike⟩
      | ok text => exact ⟨rfl, writes s s' _ alike⟩
  · exact ⟨rfl, alike⟩

end Checkin.Action
