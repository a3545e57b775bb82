import Mathlib.Data.Set.Basic
import Checkin.Proofs.Agreement

/-!
# Actions that use some cells only

What sessions hold may be taken apart into cells. An action uses some cells only if it does the same whatever
is in the others, and leaves them as they are (`UsesOnly`). That is one statement about two sessions of which
the second holds anything in the other cells. Two actions without a cell in common may change places.
-/

namespace Checkin.Action

variable {Cell Content : Type} {content : Session → Cell → Content} {property : Session → Prop}
  {cells cells' others : Set Cell} {given : Cell → Content} {α β : Type} {a : Action α} {b : Action β}
  {s s' between : Session}

/-- Two sessions with a property hold the same but for some cells, of which it is given what the second one
holds in them. -/
structure Differ (property : Session → Prop) (content : Session → Cell → Content) (others : Set Cell)
    (given : Cell → Content) (s s' : Session) : Prop where
  left : property s
  right : property s'
  outside : ∀ c ∉ others, content s' c = content s c
  inside : ∀ c ∈ others, content s' c = given c

/-- In sessions with a property an action does the same whatever is in cells that it does not use, and leaves
them as they are. -/
def UsesOnly (property : Session → Prop) (content : Session → Cell → Content) (cells : Set Cell)
    (a : Action α) : Prop :=
  ∀ others given, (∀ c ∈ others, c ∉ cells) → Agrees (Differ property content others given) a a

/-- What an action does not use is as it was. -/
theorem UsesOnly.frame (uses : UsesOnly property content cells a) (holds : property s) :
    property (exec a s).2 ∧ ∀ c ∉ cells, content (exec a s).2 c = content s c := by
  have differ : Differ property content {c | c ∉ cells} (content s) s s :=
    ⟨holds, holds, fun _ _ => rfl, fun _ _ => rfl⟩
  obtain ⟨-, left⟩ := uses _ _ (fun _ unused => unused) s s differ
  exact ⟨left.left, left.inside⟩

/-- In a session that differs only in cells which it does not use, an action does the same. -/
theorem UsesOnly.elsewhere (uses : UsesOnly property content cells a) (holds : property s)
    (holds' : property s') (unused : ∀ c ∈ others, c ∉ cells)
    (same : ∀ c ∉ others, content s' c = content s c) :
    (exec a s').1 = (exec a s).1 ∧
      Differ property content others (content s') (exec a s).2 (exec a s').2 := by
  obtain ⟨result, left⟩ := uses others (content s') unused s s' ⟨holds, holds', same, fun _ _ => rfl⟩
  exact ⟨result.symm, left⟩

/-- Actions without a cell in common, done one after the other, can be done in the other order. They give the
same then, and what is held afterwards is the same. -/
theorem UsesOnly.comm (uses : UsesOnly property content cells a)
    (uses' : UsesOnly property content cells' b) (disjoint : ∀ c ∈ cells, c ∉ cells') (holds : property s)
    {x : α} {y : β} (first : exec a s = (.ok x, between)) (second : exec b between = (.ok y, s')) :
    ∃ between' s'', exec b s = (.ok y, between') ∧ exec a between' = (.ok x, s'') ∧
      content s'' = content s' := by
  obtain ⟨holdsBetween, frame⟩ := uses.frame holds
  obtain ⟨holdsBetween', frame'⟩ := uses'.frame holds
  rw [first] at holdsBetween frame
  -- The second action does the same before the first one, and then so does the first one after it.
  obtain ⟨sameSecond, left⟩ := uses'.elsewhere holds holdsBetween disjoint frame
  obtain ⟨sameFirst, left'⟩ := uses.elsewhere holds holdsBetween'
    (fun c used' used => disjoint c used used') frame'
  rw [second] at sameSecond left
  rw [first] at sameFirst left'
  refine ⟨(exec b s).2, (exec a (exec b s).2).2, Prod.ext sameSecond.symm rfl, Prod.ext sameFirst rfl, ?_⟩
  funext c
  by_cases used' : c ∈ cells'
  · have unused : c ∉ cells := fun used => disjoint c used used'
    rw [left'.inside c used', left.outside c unused]
  · rw [left'.outside c used']
    by_cases used : c ∈ cells
    · exact (left.inside c used).symm
    · exact (frame c used).trans ((frame' c used').symm.trans (left.outside c used).symm)

end Checkin.Action
