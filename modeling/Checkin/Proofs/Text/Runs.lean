/-!
# Readers that go from left to right

A reader that goes through a text character by character, with a state that says what is open, treats a
piece of the text in the same way whatever follows it. `Runs` says what it does to a piece; pieces are put
one after another by `Runs.append`.
-/

namespace Checkin.Text

variable {σ τ : Type} {read : σ → List Char → Option (List τ)}

/-- In front of any rest, some characters take a reader from one state to another and give some tokens. -/
def Runs (read : σ → List Char → Option (List τ)) (state : σ) (cs : List Char) (state' : σ)
    (tokens : List τ) : Prop :=
  ∀ rest, read state (cs ++ rest) = (tokens ++ ·) <$> read state' rest

theorem Runs.nil (state : σ) : Runs read state [] state [] := by
  intro rest
  rw [List.nil_append]
  cases read state rest <;> rfl

theorem Runs.append {state middle state' : σ} {cs ds : List Char} {tokens tokens' : List τ}
    (first : Runs read state cs middle tokens) (second : Runs read middle ds state' tokens') :
    Runs read state (cs ++ ds) state' (tokens ++ tokens') := by
  intro rest
  rw [List.append_assoc, first, second]
  cases read state' rest <;> simp

/-- Characters that give no token only change the state. -/
theorem Runs.append_silent {state middle state' : σ} {cs ds : List Char} {tokens : List τ}
    (first : Runs read state cs middle []) (second : Runs read middle ds state' tokens) :
    Runs read state (cs ++ ds) state' tokens :=
  first.append second

/-- A whole text has the tokens of its characters and those that the end of the text gives. -/
theorem Runs.read_eq {state state' : σ} {cs : List Char} {tokens ending : List τ}
    (runs : Runs read state cs state' tokens) (finish : read state' [] = some ending) :
    read state cs = some (tokens ++ ending) := by
  have all := runs []
  rwa [List.append_nil, finish] at all

end Checkin.Text
