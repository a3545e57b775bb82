import Checkin.Json.Reader

/-!
# The grammar of JSON

A `Tree` is a JSON text without its white space: an object has all its members in it, in the order in which
they are written, repeated names included. The reader is a machine that goes from token to token; a text is
read exactly if its tokens are those of a tree that is not nested too deep, and then as the tree's value
(`read?_of_tokens`, `exists_tree_of_read?`).
-/

namespace Checkin.Json

/-- A JSON text as it is written. -/
inductive Tree
  | text (s : String)
  | word (v : Value)
  | list (items : List Tree)
  | object (members : List (String × Tree))

namespace Tree

mutual

/-- The tokens of a text. -/
def tokens : Tree → List Token
  | .text s => [.text s]
  | .word v => [.value v]
  | .list [] => [.openList, .closeList]
  | .list (item :: items) => .openList :: (item.tokens ++ moreItems items)
  | .object [] => [.openObject, .closeObject]
  | .object ((name, member) :: members) =>
    .openObject :: .text name :: .colon :: (member.tokens ++ moreMembers members)

/-- The tokens of a list after its first item. -/
def moreItems : List Tree → List Token
  | [] => [.closeList]
  | item :: items => .comma :: (item.tokens ++ moreItems items)

/-- The tokens of an object after its first member. -/
def moreMembers : List (String × Tree) → List Token
  | [] => [.closeObject]
  | (name, member) :: members => .comma :: .text name :: .colon :: (member.tokens ++ moreMembers members)

end

mutual

/-- The value that a text is written for. -/
def value : Tree → Value
  | .text s => .text s
  | .word v => v
  | .list items => .list (values items)
  | .object members => .object (namedValues members)

/-- The values of items. -/
def values : List Tree → List Value
  | [] => []
  | item :: items => item.value :: values items

/-- The members of an object with their values, as they are written. -/
def namedValues : List (String × Tree) → List (String × Value)
  | [] => []
  | (name, member) :: members => (name, member.value) :: namedValues members

end

mutual

/-- Whether a text may stand inside that many lists and objects. -/
def fits (depth : Nat) : Tree → Bool
  | .text _ => true
  | .word _ => true
  | .list [] => true
  | .list (item :: items) => depth < maxDepth && (item.fits (depth + 1) && itemsFit (depth + 1) items)
  | .object [] => true
  | .object ((_, member) :: members) =>
    depth < maxDepth && (member.fits (depth + 1) && membersFit (depth + 1) members)

/-- Whether all items may stand there. -/
def itemsFit (depth : Nat) : List Tree → Bool
  | [] => true
  | item :: items => item.fits depth && itemsFit depth items

/-- Whether all members may stand there. -/
def membersFit (depth : Nat) : List (String × Tree) → Bool
  | [] => true
  | (_, member) :: members => member.fits depth && membersFit depth members

end

end Tree

open Checkin.Json.Tree

/-! ## Texts are read -/

/-- Every text begins with a token that ends nothing. -/
theorem exists_tokens_eq_cons (t : Tree) :
    ∃ token rest, t.tokens = token :: rest ∧ token ≠ .closeList := by
  match t with
  | .text _ | .word _ | .list [] | .list (_ :: _) | .object [] | .object (_ :: _) =>
    exact ⟨_, _, rfl, by simp⟩

/-- What may come first in a list, apart from its end, is what may come as an item anyway. -/
theorem step_firstItem {token : Token} (other : token ≠ .closeList) (stack : List Open) :
    step (stack, .firstItem) token =
      if stack.length ≤ maxDepth then step (stack, .value) token else none := by
  have first : step (stack, .firstItem) token =
      if maxDepth < stack.length then none else step (stack, .value) token := by
    cases token <;> first | rfl | exact absurd rfl other
  grind

/-- What may come first in an object, apart from its end, is what may come as a member anyway. -/
theorem step_firstName {token : Token} (other : token ≠ .closeObject) (stack : List Open) :
    step (stack, .firstName) token =
      if stack.length ≤ maxDepth then step (stack, .name) token else none := by
  have first : step (stack, .firstName) token =
      if maxDepth < stack.length then none else step (stack, .name) token := by
    cases token <;> first | rfl | exact absurd rfl other
  grind

theorem foldlM_firstItem (t : Tree) (stack : List Open) :
    t.tokens.foldlM step (stack, .firstItem) =
      if stack.length ≤ maxDepth then t.tokens.foldlM step (stack, .value) else none := by
  obtain ⟨token, tokens, equal, other⟩ := exists_tokens_eq_cons t
  rw [equal, List.foldlM_cons, List.foldlM_cons, step_firstItem other]
  split <;> rfl

theorem foldlM_firstName (name : String) (tokens : List Token) (stack : List Open) :
    (.text name :: tokens).foldlM step (stack, .firstName) =
      if stack.length ≤ maxDepth then (.text name :: tokens).foldlM step (stack, .name) else none := by
  rw [List.foldlM_cons, List.foldlM_cons, step_firstName (by simp)]
  split <;> rfl

/-- A member is added to the innermost object. -/
theorem foldlM_named {t : Tree} {stack : List Open} (done : List (String × Value)) (name : String)
    (read : t.tokens.foldlM step (.member done name :: stack, .value) =
      if t.fits (stack.length + 1) then complete (.member done name :: stack) t.value else none) :
    (.text name :: .colon :: t.tokens).foldlM step (.object done :: stack, .name) =
      if t.fits (stack.length + 1) then some (.object ((name, t.value) :: done) :: stack, .more)
      else none :=
  read

mutual

/-- The tokens of a text are read as its value, unless it is nested too deep. -/
theorem foldlM_tokens (t : Tree) (stack : List Open) :
    t.tokens.foldlM step (stack, .value) =
      if t.fits stack.length then complete stack t.value else none := by
  match t with
  | .text s => simp [tokens, fits, value, step, beginValue]
  | .word v => simp [tokens, fits, value, step, beginValue]
  | .list [] => simp [tokens, fits, value, values, step, beginValue, endInnermost]
  | .list (item :: items) =>
    have opened : step (stack, .value) .openList = some (.list [] :: stack, .firstItem) := rfl
    have inside : complete (.list [] :: stack) item.value =
        some (.list [item.value] :: stack, .more) := rfl
    have more := foldlM_moreItems items stack [item.value]
    simp only [tokens, List.foldlM_cons, opened, Option.bind_eq_bind, Option.bind_some,
      List.foldlM_append, foldlM_firstItem, foldlM_tokens item, inside, fits, value, values,
      Bool.and_eq_true, decide_eq_true_eq, List.length_cons]
    grind
  | .object [] => simp [tokens, fits, value, namedValues, step, beginValue, endInnermost]
  | .object ((name, member) :: members) =>
    have opened : step (stack, .value) .openObject = some (.object [] :: stack, .firstName) := rfl
    have first := foldlM_named [] name (foldlM_tokens member (.member [] name :: stack))
    have more := foldlM_moreMembers members stack [(name, member.value)]
    rw [tokens, List.foldlM_cons, opened, Option.bind_eq_bind, Option.bind_some, foldlM_firstName,
      ← List.cons_append, ← List.cons_append, List.foldlM_append, first]
    simp only [fits, value, namedValues, Bool.and_eq_true, decide_eq_true_eq, List.length_cons,
      Option.bind_eq_bind]
    grind

/-- The tokens after an item are read as the items they are written for. -/
theorem foldlM_moreItems (items : List Tree) (stack : List Open) (done : List Value) :
    (moreItems items).foldlM step (.list done :: stack, .more) =
      if itemsFit (stack.length + 1) items then complete stack (.list (done.reverse ++ values items))
      else none := by
  match items with
  | [] => simp [moreItems, itemsFit, values, step, endInnermost]
  | item :: items =>
    have comma : step (.list done :: stack, .more) .comma = some (.list done :: stack, .value) := rfl
    have inside : complete (.list done :: stack) item.value =
        some (.list (item.value :: done) :: stack, .more) := rfl
    have more := foldlM_moreItems items stack (item.value :: done)
    simp only [moreItems, List.foldlM_cons, comma, Option.bind_eq_bind, Option.bind_some,
      List.foldlM_append, foldlM_tokens item, inside, itemsFit, values, Bool.and_eq_true,
      List.length_cons]
    grind

/-- The tokens after a member are read as the members they are written for. -/
theorem foldlM_moreMembers (members : List (String × Tree)) (stack : List Open)
    (done : List (String × Value)) :
    (moreMembers members).foldlM step (.object done :: stack, .more) =
      if membersFit (stack.length + 1) members then
        complete stack (.object (done.reverse ++ namedValues members))
      else none := by
  match members with
  | [] => simp [moreMembers, membersFit, namedValues, step, endInnermost]
  | (name, member) :: members =>
    have comma : step (.object done :: stack, .more) .comma = some (.object done :: stack, .name) := rfl
    have next := foldlM_named done name (foldlM_tokens member (.member done name :: stack))
    have more := foldlM_moreMembers members stack ((name, member.value) :: done)
    rw [moreMembers, List.foldlM_cons, comma, Option.bind_eq_bind, Option.bind_some,
      ← List.cons_append, ← List.cons_append, List.foldlM_append, next]
    simp only [membersFit, namedValues, Bool.and_eq_true, Option.bind_eq_bind]
    grind

end

/-- A text with the tokens of a tree is read as the value of the tree, unless that is nested too deep. -/
theorem read?_of_tokens {s : String} {t : Tree} (scanned : scan s = some t.tokens) :
    read? s = if t.fits 0 then some t.value else none := by
  have folded : t.tokens.foldlM step State.start = if t.fits 0 then some ([], .nothing t.value) else none :=
    foldlM_tokens t []
  simp only [read?, scanned, Option.bind_eq_bind, Option.bind_some, folded]
  cases t.fits 0 <;> rfl

/-! ## What is read is a text -/

/-- From a state, tokens lead to a whole value. -/
def Ends (state : State) (tokens : List Token) : Prop :=
  ∃ v, tokens.foldlM step state = some ([], .nothing v)

theorem Ends.eq_nil {v : Value} {tokens : List Token} (ends : Ends ([], .nothing v) tokens) :
    tokens = [] := by
  obtain ⟨w, read⟩ := ends
  cases tokens with
  | nil => rfl
  | cons token tokens => cases read

/-- Unless a whole value is read already, there is a next token. -/
theorem Ends.exists_cons {state : State} {tokens : List Token} (ends : Ends state tokens)
    (unfinished : ∀ v, state.2 ≠ .nothing v) :
    ∃ token rest next, tokens = token :: rest ∧ step state token = some next ∧ Ends next rest := by
  obtain ⟨v, read⟩ := ends
  cases tokens with
  | nil =>
    cases read
    exact absurd rfl (unfinished v)
  | cons token rest =>
    rw [List.foldlM_cons, Option.bind_eq_bind, Option.bind_eq_some_iff] at read
    obtain ⟨next, stepped, read⟩ := read
    exact ⟨token, rest, next, rfl, stepped, v, read⟩

theorem Ends.of_step {state next : State} {token : Token} {rest : List Token} (ends : Ends next rest)
    (stepped : step state token = some next) : Ends state (token :: rest) := by
  obtain ⟨v, read⟩ := ends
  exact ⟨v, by rw [List.foldlM_cons, stepped]; exact read⟩

/-- Tokens that lead to a whole value begin with what the state is waiting for: a value, or what is left of
a list or an object. -/
structure Splits (tokens : List Token) : Prop where
  value : ∀ stack, Ends (stack, .value) tokens →
    ∃ (t : Tree) (rest : List Token) (next : State),
      tokens = t.tokens ++ rest ∧ complete stack t.value = some next ∧ Ends next rest
  items : ∀ stack done, Ends (.list done :: stack, .more) tokens →
    ∃ (items : List Tree) (rest : List Token) (next : State),
      tokens = moreItems items ++ rest ∧
      complete stack (.list (done.reverse ++ values items)) = some next ∧ Ends next rest
  members : ∀ stack done, Ends (.object done :: stack, .more) tokens →
    ∃ (members : List (String × Tree)) (rest : List Token) (next : State),
      tokens = moreMembers members ++ rest ∧
      complete stack (.object (done.reverse ++ namedValues members)) = some next ∧
      Ends next rest

section Splitting

/-! What follows the first token is shorter, so one induction on the number of tokens carries all three
cases. -/

variable {tokens : List Token} {stack : List Open} {done : List (String × Value)}

theorem splits_items (shorter : ∀ rest : List Token, rest.length < tokens.length → Splits rest)
    {done : List Value} (ends : Ends (.list done :: stack, .more) tokens) :
    ∃ (items : List Tree) (rest : List Token) (next : State),
      tokens = moreItems items ++ rest ∧
      complete stack (.list (done.reverse ++ values items)) = some next ∧ Ends next rest := by
  obtain ⟨token, rest, next, rfl, stepped, after⟩ := ends.exists_cons (by simp)
  cases token with
  | comma =>
    cases stepped
    obtain ⟨item, rest, next, rfl, inside, after⟩ := (shorter rest (by simp)).value _ after
    cases inside
    obtain ⟨items, rest, next, rfl, completed, after⟩ := (shorter rest (by grind)).items _ _ after
    refine ⟨item :: items, rest, next, by simp [moreItems], ?_, after⟩
    simpa [values] using completed
  | closeList =>
    have completed : complete stack (.list done.reverse) = some next := stepped
    exact ⟨[], rest, next, rfl, by simpa [values] using completed, after⟩
  | _ => cases stepped

/-- A member is a name, a colon and a value. -/
theorem exists_named (shorter : ∀ rest : List Token, rest.length < tokens.length → Splits rest)
    (ends : Ends (.object done :: stack, .name) tokens) :
    ∃ (name : String) (t : Tree) (rest : List Token),
      tokens = .text name :: .colon :: (t.tokens ++ rest) ∧
      Ends (.object ((name, t.value) :: done) :: stack, .more) rest := by
  obtain ⟨token, rest, next, rfl, stepped, after⟩ := ends.exists_cons (by simp)
  cases token with
  | text name =>
    cases stepped
    obtain ⟨token, rest, next, rfl, stepped, after⟩ := after.exists_cons (by simp)
    cases token with
    | colon =>
      cases stepped
      obtain ⟨t, rest, next, rfl, completed, after⟩ := (shorter rest (by grind)).value _ after
      cases completed
      exact ⟨name, t, rest, rfl, after⟩
    | _ => cases stepped
  | _ => cases stepped

theorem splits_members (shorter : ∀ rest : List Token, rest.length < tokens.length → Splits rest)
    (ends : Ends (.object done :: stack, .more) tokens) :
    ∃ (members : List (String × Tree)) (rest : List Token) (next : State),
      tokens = moreMembers members ++ rest ∧
      complete stack (.object (done.reverse ++ namedValues members)) = some next ∧
      Ends next rest := by
  obtain ⟨token, rest, next, rfl, stepped, after⟩ := ends.exists_cons (by simp)
  cases token with
  | comma =>
    cases stepped
    obtain ⟨name, member, rest, rfl, named⟩ :=
      exists_named (fun rest fewer => shorter rest (by grind)) after
    obtain ⟨members, rest, next, rfl, completed, after⟩ :=
      (shorter rest (by grind)).members _ _ named
    refine ⟨(name, member) :: members, rest, next, by simp [moreMembers], ?_, after⟩
    simpa [namedValues] using completed
  | closeObject =>
    have completed : complete stack (.object done.reverse) = some next := stepped
    exact ⟨[], rest, next, rfl, by simpa [namedValues] using completed, after⟩
  | _ => cases stepped

theorem splits_value (shorter : ∀ rest : List Token, rest.length < tokens.length → Splits rest)
    (ends : Ends (stack, .value) tokens) :
    ∃ (t : Tree) (rest : List Token) (next : State),
      tokens = t.tokens ++ rest ∧ complete stack t.value = some next ∧ Ends next rest := by
  obtain ⟨token, rest, next, rfl, stepped, after⟩ := ends.exists_cons (by simp)
  cases token with
  | text s => exact ⟨.text s, rest, next, rfl, stepped, after⟩
  | value v => exact ⟨.word v, rest, next, rfl, stepped, after⟩
  | openList =>
    cases stepped
    obtain ⟨token, rest, next, rfl, stepped, later⟩ := after.exists_cons (by simp)
    by_cases empty : token = .closeList
    · subst empty
      have completed : complete stack (.list []) = some next := stepped
      exact ⟨.list [], rest, next, rfl, completed, later⟩
    · rw [step_firstItem empty, Option.ite_none_right_eq_some] at stepped
      obtain ⟨item, rest, next, equal, inside, later⟩ :=
        (shorter (token :: rest) (by simp)).value _ (later.of_step stepped.2)
      cases inside
      obtain ⟨items, rest, next, rfl, completed, later⟩ := (shorter rest (by grind)).items _ _ later
      refine ⟨.list (item :: items), rest, next, by simp [tokens, equal], ?_, later⟩
      simpa [value, values] using completed
  | openObject =>
    cases stepped
    obtain ⟨token, rest, next, rfl, stepped, later⟩ := after.exists_cons (by simp)
    by_cases empty : token = .closeObject
    · subst empty
      have completed : complete stack (.object []) = some next := stepped
      exact ⟨.object [], rest, next, rfl, completed, later⟩
    · rw [step_firstName empty, Option.ite_none_right_eq_some] at stepped
      obtain ⟨name, member, rest, equal, named⟩  :=
        exists_named (fun rest fewer => shorter rest (by grind)) (later.of_step stepped.2)
      obtain ⟨members, rest, next, rfl, completed, later⟩ := (shorter rest (by grind)).members _ _ named
      refine ⟨.object ((name, member) :: members), rest, next, by simp [tokens, equal], ?_, later⟩
      simpa [value, namedValues] using completed
  | _ => cases stepped

theorem splits (tokens : List Token) : Splits tokens := by
  induction bound : tokens.length using Nat.strongRecOn generalizing tokens with
  | ind n ih =>
    have shorter : ∀ rest : List Token, rest.length < tokens.length → Splits rest :=
      fun rest fewer => ih rest.length (bound ▸ fewer) rest rfl
    exact ⟨fun _ => splits_value shorter, fun _ _ => splits_items shorter,
      fun _ _ => splits_members shorter⟩

end Splitting

/-- What is read has the tokens of a tree. -/
theorem exists_tree_of_read? {s : String} {v : Value} (read : read? s = some v) :
    ∃ t : Tree, scan s = some t.tokens ∧ t.value = v := by
  obtain ⟨tokens, scanned, ends⟩ : ∃ tokens, scan s = some tokens ∧ Ends State.start tokens := by
    simp only [read?, Option.bind_eq_bind, Option.bind_eq_some_iff] at read
    obtain ⟨tokens, scanned, state, folded, finished⟩ := read
    split at finished
    · exact ⟨tokens, scanned, _, folded⟩
    · cases finished
  obtain ⟨t, rest, next, equal, completed, after⟩ := (splits tokens).value [] ends
  cases completed
  have spelled : scan s = some t.tokens := by rw [scanned, equal, after.eq_nil, List.append_nil]
  refine ⟨t, spelled, ?_⟩
  rw [read?_of_tokens spelled] at read
  split at read
  · exact Option.some.inj read
  · cases read

/-! ## Words -/

/-- A number is whole or not. -/
theorem number?_cases {cs : List Char} {v : Value} (number : number? cs = some v) :
    (∃ n, v = .int n) ∨ ∃ x, v = .float x := by
  unfold number? at number
  repeat' split at number
  all_goals grind [Option.map_eq_some_iff]

/-- No word stands for an object. -/
theorem word?_ne_object {cs : List Char} {members : List (String × Value)} :
    word? cs ≠ some (.object members) := by
  intro word
  unfold word? at word
  split at word
  case h_7 => rcases number?_cases word with ⟨n, other⟩ | ⟨x, other⟩ <;> cases other
  all_goals cases word

theorem value_notMem_startToken (c : Char) (v : Value) : .value v ∉ (startToken c).2 := by
  unfold startToken punctuation?
  grind

/-- The value of a token is that of a word. -/
theorem exists_word_of_scanChar {state next : Scan} {c : Char} {tokens : List Token} {v : Value}
    (stepped : scanChar state c = some (next, tokens)) (member : .value v ∈ tokens) :
    ∃ word, word? word = some v := by
  have other := value_notMem_startToken c v
  cases state with
  | between =>
    have started : startToken c = (next, tokens) := Option.some.inj stepped
    rw [started] at other
    exact absurd member other
  | word done =>
    simp only [scanChar] at stepped
    split at stepped
    · obtain ⟨w, word, equal⟩ := Option.map_eq_some_iff.1 stepped
      cases equal
      rcases List.mem_cons.1 member with same | member
      · cases same
        exact ⟨_, word⟩
      · exact absurd member other
    · cases stepped
      cases member
  | text | escape | hex | lowEscape | lowMark =>
    simp only [scanChar] at stepped
    grind [Option.map_eq_some_iff, Option.bind_eq_some_iff]

theorem exists_word_of_scanFrom {cs : List Char} {state : Scan} {tokens : List Token} {v : Value}
    (scanned : scanFrom state cs = some tokens) (member : .value v ∈ tokens) :
    ∃ word, word? word = some v := by
  induction cs generalizing state tokens with
  | nil =>
    unfold scanFrom at scanned
    split at scanned
    · cases scanned
      cases member
    · obtain ⟨w, word, rfl⟩ := Option.map_eq_some_iff.1 scanned
      cases List.mem_singleton.1 member
      exact ⟨_, word⟩
    · cases scanned
  | cons c cs ih =>
    rw [scanFrom, Option.bind_eq_some_iff] at scanned
    obtain ⟨⟨next, first⟩, stepped, scanned⟩ := scanned
    obtain ⟨rest, scannedRest, rfl⟩ := Option.map_eq_some_iff.1 scanned
    rcases List.mem_append.1 member with member | member
    · exact exists_word_of_scanChar stepped member
    · exact ih scannedRest member

/-- An object that is read is written as one. -/
theorem exists_members_of_read? {s : String} {object : List (String × Value)}
    (read : read? s = some (.object object)) :
    ∃ members, scan s = some (Tree.object members).tokens ∧ namedValues members = object := by
  obtain ⟨t, scanned, equal⟩ := exists_tree_of_read? read
  cases t with
  | object members => exact ⟨members, scanned, Value.object.inj equal⟩
  | word v =>
    obtain ⟨word, stands⟩ := exists_word_of_scanFrom (v := v) scanned List.mem_cons_self
    have same : v = .object object := equal
    exact absurd (same ▸ stands) word?_ne_object
  | text | list => cases equal

end Checkin.Json
