import Checkin.Json.Token

/-!
# Reading JSON

The tokens of a text are put together from left to right. `Open` is the stack of lists and objects that
have been begun and not ended, the innermost first, and `Expect` says what may come next. Members of
an object are kept as they are given, in their order, also where a name is repeated.

Lists and objects may be nested `maxDepth` deep; inside the deepest, only an empty one may stand.
-/

namespace Checkin.Json

/-- How many lists and objects may stand inside one another. -/
def maxDepth : Nat := 200

/-- A list or an object that has been begun. What it holds so far is held last first. -/
inductive Open
  | list (items : List Value)
  | object (members : List (String × Value))
  /-- An object whose next member has its name but not its value. -/
  | member (members : List (String × Value)) (name : String)
deriving Repr

/-- What may come next. -/
inductive Expect
  | value
  | firstItem
  | firstName
  | name
  | colon (name : String)
  | more
  | nothing (v : Value)
deriving Repr

/-- The stack and what may come next. -/
abbrev State := List Open × Expect

/-- The state before the first token. -/
def State.start : State := ([], .value)

/-- The state after a whole value. -/
def complete (stack : List Open) (v : Value) : Option State :=
  match stack with
  | [] => some ([], .nothing v)
  | .list items :: stack => some (.list (v :: items) :: stack, .more)
  | .member members name :: stack => some (.object ((name, v) :: members) :: stack, .more)
  | .object _ :: _ => none

/-- The state after the first token of a value. -/
def beginValue (stack : List Open) : Token → Option State
  | .openList => some (.list [] :: stack, .firstItem)
  | .openObject => some (.object [] :: stack, .firstName)
  | .text s => complete stack (.text s)
  | .value v => complete stack v
  | _ => none

/-- The state after the end of the innermost list or object. -/
def endInnermost : List Open → Token → Option State
  | .list items :: stack, .closeList => complete stack (.list items.reverse)
  | .object members :: stack, .closeObject => complete stack (.object members.reverse)
  | _, _ => none

/-- The state after a member's name. -/
def beginMember (stack : List Open) : Token → Option State
  | .text s => some (stack, .colon s)
  | _ => none

/-- The state after one more token. -/
def step (state : State) (token : Token) : Option State :=
  match state with
  | (stack, .value) => beginValue stack token
  | (stack, .firstItem) =>
    match token with
    | .closeList => endInnermost stack token
    | token => if maxDepth < stack.length then none else beginValue stack token
  | (stack, .firstName) =>
    match token with
    | .closeObject => endInnermost stack token
    | token => if maxDepth < stack.length then none else beginMember stack token
  | (stack, .name) => beginMember stack token
  | (.object members :: stack, .colon name) =>
    match token with
    | .colon => some (.member members name :: stack, .value)
    | _ => none
  | (_, .colon _) => none
  | (stack, .more) =>
    match token, stack with
    | .comma, .list _ :: _ => some (stack, .value)
    | .comma, .object _ :: _ => some (stack, .name)
    | token, stack => endInnermost stack token
  | (_, .nothing _) => none

/-- The value that a text is written for. -/
def read? (s : String) : Option Value := do
  let tokens ← scan s
  let state ← tokens.foldlM step State.start
  match state with
  | ([], .nothing v) => some v
  | _ => none

end Checkin.Json
