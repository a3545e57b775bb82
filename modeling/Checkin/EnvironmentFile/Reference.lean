import Checkin.Environment
import Checkin.EnvironmentFile.Statement

/-!
# References in environment files

In a value, `$` and a name in braces stands for the value of a variable, after which a default may be
given. Variables of the environment come before those of the file, and of the latter only those count
that are bound before.
-/

namespace Checkin.EnvironmentFile

/-- Whether a character may stand in the name of a variable that is referred to. -/
def isReferenceChar (c : Char) : Bool :=
  c != '\x7d' && c != ':'

/-- What a reference to a variable names, the default for it, and what follows the reference, whose
opening brace has been read. -/
def reference? (cs : List Char) : Option (String × Option String × List Char) :=
  match cs.dropWhile isReferenceChar with
  | '\x7d' :: rest => some (String.ofList (cs.takeWhile isReferenceChar), none, rest)
  | ':' :: '-' :: rest =>
    match rest.dropWhile (· != '\x7d') with
    | _ :: after =>
      let default := String.ofList (rest.takeWhile (· != '\x7d'))
      some (String.ofList (cs.takeWhile isReferenceChar), some default, after)
    | [] => none
  | _ => none

theorem length_reference? {cs rest : List Char} {name : String} {default : Option String}
    (h : reference? cs = some (name, default, rest)) : rest.length ≤ cs.length := by
  have h₁ := length_dropWhile_le isReferenceChar cs
  unfold reference? at h
  split at h
  · next h₂ =>
    simp only [h₂, List.length_cons] at h₁
    simp only [Option.some.injEq, Prod.mk.injEq] at h
    rw [← h.2.2]
    omega
  · next rest' h₂ =>
    have h₃ := length_dropWhile_le (· != '\x7d') rest'
    simp only [h₂, List.length_cons] at h₁
    split at h
    · next h₄ =>
      simp only [h₄, List.length_cons] at h₃
      simp only [Option.some.injEq, Prod.mk.injEq] at h
      rw [← h.2.2]
      omega
    · exact absurd h (by simp)
  · exact absurd h (by simp)

/-- A value with its references replaced. `valueOf` gives what a variable is bound to, which may be
nothing; the default counts only for variables that are not bound at all. -/
def expand (valueOf : String → Option (Option String)) (cs : List Char) : List Char :=
  match cs with
  | [] => []
  | '$' :: '\x7b' :: rest =>
    match _h : reference? rest with
    | some (name, default, after) =>
      let value :=
        match valueOf name with
        | some bound => bound.getD ""
        | none => default.getD ""
      value.toList ++ expand valueOf after
    | none => '$' :: expand valueOf ('\x7b' :: rest)
  | c :: rest => c :: expand valueOf rest
termination_by cs.length
decreasing_by
  · have := length_reference? _h
    simp only [List.length_cons]
    omega
  · simp
  · simp

/-- The value of a binding with its references replaced, when the bindings before it are resolved. -/
def resolveValue (env : Environment) (resolved : List (String × Option String)) (b : Binding) :
    Option String :=
  let valueOf := fun name => ((env.get? name).map some).or (resolved.lookup name)
  b.value.map fun value => String.ofList (expand valueOf value.toList)

/-- The names of bindings with their values, in which references are replaced; the last binding of a
name counts. -/
def resolve (env : Environment) (bindings : List Binding) : List (String × Option String) :=
  bindings.foldl (fun resolved b => Entries.put resolved b.name (resolveValue env resolved b)) []

theorem nodup_resolve (env : Environment) (bindings : List Binding) :
    ((resolve env bindings).map Prod.fst).Nodup := by
  have go : ∀ resolved : List (String × Option String), (resolved.map Prod.fst).Nodup →
      ((bindings.foldl (fun resolved b => Entries.put resolved b.name (resolveValue env resolved b))
        resolved).map Prod.fst).Nodup := by
    induction bindings with
    | nil => exact fun resolved unique => unique
    | cons b bindings ih => exact fun resolved unique => ih _ (Entries.nodup_put unique _ _)
  exact go [] (by simp)

/-! ## Grammars -/

/-- How the texts of environment files are read. A text binds names in an environment, each to one value at
most, and it may have lines that cannot be read. -/
structure Grammar where
  bindings : Environment → String → List (String × Option String)
  unread : String → List Nat
  distinct : ∀ env text, ((bindings env text).map Prod.fst).Nodup

/-- A file's text without the byte order mark that may stand in front of it. -/
def withoutMark (cs : List Char) : List Char :=
  match cs with
  | '\uFEFF' :: rest => rest
  | _ => cs

/-- The grammar of statements with references. -/
def Grammar.usual : Grammar where
  bindings env text := resolve env (readStatements 1 (withoutMark text.toList)).1
  unread text := (readStatements 1 (withoutMark text.toList)).2
  distinct _ _ := nodup_resolve _ _

instance : Inhabited Grammar :=
  ⟨.usual⟩

end Checkin.EnvironmentFile
