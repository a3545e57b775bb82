import Checkin.Proofs.Basic
import Checkin.Proofs.Shell.Reader
import Checkin.Proofs.Text.Runs
import Checkin.ShellEnvironment

/-!
# Export lines read by a shell

A value as one shell word is read back as the value, letter by letter, and no letter of it is left for the
shell to expand. From that, the export lines of any variables are read as one command for each of them.
-/

namespace Checkin.Shell

open Checkin.Text

/-- What the reader does to some characters, whatever follows them. -/
abbrev Reads := Runs readFrom

theorem Reads.char {state state' : Reading} {c : Char} {tokens : List Token}
    (step : readChar state c = (state', tokens)) : Reads state [c] state' tokens := by
  intro rest
  simp [readFrom, step]

theorem Reads.cons {state middle state' : Reading} {c : Char} {cs : List Char}
    {tokens : List Token} (step : readChar state c = (middle, []))
    (rest : Reads middle cs state' tokens) : Reads state (c :: cs) state' tokens :=
  (Reads.char step).append_silent rest

/-! ## Words without quotes -/

/-- Whether a character inside a word is taken as it stands without a quote. -/
def isPlain (c : Char) : Bool :=
  !(isBlank c || c == '\n' || isOperator c || c == '\'' || c == '"' || c == '\\' || isExpanding c)

theorem readChar_plain (done : List Letter) {c : Char} (plain : isPlain c = true) :
    readChar (.word done) c = (.word (⟨c, false⟩ :: done), []) := by
  simp only [isPlain, Bool.not_eq_true', Bool.or_eq_false_iff, beq_eq_false_iff_ne] at plain
  simp [readChar, intoWord, plain]

/-- The characters that a shell does not take as they stand. -/
def specials : List Char :=
  [' ', '\t', '\n', '&', '|', ';', '<', '>', '(', ')', '\'', '"', '\\', '$', '\x60', '~', '*', '?', '[', ']',
    '\x7b', '\x7d', '!']

theorem isPlain_of_notMem_specials {c : Char} (absent : c ∉ specials) : isPlain c = true := by
  simp only [specials, List.mem_cons, List.not_mem_nil, or_false, not_or] at absent
  simp [isPlain, isBlank, isOperator, isExpanding, absent]

/-- The characters that a word needs no quotes for stand for themselves. -/
theorem isPlain_of_isShellSafe {c : Char} (safe : isShellSafe c = true) : isPlain c = true := by
  have quotable : specials.all (fun c => !isShellSafe c) = true := by decide
  apply isPlain_of_notMem_specials
  intro member
  have special := List.all_eq_true.1 quotable c member
  simp [safe] at special

/-- Letters as they are between quotes, or without. -/
def lettersOf (isQuoted : Bool) (cs : List Char) : List Letter :=
  cs.map (⟨·, isQuoted⟩)

theorem reads_plain {cs : List Char} (plain : ∀ c ∈ cs, isPlain c = true) (done : List Letter) :
    Reads (.word done) cs (.word ((lettersOf false cs).reverse ++ done)) [] := by
  induction cs generalizing done with
  | nil => exact Runs.nil _
  | cons c cs ih =>
    obtain ⟨here, rest⟩ := List.forall_mem_cons.1 plain
    simpa [lettersOf] using Reads.cons (readChar_plain done here) (ih rest (⟨c, false⟩ :: done))

/-- A word begins with a character that stands for itself and opens no comment. -/
theorem reads_word {c : Char} {cs : List Char} (plain : ∀ d ∈ c :: cs, isPlain d = true)
    (comment : c ≠ '#') : Reads .between (c :: cs) (.word (lettersOf false (c :: cs)).reverse) [] := by
  obtain ⟨here, rest⟩ := List.forall_mem_cons.1 plain
  have begun : readChar .between c = (.word [⟨c, false⟩], []) := by
    simp only [isPlain, Bool.not_eq_true', Bool.or_eq_false_iff, beq_eq_false_iff_ne] at here
    simp [readChar, intoWord, here, comment]
  simpa [lettersOf] using Reads.cons begun (reads_plain rest [⟨c, false⟩])

/-! ## Quoted words -/

/-- A character between single quotes is read as itself. A single quote leaves them, stands between double
quotes, and goes back. -/
theorem reads_shellQuotedChar (c : Char) (done : List Letter) :
    Reads (.single done) (shellQuotedChar c) (.single (⟨c, true⟩ :: done)) [] := by
  unfold shellQuotedChar
  split
  next quote =>
    subst quote
    have ended : readChar (.single done) '\'' = (.word done, []) := rfl
    have opened : readChar (.word done) '"' = (.double done, []) := rfl
    have quoted : readChar (.double done) '\'' = (.double (⟨'\'', true⟩ :: done), []) := rfl
    have closed : readChar (.double (⟨'\'', true⟩ :: done)) '"' =
        (.word (⟨'\'', true⟩ :: done), []) := rfl
    exact Reads.cons ended (Reads.cons opened (Reads.cons quoted (Reads.cons closed
      (Reads.char rfl))))
  next other => exact Reads.char (by simp [readChar, other])

theorem reads_flatMap_shellQuotedChar (cs : List Char) (done : List Letter) :
    Reads (.single done) (cs.flatMap shellQuotedChar) (.single ((lettersOf true cs).reverse ++ done))
      [] := by
  induction cs generalizing done with
  | nil => exact Runs.nil _
  | cons c cs ih =>
    have both := (reads_shellQuotedChar c done).append (ih (⟨c, true⟩ :: done))
    simpa [lettersOf] using both

/-- The letters that a shell reads where a text stands as one word. -/
def wordLetters (cs : List Char) : List Letter :=
  lettersOf (!(!cs.isEmpty && cs.all isShellSafe)) cs

theorem reads_shellWordChars (cs : List Char) (done : List Letter) :
    Reads (.word done) (shellWordChars cs) (.word ((wordLetters cs).reverse ++ done)) [] := by
  unfold shellWordChars wordLetters
  split
  next safe =>
    have plain : ∀ c ∈ cs, isPlain c = true := by
      simp only [Bool.and_eq_true, List.all_eq_true] at safe
      exact fun c member => isPlain_of_isShellSafe (safe.2 c member)
    simpa [safe] using reads_plain plain done
  next unsafe' =>
    simp only [Bool.not_eq_true] at unsafe'
    have opened : readChar (.word done) '\'' = (.single done, []) := rfl
    have closed : ∀ done, readChar (.single done) '\'' = (.word done, []) := fun _ => rfl
    have inside := reads_flatMap_shellQuotedChar cs done
    simpa [unsafe'] using Reads.cons opened (inside.append (Reads.char (closed _)))

/-! ## Words taken as they stand -/

/-- Whether a shell can neither expand a letter nor take it for the end of its word. -/
def Letter.IsLiteral (l : Letter) : Prop := l.isQuoted = true ∨ isPlain l.char = true

theorem Letter.IsLiteral.isInert {l : Letter} (literal : l.IsLiteral) : l.isInert = true := by
  rcases literal with isQuoted | plain
  · simp [Letter.isInert, isQuoted]
  · simp only [isPlain, Bool.not_eq_true', Bool.or_eq_false_iff] at plain
    simp [Letter.isInert, plain]

theorem isLiteral_lettersOf {isQuoted : Bool} {cs : List Char}
    (literal : ∀ c ∈ cs, isQuoted = true ∨ isPlain c = true) :
    ∀ l ∈ lettersOf isQuoted cs, l.IsLiteral := by
  intro l member
  obtain ⟨c, inside, rfl⟩ := List.mem_map.1 member
  exact literal c inside

theorem isLiteral_wordLetters (cs : List Char) : ∀ l ∈ wordLetters cs, l.IsLiteral := by
  apply isLiteral_lettersOf
  intro c member
  cases safe : (!cs.isEmpty && cs.all isShellSafe) with
  | false => exact Or.inl rfl
  | true =>
    simp only [Bool.and_eq_true, List.all_eq_true] at safe
    exact Or.inr (isPlain_of_isShellSafe (safe.2 c member))

/-- A word of literal letters means its characters. -/
theorem literal?_word {letters : List Letter} (literal : ∀ l ∈ letters, l.IsLiteral) :
    (Token.word letters).literal? = some (String.ofList (letters.map Letter.char)) := by
  have inert : letters.all Letter.isInert = true :=
    List.all_eq_true.2 fun l member => (literal l member).isInert
  simp [Token.literal?, inert]

theorem map_char_lettersOf (isQuoted : Bool) (cs : List Char) :
    (lettersOf isQuoted cs).map Letter.char = cs := by
  simp [lettersOf, Function.comp_def]

/-! ## Export lines -/

theorem isPlain_of_isName {s : String} (name : isName s = true) :
    ∀ c ∈ s.toList, isPlain c = true := by
  have letter : ∀ c : Char, (c.isAlphanum || c == '_') = true → isPlain c = true := by
    intro c inName
    apply isPlain_of_isShellSafe
    rcases Bool.or_eq_true_iff.1 inName with alphanum | underscore
    · simp [isShellSafe, alphanum]
    · simp [isShellSafe, underscore]
  unfold isName at name
  split at name
  next => simp at name
  next c cs equal =>
    simp only [Bool.and_eq_true, List.all_eq_true] at name
    rw [equal]
    refine List.forall_mem_cons.2 ⟨letter c ?_, fun d member => letter d (name.2 d member)⟩
    rcases Bool.or_eq_true_iff.1 name.1 with alpha | underscore
    · simp [Char.isAlphanum, alpha]
    · simp [underscore]

/-- A name is a word of its own, or the beginning of one. -/
theorem reads_name {s : String} (name : isName s = true) :
    Reads .between s.toList (.word (lettersOf false s.toList).reverse) [] := by
  have plain := isPlain_of_isName name
  unfold isName at name
  split at name
  next => simp at name
  next c cs equal =>
    rw [equal] at plain ⊢
    apply reads_word plain
    rintro rfl
    exact absurd (Bool.and_eq_true_iff.1 name).1 (by decide)

/-- The second word of the line that exports a variable. -/
def assignment (entry : String × String) : List Letter :=
  lettersOf false entry.1.toList ++ lettersOf false ['='] ++ wordLetters entry.2.toList

/-- The tokens of the line that exports a variable. -/
def exportTokens (entry : String × String) : List Token :=
  [.word (lettersOf false "export".toList), .word (assignment entry)]

/-- The line that exports a variable is read as the word `export` and an assignment, which is still open at
the end of the line. -/
theorem reads_exportLine {entry : String × String} (name : isName entry.1 = true) :
    Reads .between (ShellEnvironment.exportLine entry).toList (.word (assignment entry).reverse)
      [.word (lettersOf false "export".toList)] := by
  have command := reads_name (s := "export") rfl
  have space : Reads (.word (lettersOf false "export".toList).reverse) [' '] .between
      [.word (lettersOf false "export".toList)] := Reads.char rfl
  have equals : ∀ c ∈ ['='], isPlain c = true := List.forall_mem_singleton.2 rfl
  have target := (reads_name name).append (reads_plain equals _)
  have line := ((command.append space).append target).append (reads_shellWordChars entry.2.toList _)
  have chars : (ShellEnvironment.exportLine entry).toList =
      "export".toList ++ [' '] ++ (entry.1.toList ++ ['=']) ++ shellWordChars entry.2.toList := by
    simp [ShellEnvironment.exportLine, shellWord]
  rw [chars]
  simpa [assignment, List.append_assoc] using line

/-- A line feed ends the assignment and the line. -/
theorem reads_exportLine_newline {entry : String × String} (name : isName entry.1 = true) :
    Reads .between ((ShellEnvironment.exportLine entry).toList ++ ['\n']) .between
      (exportTokens entry ++ [.newline]) := by
  have ending : readChar (.word (assignment entry).reverse) '\n' =
      (.between, [.word (assignment entry), .newline]) := by
    rw [readChar, if_neg (by decide), if_pos rfl, List.reverse_reverse]
  exact (reads_exportLine name).append (Reads.char ending)

/-- The tokens of the lines that export some variables. -/
theorem readFrom_exportLines {exports : List (String × String)}
    (names : ∀ entry ∈ exports, isName entry.1 = true) :
    readFrom .between (ShellEnvironment.exportLines exports).toList =
      some (List.intercalate [.newline] (exports.map exportTokens)) := by
  rw [ShellEnvironment.exportLines, String.toList_intercalate]
  induction exports with
  | nil => rfl
  | cons entry exports ih =>
    obtain ⟨name, names⟩ := List.forall_mem_cons.1 names
    cases exports with
    | nil =>
      have ending : readFrom (.word (assignment entry).reverse) [] = some [.word (assignment entry)] := by
        simp [readFrom]
      have last := (reads_exportLine name).read_eq ending
      simpa [exportTokens] using last
    | cons next exports =>
      have rest := ih names
      simp only [List.map_cons, List.intercalate_cons_cons] at rest ⊢
      rw [show "\n".toList = ['\n'] from rfl] at rest ⊢
      rw [reads_exportLine_newline name, rest]
      rfl

theorem linesFrom_exportTokens (exports : List (String × String)) :
    linesFrom [] (List.intercalate [.newline] (exports.map exportTokens)) =
      exports.map exportTokens := by
  induction exports with
  | nil => rfl
  | cons entry exports ih =>
    cases exports with
    | nil => rfl
    | cons next exports =>
      simp only [List.map_cons, List.intercalate_cons_cons] at ih ⊢
      simpa [exportTokens, linesFrom] using ih

theorem isLiteral_assignment {entry : String × String} (name : isName entry.1 = true) :
    ∀ l ∈ assignment entry, l.IsLiteral := by
  intro l member
  simp only [assignment, List.mem_append] at member
  rcases member with (inName | equals) | inValue
  · exact isLiteral_lettersOf (fun c inside => Or.inr (isPlain_of_isName name c inside)) l inName
  · exact isLiteral_lettersOf (List.forall_mem_singleton.2 (Or.inr rfl)) l equals
  · exact isLiteral_wordLetters _ l inValue

/-- The words of an export line mean `export` and the variable with its value. -/
theorem mapM_literal?_exportTokens {entry : String × String} (name : isName entry.1 = true) :
    (exportTokens entry).mapM Token.literal? =
      some ["export", entry.1 ++ "=" ++ entry.2] := by
  have command : (Token.word (lettersOf false "export".toList)).literal? = some "export" := rfl
  have target := literal?_word (isLiteral_assignment name)
  have chars : (assignment entry).map Letter.char = (entry.1 ++ "=" ++ entry.2).toList := by
    simp [assignment, wordLetters, map_char_lettersOf]
  rw [chars, String.ofList_toList] at target
  simp only [exportTokens, List.mapM_cons, List.mapM_nil, command, target]
  rfl

theorem isLiteral_of_mem_exportTokens {entry : String × String} (name : isName entry.1 = true)
    {token : Token} (member : token ∈ exportTokens entry) :
    ∃ letters, token = .word letters ∧ ∀ l ∈ letters, l.IsLiteral := by
  simp only [exportTokens, List.mem_cons, List.not_mem_nil, or_false] at member
  rcases member with rfl | rfl
  · have command := isPlain_of_isName (s := "export") rfl
    exact ⟨_, rfl, isLiteral_lettersOf fun c inside => Or.inr (command c inside)⟩
  · exact ⟨_, rfl, isLiteral_assignment name⟩

/-- Whatever the values are, a shell reads the export lines of some variables as one command for each of
them, in order, with the words `export` and the variable with its value; and it finds no operator in them
and no letter that it could expand or part words at. -/
theorem commands?_exportLines {exports : List (String × String)}
    (names : ∀ entry ∈ exports, isName entry.1 = true) :
    commands? (ShellEnvironment.exportLines exports) =
        some (exports.map fun entry => ["export", entry.1 ++ "=" ++ entry.2]) ∧
      ∃ tokens, readFrom .between (ShellEnvironment.exportLines exports).toList = some tokens ∧
        ∀ token ∈ tokens, token = .newline ∨
          ∃ letters, token = .word letters ∧ ∀ l ∈ letters, l.IsLiteral := by
  have tokens := readFrom_exportLines names
  refine ⟨?_, _, tokens, ?_⟩
  · rw [commands?, tokens, Option.bind_some, linesFrom_exportTokens, List.mapM_map]
    exact mapM_eq_some_map fun entry member => mapM_literal?_exportTokens (names entry member)
  · intro token member
    by_cases isNewline : token = .newline
    · exact Or.inl isNewline
    · obtain ⟨line, listed, inside⟩ := (mem_intercalate_of_ne isNewline _).1 member
      obtain ⟨entry, given, rfl⟩ := List.mem_map.1 listed
      exact Or.inr (isLiteral_of_mem_exportTokens (names entry given) inside)

/-- Values with every kind of quote, an expansion, an operator, a comment and a line feed, and an empty
one. -/
theorem commands?_exportLines_hostile :
    (∀ entry ∈ [("PATH", "/bin:~/$x;`id`"), ("_b2", "it's \"a\\\n #!*"), ("C", "")],
      isName entry.1 = true) ∧
    commands? (ShellEnvironment.exportLines
      [("PATH", "/bin:~/$x;`id`"), ("_b2", "it's \"a\\\n #!*"), ("C", "")]) =
        some [["export", "PATH=/bin:~/$x;`id`"], ["export", "_b2=it's \"a\\\n #!*"], ["export", "C="]] := by
  have names : ∀ entry ∈ [("PATH", "/bin:~/$x;`id`"), ("_b2", "it's \"a\\\n #!*"), ("C", "")],
      isName entry.1 = true := by decide
  exact ⟨names, (commands?_exportLines names).1⟩

end Checkin.Shell
