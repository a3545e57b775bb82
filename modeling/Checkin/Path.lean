/-!
# Paths

A path text names a file or a directory by the names on the way to it. Repeated slashes, single dots
and a slash at the end say nothing and are left out of a `Path`; a double dot stays, because the name
before it may be a link. A path that starts with exactly two slashes is kept apart from one that starts
with one or more than two, although both start at the root.
-/

namespace Checkin

/-- Where the names of a path start. -/
inductive Root
  | relative
  | absolute
  | doubleSlash
deriving DecidableEq, Repr

/-- A path; no name is empty or a single dot when it is made from a text. -/
structure Path where
  root : Root
  names : List String
deriving DecidableEq, Repr

namespace Path

/-- The pieces of a text between slashes; `done` holds the open piece, last character first. -/
def piecesFrom (done : List Char) : List Char → List String
  | [] => [String.ofList done.reverse]
  | c :: cs =>
    if c = '/' then String.ofList done.reverse :: piecesFrom [] cs else piecesFrom (c :: done) cs

/-- The pieces of a text between slashes, empty ones included. -/
def pieces (s : String) : List String :=
  piecesFrom [] s.toList

/-- Where a path text starts. -/
def rootOf (s : String) : Root :=
  match s.toList with
  | '/' :: '/' :: '/' :: _ => .absolute
  | '/' :: '/' :: _ => .doubleSlash
  | '/' :: _ => .absolute
  | _ => .relative

/-- The path that a text names. -/
def ofText (s : String) : Path :=
  ⟨rootOf s, (pieces s).filter fun name => name ≠ "" && name ≠ "."⟩

/-- The text of a path. -/
def text (p : Path) : String :=
  match p.root, p.names with
  | .relative, [] => "."
  | .relative, names => "/".intercalate names
  | .absolute, names => "/" ++ "/".intercalate names
  | .doubleSlash, names => "//" ++ "/".intercalate names

/-- Whether the path starts at the root. -/
def isAbsolute (p : Path) : Bool :=
  p.root ≠ .relative

/-- The path without its last name; the root and the empty path are their own parents. -/
def parent (p : Path) : Path :=
  { p with names := p.names.dropLast }

/-- The path with one more name. -/
def child (p : Path) (name : String) : Path :=
  { p with names := p.names ++ [name] }

/-- The second path taken from the directory that the first one names. -/
def join (p q : Path) : Path :=
  if q.isAbsolute then q else { p with names := p.names ++ q.names }

/-- Drops a double dot together with the name before it, without regard to links. `kept` holds the
names so far, last first. -/
def foldUps (absolute : Bool) (kept : List String) : List String → List String
  | [] => kept.reverse
  | name :: names =>
    if name = ".." then
      match kept with
      | [] => foldUps absolute (if absolute then [] else [".."]) names
      | last :: rest =>
        if last = ".." then foldUps absolute (".." :: kept) names else foldUps absolute rest names
    else foldUps absolute (name :: kept) names

/-- The path without double dots that follow a name or the root. -/
def normal (p : Path) : Path :=
  { p with names := foldUps p.isAbsolute [] p.names }

/-- A path taken from a working directory, without double dots. -/
def absoluteFrom (p : Path) (workingDirectory : List String) : Path :=
  if p.isAbsolute then p.normal
  else (⟨.absolute, workingDirectory ++ p.names⟩ : Path).normal

end Path

end Checkin
