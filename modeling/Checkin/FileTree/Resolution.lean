import Checkin.FileTree

/-!
# Resolution of paths

A path is resolved to an absolute one that names the same thing and in which nothing is a link or a
double dot. Names that name nothing are kept. A link that leads back to itself ends the resolution: it
and the names after it are kept as they are, and looking at the result meets the loop again.
-/

namespace Checkin.FileTree

/-- The path one level up; a relative path that holds only double dots gets one more. -/
def oneUp (p : Path) : Path :=
  match p.names.getLast? with
  | none => if p.isAbsolute then p else p.child ".."
  | some last => if last = ".." then p.child ".." else p.parent

/-- A resolved path followed by pieces of a path text that were left as they are. Pieces that begin with
a slash of their own start at the root again. -/
def leave (done : Path) (pieces : List String) : Path :=
  done.join (Path.ofText ("/".intercalate pieces))

/-- What is known of links: the path that a link leads to, or none while the link is being followed. -/
abbrev Known := List (Path × Option Path)

/-- Where following links leads. -/
inductive Followed
  /-- To a path without links, with what became known on the way. -/
  | reached (known : Known) (p : Path)
  /-- To a link that leads back to itself, which is left as it is, and so is what comes after it. -/
  | looped (p : Path)
  /-- Through too many links that lie one inside another. -/
  | tooDeep

/-- Follows the links on the way along the pieces of a path text, from the resolved path `done`. A link is
followed once, and at most `depth` links are followed one inside another. -/
def followLinks (t : FileTree) (here : Place) (depth : Nat) (known : Known) (done : Path)
    (pieces : List String) : Followed :=
  match pieces with
  | [] => .reached known done
  | name :: rest =>
    if name = "" ∨ name = "." then followLinks t here depth known done rest
    else if name = ".." then followLinks t here depth known (oneUp done) rest
    else
      let next := done.child name
      match t.linkTarget? here next with
      | none => followLinks t here depth known next rest
      | some target =>
        match known.lookup next with
        | some (some p) => followLinks t here depth known p rest
        | some none => .looped (leave next rest)
        | none =>
          match depth with
          | 0 => .tooDeep
          | depth' + 1 =>
            let (start, inner) :=
              match Path.pieces target with
              | "" :: inner => (⟨.absolute, []⟩, inner)
              | inner => (done, inner)
            match followLinks t here depth' (Entries.put known next none) start inner with
            | .reached known p =>
              followLinks t here (depth' + 1) (Entries.put known next (some p)) p rest
            | .looped p => .looped (leave p rest)
            | .tooDeep => .tooDeep
termination_by (depth, pieces.length)

/-- A resolved path from the root on. From a working directory that was removed there is none. -/
def fromRoot (here : Place) (p : Path) : Except Fault Path :=
  if p.isAbsolute then .ok p.normal
  else if here.lost = 0 then .ok (p.absoluteFrom here.location)
  else .error .notFound

/-- The absolute path without links that a path stands for, at most `depth` links being followed one inside
another. -/
def resolve (t : FileTree) (here : Place) (depth : Nat) (p : Path) : Except Fault Path :=
  if p.text.toList.contains '\x00' then .error .embeddedNul
  else
    let start : Path := if p.isAbsolute then ⟨.absolute, []⟩ else ⟨.relative, []⟩
    match t.followLinks here depth [] start p.names with
    | .reached _ p | .looped p => fromRoot here p
    | .tooDeep => .error .linksTooDeep

end Checkin.FileTree
