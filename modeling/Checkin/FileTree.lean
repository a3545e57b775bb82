import Checkin.Path
import Checkin.Trie

/-!
# File trees

A file tree maps locations to directories, files and symbolic links. A location is the list of names
from the root; no link stands on the way. Paths are walked from a place, following links, and a walk
says at which obstacle it ends.

The view of a tree is `get?`; behind it is a trie.
-/

namespace Checkin

/-- The names from the root to an entry. -/
abbrev Location := List String

/-- What a location holds. -/
inductive Node
  | directory
  | file (content : List UInt8)
  | link (target : String)
deriving DecidableEq, Repr

/-- Why a path cannot be used. -/
inductive Fault
  | notFound
  | alreadyExists
  | notADirectory
  | isADirectory
  | nameTooLong
  | tooManyLinks
  /-- A NUL character, which no path may contain. -/
  | embeddedNul
  /-- Links that lead through too many other links. -/
  | linksTooDeep
  /-- Too many directories that are missing one above another. -/
  | directoriesTooDeep
deriving DecidableEq, Repr

/-- What a walk is for, which decides about the last name. -/
inductive Purpose
  /-- The entry itself: a link is not followed. -/
  | entry
  /-- What the entry stands for: a link is followed. -/
  | target
  /-- A file to be opened, or made where there is none: a link is followed, but to no name with a slash
  after it, which only a directory may have. -/
  | file
deriving DecidableEq, Repr

/-- Directories, files and links by location. -/
structure FileTree where
  nodes : Trie Node
deriving Inhabited

/-- A place in a tree where a walk stands. The last `lost` names of its location belonged to
directories that were removed while someone stood in them. -/
structure Place where
  location : Location
  lost : Nat
deriving DecidableEq, Repr, Inhabited

namespace Place

/-- The root of the tree. -/
def root : Place := ⟨[], 0⟩

/-- The directory above. -/
def parent (p : Place) : Place := ⟨p.location.dropLast, p.lost - 1⟩

/-- The place below with the given name. -/
def child (p : Place) (name : String) : Place := ⟨p.location ++ [name], 0⟩

/-- The place after the directory at `removed` and all below it are gone. -/
def afterRemoval (p : Place) (removed : Location) : Place :=
  if removed.isPrefixOf p.location then
    { p with lost := max p.lost (p.location.length - removed.length + 1) }
  else p

end Place

namespace FileTree

/-- The tree with nothing below the root. -/
def empty : FileTree := ⟨.empty⟩

/-- What a location holds. The root is always a directory. -/
def get? (t : FileTree) (l : Location) : Option Node :=
  if l = [] then some .directory else t.nodes.get? l

/-- The tree in which a location holds the given node. -/
def set (t : FileTree) (l : Location) (node : Node) : FileTree :=
  ⟨t.nodes.set l node⟩

/-- The tree without a location and all below it. -/
def remove (t : FileTree) (l : Location) : FileTree :=
  ⟨t.nodes.remove l⟩

theorem get?_set (t : FileTree) {l : Location} (other : Location) (node : Node) (h : l ≠ []) :
    (t.set l node).get? other = if other == l then some node else t.get? other := by
  unfold set get?
  split
  · next hroot =>
    have : (other == l) = false := by simpa [hroot] using h.symm
    simp [this]
  · exact t.nodes.get?_set l other node

theorem get?_remove (t : FileTree) {l : Location} (other : Location) (h : l ≠ []) :
    (t.remove l).get? other = if l.isPrefixOf other then none else t.get? other := by
  unfold remove get?
  split
  · next hroot => simp [hroot, h]
  · exact t.nodes.get?_remove l other

/-- The names that a directory holds. -/
def childNames (t : FileTree) (l : Location) : List String :=
  t.nodes.childNames l

/-- What the locations hold, a directory before what is in it. -/
def entries (t : FileTree) : List (Location × Node) :=
  t.nodes.toList

/-- What stands at a place: a removed directory is still one for those who stand in it. -/
def nodeAt (t : FileTree) (p : Place) : Option Node :=
  if p.lost = 0 then t.get? p.location else some .directory

/-- The longest name, in octets. -/
def maxNameSize : Nat := 255

/-- The longest path text, in octets. -/
def maxPathSize : Nat := 4095

/-- The most links that are followed in one walk. -/
def maxLinks : Nat := 40

/-- The names that a link's target tells to follow. A slash at its end is an empty last name, which asks
for a directory as a single dot does. -/
def targetNames (target : String) : List String :=
  let pieces := Path.pieces target
  let names := pieces.filter (· ≠ "")
  if pieces.getLast? = some "" then names ++ [""] else names

/-- Where a link in the directory `here` starts from. -/
def targetStart (here : Place) (target : String) : Place :=
  if Path.rootOf target = .relative then here else .root

/-- Walks from a directory along names, with at most `links` links to be followed. The place reached may
hold nothing, but the directory above it is there. -/
def walk (t : FileTree) (purpose : Purpose) (links : Nat) (here : Place) (names : List String) :
    Except Fault Place :=
  match names with
  | [] => .ok here
  | name :: names =>
    if name = "." ∨ name = "" then walk t purpose links here names
    else if name = ".." then walk t purpose links here.parent names
    else if purpose = .file ∧ names = [""] then .error .isADirectory
    else if here.lost ≠ 0 then .error .notFound
    else if maxNameSize < name.utf8ByteSize then .error .nameTooLong
    else
      let there := here.child name
      match t.get? there.location with
      | some .directory => walk t purpose links there names
      | some (.file _) => if names = [] then .ok there else .error .notADirectory
      | some (.link target) =>
        if purpose = .entry ∧ names = [] then .ok there
        else
          match links with
          | 0 => .error .tooManyLinks
          | links + 1 => walk t purpose links (targetStart here target) (targetNames target ++ names)
      | none => if names = [] then .ok there else .error .notFound
termination_by (links, names.length)

/-- The place that a path leads to from a working directory. -/
def find (t : FileTree) (here : Place) (p : Path) (purpose : Purpose) : Except Fault Place :=
  if p.text.toList.contains '\x00' then .error .embeddedNul
  else if maxPathSize < p.text.utf8ByteSize then .error .nameTooLong
  else t.walk purpose maxLinks (if p.isAbsolute then .root else here) p.names

/-! ## Looking -/

/-- What a path names, links followed. -/
def stat (t : FileTree) (here : Place) (p : Path) : Except Fault Node := do
  let place ← t.find here p .target
  match t.nodeAt place with
  | some node => .ok node
  | none => .error .notFound

/-- The target of the link that a path names, if it names one. -/
def linkTarget? (t : FileTree) (here : Place) (p : Path) : Option String :=
  match t.find here p .entry with
  | .ok place =>
    match t.nodeAt place with
    | some (.link target) => some target
    | _ => none
  | .error _ => none

/-- Whether a fault means no more than that a path names nothing. A name that is too long is the only
one that does not. -/
def meansAbsent (fault : Fault) : Bool :=
  fault ≠ .nameTooLong

/-- Whether a path names something. -/
def exists? (t : FileTree) (here : Place) (p : Path) : Except Fault Bool :=
  match t.stat here p with
  | .ok _ => .ok true
  | .error fault => if meansAbsent fault then .ok false else .error fault

/-- Whether a path names a directory. -/
def isDirectory (t : FileTree) (here : Place) (p : Path) : Except Fault Bool :=
  match t.stat here p with
  | .ok node => .ok (node = .directory)
  | .error fault => if meansAbsent fault then .ok false else .error fault

/-- The content of the file that a path names. -/
def read (t : FileTree) (here : Place) (p : Path) : Except Fault (List UInt8) := do
  match ← t.stat here p with
  | .file content => .ok content
  | _ => .error .isADirectory

/-! ## Changing -/

/-- The location of the file that a path names, and the tree in which it is there, made empty if it
was not. -/
def openFile (t : FileTree) (here : Place) (p : Path) : Except Fault (Location × FileTree) := do
  let place ← t.find here p .file
  match t.nodeAt place with
  | some (.file _) => .ok (place.location, t)
  | some _ => .error .isADirectory
  | none => .ok (place.location, t.set place.location (.file []))

/-- The tree in which the file that a path names has the given content. -/
def write (t : FileTree) (here : Place) (p : Path) (content : List UInt8) : Except Fault FileTree := do
  let (location, t) ← t.openFile here p
  .ok (t.set location (.file content))

/-- The tree in which the file at a location has more content at its end. -/
def append (t : FileTree) (l : Location) (content : List UInt8) : FileTree :=
  match t.get? l with
  | some (.file before) => t.set l (.file (before ++ content))
  | _ => t

/-- The tree with a new directory. -/
def makeDirectory (t : FileTree) (here : Place) (p : Path) : Except Fault FileTree := do
  let place ← t.find here p .entry
  match t.nodeAt place with
  | some _ => .error .alreadyExists
  | none => .ok (t.set place.location .directory)

/-- How the making of a directory ends after a fault: well, if the directory is there anyway. -/
def settle (t : FileTree) (here : Place) (p : Path) (fault : Fault) : Except (Fault × Path) Unit :=
  match t.isDirectory here p with
  | .ok true => .ok ()
  | .ok false => .error (fault, p)
  | .error fault => .error (fault, p)

/-- Makes a directory that is not there yet, and before it those above it, of which at most `depth` may be
missing. Directories that were made stay when a later one cannot be made; the fault comes with the path
that could not be made. -/
def makeDirectories (t : FileTree) (here : Place) (depth : Nat) (p : Path) :
    Except (Fault × Path) Unit × FileTree :=
  match t.makeDirectory here p with
  | .ok t => (.ok (), t)
  | .error .notFound =>
    if p.names = [] then (.error (.notFound, p), t)
    else
      match depth with
      | 0 => (.error (.directoriesTooDeep, p), t)
      | depth + 1 =>
        match t.makeDirectories here depth p.parent with
        | (.error fault, t) => (.error fault, t)
        | (.ok (), t) =>
          match t.makeDirectory here p with
          | .ok t => (.ok (), t)
          | .error .notFound => (.error (.notFound, p), t)
          | .error fault => (t.settle here p fault, t)
  | .error fault => (t.settle here p fault, t)

end FileTree

end Checkin
