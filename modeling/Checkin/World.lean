import Checkin.Binary64
import Checkin.EnvironmentFile.Reference
import Checkin.FileTree
import Checkin.Text.Numeral

/-!
# The world

A `World` is what the tool finds around it: files, working directory, variables, accounts, clock, random
draws, platform, the grammar of environment files, room for recursion and package metadata.

An installation is known by an anonymous random id: a UUID of version 4. Of its 128 bits, four tell the
version and two the variant; the others are drawn at random.
-/

namespace Checkin

/-! ## Installation ids -/

/-- Sixteen random octets. -/
abbrev Draw := Vector UInt8 16

/-- The draw with nothing but zeros. -/
def Draw.zeros : Draw := Vector.replicate 16 0

/-- The octets of the id that a draw makes: version and variant take the place of six bits. -/
def Draw.stamped (draw : Draw) : Draw :=
  (draw.set 6 ((draw[6] &&& 0x0F) ||| 0x40)).set 8 ((draw[8] &&& 0x3F) ||| 0x80)

/-- Octets in lower-case hexadecimal, in groups of four, two, two, two and six octets. -/
def Draw.grouped (draw : Draw) : List Char :=
  let octets := draw.toList
  let hex := fun (octets : List UInt8) => octets.flatMap fun b => Text.hexDigits 2 b.toNat
  List.intercalate ['-']
    [hex (octets.take 4), hex ((octets.drop 4).take 2), hex ((octets.drop 6).take 2),
      hex ((octets.drop 8).take 2), hex (octets.drop 10)]

/-- The installation id that a draw makes. -/
def installationId (draw : Draw) : String :=
  String.ofList draw.stamped.grouped

/-! ## Worlds -/

/-- The platform that the tool runs on. -/
structure Platform where
  system : String
  release : String
  machine : String
  runtimeVersion : String
deriving DecidableEq, Repr, Inhabited

/-- How many links are followed one inside another: no fewer than a walk may have. -/
abbrev LinkDepth := { n : Nat // FileTree.maxLinks ≤ n }

instance : Inhabited LinkDepth :=
  ⟨⟨FileTree.maxLinks, Nat.le_refl _⟩⟩

/-- What the tool finds around it. -/
structure World where
  files : FileTree
  workingDirectory : Place
  environment : Environment
  /-- The home directories of the accounts. -/
  accounts : Homes
  now : Binary64
  /-- The random draws to come; when there are none, zeros are drawn. -/
  draws : List Draw
  platform : Platform
  /-- How environment files are read. -/
  grammar : EnvironmentFile.Grammar
  /-- How many missing directories are made one above another, in the room that the runtime leaves for
  recursion when the tool is called. -/
  depth : Nat
  /-- How many links are followed one inside another in that room. -/
  linkDepth : LinkDepth
  /-- The version in the metadata of the installed package, if it is installed. -/
  packageVersion : Option String
deriving Inhabited

/-- The home directories as the tool sees them. -/
def World.homes (world : World) : Homes :=
  world.accounts.under world.environment

end Checkin
