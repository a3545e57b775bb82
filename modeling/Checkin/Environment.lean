import Checkin.Entries

/-!
# Environments

The variables of a process, each with a text as its value, and the home directories of the accounts on its
system, which a variable may overrule for the account that the process belongs to.
-/

namespace Checkin

/-- Variables with their values; the first entry of a name counts. -/
structure Environment where
  entries : List (String × String)
deriving DecidableEq, Repr, Inhabited

namespace Environment

/-- The value of a variable, if it is set. -/
def get? (env : Environment) (name : String) : Option String :=
  env.entries.lookup name

/-- The value of a variable that is set to a text which is not empty. -/
def nonempty? (env : Environment) (name : String) : Option String :=
  (env.get? name).filter (· ≠ "")

/-- The environment in which a variable has the given value. -/
def set (env : Environment) (name value : String) : Environment :=
  ⟨Entries.put env.entries name value⟩

theorem get?_set (env : Environment) (name other value : String) :
    (env.set name value).get? other = if other == name then some value else env.get? other :=
  Entries.lookup_put env.entries name other value

end Environment

/-! ## Home directories -/

/-- The variable that names the home directory. -/
def homeVariable : String := "HOME"

/-- The texts that tell where home directories are: that of the process's own account, which need not be
known, and those of the accounts that are known by a name. -/
structure Homes where
  own : Option String
  named : List (String × String)
deriving DecidableEq, Repr, Inhabited

namespace Homes

/-- The text of a user's home directory, or of the process's own for the empty name. -/
def of? (homes : Homes) (user : String) : Option String :=
  if user = "" then homes.own else homes.named.lookup user

/-- The home directories with the variable taken for the process's own where it is set. -/
def under (homes : Homes) (env : Environment) : Homes :=
  { homes with own := (env.get? homeVariable).or homes.own }

end Homes

end Checkin
