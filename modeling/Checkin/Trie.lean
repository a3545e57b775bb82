import Checkin.Entries

/-!
# Tries

A trie holds values under lists of names, and what lies under a common beginning lies together. The view
of a trie is `get?`; its laws say what `set` and `remove` do to it.
-/

namespace Checkin

/-- Values under lists of names: the one under no name at all, and the tries under single names. -/
structure Trie (α : Type) where
  value : Option α
  children : List (String × Trie α)

namespace Trie

variable {α : Type}

/-- The trie without values. -/
def empty : Trie α := ⟨none, []⟩

instance : Inhabited (Trie α) := ⟨empty⟩

/-- What lies under a name. -/
def child (t : Trie α) (name : String) : Trie α :=
  (t.children.lookup name).getD empty

/-- What lies under a list of names. -/
def under (t : Trie α) : List String → Trie α
  | [] => t
  | name :: names => (t.child name).under names

/-- The value under a list of names. -/
def get? (t : Trie α) (names : List String) : Option α :=
  (t.under names).value

/-- The trie with another trie in the place of what lies under a list of names. -/
def graft (t : Trie α) (names : List String) (other : Trie α) : Trie α :=
  match names with
  | [] => other
  | name :: names => { t with children := Entries.put t.children name ((t.child name).graft names other) }

/-- The trie with a value under a list of names. -/
def set (t : Trie α) (names : List String) (value : α) : Trie α :=
  t.graft names { t.under names with value := some value }

/-- The trie without what lies under a list of names. -/
def remove (t : Trie α) (names : List String) : Trie α :=
  t.graft names empty

/-- The names that, added to a list of names, have a value. -/
def childNames (t : Trie α) (names : List String) : List String :=
  (t.under names).children.filterMap fun entry => entry.2.value.map fun _ => entry.1

mutual

/-- The values with their lists of names, a list before those that it begins. -/
def toList : Trie α → List (List String × α)
  | ⟨value, children⟩ => value.toList.map ([], ·) ++ childrenToList children

/-- The values of some tries under their names, with their lists of names. -/
def childrenToList : List (String × Trie α) → List (List String × α)
  | [] => []
  | (name, t) :: children =>
    t.toList.map (fun entry => (name :: entry.1, entry.2)) ++ childrenToList children

end

/-! ## The view -/

theorem get?_empty (names : List String) : (empty : Trie α).get? names = none := by
  induction names with
  | nil => rfl
  | cons name names ih => exact ih

theorem get?_cons (t : Trie α) (name : String) (names : List String) :
    t.get? (name :: names) = (t.child name).get? names := rfl

theorem child_put (t : Trie α) (name other : String) (new : Trie α) :
    child { t with children := Entries.put t.children name new } other =
      if other == name then new else t.child other := by
  unfold child
  rw [Entries.lookup_put]
  split <;> rfl

/-- A value that was set is found under its names; the values under others stay. -/
theorem get?_set (t : Trie α) (names others : List String) (value : α) :
    (t.set names value).get? others = if others == names then some value else t.get? others := by
  unfold set
  induction names generalizing t others with
  | nil => cases others <;> rfl
  | cons name names ih =>
    cases others with
    | nil => rfl
    | cons other others =>
      rw [get?_cons, graft, child_put, get?_cons]
      by_cases h : other = name
      · subst h
        simpa [under] using ih (t.child other) others
      · simp [h]

/-- What begins with the names removed is gone; the rest stays. -/
theorem get?_remove (t : Trie α) (names others : List String) :
    (t.remove names).get? others = if names.isPrefixOf others then none else t.get? others := by
  unfold remove
  induction names generalizing t others with
  | nil => simp [graft, get?_empty]
  | cons name names ih =>
    cases others with
    | nil => rfl
    | cons other others =>
      rw [get?_cons, graft, child_put, get?_cons]
      by_cases h : other = name
      · subst h
        simpa using ih (t.child other) others
      · have hne : (name == other) = false := by simpa using Ne.symm h
        simp [h, hne, List.isPrefixOf]

end Trie

end Checkin
