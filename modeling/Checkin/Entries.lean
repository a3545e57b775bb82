/-!
# Entries under keys

Variables, the members of a dictionary and the nodes of a file tree are held as entries: keys with
values, in the order in which the keys came. `put` keeps a key in its first place and gives it its last
value; `List.lookup` is the view that its laws are about.
-/

namespace Checkin.Entries

variable {α β : Type} [BEq α]

/-- The entries in which a key has the given value: in its place if it has one, and else at the end. -/
def put (entries : List (α × β)) (key : α) (value : β) : List (α × β) :=
  if (entries.lookup key).isSome then
    entries.map fun entry => if entry.1 == key then (key, value) else entry
  else entries ++ [(key, value)]

theorem lookup_append (entries more : List (α × β)) (key : α) :
    (entries ++ more).lookup key = (entries.lookup key).or (more.lookup key) := by
  induction entries with
  | nil => rfl
  | cons entry entries ih =>
    obtain ⟨first, value⟩ := entry
    simp only [List.cons_append, List.lookup_cons]
    split
    · rfl
    · exact ih

theorem lookup_replace [LawfulBEq α] (entries : List (α × β)) (key other : α) (value : β) :
    (entries.map fun entry => if entry.1 == key then (key, value) else entry).lookup other =
      if other == key then (entries.lookup key).map fun _ => value else entries.lookup other := by
  induction entries with
  | nil => simp
  | cons entry entries ih => grind

/-- A key that was put has the value it was given; the other keys keep theirs. -/
theorem lookup_put [LawfulBEq α] (entries : List (α × β)) (key other : α) (value : β) :
    (put entries key value).lookup other =
      if other == key then some value else entries.lookup other := by
  unfold put
  split
  · next h =>
    rw [lookup_replace]
    split
    · obtain ⟨old, hold⟩ := Option.isSome_iff_exists.1 h
      simp [hold]
    · rfl
  · next h =>
    have hnone : entries.lookup key = none := Option.not_isSome_iff_eq_none.1 h
    rw [lookup_append]
    by_cases hkey : other = key
    · simp [hkey, hnone]
    · have hbeq : (other == key) = false := by simpa using hkey
      simp [List.lookup_cons, hbeq]

theorem lookup_eq_none_of_notMem [LawfulBEq α] {entries : List (α × β)} {key : α}
    (absent : key ∉ entries.map Prod.fst) : entries.lookup key = none := by
  induction entries with
  | nil => rfl
  | cons entry entries ih =>
    obtain ⟨first, value⟩ := entry
    simp only [List.map_cons, List.mem_cons, not_or] at absent
    have other : (key == first) = false := by simpa using absent.1
    simp [List.lookup_cons, other, ih absent.2]

theorem put_of_notMem [LawfulBEq α] {entries : List (α × β)} {key : α}
    (absent : key ∉ entries.map Prod.fst) (value : β) :
    put entries key value = entries ++ [(key, value)] := by
  simp [put, lookup_eq_none_of_notMem absent]

theorem isSome_lookup_iff [LawfulBEq α] {entries : List (α × β)} {key : α} :
    (entries.lookup key).isSome ↔ key ∈ entries.map Prod.fst := by
  induction entries with
  | nil => simp
  | cons entry entries ih =>
    obtain ⟨first, value⟩ := entry
    by_cases here : key = first
    · simp [here]
    · have other : (key == first) = false := by simpa using here
      simp [List.lookup_cons, other, ih, here]

/-- Putting a key that is there changes no key. -/
theorem map_fst_put [LawfulBEq α] (entries : List (α × β)) (key : α) (value : β) :
    (put entries key value).map Prod.fst =
      if key ∈ entries.map Prod.fst then entries.map Prod.fst else entries.map Prod.fst ++ [key] := by
  unfold put
  simp only [isSome_lookup_iff]
  split
  · rw [List.map_map]
    apply List.map_congr_left
    intro entry member
    by_cases same : entry.1 = key
    · simp [same]
    · simp [same]
  · simp

theorem nodup_put [LawfulBEq α] {entries : List (α × β)} (unique : (entries.map Prod.fst).Nodup) (key : α)
    (value : β) : ((put entries key value).map Prod.fst).Nodup := by
  rw [map_fst_put]
  split
  · exact unique
  · next absent =>
    rw [List.nodup_append]
    refine ⟨unique, by simp, ?_⟩
    rintro a member b new rfl
    exact absent (List.mem_singleton.1 new ▸ member)

/-- The entries whose keys satisfy a condition. -/
def keep (entries : List (α × β)) (condition : α → Bool) : List (α × β) :=
  entries.filter fun entry => condition entry.1

theorem lookup_keep [LawfulBEq α] (entries : List (α × β)) (condition : α → Bool) (key : α) :
    (keep entries condition).lookup key = if condition key then entries.lookup key else none := by
  induction entries with
  | nil => simp [keep]
  | cons entry entries ih => grind [keep]

/-- The entries of a list, each key in its first place and with its last value. -/
def distinct (entries : List (α × β)) : List (α × β) :=
  entries.foldl (fun kept entry => put kept entry.1 entry.2) []

/-- The value that a list gives a key last. -/
def last? (entries : List (α × β)) (key : α) : Option β :=
  entries.reverse.lookup key

theorem lookup_distinct [LawfulBEq α] (entries : List (α × β)) (key : α) :
    (distinct entries).lookup key = last? entries key := by
  have go : ∀ kept : List (α × β),
      (entries.foldl (fun kept entry => put kept entry.1 entry.2) kept).lookup key =
        (last? entries key).or (kept.lookup key) := by
    induction entries with
    | nil => intro kept; rfl
    | cons entry entries ih =>
      intro kept
      rw [List.foldl_cons, ih, lookup_put]
      simp only [last?, List.reverse_cons, lookup_append]
      grind
  simpa [distinct] using go []

/-- Entries whose keys are distinct already are left as they are. -/
theorem distinct_eq_self [LawfulBEq α] {entries : List (α × β)}
    (unique : (entries.map Prod.fst).Nodup) : distinct entries = entries := by
  have go : ∀ more kept : List (α × β), ((kept ++ more).map Prod.fst).Nodup →
      more.foldl (fun kept entry => put kept entry.1 entry.2) kept = kept ++ more := by
    intro more
    induction more with
    | nil => simp
    | cons entry more ih =>
      intro kept unique
      have absent : entry.1 ∉ kept.map Prod.fst := by
        intro member
        rw [List.map_append, List.nodup_append] at unique
        exact unique.2.2 _ member entry.1 (by simp) rfl
      rw [List.foldl_cons, put_of_notMem absent, ih (kept ++ [entry]) (by simpa using unique)]
      simp
  simpa [distinct] using go entries [] (by simpa using unique)

end Checkin.Entries
