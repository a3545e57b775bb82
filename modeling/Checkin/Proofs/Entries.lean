import Checkin.Entries

/-!
# Repeated keys

A list of entries may give a key several values, of which the last one counts. `distinct` leaves every key
once, with that value.
-/

namespace Checkin.Entries

variable {α β : Type} [BEq α] [LawfulBEq α]

theorem isSome_last?_iff {entries : List (α × β)} {key : α} :
    (last? entries key).isSome ↔ key ∈ entries.map Prod.fst := by
  rw [last?, isSome_lookup_iff, List.map_reverse, List.mem_reverse]

/-- Where no key is repeated, an entry gives its key its value. -/
theorem lookup_of_mem {entries : List (α × β)} {key : α} {value : β}
    (unique : (entries.map Prod.fst).Nodup) (member : (key, value) ∈ entries) :
    entries.lookup key = some value := by
  induction entries with
  | nil => cases member
  | cons entry entries ih =>
    rw [List.map_cons, List.nodup_cons] at unique
    rcases List.mem_cons.1 member with rfl | member
    · simp
    · have other : (key == entry.1) = false := by
        rw [beq_eq_false_iff_ne]
        rintro rfl
        exact unique.1 (List.mem_map.2 ⟨_, member, rfl⟩)
      rw [List.lookup_cons, other]
      exact ih unique.2 member

theorem lookup_eq_some_iff_mem {entries : List (α × β)} (unique : (entries.map Prod.fst).Nodup) {key : α}
    {value : β} : entries.lookup key = some value ↔ (key, value) ∈ entries := by
  refine ⟨fun found => ?_, lookup_of_mem unique⟩
  obtain ⟨before, after, rfl, -⟩ := List.lookup_eq_some_iff.1 found
  simp

theorem nodup_distinct (entries : List (α × β)) : ((distinct entries).map Prod.fst).Nodup := by
  have go : ∀ kept : List (α × β), (kept.map Prod.fst).Nodup →
      ((entries.foldl (fun kept entry => put kept entry.1 entry.2) kept).map Prod.fst).Nodup := by
    induction entries with
    | nil => exact fun kept unique => unique
    | cons entry entries ih => exact fun kept unique => ih _ (nodup_put unique entry.1 entry.2)
  exact go [] (by simp)

/-- Where no key is repeated, its last value is its value. -/
theorem last?_eq_lookup {entries : List (α × β)} (unique : (entries.map Prod.fst).Nodup) (key : α) :
    last? entries key = entries.lookup key := by
  rw [← lookup_distinct, distinct_eq_self unique]

theorem last?_eq_some_iff {entries : List (α × β)} (unique : (entries.map Prod.fst).Nodup) {key : α}
    {value : β} : last? entries key = some value ↔ (key, value) ∈ entries := by
  rw [last?_eq_lookup unique, lookup_eq_some_iff_mem unique]

theorem last?_eq_none_iff {entries : List (α × β)} {key : α} :
    last? entries key = none ↔ key ∉ entries.map Prod.fst := by
  rw [← isSome_last?_iff, Option.not_isSome_iff_eq_none]

/-- Where no key is repeated, the order of the entries makes no difference to the values. -/
theorem last?_perm {entries others : List (α × β)} (unique : (entries.map Prod.fst).Nodup)
    (same : entries.Perm others) (key : α) : last? entries key = last? others key := by
  ext value
  rw [last?_eq_some_iff unique, last?_eq_some_iff ((same.map _).nodup_iff.1 unique), same.mem_iff]

theorem last?_distinct (entries : List (α × β)) (key : α) :
    last? (distinct entries) key = last? entries key := by
  rw [last?_eq_lookup (nodup_distinct entries), lookup_distinct]

end Checkin.Entries
