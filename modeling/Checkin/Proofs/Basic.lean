/-!
# Lists and results

What the proofs about several parts of the tool need of lists, and of computations that may fail: a sequence
of two fails as the first of them that fails, and gives what the second gives.
-/

namespace Checkin

section Lists

variable {α β : Type}

theorem mem_intercalate_of_ne {a separator : α} (other : a ≠ separator) (lists : List (List α)) :
    a ∈ List.intercalate [separator] lists ↔ ∃ l ∈ lists, a ∈ l := by
  induction lists with
  | nil => simp [List.intercalate]
  | cons l lists ih =>
    cases lists with
    | nil => simp [List.intercalate]
    | cons next lists =>
      rw [List.intercalate_cons_cons, List.mem_append, List.mem_append, ih]
      simp [other]

theorem mapM_eq_some_map {f : α → Option β} {g : α → β} {l : List α}
    (each : ∀ a ∈ l, f a = some (g a)) : l.mapM f = some (l.map g) := by
  induction l with
  | nil => rfl
  | cons a l ih =>
    obtain ⟨here, rest⟩ := List.forall_mem_cons.1 each
    simp [List.mapM_cons, here, ih rest]

theorem mapM_eq_none_iff {f : α → Option β} {l : List α} : l.mapM f = none ↔ ∃ a ∈ l, f a = none := by
  induction l with
  | nil => simp
  | cons a l ih =>
    simp only [List.mapM_cons, List.mem_cons, exists_eq_or_imp, ← ih]
    cases f a <;> cases l.mapM f <;> simp

/-! Where a list is made of pieces of one length, places in the list are places in the pieces. -/

section Pieces

variable {f : α → List β} {m : Nat}

theorem take_flatMap (each : ∀ a, (f a).length = m) (l : List α) (n : Nat) :
    (l.flatMap f).take (m * n) = (l.take n).flatMap f := by
  induction l generalizing n with
  | nil => simp
  | cons a l ih =>
    cases n with
    | zero => simp
    | succ n =>
      have whole : (f a).take (m * (n + 1)) = f a := by
        rw [List.take_of_length_le]
        rw [each, Nat.mul_succ]
        exact Nat.le_add_left m _
      rw [List.take_succ_cons, List.flatMap_cons, List.flatMap_cons, List.take_append, whole, each,
        Nat.mul_succ, Nat.add_sub_cancel, ih]

theorem drop_flatMap (each : ∀ a, (f a).length = m) (l : List α) (n : Nat) :
    (l.flatMap f).drop (m * n) = (l.drop n).flatMap f := by
  induction l generalizing n with
  | nil => simp
  | cons a l ih =>
    cases n with
    | zero => simp
    | succ n =>
      have none : (f a).drop (m * (n + 1)) = [] := by
        rw [List.drop_eq_nil_iff, each, Nat.mul_succ]
        exact Nat.le_add_left m _
      rw [List.drop_succ_cons, List.flatMap_cons, List.drop_append, none, List.nil_append, each,
        Nat.mul_succ, Nat.add_sub_cancel, ih]

theorem getElem?_flatMap (each : ∀ a, (f a).length = m) (l : List α) (i : Nat) {j : Nat} (inside : j < m) :
    (l.flatMap f)[m * i + j]? = l[i]?.bind fun a => (f a)[j]? := by
  rw [← List.getElem?_drop, drop_flatMap each]
  cases there : l[i]? with
  | none =>
    rw [List.drop_eq_nil_of_le (List.getElem?_eq_none_iff.1 there)]
    rfl
  | some a =>
    obtain ⟨short, rfl⟩ := List.getElem?_eq_some_iff.1 there
    rw [List.drop_eq_getElem_cons short, List.flatMap_cons,
      List.getElem?_append_left (by rwa [each])]
    rfl

end Pieces

end Lists

section Results

variable {ε ε' α β : Type} {x : Except ε α} {f : α → Except ε β} {failure : ε} {a : α} {b : β}

@[simp] theorem mapError_ok (g : ε → ε') : (Except.ok a : Except ε α).mapError g = .ok a := rfl

@[simp] theorem mapError_error (g : ε → ε') :
    (Except.error failure : Except ε α).mapError g = .error (g failure) := rfl

theorem mapError_eq_ok_iff {g : ε → ε'} : x.mapError g = .ok a ↔ x = .ok a := by
  cases x <;> simp

theorem bind_of_ok (ran : x = .ok a) : x >>= f = f a := by
  rw [ran]
  rfl

theorem bind_of_error (failed : x = .error failure) : x >>= f = .error failure := by
  rw [failed]
  rfl

theorem exists_of_bind_eq_ok (ran : x >>= f = .ok b) : ∃ a, x = .ok a ∧ f a = .ok b := by
  cases x with
  | error other => cases ran
  | ok a => exact ⟨a, rfl, ran⟩

theorem toOption_eq_some_iff : x.toOption = some a ↔ x = .ok a := by
  cases x <;> simp [Except.toOption]

theorem error_of_bind_eq_error (failed : x >>= f = .error failure) :
    x = .error failure ∨ ∃ a, x = .ok a ∧ f a = .error failure := by
  cases x with
  | error other => cases failed; exact .inl rfl
  | ok a => exact .inr ⟨a, rfl, failed⟩

end Results

end Checkin
