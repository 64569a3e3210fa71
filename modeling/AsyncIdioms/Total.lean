/-
  Sums of numbers. They measure what is left to do where a computation works off a list:

  * `total_append` : of two lists one behind the other;
  * `total_set_add` : of a list in which one number is changed.
-/
namespace AsyncIdioms

/-- The sum of the numbers. -/
def total : List Nat → Nat
  | [] => 0
  | n :: ns => n + total ns

@[simp]
theorem total_nil : total [] = 0 := rfl

@[simp]
theorem total_cons (n : Nat) (ns : List Nat) : total (n :: ns) = n + total ns := rfl

@[simp]
theorem total_append (ms ns : List Nat) : total (ms ++ ns) = total ms + total ns := by
  induction ms with
  | nil => simp
  | cons m ms ih => simp [ih, Nat.add_assoc]

theorem length_flatMap_eq_total {α β : Type} (f : α → List β) (xs : List α) :
    (xs.flatMap f).length = total (xs.map fun x => (f x).length) := by
  induction xs with
  | nil => rfl
  | cons x xs ih => rw [List.flatMap_cons, List.length_append, ih, List.map_cons, total_cons]

theorem le_total_of_mem {n : Nat} {ns : List Nat} (h : n ∈ ns) : n ≤ total ns := by
  induction ns with
  | nil => simp at h
  | cons m ns ih =>
    rw [total_cons]
    rcases List.mem_cons.1 h with rfl | h
    · exact Nat.le_add_right _ _
    · exact Nat.le_trans (ih h) (Nat.le_add_left _ _)

theorem total_set_add : ∀ (ns : List Nat) (i n : Nat) (h : i < ns.length),
    total (ns.set i n) + ns[i] = total ns + n
  | [], _, _, h => by simp at h
  | m :: ns, 0, n, _ => by
    simp only [List.set_cons_zero, total_cons, List.getElem_cons_zero]
    omega
  | m :: ns, i + 1, n, h => by
    have := total_set_add ns i n (by simpa using h)
    simp only [List.set_cons_succ, total_cons, List.getElem_cons_succ]
    omega

end AsyncIdioms
