/-
  Loops that may not end.

  A loop works on a state, step by step, and nothing tells in advance that it comes to an end. Its
  result is `none` if it does not:

  * `collect` : all items that a traversal gives (`collect_eq_some_iff` : step by step);
  * `anyItem` : whether some item is of a certain sort (`Drains.exists_anyItem_eq`);
  * `runToEnd` : the state from which there is no step (`runToEnd_eq_some_iff` : after so many);
  * `collect_eq_none`, `anyItem_eq_none`, `runToEnd_eq_none` : loops that do not end, because each
    step leads to a further one;
  * `mapM_eq_some`, `exists_anyM_eq` : loops one after the other, which all end.
-/
namespace AsyncIdioms

/-- The result of a loop; none if the loop does not end. -/
abbrev Loop (α : Type) : Type := Option α

section
variable {σ α : Type}

-- A recursive call is given by `apply`, since a term would keep its place in the file.

section
variable (next : σ → Option (α × σ)) (p : α → Loop Bool)

/-- The items that `next` gives from a state on, one after the other. -/
def collect (s : σ) : Loop (List α) :=
  match next s with
  | none => some []
  | some (x, rest) => do
    let xs ← by apply collect; exact rest
    return x :: xs
partial_fixpoint

/-- Does `p` hold of some item? The items are looked at one after the other until one is found. -/
def anyItem (s : σ) : Loop Bool :=
  match next s with
  | none => some false
  | some (x, rest) => do
    if ← p x then return true
    by apply anyItem; exact rest
partial_fixpoint

end

/-- The last state: the one from which there is no step. -/
def runToEnd (step : σ → Option σ) (s : σ) : Loop σ :=
  match step s with
  | none => some s
  | some s' => by apply runToEnd; exact step; exact s'
partial_fixpoint

/-- The state after that many steps, if there are so many. -/
def afterSteps (step : σ → Option σ) : Nat → σ → Option σ
  | 0, s => some s
  | k + 1, s => (step s).bind (afterSteps step k)

/-! ## Traversals -/

variable {next : σ → Option (α × σ)} {s : σ} {x : α} {xs : List α}

/-- From the state `s` on, `next` gives these items one after the other, and then none. -/
inductive Drains (next : σ → Option (α × σ)) : σ → List α → Prop
  | done {s : σ} (h : next s = none) : Drains next s []
  | more {s s' : σ} {x : α} {xs : List α} (h : next s = some (x, s')) (hrest : Drains next s' xs) :
      Drains next s (x :: xs)

/-- From the state `s` on, `next` gives this item after some steps; it may go on for ever. -/
inductive Gives (next : σ → Option (α × σ)) : σ → α → Prop
  | now {s s' : σ} {x : α} (h : next s = some (x, s')) : Gives next s x
  | later {s s' : σ} {x y : α} (h : next s = some (y, s')) (hrest : Gives next s' x) : Gives next s x

/-- What is collected is what the steps give, so there is a last one of them. -/
theorem collect_eq_some_iff : collect next s = some xs ↔ Drains next s xs := by
  constructor
  · intro h
    refine collect.partial_correctness next (fun s xs => Drains next s xs) ?_ s xs h
    intro go ih s xs h
    split at h
    next hnone =>
      obtain rfl := Option.some.inj h
      exact .done hnone
    next x rest hsome =>
      obtain ⟨ys, hys, hxs⟩ := Option.bind_eq_some_iff.1 h
      obtain rfl := Option.some.inj hxs
      exact .more hsome (ih rest ys hys)
  · intro h
    induction h with
    | done h => rw [collect, h]
    | more h _ ih =>
      rw [collect, h]
      simp only [ih]
      rfl

/-- A search among items that are all decided finds what there is. -/
theorem Drains.exists_anyItem_eq (h : Drains next s xs) {p : α → Loop Bool}
    (hp : ∀ x ∈ xs, ∃ b, p x = some b) :
    ∃ b, anyItem next p s = some b ∧ (b = true ↔ ∃ x ∈ xs, p x = some true) := by
  induction h with
  | done h => exact ⟨false, by rw [anyItem, h], by simp⟩
  | @more s s' x xs h _ ih =>
    obtain ⟨⟨found, hx⟩, hxs⟩ := List.forall_mem_cons.1 hp
    rw [anyItem, h]
    simp only [hx, Option.bind_eq_bind, Option.bind_some]
    cases found with
    | true => exact ⟨true, rfl, by simp [hx]⟩
    | false =>
      obtain ⟨b, hb, hiff⟩ := ih hxs
      exact ⟨b, hb, by simp [hx, hiff]⟩

/-- A traversal in which each step leads to a further one does not end. -/
theorem collect_eq_none {P : σ → Prop} (hs : P s)
    (hstep : ∀ s, P s → ∃ x s', next s = some (x, s') ∧ P s') : collect next s = none := by
  rw [Option.eq_none_iff_forall_ne_some]
  intro xs h
  rw [collect_eq_some_iff] at h
  induction h with
  | done h =>
    obtain ⟨x, s', hnext, -⟩ := hstep _ hs
    simp [h] at hnext
  | more h _ ih =>
    obtain ⟨y, s', hnext, hs'⟩ := hstep _ hs
    rw [h, Option.some.injEq, Prod.mk.injEq] at hnext
    exact ih (hnext.2 ▸ hs')

/-- Nor does a search there, if it is for something that no item has. -/
theorem anyItem_eq_none {P : σ → Prop} {p : α → Loop Bool} (hs : P s)
    (hstep : ∀ s, P s → ∃ x s', next s = some (x, s') ∧ p x ≠ some true ∧ P s') :
    anyItem next p s = none := by
  rw [Option.eq_none_iff_forall_ne_some]
  intro b h
  refine anyItem.partial_correctness next p (fun s _ => ¬ P s) ?_ s b h hs
  intro go ih s b h hs
  obtain ⟨x, s', hnext, hp, hs'⟩ := hstep s hs
  rw [hnext] at h
  obtain ⟨found, hfound, hrest⟩ := Option.bind_eq_some_iff.1 h
  cases found with
  | true => exact hp hfound
  | false => exact ih s' b hrest hs'

/-! ## One after the other -/

section
variable {β : Type} {loop : α → Loop β} {xs : List α}

theorem mapM_eq_some {result : α → β} (h : ∀ x ∈ xs, loop x = some (result x)) :
    xs.mapM loop = some (xs.map result) := by
  induction xs with
  | nil => rfl
  | cons x xs ih =>
    obtain ⟨hx, hxs⟩ := List.forall_mem_cons.1 h
    rw [List.mapM_cons, hx, ih hxs]
    rfl

/-- So does a search in a list. -/
theorem exists_anyM_eq {p : α → Loop Bool} (hp : ∀ x ∈ xs, ∃ b, p x = some b) :
    ∃ b, xs.anyM p = some b ∧ (b = true ↔ ∃ x ∈ xs, p x = some true) := by
  induction xs with
  | nil => exact ⟨false, rfl, by simp⟩
  | cons x xs ih =>
    obtain ⟨⟨found, hx⟩, hxs⟩ := List.forall_mem_cons.1 hp
    simp only [List.anyM, hx, Option.bind_eq_bind, Option.bind_some]
    cases found with
    | true => exact ⟨true, rfl, by simp [hx]⟩
    | false =>
      obtain ⟨b, hb, hiff⟩ := ih hxs
      exact ⟨b, hb, by simp [hx, hiff]⟩

/-- If all is done, each loop has ended. -/
theorem exists_of_mapM_eq_some {ys : List β} (h : xs.mapM loop = some ys) :
    ∀ x ∈ xs, ∃ y, loop x = some y := by
  induction xs generalizing ys with
  | nil => simp
  | cons x xs ih =>
    rw [List.mapM_cons] at h
    obtain ⟨y, hy, hrest⟩ := Option.bind_eq_some_iff.1 h
    obtain ⟨ys, hys, -⟩ := Option.bind_eq_some_iff.1 hrest
    exact List.forall_mem_cons.2 ⟨⟨y, hy⟩, ih hys⟩

end

/-! ## Runs -/

section
variable {step : σ → Option σ} {t : σ}

/-- A run that ends has so many steps. -/
theorem runToEnd_eq_some_iff :
    runToEnd step s = some t ↔ ∃ k, afterSteps step k s = some t ∧ step t = none := by
  constructor
  · intro h
    refine runToEnd.partial_correctness step
      (fun s t => ∃ k, afterSteps step k s = some t ∧ step t = none) ?_ s t h
    intro go ih s t h
    split at h
    next hnone =>
      obtain rfl := Option.some.inj h
      exact ⟨0, rfl, hnone⟩
    next s' hsome =>
      obtain ⟨k, hk, ht⟩ := ih s' t h
      exact ⟨k + 1, by rw [afterSteps, hsome, Option.bind_some, hk], ht⟩
  · rintro ⟨k, hk, ht⟩
    induction k generalizing s with
    | zero =>
      obtain rfl := Option.some.inj hk
      rw [runToEnd, ht]
    | succ k ih =>
      obtain ⟨s', hs', hk⟩ := Option.bind_eq_some_iff.1 hk
      rw [runToEnd, hs']
      exact ih hk

/-- A run that does not end has so many steps, however many these are. -/
theorem exists_afterSteps_eq (h : runToEnd step s = none) (k : Nat) : ∃ t, afterSteps step k s = some t := by
  induction k generalizing s with
  | zero => exact ⟨s, rfl⟩
  | succ k ih =>
    rw [runToEnd] at h
    cases hs : step s with
    | none => simp [hs] at h
    | some s' =>
      rw [hs] at h
      obtain ⟨t, ht⟩ := ih h
      exact ⟨t, by rw [afterSteps, hs, Option.bind_some, ht]⟩

/-- A run in which each step leads to a further one does not end. -/
theorem runToEnd_eq_none {P : σ → Prop} (hs : P s)
    (hstep : ∀ s, P s → ∃ s', step s = some s' ∧ P s') : runToEnd step s = none := by
  rw [Option.eq_none_iff_forall_ne_some]
  intro t h
  obtain ⟨k, hk, ht⟩ := runToEnd_eq_some_iff.1 h
  clear h
  induction k generalizing s with
  | zero =>
    obtain rfl := Option.some.inj hk
    obtain ⟨s', hs', -⟩ := hstep _ hs
    simp [ht] at hs'
  | succ k ih =>
    obtain ⟨s', hs', hP⟩ := hstep _ hs
    rw [afterSteps, hs', Option.bind_some] at hk
    exact ih hP hk

end

end

end AsyncIdioms
