/-
  What it means that an expression matches, and that the search finds it.

  * `Regex.Matches text r i j` : a match of `r` stands in `text` from position `i` to position `j`. It
    says so expression by expression and does not search;
  * `Regex.mem_reach` : the rounds of a repetition find what so many steps lead to, since every position
    that is not fresh has been followed;
  * `Regex.mem_ends` : the search finds the ends of all matches and nothing else. A repetition without a
    bound stops after as many rounds as the text has positions; as matches never go back, no position
    needs more (`Steps.shorten`);
  * `Regex.isMatch_iff`.

  The bounds of a repetition have to be in order (`Regex.Ordered`), as those that a pattern can have are.
-/
import AsyncIdioms.Regex.Basic

namespace AsyncIdioms.Regex

variable {R : Nat → Nat → Prop} {text : Array Char} {i j k m n : Nat}

/-! ## Steps -/

/-- `n` steps one behind the other. -/
def Steps (R : Nat → Nat → Prop) : Nat → Nat → Nat → Prop
  | 0, i, j => i = j
  | n + 1, i, k => ∃ j, R i j ∧ Steps R n j k

theorem Steps.add : ∀ {m : Nat} {i : Nat}, Steps R (m + n) i k ↔ ∃ j, Steps R m i j ∧ Steps R n j k
  | 0, i => by simp [Steps]
  | m + 1, i => by
    rw [Nat.succ_add]
    simp only [Steps, Steps.add]
    exact ⟨fun ⟨p, hp, q, hq, h⟩ => ⟨q, ⟨p, hp, hq⟩, h⟩, fun ⟨q, ⟨p, hp, hq⟩, h⟩ => ⟨p, hp, q, hq, h⟩⟩

/-- Steps that never go back do not go back together. -/
theorem Steps.le (hR : ∀ i j, R i j → i ≤ j) : ∀ {n : Nat} {i : Nat}, Steps R n i j → i ≤ j
  | 0, _, h => Nat.le_of_eq h
  | _ + 1, _, ⟨p, hp, h⟩ => Nat.le_trans (hR _ p hp) (Steps.le hR h)

/-- Of steps that never go back, no more are needed than there are positions to pass. -/
theorem Steps.shorten (hR : ∀ i j, R i j → i ≤ j) : ∀ {n : Nat} {i : Nat}, Steps R n i j →
    ∃ k ≤ j - i, Steps R k i j
  | 0, _, h => ⟨0, Nat.zero_le _, h⟩
  | n + 1, i, ⟨p, hp, h⟩ => by
    obtain ⟨k, hk, hsteps⟩ := Steps.shorten hR h
    have hj := Steps.le hR h
    rcases Nat.eq_or_lt_of_le (hR i p hp) with rfl | hlt
    · -- a step that stays where it is can be left out
      exact ⟨k, hk, hsteps⟩
    · exact ⟨k + 1, by omega, p, hp, hsteps⟩

/-! ## Matches -/

/-- A match of the expression stands in the text from `i` to `j`. -/
def Matches (text : Array Char) : Regex → Nat → Nat → Prop
  | .empty, i, j => i = j
  | .set chars, i, j => (∃ c, text[i]? = some c ∧ chars.has c) ∧ i + 1 = j
  | .look l, i, j => l.holdsAt text i ∧ i = j
  | .cat r s, i, k => ∃ j, Matches text r i j ∧ Matches text s j k
  | .alt r s, i, j => Matches text r i j ∨ Matches text s i j
  | .rep least most r, i, j =>
    ∃ n, least ≤ n ∧ (∀ m, most = some m → n ≤ m) ∧ Steps (Matches text r) n i j

/-- The bounds of all repetitions are in order. -/
def Ordered : Regex → Prop
  | .cat r s | .alt r s => r.Ordered ∧ s.Ordered
  | .rep least most r => (∀ m, most = some m → least ≤ m) ∧ r.Ordered
  | _ => True

theorem Matches.le {r : Regex} (h : r.Matches text i j) : i ≤ j := by
  induction r generalizing i j with
  | empty => exact Nat.le_of_eq h
  | set => exact h.2 ▸ Nat.le_succ i
  | look => exact Nat.le_of_eq h.2
  | cat r s ihr ihs =>
    obtain ⟨p, hr, hs⟩ := h
    exact Nat.le_trans (ihr hr) (ihs hs)
  | alt r s ihr ihs => exact h.elim ihr ihs
  | rep least most r ih =>
    obtain ⟨n, -, -, h⟩ := h
    exact h.le fun _ _ => ih

/-- Matches do not lead out of the text. -/
theorem Matches.le_max {r : Regex} (h : r.Matches text i j) : j ≤ max i text.size := by
  induction r generalizing i j with
  | empty => exact h ▸ Nat.le_max_left ..
  | set =>
    obtain ⟨⟨c, hc, -⟩, rfl⟩ := h
    exact Nat.le_trans (Array.getElem?_eq_some_iff.1 hc).1 (Nat.le_max_right ..)
  | look => exact h.2 ▸ Nat.le_max_left ..
  | cat r s ihr ihs =>
    obtain ⟨p, hr, hs⟩ := h
    have := ihr hr
    have := ihs hs
    omega
  | alt r s ihr ihs => exact h.elim ihr ihs
  | rep least most r ih =>
    obtain ⟨n, -, -, h⟩ := h
    induction n generalizing i with
    | zero => exact h ▸ Nat.le_max_left ..
    | succ n ihn =>
      obtain ⟨p, hp, h⟩ := h
      have := ih hp
      have := ihn h
      omega

/-! ## Searching -/

@[simp]
theorem mem_merge {is js : List Nat} : j ∈ merge is js ↔ j ∈ is ∨ j ∈ js := by
  fun_induction merge is js with
  | case1 => simp
  | case2 => simp
  | case3 a is b js _ ih => rw [List.mem_cons, ih, List.mem_cons (l := is), or_assoc]
  | case4 a is b js _ _ ih => rw [List.mem_cons, ih, List.mem_cons (l := js), or_left_comm]
  | case5 a is b js hab hba ih =>
    obtain rfl : a = b := by omega
    rw [List.mem_cons, ih, List.mem_cons, List.mem_cons, or_or_distrib_left]

theorem mem_times {step : List Nat → List Nat}
    (hstep : ∀ ps k, k ∈ step ps ↔ ∃ p ∈ ps, R p k) : ∀ {n : Nat} {ps : List Nat},
    k ∈ times step n ps ↔ ∃ p ∈ ps, Steps R n p k
  | 0, ps => by simp [times, Steps]
  | n + 1, ps => by
    rw [times]
    split
    · rename_i h
      simp [List.isEmpty_iff.1 h]
    · simp only [mem_times hstep, hstep, Steps]
      exact ⟨fun ⟨q, ⟨p, hp, hq⟩, h⟩ => ⟨p, hp, q, hq, h⟩, fun ⟨p, hp, q, hq, h⟩ => ⟨q, ⟨p, hp, hq⟩, h⟩⟩

/-- Where all that has been seen has been followed, steps find nothing else. -/
theorem Steps.mem_of_closed {seen : List Nat} (hclosed : ∀ p ∈ seen, ∀ q, R p q → q ∈ seen) :
    ∀ {n : Nat} {i : Nat}, Steps R n i k → i ∈ seen → k ∈ seen
  | 0, _, h, hi => h ▸ hi
  | _ + 1, _, ⟨p, hp, h⟩, hi => Steps.mem_of_closed hclosed h (hclosed _ hi p hp)

/-- **The rounds of a repetition.** Only what is fresh has not been followed yet, so that following it
    is enough. -/
theorem mem_reach {step : List Nat → List Nat} (hstep : ∀ ps k, k ∈ step ps ↔ ∃ p ∈ ps, R p k) :
    ∀ {n : Nat} {fresh seen : List Nat}, (∀ p ∈ fresh, p ∈ seen) →
      (∀ p ∈ seen, p ∉ fresh → ∀ q, R p q → q ∈ seen) →
      (k ∈ reach step n fresh seen ↔ ∃ m ≤ n, ∃ p ∈ seen, Steps R m p k)
  | 0, fresh, seen, _, _ => by simp [reach, Steps]
  | n + 1, fresh, seen, hfresh, hfollowed => by
    have hnext : ∀ p, p ∈ (step fresh).filter (!seen.contains ·) ↔ (∃ o ∈ fresh, R o p) ∧ p ∉ seen :=
      fun p => by simp [hstep]
    -- what is not in the next round was seen before
    have hall : ∀ o ∈ seen, ∀ p, R o p → p ∈ seen ∨ p ∈ (step fresh).filter (!seen.contains ·) := by
      intro o ho p hop
      by_cases hp : p ∈ seen
      · exact Or.inl hp
      · by_cases hof : o ∈ fresh
        · exact Or.inr ((hnext p).2 ⟨⟨o, hof, hop⟩, hp⟩)
        · exact Or.inl (hfollowed o ho hof p hop)
    rw [reach]
    split
    · rename_i hnone
      rw [List.isEmpty_iff] at hnone
      simp only [hnone, List.not_mem_nil, or_false] at hall
      exact ⟨fun h => ⟨0, Nat.zero_le _, k, h, rfl⟩, fun ⟨m, _, p, hp, h⟩ => h.mem_of_closed hall hp⟩
    · rw [mem_reach hstep (fun p hp => mem_merge.2 (Or.inr hp)) fun p hp hpn q hpq =>
        mem_merge.2 (hall p ((mem_merge.1 hp).resolve_right hpn) q hpq)]
      constructor
      · rintro ⟨m, hm, p, hp, h⟩
        rcases mem_merge.1 hp with hp | hp
        · exact ⟨m, by omega, p, hp, h⟩
        · obtain ⟨⟨o, ho, hop⟩, -⟩ := (hnext p).1 hp
          exact ⟨m + 1, by omega, o, hfresh o ho, p, hop, h⟩
      · rintro ⟨m, hm, p, hp, h⟩
        cases m with
        | zero => exact ⟨0, Nat.zero_le _, p, mem_merge.2 (Or.inl hp), h⟩
        | succ m =>
          obtain ⟨q, hpq, h⟩ := h
          exact ⟨m, by omega, q, mem_merge.2 (hall p hp q hpq), h⟩

theorem mem_reach_times {step : List Nat → List Nat} (hstep : ∀ ps k, k ∈ step ps ↔ ∃ p ∈ ps, R p k)
    {least rounds : Nat} {ps : List Nat} :
    k ∈ reach step rounds (times step least ps) (times step least ps) ↔
      ∃ p ∈ ps, ∃ m ≤ rounds, Steps R (least + m) p k := by
  rw [mem_reach hstep (fun _ h => h) fun p hp hpn => absurd hp hpn]
  simp only [mem_times hstep, Steps.add]
  exact ⟨fun ⟨m, hm, q, ⟨p, hp, hq⟩, h⟩ => ⟨p, hp, m, hm, q, hq, h⟩,
    fun ⟨p, hp, m, hm, q, hq, h⟩ => ⟨m, hm, q, ⟨p, hp, hq⟩, h⟩⟩

/-- Between two bounds, there are as many rounds as they allow. -/
theorem matches_rep_some {least most : Nat} {r : Regex} (h : least ≤ most) :
    (rep least (some most) r).Matches text i k ↔
      ∃ m ≤ most - least, Steps (r.Matches text) (least + m) i k := by
  constructor
  · rintro ⟨n, hleast, hmost, hn⟩
    obtain ⟨m, rfl⟩ := Nat.exists_eq_add_of_le hleast
    have := hmost most rfl
    exact ⟨m, by omega, hn⟩
  · rintro ⟨m, hm, hn⟩
    exact ⟨least + m, Nat.le_add_right .., fun b hb => by cases hb; omega, hn⟩

/-- Without a bound, there are as many rounds as can find something. -/
theorem matches_rep_none {least : Nat} {r : Regex} : (rep least none r).Matches text i k ↔
    ∃ m ≤ text.size + 1, Steps (r.Matches text) (least + m) i k := by
  constructor
  · intro hmatch
    have hk := hmatch.le_max
    obtain ⟨n, hleast, -, hn⟩ := hmatch
    obtain ⟨m, rfl⟩ := Nat.exists_eq_add_of_le hleast
    -- the repetitions that must be there stay, and of the others as few as possible are made
    obtain ⟨j, hj, hm⟩ := Steps.add.1 hn
    have hij := hj.le fun _ _ => Matches.le
    obtain ⟨m, hle, hm⟩ := hm.shorten fun _ _ => Matches.le
    exact ⟨m, by omega, Steps.add.2 ⟨j, hj, hm⟩⟩
  · rintro ⟨m, -, hn⟩
    exact ⟨least + m, Nat.le_add_right .., fun _ hb => (nomatch hb), hn⟩

/-- **The search finds the ends of all matches**, and nothing else. -/
theorem mem_ends {r : Regex} (hr : r.Ordered) (ps : List Nat) (k : Nat) :
    k ∈ r.ends text ps ↔ ∃ p ∈ ps, r.Matches text p k := by
  induction r generalizing ps k with
  | empty => simp [ends, Matches]
  | set chars =>
    simp only [ends, List.mem_map, List.mem_filter, Option.any_eq_true, Matches]
    exact ⟨fun ⟨p, ⟨hp, h⟩, hk⟩ => ⟨p, hp, h, hk⟩, fun ⟨p, hp, h, hk⟩ => ⟨p, ⟨hp, h⟩, hk⟩⟩
  | look l =>
    simp only [ends, List.mem_filter, Matches]
    exact ⟨fun ⟨hk, h⟩ => ⟨k, hk, h, rfl⟩, fun ⟨p, hp, h, hk⟩ => hk ▸ ⟨hp, h⟩⟩
  | cat r s ihr ihs =>
    simp only [ends, ihs hr.2, ihr hr.1, Matches]
    exact ⟨fun ⟨q, ⟨p, hp, hq⟩, h⟩ => ⟨p, hp, q, hq, h⟩, fun ⟨p, hp, q, hq, h⟩ => ⟨q, ⟨p, hp, hq⟩, h⟩⟩
  | alt r s ihr ihs =>
    simp only [ends, mem_merge, ihr hr.1, ihs hr.2, Matches, and_or_left, exists_or]
  | rep least most r ih =>
    obtain ⟨hbounds, hr⟩ := hr
    cases most with
    | some bound =>
      simp only [ends, mem_reach_times (ih hr), matches_rep_some (hbounds bound rfl)]
    | none => simp only [ends, mem_reach_times (ih hr), matches_rep_none]

/-- **Searching a text.** An expression matches somewhere in it if there are two positions between which
    it matches. -/
theorem isMatch_iff {r : Regex} (hr : r.Ordered) {s : String} :
    r.isMatch s ↔ ∃ i ≤ s.toList.length, ∃ j, r.Matches s.toList.toArray i j := by
  rw [isMatch, Bool.not_eq_true', List.isEmpty_eq_false_iff_exists_mem]
  simp only [mem_ends hr, List.mem_range, List.size_toArray, Nat.lt_succ_iff]
  exact ⟨fun ⟨j, i, hi, h⟩ => ⟨i, hi, j, h⟩, fun ⟨i, hi, j, h⟩ => ⟨j, i, hi, h⟩⟩

end AsyncIdioms.Regex
