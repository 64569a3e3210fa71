/-
  The order of evaluation, by rule numbers.

  * `foldlM_ok` : a loop whose steps succeed and keep an invariant succeeds, and the invariant holds
    at its end;
  * `Catalog.Counted`, `Agenda.Sound` : what holds of the counts once they are made, and of the
    agenda whenever a rule is about to be taken. A count is the number of rules looked at that are
    not taken yet;
  * `Agenda.work_sound` : taking rules never leaves the range of numbers or lowers a count of zero,
    and stops only where every rule that is left looks at one that is left;
  * `Catalog.evaluationOrder_spec` : the order contains every rule once, behind the rules that it
    looks at, or else there are rules left of which each looks at another one of them.
-/
import Mathlib.Data.List.Induction
import Mathlib.Data.List.Nodup
import Mathlib.Data.List.Perm.Subperm
import AsyncIdioms.Classifier.Order

namespace AsyncIdioms

variable {α σ ε : Type}

/-! ## Loops that can fail -/

theorem foldlM_ok (f : σ → α → Except ε σ) (xs : List α) (Inv : List α → σ → Prop) {s : σ}
    (hinit : Inv [] s)
    (hstep : ∀ done x rest s, xs = done ++ x :: rest → Inv done s →
      ∃ s', f s x = .ok s' ∧ Inv (done ++ [x]) s') :
    ∃ s', xs.foldlM f s = .ok s' ∧ Inv xs s' := by
  -- the induction is on what is left, with what is done in the invariant
  suffices h : ∀ (todo done : List α) (s : σ), xs = done ++ todo → Inv done s →
      ∃ s', todo.foldlM f s = .ok s' ∧ Inv xs s' from h xs [] s rfl hinit
  intro todo
  induction todo with
  | nil =>
    intro done s hxs hs
    obtain rfl : xs = done := by simpa using hxs
    exact ⟨s, rfl, hs⟩
  | cons x todo ih =>
    intro done s hxs hs
    obtain ⟨s', hf, hs'⟩ := hstep done x todo s hxs hs
    obtain ⟨s'', hfold, hs''⟩ := ih (done ++ [x]) s' (by simpa using hxs) hs'
    exact ⟨s'', by rw [List.foldlM_cons, hf]; exact hfold, hs''⟩

theorem elementAt_of_getElem? {xs : Array α} {i : Nat} {x : α} (h : xs[i]? = some x) :
    elementAt xs i = .ok x := elementAt_eq_ok_iff.2 (Array.getElem?_eq_some_iff.1 h)

theorem setAt_of_lt {xs : Array α} {i : Nat} (h : i < xs.size) (x : α) :
    ∃ ys, setAt xs i x = .ok ys ∧ ys.size = xs.size ∧ ∀ j, ys[j]? = if i = j then some x else xs[j]? :=
  ⟨xs.set i x, setAt_eq_ok_iff.2 ⟨h, rfl⟩, Array.size_set .., fun _ => Array.getElem?_set h⟩

/-! ## Increasing lists -/

@[simp]
theorem mem_insertAscending {i j : Nat} : ∀ {is : List Nat}, j ∈ insertAscending i is ↔ j = i ∨ j ∈ is
  | [] => by simp [insertAscending]
  | k :: rest => by
    rw [insertAscending]
    split
    · simp
    · split
      · rename_i h
        simp [h]
      · simp only [List.mem_cons, mem_insertAscending]
        tauto

theorem pairwise_insertAscending {i : Nat} : ∀ {is : List Nat}, is.Pairwise (· < ·) →
    (insertAscending i is).Pairwise (· < ·)
  | [], _ => by simp [insertAscending]
  | k :: rest, h => by
    obtain ⟨hk, hrest⟩ := List.pairwise_cons.1 h
    rw [insertAscending]
    split
    · rename_i hik
      refine List.pairwise_cons.2 ⟨fun j hj => ?_, h⟩
      rcases List.mem_cons.1 hj with rfl | hj
      · exact hik
      · exact Nat.lt_trans hik (hk j hj)
    · split
      · exact h
      · refine List.pairwise_cons.2 ⟨fun j hj => ?_, pairwise_insertAscending hrest⟩
        rcases mem_insertAscending.1 hj with rfl | hj
        · omega
        · exact hk j hj

theorem ascending_spec (is : List Nat) :
    (ascending is).Pairwise (· < ·) ∧ ∀ j, j ∈ ascending is ↔ j ∈ is := by
  suffices h : ∀ (sorted : List Nat), sorted.Pairwise (· < ·) →
      (is.foldl (fun sorted i => insertAscending i sorted) sorted).Pairwise (· < ·) ∧
        ∀ j, j ∈ is.foldl (fun sorted i => insertAscending i sorted) sorted ↔ j ∈ sorted ∨ j ∈ is by
    simpa [ascending] using h [] List.Pairwise.nil
  induction is with
  | nil => simp
  | cons i is ih =>
    intro sorted hs
    obtain ⟨h1, h2⟩ := ih (insertAscending i sorted) (pairwise_insertAscending hs)
    refine ⟨h1, fun j => ?_⟩
    rw [List.foldl_cons, h2, mem_insertAscending, List.mem_cons]
    tauto

/-! ## The last one -/

theorem lastIndex?_concat (p : α → Bool) (xs : List α) (x : α) :
    lastIndex? p (xs ++ [x]) = if p x then some xs.length else lastIndex? p xs := by
  simp [lastIndex?, List.zipIdx_append]

theorem lastIndex?_map {β : Type} (p : β → Bool) (f : α → β) (xs : List α) :
    lastIndex? p (xs.map f) = lastIndex? (fun x => p (f x)) xs := by
  rw [lastIndex?, List.zipIdx_map, List.foldl_map]
  rfl

theorem lastIndex?_eq_some_iff {p : α → Bool} {xs : List α} {j : Nat} : lastIndex? p xs = some j ↔
    ∃ h : j < xs.length, p xs[j] ∧ ∀ k (hk : k < xs.length), j < k → ¬ p xs[k] := by
  induction xs using List.reverseRecOn with
  | nil => simp [lastIndex?]
  | append_singleton xs x ih =>
    rw [lastIndex?_concat]
    split
    case isTrue hx =>
      -- the last one has the property, and nothing stands behind it
      constructor
      · rintro ⟨⟩
        exact ⟨by simp, by simpa using hx, fun k hk hlt => by simp at hk; omega⟩
      · rintro ⟨hj, -, hlast⟩
        rw [List.length_append, List.length_singleton] at hj
        by_contra hne
        have hlt : j < xs.length := by
          have : xs.length ≠ j := fun h => hne (congrArg some h)
          omega
        exact hlast xs.length (by simp) hlt (by simpa using hx)
    case isFalse hx =>
      rw [ih]
      constructor
      · rintro ⟨hj, hp, hlast⟩
        refine ⟨by simp; omega, by simpa [List.getElem_append_left hj] using hp, fun k hk hlt => ?_⟩
        by_cases hkx : k < xs.length
        · simpa [List.getElem_append_left hkx] using hlast k hkx hlt
        · obtain rfl : k = xs.length := by simp at hk; omega
          simpa using hx
      · rintro ⟨hj, hp, hlast⟩
        have hlt : j < xs.length := by
          by_contra hge
          obtain rfl : j = xs.length := by simp at hj; omega
          exact hx (by simpa using hp)
        refine ⟨hlt, by simpa [List.getElem_append_left hlt] using hp, fun k hk hjk => ?_⟩
        have hlast := hlast k (by simp; omega) hjk
        rwa [List.getElem_append_left hk] at hlast

/-! ## Counts -/

namespace Catalog

variable (c : Catalog)

/-- The numbers of the rules that rule `i` looks at. -/
def dependenciesAt (i : Nat) : List Nat := (c.rules[i]?).elim [] c.dependencyIndices

variable {c}

theorem index?_eq_some_iff {t : Tag} {j : Nat} : c.index? t = some j ↔
    ∃ h : j < c.rules.length, c.rules[j].tag = t ∧
      ∀ k (hk : k < c.rules.length), j < k → c.rules[k].tag ≠ t := by
  simp [index?, lastIndex?_eq_some_iff]

theorem mem_dependenciesAt {i j : Nat} : j ∈ c.dependenciesAt i ↔
    ∃ r, c.rules[i]? = some r ∧ ∃ t ∈ r.dependencies, c.index? t = some j := by
  cases h : c.rules[i]? with
  | none => simp [dependenciesAt, h]
  | some r => simp [dependenciesAt, h, dependencyIndices, (ascending_spec _).2]

theorem nodup_dependenciesAt (i : Nat) : (c.dependenciesAt i).Nodup := by
  cases h : c.rules[i]? with
  | none => simp [dependenciesAt, h]
  | some r =>
    simp only [dependenciesAt, h, Option.elim_some]
    exact (ascending_spec _).1.imp Nat.ne_of_lt

theorem dependenciesAt_lt {i j : Nat} (h : j ∈ c.dependenciesAt i) :
    i < c.rules.length ∧ j < c.rules.length := by
  obtain ⟨r, hr, t, -, ht⟩ := mem_dependenciesAt.1 h
  exact ⟨(List.getElem?_eq_some_iff.1 hr).1, (index?_eq_some_iff.1 ht).1⟩

variable (c)

/-- The counts are right as far as the first `k` rules are noted. -/
structure Counted (k : Nat) (w : Waiting) : Prop where
  size_pending : w.pending.size = c.rules.length
  size_dependents : w.dependents.size = c.rules.length
  pending : ∀ i < k, w.pending[i]? = some (c.dependenciesAt i).length
  dependents : ∀ j < c.rules.length, ∃ is, w.dependents[j]? = some is ∧ is.Nodup ∧
    ∀ i, i ∈ is ↔ i < k ∧ j ∈ c.dependenciesAt i

variable {c}

theorem Counted.note_dependents {k : Nat} {w : Waiting} (h : c.Counted k w) :
    ∃ ds, (c.dependenciesAt k).foldlM (fun ds j => do setAt ds j ((← elementAt ds j) ++ [k]))
        w.dependents = .ok ds ∧ ds.size = c.rules.length ∧
      ∀ j < c.rules.length, ∃ is, ds[j]? = some is ∧ is.Nodup ∧
        ∀ i, i ∈ is ↔ (i < k ∧ j ∈ c.dependenciesAt i) ∨ (i = k ∧ j ∈ c.dependenciesAt k) := by
  refine foldlM_ok _ _ (fun done (ds : Array (List Nat)) => ds.size = c.rules.length ∧
      ∀ j < c.rules.length, ∃ is, ds[j]? = some is ∧ is.Nodup ∧
        ∀ i, i ∈ is ↔ (i < k ∧ j ∈ c.dependenciesAt i) ∨ (i = k ∧ j ∈ done))
    ⟨h.size_dependents, by simpa using h.dependents⟩ ?_
  rintro done j rest ds hxs ⟨hds, hdep⟩
  have hj : j < c.rules.length := (dependenciesAt_lt (i := k) (by simp [hxs])).2
  -- rule `k` is added once, since the dependencies are listed once
  have hdone : j ∉ done := fun hmem =>
    (List.nodup_append.1 (hxs ▸ nodup_dependenciesAt k)).2.2 j hmem j (by simp) rfl
  obtain ⟨is, his, hnd, hmem⟩ := hdep j hj
  obtain ⟨ds', hset, hsize, hget⟩ := setAt_of_lt (hds ▸ hj) (is ++ [k])
  refine ⟨ds', bind_eq_ok_iff.2 ⟨is, elementAt_of_getElem? his, hset⟩, hsize.trans hds, ?_⟩
  intro j' hj'
  rw [hget]
  split
  · rename_i hjj
    subst hjj
    have hk : k ∉ is := by simp [hmem, hdone]
    refine ⟨_, rfl, List.concat_eq_append ▸ List.Nodup.concat hk hnd, fun i => ?_⟩
    simp only [List.mem_append, hmem, List.mem_singleton, hdone]
    tauto
  · rename_i hjj
    obtain ⟨is', his', hnd', hmem'⟩ := hdep j' hj'
    refine ⟨is', his', hnd', fun i => ?_⟩
    have : j' ≠ j := fun h => hjj h.symm
    simp [hmem', this]

theorem Counted.note {k : Nat} {w : Waiting} (h : c.Counted k w) (hk : k < c.rules.length) :
    ∃ w', w.note k (c.dependenciesAt k) = .ok w' ∧ c.Counted (k + 1) w' := by
  obtain ⟨pending, hset, hsize, hget⟩ :=
    setAt_of_lt (h.size_pending ▸ hk) (c.dependenciesAt k).length
  obtain ⟨ds, hfold, hds, hdep⟩ := h.note_dependents
  refine ⟨⟨pending, ds⟩, bind_eq_ok_iff.2 ⟨_, hset, bind_eq_ok_iff.2 ⟨_, hfold, rfl⟩⟩,
    hsize.trans h.size_pending, hds, fun i hi => ?_, fun j hj => ?_⟩
  · rw [hget]
    split
    · rename_i hik
      rw [hik]
    · exact h.pending i (by omega)
  · obtain ⟨is, his, hnd, hmem⟩ := hdep j hj
    refine ⟨is, his, hnd, fun i => (hmem i).trans ⟨?_, fun ⟨hi, hij⟩ => ?_⟩⟩
    · rintro (⟨hi, hij⟩ | ⟨rfl, hij⟩)
      · exact ⟨by omega, hij⟩
      · exact ⟨by omega, hij⟩
    · rcases Nat.lt_or_eq_of_le (Nat.le_of_lt_succ hi) with hi | rfl
      · exact Or.inl ⟨hi, hij⟩
      · exact Or.inr ⟨rfl, hij⟩

/-- Counting succeeds. -/
theorem waiting_counted (c : Catalog) : ∃ w, c.waiting = .ok w ∧ c.Counted c.rules.length w := by
  obtain ⟨w, hw, hc⟩ := foldlM_ok
    (fun (w : Waiting) (x : Rule × Nat) => w.note x.2 (c.dependencyIndices x.1))
    c.rules.zipIdx (fun done w => c.Counted done.length w)
    (s := ⟨Array.replicate c.rules.length 0, Array.replicate c.rules.length []⟩)
    ⟨by simp, by simp, by simp, fun j hj => ⟨[], by simp [hj], by simp, by simp⟩⟩
    (fun done x rest w hxs hc => by
      have hx : c.rules.zipIdx[done.length]? = some x := by simp [hxs]
      obtain ⟨r, hr, rfl⟩ : ∃ r, c.rules[done.length]? = some r ∧ (r, done.length) = x := by
        simpa [List.getElem?_zipIdx] using hx
      have hdeps : c.dependencyIndices r = c.dependenciesAt done.length := by simp [dependenciesAt, hr]
      rw [hdeps, List.length_append]
      exact hc.note (List.getElem?_eq_some_iff.1 hr).1)
  exact ⟨w, hw, by simpa using hc⟩

/-! ## Taking the rules -/

variable (c) in
/-- The rules that rule `i` looks at and that are not in `order`. -/
def outstanding (order : List Nat) (i : Nat) : List Nat :=
  (c.dependenciesAt i).filter (· ∉ order)

theorem outstanding_eq_nil_iff {order : List Nat} {i : Nat} :
    c.outstanding order i = [] ↔ ∀ j ∈ c.dependenciesAt i, j ∈ order := by
  simp [outstanding, List.filter_eq_nil_iff]

theorem outstanding_concat (order : List Nat) (i k : Nat) :
    c.outstanding (order ++ [i]) k = (c.outstanding order k).erase i := by
  have hnd : (c.outstanding order k).Nodup := (nodup_dependenciesAt k).filter _
  rw [hnd.erase_eq_filter, outstanding, outstanding, List.filter_filter]
  refine List.filter_congr fun j _ => ?_
  rw [Bool.eq_iff_iff]
  simp [and_comm]

/-- Taking a rule settles one dependency of the rules that look at it. -/
theorem length_outstanding {order : List Nat} {i : Nat} (hi : i ∉ order) (k : Nat) :
    (c.outstanding order k).length =
      (c.outstanding (order ++ [i]) k).length + if i ∈ c.dependenciesAt k then 1 else 0 := by
  rw [outstanding_concat]
  split
  · rename_i h
    have hmem : i ∈ c.outstanding order k := by simp [outstanding, h, hi]
    have := List.length_pos_of_mem hmem
    rw [List.length_erase_of_mem hmem]
    omega
  · rename_i h
    have hmem : i ∉ c.outstanding order k := by simp [outstanding, h]
    rw [List.erase_of_not_mem hmem, Nat.add_zero]

end Catalog

namespace Agenda

variable {c : Catalog} {a : Agenda}

/-- The counts while rules are released: those in `todo` still wait for the rule taken last. -/
structure Counts (c : Catalog) (todo : List Nat) (a : Agenda) : Prop where
  size_pending : a.pending.size = c.rules.length
  pending : ∀ i < c.rules.length, a.pending[i]? =
    some ((c.outstanding a.order i).length + if i ∈ todo then 1 else 0)
  sorted : a.ready.Pairwise (· < ·)
  mem_ready : ∀ i, i ∈ a.ready ↔
    i < c.rules.length ∧ i ∉ a.order ∧ c.outstanding a.order i = [] ∧ i ∉ todo

/-- What holds whenever a rule is about to be taken. -/
structure Sound (c : Catalog) (a : Agenda) : Prop extends Counts c [] a where
  nodup : a.order.Nodup
  behind : ∀ before i after, a.order = before ++ i :: after →
    i < c.rules.length ∧ ∀ j ∈ c.dependenciesAt i, j ∈ before

/-- Releasing a rule never lowers a count of zero. -/
theorem Counts.release {i : Nat} {todo : List Nat} (h : a.Counts c (i :: todo))
    (hi : i < c.rules.length) (horder : i ∉ a.order) (htodo : i ∉ todo) :
    ∃ a', a.release i = .ok a' ∧ a'.order = a.order ∧ a'.Counts c todo := by
  have hget := h.pending i hi
  rw [if_pos (List.mem_cons_self ..)] at hget
  obtain ⟨hlt, hcount⟩ := Array.getElem?_eq_some_iff.1 hget
  refine ⟨_, release_eq_ok_iff.2 ⟨hlt, _, hcount, rfl⟩, rfl, ?_⟩
  refine ⟨by simp [h.size_pending], fun k hk => ?_, ?_, fun k => ?_⟩
  · simp only [Array.getElem?_set]
    split
    · rename_i hik
      subst hik
      simp [htodo]
    · rename_i hik
      rw [h.pending k hk]
      simp [Ne.symm hik]
  · dsimp only
    split
    · exact pairwise_insertAscending h.sorted
    · exact h.sorted
  · dsimp only
    by_cases hik : k = i
    · subst hik
      split <;> simp_all [h.mem_ready]
    · split <;> simp [h.mem_ready, hik]

theorem Counts.foldlM_release : ∀ {todo : List Nat} {a : Agenda}, a.Counts c todo → todo.Nodup →
    (∀ i ∈ todo, i < c.rules.length ∧ i ∉ a.order) →
    ∃ a', todo.foldlM Agenda.release a = .ok a' ∧ a'.order = a.order ∧ a'.Counts c []
  | [], a, h, _, _ => ⟨a, rfl, rfl, h⟩
  | i :: todo, a, h, hnd, hmem => by
    obtain ⟨htodo, hnd⟩ := List.nodup_cons.1 hnd
    obtain ⟨hi, horder⟩ := hmem i (List.mem_cons_self ..)
    obtain ⟨b, hb, hbo, hbc⟩ := h.release hi horder htodo
    obtain ⟨a', ha', hao, hac⟩ := hbc.foldlM_release hnd
      fun k hk => hbo ▸ hmem k (List.mem_cons_of_mem _ hk)
    exact ⟨a', by rw [List.foldlM_cons, hb]; exact ha', hao.trans hbo, hac⟩

/-- The counts right after rule `i` is taken, before the rules that look at it are released. -/
theorem Sound.counts_take {i : Nat} {ready next : List Nat} (h : a.Sound c)
    (hready : a.ready = i :: ready)
    (hnext : ∀ k, k ∈ next ↔ k < c.rules.length ∧ i ∈ c.dependenciesAt k) :
    Counts c next { a with ready, order := a.order ++ [i] } := by
  obtain ⟨hi, horder, hsettled, -⟩ := (h.mem_ready i).1 (by simp [hready])
  obtain ⟨hlt, hsorted⟩ := List.pairwise_cons.1 (hready ▸ h.sorted)
  refine ⟨h.size_pending, fun k hk => ?_, hsorted, fun k => ?_⟩
  · rw [h.pending k hk, Catalog.length_outstanding horder]
    simp [hnext, hk]
  · have hk := h.mem_ready k
    rw [hready, List.mem_cons] at hk
    by_cases hki : k = i
    · subst hki
      simpa using fun hmem => absurd (hlt k hmem) (Nat.lt_irrefl k)
    · by_cases hdep : i ∈ c.dependenciesAt k
      · -- rule `k` waited for rule `i`, so it was not ready and is in `next`
        have : i ∈ c.outstanding a.order k := by simp [Catalog.outstanding, hdep, horder]
        have hne := List.ne_nil_of_mem this
        simp only [hki, hne, false_or, false_and, and_false, iff_false] at hk
        simpa [hk, hnext, hdep, hki] using fun h1 h2 h3 => h1
      · have : i ∉ c.outstanding a.order k := by simp [Catalog.outstanding, hdep]
        rw [Catalog.outstanding_concat, List.erase_of_not_mem this]
        simpa [hki, hnext, hdep] using hk

theorem behind_concat {c : Catalog} {order : List Nat} {i : Nat}
    (h : ∀ before k after, order = before ++ k :: after →
      k < c.rules.length ∧ ∀ j ∈ c.dependenciesAt k, j ∈ before)
    (hi : i < c.rules.length) (hdeps : ∀ j ∈ c.dependenciesAt i, j ∈ order) :
    ∀ before k after, order ++ [i] = before ++ k :: after →
      k < c.rules.length ∧ ∀ j ∈ c.dependenciesAt k, j ∈ before := by
  intro before k after heq
  rcases List.eq_nil_or_concat after with rfl | ⟨after, z, rfl⟩
  · obtain ⟨rfl, hik⟩ := List.append_inj' heq rfl
    obtain rfl : i = k := by simpa using hik
    exact ⟨hi, hdeps⟩
  · have heq' : order ++ [i] = (before ++ k :: after) ++ [z] := by simpa using heq
    exact h before k after (List.append_inj' heq' rfl).1

/-- Taking a rule succeeds and keeps all in order. -/
theorem Sound.take {w : Waiting} (hw : c.Counted c.rules.length w) {i : Nat} {ready : List Nat}
    (h : a.Sound c) (hready : a.ready = i :: ready) :
    ∃ a', a.take w.dependents i ready = .ok a' ∧ a'.Sound c := by
  obtain ⟨hi, horder, hsettled, -⟩ := (h.mem_ready i).1 (by simp [hready])
  obtain ⟨next, hnext, hnd, hmem⟩ := hw.dependents i hi
  have hdeps := Catalog.outstanding_eq_nil_iff.1 hsettled
  -- what looks at rule `i` is not taken yet, for rule `i` was not
  have hfree : ∀ k ∈ next, k < c.rules.length ∧ k ∉ a.order ++ [i] := by
    intro k hk
    obtain ⟨hlt, hki⟩ := (hmem k).1 hk
    refine ⟨hlt, fun hko => ?_⟩
    rcases List.mem_append.1 hko with hko | hko
    · obtain ⟨before, after, heq⟩ := List.append_of_mem hko
      exact horder (heq ▸ List.mem_append_left _ ((h.behind before k after heq).2 i hki))
    · obtain rfl := List.mem_singleton.1 hko
      exact horder (hdeps k hki)
  obtain ⟨a', ha', hao, hac⟩ := (h.counts_take hready hmem).foldlM_release hnd hfree
  refine ⟨a', bind_eq_ok_iff.2 ⟨next, elementAt_of_getElem? hnext, ha'⟩, hac, ?_, ?_⟩
  · rw [hao]
    exact List.concat_eq_append ▸ List.Nodup.concat horder h.nodup
  · rw [hao]
    exact behind_concat h.behind hi hdeps

theorem work_of_ready_nil {dependents : Array (List Nat)} (h : a.ready = []) :
    a.work dependents = .ok a := by
  rw [work]
  split
  · rfl
  · rename_i hr
    simp [h] at hr

theorem work_of_take {dependents : Array (List Nat)} {i : Nat} {ready : List Nat} {a' : Agenda}
    (h : a.ready = i :: ready) (ht : a.take dependents i ready = .ok a') :
    a.work dependents = a'.work dependents := by
  rw [work]
  split
  · rename_i hr
    simp [h] at hr
  · rename_i hr
    obtain ⟨rfl, rfl⟩ := List.cons.inj (h.symm.trans hr)
    split
    · rename_i b hb
      rw [Except.ok.inj (ht.symm.trans hb)]
    · rename_i hb
      rw [ht] at hb
      contradiction

/-- **Taking rules always comes to an end with none ready**, and all in order. -/
theorem Sound.work {w : Waiting} (hw : c.Counted c.rules.length w) (h : a.Sound c) :
    ∃ a', a.work w.dependents = .ok a' ∧ a'.Sound c ∧ a'.ready = [] := by
  induction a using Agenda.work.induct w.dependents with
  | case1 a hready => exact ⟨a, work_of_ready_nil hready, h, hready⟩
  | case2 a i ready hready b htake ih =>
    obtain ⟨b', hb', hbs⟩ := h.take hw hready
    obtain rfl : b = b' := Except.ok.inj (htake.symm.trans hb')
    rw [work_of_take hready htake]
    exact ih hbs
  | case3 a i ready hready fault htake =>
    obtain ⟨b', hb', -⟩ := h.take hw hready
    exact nomatch htake.symm.trans hb'

theorem initiallyReady_ok {pending : Array Nat} {n : Nat} (h : n ≤ pending.size) :
    ∃ ready, initiallyReady pending n = .ok ready ∧ ready.Pairwise (· < ·) ∧
      ∀ i, i ∈ ready ↔ i < n ∧ pending[i]? = some 0 := by
  have hrange (i : Nat) : i < n ↔ i ∈ List.range n := by simp
  simp only [hrange]
  refine foldlM_ok _ _ (fun done (ready : List Nat) => ready.Pairwise (· < ·) ∧
    ∀ i, i ∈ ready ↔ i ∈ done ∧ pending[i]? = some 0) (by simp) ?_
  rintro done i rest ready hxs ⟨hsorted, hmem⟩
  have hi : i < pending.size := Nat.lt_of_lt_of_le ((hrange i).2 (by simp [hxs])) h
  have hget : pending[i]? = some pending[i] := Array.getElem?_eq_getElem hi
  by_cases hzero : pending[i] = 0
  · refine ⟨insertAscending i ready, bind_eq_ok_iff.2 ⟨_, elementAt_of_getElem? hget, ?_⟩,
      pairwise_insertAscending hsorted, fun k => ?_⟩
    · rw [if_pos hzero]
      rfl
    · rw [mem_insertAscending, hmem, List.mem_append, List.mem_singleton]
      constructor
      · rintro (rfl | ⟨hk, h0⟩)
        · exact ⟨Or.inr rfl, hget.trans (congrArg some hzero)⟩
        · exact ⟨Or.inl hk, h0⟩
      · rintro ⟨hk | rfl, h0⟩
        · exact Or.inr ⟨hk, h0⟩
        · exact Or.inl rfl
  · refine ⟨ready, bind_eq_ok_iff.2 ⟨_, elementAt_of_getElem? hget, ?_⟩, hsorted, fun k => ?_⟩
    · rw [if_neg hzero]
      rfl
    · rw [hmem, List.mem_append, List.mem_singleton]
      constructor
      · exact fun ⟨hk, h0⟩ => ⟨Or.inl hk, h0⟩
      · rintro ⟨hk | rfl, h0⟩
        · exact ⟨hk, h0⟩
        · exact absurd (Option.some.inj (hget.symm.trans h0)) hzero

/-- The agenda at the beginning. -/
theorem sound_initially {w : Waiting} (hw : c.Counted c.rules.length w) :
    ∃ ready, initiallyReady w.pending c.rules.length = .ok ready ∧ Sound c ⟨w.pending, ready, []⟩ := by
  obtain ⟨ready, hr, hsorted, hmem⟩ := initiallyReady_ok (Nat.le_of_eq hw.size_pending.symm)
  have hall (i : Nat) : c.outstanding [] i = c.dependenciesAt i := by simp [Catalog.outstanding]
  refine ⟨ready, hr, ⟨hw.size_pending, fun i hi => ?_, hsorted, fun i => ?_⟩, by simp, by simp⟩
  · simpa [hall] using hw.pending i hi
  · rw [hmem, hall]
    constructor
    · rintro ⟨hi, h0⟩
      rw [hw.pending i hi, Option.some.injEq, List.length_eq_zero_iff] at h0
      exact ⟨hi, by simp, h0, by simp⟩
    · rintro ⟨hi, -, h0, -⟩
      exact ⟨hi, by rw [hw.pending i hi, h0]; rfl⟩

end Agenda

/-! ## The order -/

namespace Catalog

variable (c : Catalog)

/-- The tag of a rule. -/
def tagAt? (i : Nat) : Option Tag := (c.rules[i]?).map (·.tag)

/-- The rules that were taken when no more are ready. -/
structure Exhausted (order : List Nat) : Prop where
  nodup : order.Nodup
  /-- Each rule stands behind those it looks at. -/
  behind : ∀ before i after, order = before ++ i :: after →
    i < c.rules.length ∧ ∀ j ∈ c.dependenciesAt i, j ∈ before
  /-- Each rule that is left looks at one that is left. -/
  stuck : ∀ i < c.rules.length, i ∉ order → ∃ j ∈ c.dependenciesAt i, j ∉ order

/-- The tags of the rules that are not in `order`. -/
def tagsOutside (order : List Nat) : List Tag :=
  ((List.range c.rules.length).filter (· ∉ order)).filterMap c.tagAt?

variable {c}

theorem exhausted_of_sound {a : Agenda} (h : a.Sound c) (hready : a.ready = []) :
    c.Exhausted a.order := by
  refine ⟨h.nodup, h.behind, fun i hi horder => ?_⟩
  by_contra hno
  have : i ∈ a.ready := (h.mem_ready i).2 ⟨hi, horder, outstanding_eq_nil_iff.2 fun j hj => by
    by_contra hj'
    exact hno ⟨j, hj, hj'⟩, by simp⟩
  simp [hready] at this

/-- At the end, the rules with a count above zero are those that are left. -/
theorem pending_pos_iff {a : Agenda} (h : a.Sound c) (hready : a.ready = []) {i : Nat}
    (hi : i < c.rules.length) : ∃ k, a.pending[i]? = some k ∧ (0 < k ↔ i ∉ a.order) := by
  refine ⟨_, h.pending i hi, ?_⟩
  rw [if_neg (by simp), Nat.add_zero, List.length_pos_iff]
  constructor
  · intro hne horder
    obtain ⟨before, after, heq⟩ := List.append_of_mem horder
    refine hne (outstanding_eq_nil_iff.2 fun j hj => ?_)
    exact heq ▸ List.mem_append_left _ ((h.behind before i after heq).2 j hj)
  · intro horder hnil
    have : i ∈ a.ready := (h.mem_ready i).2 ⟨hi, horder, hnil, by simp⟩
    simp [hready] at this

theorem stuckTags_ok {a : Agenda} (h : a.Sound c) (hready : a.ready = []) :
    stuckTags c.rules.toArray a.pending = .ok (c.tagsOutside a.order) := by
  have hloop : ∃ tags, stuckTags c.rules.toArray a.pending = .ok tags ∧
      tags = c.tagsOutside a.order := by
    refine foldlM_ok _ _ (fun done tags => tags = (done.filter (· ∉ a.order)).filterMap c.tagAt?) rfl ?_
    rintro done i rest tags hxs rfl
    have hi : i < c.rules.length := by
      have : i ∈ List.range c.rules.toArray.size := hxs ▸ by simp
      simpa using this
    obtain ⟨k, hget, hk⟩ := pending_pos_iff h hready hi
    have hrule : c.rules.toArray[i]? = some c.rules[i] := by simp [hi]
    refine ⟨_, bind_eq_ok_iff.2 ⟨k, elementAt_of_getElem? hget, ?_⟩, rfl⟩
    by_cases hpos : 0 < k
    · rw [if_pos hpos]
      refine bind_eq_ok_iff.2 ⟨_, elementAt_of_getElem? hrule, ?_⟩
      simp [hk.1 hpos, tagAt?, hi, pure, Except.pure]
    · rw [if_neg hpos]
      simp [mt hk.2 hpos, pure, Except.pure]
  obtain ⟨_, ht, rfl⟩ := hloop
  exact ht

/-- **The order of evaluation.** It is what was taken, if that is every rule; if not, the tags of the
    others are reported. Nothing else happens: no number is out of range, no count goes below zero. -/
theorem evaluationOrder_spec (c : Catalog) : ∃ order, c.Exhausted order ∧
    c.evaluationOrder = if order.length = c.rules.length then .ok order
      else .error (.cycle (c.tagsOutside order)) := by
  obtain ⟨w, hw, hcounted⟩ := c.waiting_counted
  obtain ⟨ready, hready, hsound⟩ := Agenda.sound_initially hcounted
  obtain ⟨a, hwork, ha, hnone⟩ := hsound.work hcounted
  refine ⟨a.order, exhausted_of_sound ha hnone, ?_⟩
  simp only [evaluationOrder, hw, hready, hwork, stuckTags_ok ha hnone, bind, Except.bind]
  rfl

theorem Exhausted.subset_range {order : List Nat} (h : c.Exhausted order) :
    order ⊆ List.range c.rules.length := fun i hi => by
  obtain ⟨before, after, heq⟩ := List.append_of_mem hi
  exact List.mem_range.2 (h.behind before i after heq).1

theorem Exhausted.perm_range {order : List Nat} (h : c.Exhausted order)
    (hlen : order.length = c.rules.length) : order.Perm (List.range c.rules.length) :=
  (h.nodup.subperm h.subset_range).perm_of_length_le (by simp [hlen])

theorem Exhausted.exists_left {order : List Nat} (h : c.Exhausted order)
    (hlen : order.length ≠ c.rules.length) : ∃ i < c.rules.length, i ∉ order := by
  by_contra hno
  have hsub : List.range c.rules.length ⊆ order := fun i hi => by
    by_contra hi'
    exact hno ⟨i, List.mem_range.1 hi, hi'⟩
  have h1 := (h.nodup.subperm h.subset_range).length_le
  have h2 := (List.nodup_range.subperm hsub).length_le
  simp only [List.length_range] at h1 h2
  omega

end Catalog

end AsyncIdioms
