/-
  The expressions that patterns give.

  * `Piece.matches_concat`, `Piece.matches_choice`, `Piece.matches_repeated` : what pieces match that are
    put together. A piece without characters is repeated once at most, and that is enough;
  * `Reader.Ordered` : the bounds of all repetitions read so far are in order, which each step keeps
    (`Reader.Ordered.step`);
  * `isMatch_iff_of_compile` : the expression of a pattern is found in a text if it matches somewhere in it.
-/
import Mathlib.Data.Option.Basic
import AsyncIdioms.Proofs.Regex.Matching
import AsyncIdioms.Regex.Pattern

namespace AsyncIdioms.Regex

variable {text : Array Char} {i j k n : Nat}

/-! ## Pieces put together -/

/-- Matches of the pieces stand one behind the other, from `i` to `j`. -/
def InRow (text : Array Char) : List Piece → Nat → Nat → Prop
  | [], i, j => i = j
  | p :: ps, i, k => ∃ j, p.regex.Matches text i j ∧ InRow text ps j k

theorem matches_foldl_cat : ∀ {ps : List Piece} {r : Regex},
    (ps.foldl (fun r q => .cat r q.regex) r).Matches text i k ↔
      ∃ j, r.Matches text i j ∧ InRow text ps j k
  | [], r => by simp [InRow]
  | p :: ps, r => by
    rw [List.foldl_cons, matches_foldl_cat]
    simp only [Matches, InRow]
    constructor
    · rintro ⟨q, ⟨o, ho, hq⟩, h⟩
      exact ⟨o, ho, q, hq, h⟩
    · rintro ⟨o, ho, q, hq, h⟩
      exact ⟨q, ⟨o, ho, hq⟩, h⟩

theorem matches_foldl_alt : ∀ {ps : List Piece} {r : Regex},
    (ps.foldl (fun r q => .alt r q.regex) r).Matches text i k ↔
      r.Matches text i k ∨ ∃ p ∈ ps, p.regex.Matches text i k
  | [], r => by simp
  | p :: ps, r => by
    rw [List.foldl_cons, matches_foldl_alt]
    simp [Matches, or_assoc]

theorem Piece.matches_concat : ∀ {ps : List Piece},
    (concat ps).regex.Matches text i k ↔ InRow text ps i k
  | [] => Iff.rfl
  | [p] => by simp [concat, InRow]
  | p :: q :: ps => matches_foldl_cat

theorem Piece.matches_choice : ∀ {ps : List Piece}, ps ≠ [] →
    ((choice ps).regex.Matches text i k ↔ ∃ p ∈ ps, p.regex.Matches text i k)
  | [p], _ => by simp [choice]
  | p :: q :: ps, _ => matches_foldl_alt.trans (by simp)

/-- Of steps that stay where they are, the first one is like any number of them. -/
theorem steps_iff_of_eq {R : Nat → Nat → Prop} (hR : ∀ i j, R i j → i = j) :
    ∀ {n : Nat} {i : Nat}, Steps R n i j ↔ i = j ∧ (n = 0 ∨ R i i)
  | 0, i => by simp [Steps]
  | n + 1, i => by
    simp only [Steps, steps_iff_of_eq hR, Nat.succ_ne_zero, false_or]
    constructor
    · rintro ⟨p, hp, rfl, -⟩
      obtain rfl := hR i p hp
      exact ⟨rfl, hp⟩
    · rintro ⟨rfl, h⟩
      exact ⟨i, h, rfl, Or.inr h⟩

/-- What has no characters in it ends where it starts. -/
theorem Matches.eq_of_not_consumes {r : Regex} (hr : r.consumes = false) (h : r.Matches text i j) :
    i = j := by
  induction r generalizing i j with
  | empty => exact h
  | set => exact nomatch hr
  | look => exact h.2
  | cat r s ihr ihs =>
    obtain ⟨hr, hs⟩ := Bool.or_eq_false_iff.1 hr
    obtain ⟨p, h1, h2⟩ := h
    exact (ihr hr h1).trans (ihs hs h2)
  | alt r s ihr ihs =>
    obtain ⟨hr, hs⟩ := Bool.or_eq_false_iff.1 hr
    exact h.elim (ihr hr) (ihs hs)
  | rep least most r ih =>
    obtain ⟨n, -, hmost, h⟩ := h
    rcases Bool.and_eq_false_iff.1 hr with hzero | hr
    · obtain rfl : n = 0 := Nat.le_zero.1 (hmost 0 (by simpa using hzero))
      exact h
    · exact ((steps_iff_of_eq fun _ _ => ih hr).1 h).1

theorem min_one_le_min_one {least : Nat} {most : Option Nat} (h : ∀ m, most = some m → least ≤ m) :
    min least 1 ≤ (most.getD 1).min 1 := by
  cases most with
  | none => exact Nat.min_le_right ..
  | some m => exact Nat.le_min.2 ⟨Nat.le_trans (Nat.min_le_left ..) (h m rfl), Nat.min_le_right ..⟩

/-- **Repetitions.** Repeating what has no characters in it once at most changes no match. -/
theorem Piece.matches_repeated {p : Piece} {least : Nat} {most : Option Nat}
    (h : ∀ m, most = some m → least ≤ m) :
    (p.repeated least most).regex.Matches text i j ↔ (Regex.rep least most p.regex).Matches text i j := by
  cases hp : p.regex.consumes with
  | true => simp [repeated, hp]
  | false =>
    have hstay : ∀ i j, p.regex.Matches text i j → i = j := fun _ _ => Matches.eq_of_not_consumes hp
    simp only [repeated, hp, Bool.false_eq_true, if_false, Matches, steps_iff_of_eq hstay,
      Option.some.injEq, forall_eq']
    constructor
    · rintro ⟨n, hleast, hmost, hij, hn⟩
      refine ⟨least, Nat.le_refl _, h, hij, ?_⟩
      rcases hn with rfl | hn
      · exact Or.inl (by omega)
      · exact Or.inr hn
    · rintro ⟨n, hleast, hmost, hij, hn⟩
      refine ⟨min least 1, Nat.le_refl _, min_one_le_min_one h, hij, ?_⟩
      rcases hn with rfl | hn
      · exact Or.inl (by omega)
      · exact Or.inr hn

/-! ## Bounds -/

theorem ordered_foldl {f : Regex → Regex → Regex}
    (hf : ∀ r s, r.Ordered → s.Ordered → (f r s).Ordered) : ∀ {ps : List Piece} {r : Regex},
    r.Ordered → (∀ p ∈ ps, p.regex.Ordered) → (ps.foldl (fun r q => f r q.regex) r).Ordered
  | [], _, hr, _ => hr
  | p :: ps, r, hr, hps => by
    obtain ⟨hp, hps⟩ := List.forall_mem_cons.1 hps
    rw [List.foldl_cons]
    exact ordered_foldl hf (hf r p.regex hr hp) hps

theorem Piece.ordered_concat : ∀ {ps : List Piece}, (∀ p ∈ ps, p.regex.Ordered) →
    (concat ps).regex.Ordered
  | [], _ => trivial
  | [_], h => (List.forall_mem_cons.1 h).1
  | _ :: _ :: _, h =>
    ordered_foldl (fun _ _ => And.intro) (List.forall_mem_cons.1 h).1 (List.forall_mem_cons.1 h).2

theorem Piece.ordered_choice : ∀ {ps : List Piece}, (∀ p ∈ ps, p.regex.Ordered) →
    (choice ps).regex.Ordered
  | [], _ => trivial
  | [_], h => (List.forall_mem_cons.1 h).1
  | _ :: _ :: _, h =>
    ordered_foldl (fun _ _ => And.intro) (List.forall_mem_cons.1 h).1 (List.forall_mem_cons.1 h).2

theorem Piece.ordered_repeated {p : Piece} {least : Nat} {most : Option Nat} (hp : p.regex.Ordered)
    (h : ∀ m, most = some m → least ≤ m) : (p.repeated least most).regex.Ordered := by
  cases hc : p.regex.consumes with
  | true => simpa [repeated, hc] using ⟨h, hp⟩
  | false =>
    simp only [repeated, hc, Bool.false_eq_true, if_false]
    exact ⟨fun m hm => Option.some.inj hm ▸ min_one_le_min_one h, hp⟩

/-- The bounds of all that a group has read are in order. -/
structure Level.Ordered (l : Level) : Prop where
  branches : ∀ p ∈ l.branches, p.regex.Ordered
  pieces : ∀ p ∈ l.pieces, p.regex.Ordered

namespace Level.Ordered

variable {l : Level}

theorem push (h : l.Ordered) {p : Piece} (hp : p.regex.Ordered) : (l.push p).Ordered :=
  ⟨h.branches, List.forall_mem_cons.2 ⟨hp, h.pieces⟩⟩

theorem branch (h : l.Ordered) : l.branch.Ordered :=
  ⟨List.forall_mem_cons.2 ⟨Piece.ordered_concat (by simpa using h.pieces), h.branches⟩, by simp [Level.branch]⟩

theorem value (h : l.Ordered) : l.value.regex.Ordered :=
  Piece.ordered_choice (by simpa using h.branch.branches)

theorem close (h : l.Ordered) : l.close.regex.Ordered := by
  rw [Level.close]
  split <;> exact h.value

theorem repeatLast? {l' : Level} (h : l.Ordered) {least : Nat} {most : Option Nat}
    (hb : ∀ m, most = some m → least ≤ m) (hl : l.repeatLast? least most = some l') : l'.Ordered := by
  unfold Level.repeatLast? at hl
  split at hl
  · exact nomatch hl
  · rename_i p rest hpieces
    obtain ⟨hp, hrest⟩ := List.forall_mem_cons.1 (hpieces ▸ h.pieces)
    split at hl
    · cases hl
      exact ⟨h.branches, List.forall_mem_cons.2 ⟨Piece.ordered_repeated hp hb, hrest⟩⟩
    · exact nomatch hl

end Level.Ordered

/-- The bounds of all that has been read are in order. -/
structure Reader.Ordered (r : Reader) : Prop where
  level : r.level.Ordered
  outer : ∀ l ∈ r.outer, l.Ordered

/-- Bounds are read in order only. -/
theorem le_of_readBounds {f : Flags} {cs rest : List Char} {least : Nat} {most : Option Nat}
    (h : readBounds f cs = some (least, most, rest)) : ∀ m, most = some m → least ≤ m := by
  obtain ⟨⟨n, cs'⟩, -, h⟩ := Option.bind_eq_some_iff.1 h
  dsimp only at h
  split at h
  case h_1 =>
    cases h
    intro m hm
    exact Option.some.inj hm ▸ Nat.le_refl _
  case h_2 =>
    split at h
    case h_1 =>
      cases h
      simp
    case h_2 =>
      obtain ⟨⟨bound, cs''⟩, -, h⟩ := Option.bind_eq_some_iff.1 h
      dsimp only at h
      split at h
      case h_1 =>
        obtain ⟨_, hle, h⟩ := Option.bind_eq_some_iff.1 h
        cases h
        intro m hm
        exact Option.some.inj hm ▸ (Option.guard_eq_some' ()).1 hle
      case h_2 => contradiction
  case h_3 => contradiction

namespace Reader.Ordered

variable {r r' : Reader} {c : Char} {cs rest : List Char}

theorem enter (h : r.Ordered) (f : Flags) (captures : Bool) : (r.enter f captures).Ordered :=
  ⟨⟨fun _ hp => (nomatch hp), fun _ hp => (nomatch hp)⟩, List.forall_mem_cons.2 ⟨h.level, h.outer⟩⟩

theorem push (h : r.Ordered) {p : Piece} (hp : p.regex.Ordered) : (r.push p).Ordered :=
  ⟨h.level.push hp, h.outer⟩

theorem enterNamed (h : r.Ordered) (he : r.enterNamed cs = some (r', rest)) : r'.Ordered := by
  obtain ⟨⟨name, _⟩, -, he⟩ := Option.bind_eq_some_iff.1 he
  obtain ⟨_, -, he⟩ := Option.bind_eq_some_iff.1 he
  cases he
  exact ⟨(h.enter r.level.flags true).level, (h.enter r.level.flags true).outer⟩

theorem open? (h : r.Ordered) (ho : r.open? cs = some (r', rest)) : r'.Ordered := by
  unfold Reader.open? at ho
  split at ho
  · exact nomatch ho
  · exact nomatch ho
  · exact nomatch ho
  · exact nomatch ho
  · exact h.enterNamed ho
  · exact h.enterNamed ho
  · obtain ⟨⟨flags, seen, cs'⟩, -, ho⟩ := Option.bind_eq_some_iff.1 ho
    dsimp only at ho
    split at ho
    · cases ho
      exact h.enter flags false
    · obtain ⟨_, -, ho⟩ := Option.bind_eq_some_iff.1 ho
      cases ho
      exact ⟨⟨h.level.branches, (h.level.push (p := .flagGroup) trivial).pieces⟩, h.outer⟩
    · exact nomatch ho
  · cases ho
    exact h.enter _ true

theorem close? (h : r.Ordered) (hc : r.close? = some r') : r'.Ordered := by
  unfold Reader.close? at hc
  split at hc
  · exact nomatch hc
  · rename_i l outer houter
    cases hc
    obtain ⟨hl, houter⟩ := List.forall_mem_cons.1 (houter ▸ h.outer)
    exact ⟨hl.push h.level.close, houter⟩

theorem repeatLast? (h : r.Ordered) {least : Nat} {most : Option Nat}
    (hb : ∀ m, most = some m → least ≤ m) (hl : r.repeatLast? least most = some r') : r'.Ordered := by
  obtain ⟨l, hlast, rfl⟩ := Option.map_eq_some_iff.1 hl
  exact ⟨h.level.repeatLast? hb hlast, h.outer⟩

theorem repeated (h : r.Ordered) {least : Nat} {most : Option Nat} (hb : ∀ m, most = some m → least ≤ m)
    (hs : (r.repeatLast? least most).map (·, cs) = some (r', rest)) : r'.Ordered := by
  obtain ⟨_, hl, heq⟩ := Option.map_eq_some_iff.1 hs
  cases heq
  exact h.repeatLast? hb hl

/-- Each step keeps the bounds in order. -/
theorem step (h : r.Ordered) (hs : r.step c cs = some (r', rest)) : r'.Ordered := by
  have hset (chars : Text.Ranges) : (Piece.ofSet chars).regex.Ordered := trivial
  have hlook (l : Look) : (Piece.ofLook l).regex.Ordered := trivial
  unfold Reader.step at hs
  split at hs
  -- groups and alternatives
  · exact h.open? hs
  · obtain ⟨_, hc, heq⟩ := Option.map_eq_some_iff.1 hs
    cases heq
    exact h.close? hc
  · cases hs
    exact ⟨h.level.branch, h.outer⟩
  -- brackets
  · obtain ⟨_, -, heq⟩ := Option.map_eq_some_iff.1 hs
    cases heq
    exact h.push (hset _)
  -- repetitions, of which the last kind has its bounds written out
  · exact h.repeated (by simp) hs
  · exact h.repeated (by simp) hs
  · exact h.repeated (by simp) hs
  · obtain ⟨⟨least, most, cs'⟩, hbounds, hs⟩ := Option.bind_eq_some_iff.1 hs
    obtain ⟨_, hl, heq⟩ := Option.bind_eq_some_iff.1 hs
    cases heq
    exact h.repeatLast? (le_of_readBounds hbounds) hl
  -- escapes, dots, conditions and characters that stand for themselves
  · obtain ⟨⟨atom, _⟩, -, heq⟩ := Option.map_eq_some_iff.1 hs
    cases heq
    cases atom with
    | char | set => exact h.push (hset _)
    | look => exact h.push (hlook _)
  · obtain ⟨_, -, heq⟩ := Option.map_eq_some_iff.1 hs
    cases heq
    exact h.push (hset _)
  · cases hs
    exact h.push (hlook _)
  · cases hs
    exact h.push (hlook _)
  · cases hs
    exact h.push (hset _)

/-- So does reading the rest of a pattern. -/
theorem run {p : Piece} {fuel : Nat} (h : r.Ordered) (hp : r.run fuel cs = some p) :
    p.regex.Ordered := by
  fun_induction Reader.run r fuel cs with
  | case1 =>
    cases hp
    exact h.level.value
  | case2 => exact nomatch hp
  | case3 => exact nomatch hp
  | case4 _ _ _ _ _ _ ih =>
    obtain ⟨⟨r', rest⟩, hs, hp⟩ := Option.bind_eq_some_iff.1 hp
    exact ih r' rest (h.step hs) hp

end Reader.Ordered

/-- The bounds of what a pattern gives are in order. -/
theorem ordered_of_compile {ignoreCase : Bool} {pattern : String} {r : Regex}
    (h : compile? ignoreCase pattern = some r) : r.Ordered := by
  obtain ⟨p, hp, h⟩ := Option.bind_eq_some_iff.1 h
  obtain ⟨_, -, heq⟩ := Option.bind_eq_some_iff.1 h
  cases heq
  refine Reader.Ordered.run ⟨⟨?_, ?_⟩, ?_⟩ hp <;> simp

/-- **Patterns.** The expression of a pattern is found in a text if it matches somewhere in it. -/
theorem isMatch_iff_of_compile {ignoreCase : Bool} {pattern s : String} {r : Regex}
    (h : compile? ignoreCase pattern = some r) :
    r.isMatch s ↔ ∃ i ≤ s.toList.length, ∃ j, r.Matches s.toList.toArray i j :=
  isMatch_iff (ordered_of_compile h)

end AsyncIdioms.Regex
