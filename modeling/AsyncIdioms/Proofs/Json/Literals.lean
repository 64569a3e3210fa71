/-
  The grammar of JSON literals, and that reading follows it.

  A literal is read where the grammar allows one, and in full: the reader leaves what stands behind it
  (`t` in the lemmas), provided that no digit, point or exponent goes on there.

  * `IsBlanks` : blanks between tokens;
  * `SpellsUnits`, `SpellsText` : what stands between the quotes of a string literal;
    `readUnits_of_spells`, `exists_of_readUnits` : it is read as the units that it spells, and nothing
    else is;
  * `IsNumeral` : numbers, as integer, fraction and exponent;
    `readNumber_of_isNumeral`, `isNumeral_of_readNumber` : the same for numbers.
-/
import Mathlib.Data.Option.Basic
import AsyncIdioms.Json.Parse

namespace AsyncIdioms.Json

open Text

variable {c : Char} {cs ds t : List Char}

/-! ## Blanks -/

/-- Nothing but blanks. -/
def IsBlanks (cs : List Char) : Prop := ∀ c ∈ cs, isBlank c = true

theorem isBlanks_nil : IsBlanks [] := by simp [IsBlanks]

theorem IsBlanks.append (hcs : IsBlanks cs) (hds : IsBlanks ds) : IsBlanks (cs ++ ds) := by
  intro c hc
  rcases List.mem_append.1 hc with hc | hc
  · exact hcs c hc
  · exact hds c hc

theorem skipBlanks_append (h : IsBlanks cs) (t : List Char) : skipBlanks (cs ++ t) = skipBlanks t :=
  List.dropWhile_append_of_pos h

theorem exists_blanks (cs : List Char) : ∃ gap, IsBlanks gap ∧ cs = gap ++ skipBlanks cs := by
  have hall : (cs.takeWhile isBlank).all isBlank = true := List.all_takeWhile
  exact ⟨cs.takeWhile isBlank, List.all_eq_true.1 hall, List.takeWhile_append_dropWhile.symm⟩

theorem skipBlanks_of_not_blank (h : isBlank c = false) (t : List Char) :
    skipBlanks (c :: t) = c :: t :=
  List.dropWhile_cons_of_neg (by simp [h])

theorem skipBlanks_behind (hcs : IsBlanks cs) (hc : isBlank c = false) (t : List Char) :
    skipBlanks (cs ++ c :: t) = c :: t := by
  rw [skipBlanks_append hcs, skipBlanks_of_not_blank hc]

/-! ## String literals -/

/-- Puts a unit in front of those that were read. -/
def prependUnit (unit : Nat) (reading : List Nat × List Char) : List Nat × List Char :=
  (unit :: reading.1, reading.2)

theorem readUnits_end : readUnits ('"' :: t) = some ([], t) := by
  rw [readUnits]

theorem readUnits_char (hq : c ≠ '"') (he : c ≠ '\\') (hc : 0x20 ≤ c.toNat) :
    readUnits (c :: t) = (readUnits t).map (prependUnit c.toNat) := by
  have hguard : (guard (0x20 ≤ c.toNat) : Option Unit) = some () := if_pos hc
  rw [readUnits]
  · rw [hguard]
    cases readUnits t <;> rfl
  all_goals
    intros
    contradiction

theorem readUnits_letter {e : Char} {unit : Nat} (he : simpleEscape? e = some unit) :
    readUnits ('\\' :: e :: t) = (readUnits t).map (prependUnit unit) := by
  have hu : e ≠ 'u' := by
    rintro rfl
    contradiction
  rw [readUnits]
  · rw [he]
    cases readUnits t <;> rfl
  · intros
    contradiction

theorem readUnits_hex {a₁ a₂ a₃ a₄ : Char} {unit : Nat}
    (h : hexNumber? [a₁, a₂, a₃, a₄] = some unit) :
    readUnits ('\\' :: 'u' :: a₁ :: a₂ :: a₃ :: a₄ :: t) =
      (readUnits t).map (prependUnit unit) := by
  rw [readUnits, h]
  cases readUnits t <;> rfl

/-- What stands between quotes, and the units that it spells: characters, escapes of one letter and
    escapes by four digits. -/
inductive SpellsUnits : List Nat → List Char → Prop
  | nil : SpellsUnits [] []
  | char {c : Char} {units : List Nat} {cs : List Char} (hq : c ≠ '"') (he : c ≠ '\\')
      (hc : 0x20 ≤ c.toNat) (h : SpellsUnits units cs) : SpellsUnits (c.toNat :: units) (c :: cs)
  | letter {e : Char} {unit : Nat} {units : List Nat} {cs : List Char}
      (he : simpleEscape? e = some unit) (h : SpellsUnits units cs) :
      SpellsUnits (unit :: units) ('\\' :: e :: cs)
  | hex {a₁ a₂ a₃ a₄ : Char} {unit : Nat} {units : List Nat} {cs : List Char}
      (hhex : hexNumber? [a₁, a₂, a₃, a₄] = some unit) (h : SpellsUnits units cs) :
      SpellsUnits (unit :: units) ('\\' :: 'u' :: a₁ :: a₂ :: a₃ :: a₄ :: cs)

/-- What stands between quotes, and the text of its units. -/
def SpellsText (s : Option String) (cs : List Char) : Prop :=
  ∃ units, SpellsUnits units cs ∧ s = (decodeUnits units).map String.ofList

theorem readUnits_of_spells {units : List Nat} (h : SpellsUnits units cs) (t : List Char) :
    readUnits (cs ++ '"' :: t) = some (units, t) := by
  induction h with
  | nil => exact readUnits_end
  | char hq he hc _ ih => rw [List.cons_append, readUnits_char hq he hc, ih]; rfl
  | letter he _ ih => rw [List.cons_append, List.cons_append, readUnits_letter he, ih]; rfl
  | hex hhex _ ih => simp only [List.cons_append, readUnits_hex hhex, ih]; rfl

theorem exists_of_readUnits {units : List Nat} (h : readUnits cs = some (units, t)) :
    ∃ body, cs = body ++ '"' :: t ∧ SpellsUnits units body := by
  fun_induction readUnits cs generalizing units with
  | case1 => contradiction
  | case2 rest =>
    simp only [Option.some.injEq, Prod.mk.injEq] at h
    obtain ⟨rfl, rfl⟩ := h
    exact ⟨[], rfl, .nil⟩
  | case3 a₁ a₂ a₃ a₄ rest ih =>
    obtain ⟨unit, hunit, h⟩ := Option.bind_eq_some_iff.1 h
    obtain ⟨⟨us, t'⟩, hrest, h⟩ := Option.bind_eq_some_iff.1 h
    cases h
    obtain ⟨body, rfl, hbody⟩ := ih hrest
    exact ⟨_, rfl, .hex hunit hbody⟩
  | case4 e rest _ ih =>
    obtain ⟨unit, hunit, h⟩ := Option.bind_eq_some_iff.1 h
    obtain ⟨⟨us, t'⟩, hrest, h⟩ := Option.bind_eq_some_iff.1 h
    cases h
    obtain ⟨body, rfl, hbody⟩ := ih hrest
    exact ⟨_, rfl, .letter hunit hbody⟩
  | case5 c rest hq _ he ih =>
    obtain ⟨_, hguard, h⟩ := Option.bind_eq_some_iff.1 h
    obtain ⟨⟨us, t'⟩, hrest, h⟩ := Option.bind_eq_some_iff.1 h
    cases h
    obtain ⟨body, rfl, hbody⟩ := ih hrest
    have hslash : c ≠ '\\' := by
      -- behind a backslash stands a character, which makes an escape of it
      rintro rfl
      cases body <;> exact he _ _ rfl rfl
    exact ⟨_, rfl, .char hq hslash ((Option.guard_eq_some' ()).1 hguard) hbody⟩

theorem readString_of_spells {s : Option String} (h : SpellsText s cs) (t : List Char) :
    readString (cs ++ '"' :: t) = some (s, t) := by
  obtain ⟨units, hunits, rfl⟩ := h
  rw [readString, readUnits_of_spells hunits]
  rfl

theorem exists_of_readString {s : Option String} (h : readString cs = some (s, t)) :
    ∃ body, cs = body ++ '"' :: t ∧ SpellsText s body := by
  obtain ⟨⟨units, t'⟩, hunits, h⟩ := Option.bind_eq_some_iff.1 h
  cases h
  obtain ⟨body, hbody, hspells⟩ := exists_of_readUnits hunits
  exact ⟨body, hbody, units, hspells, rfl⟩

/-! ## Numbers -/

/-- The text does not start with a character of that kind. -/
def StartsWithout (p : Char → Bool) (t : List Char) : Prop := ∀ c ∈ t.head?, p c = false

/-- One digit or more. -/
def IsDigits (cs : List Char) : Prop := cs ≠ [] ∧ ∀ c ∈ cs, c.isDigit = true

/-- Zero, or digits of which the first is not zero. -/
inductive IsInteger : List Char → Prop
  | zero : IsInteger ['0']
  | digits {cs : List Char} (h : IsDigits cs) (hzero : cs.head? ≠ some '0') : IsInteger cs

/-- A point and digits, or nothing. -/
inductive IsFraction : List Char → Prop
  | absent : IsFraction []
  | digits {cs : List Char} (h : IsDigits cs) : IsFraction ('.' :: cs)

def isExponentMark (c : Char) : Bool := c == 'e' || c == 'E'

/-- An exponent with or without a sign, or nothing. -/
inductive IsExponent : List Char → Prop
  | absent : IsExponent []
  | plain {e : Char} {cs : List Char} (he : isExponentMark e = true) (h : IsDigits cs) :
      IsExponent (e :: cs)
  | plus {e : Char} {cs : List Char} (he : isExponentMark e = true) (h : IsDigits cs) :
      IsExponent (e :: '+' :: cs)
  | minus {e : Char} {cs : List Char} (he : isExponentMark e = true) (h : IsDigits cs) :
      IsExponent (e :: '-' :: cs)

/-- A number without its sign. -/
def IsMagnitude (cs : List Char) : Prop :=
  ∃ integer fraction exponent, IsInteger integer ∧ IsFraction fraction ∧ IsExponent exponent ∧
    cs = integer ++ fraction ++ exponent

/-- A number. -/
inductive IsNumeral : List Char → Prop
  | plain {cs : List Char} (h : IsMagnitude cs) : IsNumeral cs
  | negative {cs : List Char} (h : IsMagnitude cs) : IsNumeral ('-' :: cs)

theorem readDigits_of_isDigits (h : IsDigits cs) (ht : StartsWithout Char.isDigit t) :
    readDigits (cs ++ t) = some (cs, t) := by
  have htake : t.takeWhile Char.isDigit = [] := by
    cases t with
    | nil => rfl
    | cons c t => exact List.takeWhile_cons_of_neg (by simp [ht c rfl])
  have hdrop : t.dropWhile Char.isDigit = t := by
    cases t with
    | nil => rfl
    | cons c t => exact List.dropWhile_cons_of_neg (by simp [ht c rfl])
  rw [readDigits, List.takeWhile_append_of_pos h.2, List.dropWhile_append_of_pos h.2, htake, hdrop]
  simp [h.1]

theorem isDigits_of_readDigits (h : readDigits cs = some (ds, t)) : cs = ds ++ t ∧ IsDigits ds := by
  rw [readDigits] at h
  split at h
  · contradiction
  · rename_i hne
    cases h
    have hall : (cs.takeWhile Char.isDigit).all Char.isDigit = true := List.all_takeWhile
    exact ⟨List.takeWhile_append_dropWhile.symm, by simpa using hne, List.all_eq_true.1 hall⟩

theorem readInteger_of_isInteger (h : IsInteger cs) (ht : StartsWithout Char.isDigit t) :
    readInteger (cs ++ t) = some (cs, t) := by
  cases h with
  | zero =>
    have hnone : t.head?.any Char.isDigit = false := by
      cases t with
      | nil => rfl
      | cons c t => exact ht c rfl
    simp [readInteger, hnone]
  | digits h hzero =>
    rw [readInteger, readDigits_of_isDigits h ht]
    rintro rest heq
    cases cs with
    | nil => exact h.1 rfl
    | cons c cs => simp_all

theorem isInteger_of_readInteger (h : readInteger cs = some (ds, t)) :
    cs = ds ++ t ∧ IsInteger ds := by
  unfold readInteger at h
  split at h
  · split at h
    · contradiction
    · cases h
      exact ⟨rfl, .zero⟩
  · rename_i hzero
    obtain ⟨rfl, hds⟩ := isDigits_of_readDigits h
    refine ⟨rfl, .digits hds fun hhead => ?_⟩
    obtain ⟨rest, rfl⟩ := List.head?_eq_some_iff.1 hhead
    exact hzero _ rfl

theorem readFraction_of_isFraction (h : IsFraction cs) (ht : StartsWithout Char.isDigit t)
    (hpoint : StartsWithout (· == '.') t) : readFraction (cs ++ t) = some (cs, t) := by
  cases h with
  | absent =>
    rw [List.nil_append, readFraction]
    rintro rest rfl
    simpa using hpoint '.' rfl
  | digits h =>
    rw [List.cons_append, readFraction, readDigits_of_isDigits h ht]
    rfl

/-- Digits behind a mark: `f` puts the mark in front of them. -/
theorem isDigits_of_bind {f : List Char → List Char}
    (h : (readDigits cs).bind (fun (digits, rest) => some (f digits, rest)) = some (ds, t)) :
    ∃ digits, IsDigits digits ∧ cs = digits ++ t ∧ ds = f digits := by
  obtain ⟨⟨digits, t'⟩, hread, h⟩ := Option.bind_eq_some_iff.1 h
  cases h
  obtain ⟨hcs, hdigits⟩ := isDigits_of_readDigits hread
  exact ⟨digits, hdigits, hcs, rfl⟩

theorem isFraction_of_readFraction (h : readFraction cs = some (ds, t)) :
    cs = ds ++ t ∧ IsFraction ds := by
  unfold readFraction at h
  split at h
  · obtain ⟨digits, hdigits, rfl, rfl⟩ := isDigits_of_bind h
    exact ⟨rfl, .digits hdigits⟩
  · cases h
    exact ⟨rfl, .absent⟩

theorem IsDigits.append_ne_cons (h : IsDigits cs) (hc : c.isDigit = false) (t rest : List Char) :
    cs ++ t ≠ c :: rest := by
  obtain ⟨d, ds, rfl⟩ := List.exists_cons_of_ne_nil h.1
  intro heq
  have hd : d.isDigit = true := h.2 d List.mem_cons_self
  rw [(List.cons.inj heq).1, hc] at hd
  contradiction

theorem readExponent_of_isExponent (h : IsExponent cs) (ht : StartsWithout Char.isDigit t)
    (hmark : StartsWithout isExponentMark t) : readExponent (cs ++ t) = some (cs, t) := by
  cases h with
  | absent =>
    cases t with
    | nil => rfl
    | cons e t =>
      have he : (e == 'e' || e == 'E') = false := hmark e rfl
      simp [readExponent, he]
  | plain he h =>
    rw [isExponentMark] at he
    rw [List.cons_append, readExponent, if_pos he, readDigits_of_isDigits h ht]
    · rfl
    · exact fun rest => h.append_ne_cons (by decide) t rest
    · exact fun rest => h.append_ne_cons (by decide) t rest
  | plus he h =>
    rw [isExponentMark] at he
    simp [readExponent, he, readDigits_of_isDigits h ht]
  | minus he h =>
    rw [isExponentMark] at he
    simp [readExponent, he, readDigits_of_isDigits h ht]

theorem isExponent_of_readExponent (h : readExponent cs = some (ds, t)) :
    cs = ds ++ t ∧ IsExponent ds := by
  unfold readExponent at h
  split at h
  · rename_i e rest
    split at h
    · rename_i he
      split at h
      · obtain ⟨digits, hdigits, rfl, rfl⟩ := isDigits_of_bind (f := (e :: '+' :: ·)) h
        exact ⟨rfl, .plus he hdigits⟩
      · obtain ⟨digits, hdigits, rfl, rfl⟩ := isDigits_of_bind (f := (e :: '-' :: ·)) h
        exact ⟨rfl, .minus he hdigits⟩
      · obtain ⟨digits, hdigits, rfl, rfl⟩ := isDigits_of_bind (f := (e :: ·)) h
        exact ⟨rfl, .plain he hdigits⟩
    · cases h
      exact ⟨rfl, .absent⟩
  · cases h
    exact ⟨rfl, .absent⟩

theorem isMagnitude_of_readMagnitude (h : readMagnitude cs = some (ds, t)) :
    cs = ds ++ t ∧ IsMagnitude ds := by
  obtain ⟨⟨integer, t₁⟩, hi, h⟩ := Option.bind_eq_some_iff.1 h
  obtain ⟨⟨fraction, t₂⟩, hf, h⟩ := Option.bind_eq_some_iff.1 h
  obtain ⟨⟨exponent, t₃⟩, he, h⟩ := Option.bind_eq_some_iff.1 h
  cases h
  obtain ⟨rfl, hinteger⟩ := isInteger_of_readInteger hi
  obtain ⟨rfl, hfraction⟩ := isFraction_of_readFraction hf
  obtain ⟨rfl, hexponent⟩ := isExponent_of_readExponent he
  exact ⟨by simp, integer, fraction, exponent, hinteger, hfraction, hexponent, rfl⟩

theorem isNumeral_of_readNumber {literal : String} (h : readNumber cs = some (literal, t)) :
    cs = literal.toList ++ t ∧ IsNumeral literal.toList := by
  unfold readNumber at h
  split at h
  · obtain ⟨⟨ds, t'⟩, hread, h⟩ := Option.bind_eq_some_iff.1 h
    cases h
    obtain ⟨rfl, hds⟩ := isMagnitude_of_readMagnitude hread
    rw [String.toList_ofList]
    exact ⟨rfl, .negative hds⟩
  · obtain ⟨⟨ds, t'⟩, hread, h⟩ := Option.bind_eq_some_iff.1 h
    cases h
    obtain ⟨rfl, hds⟩ := isMagnitude_of_readMagnitude hread
    rw [String.toList_ofList]
    exact ⟨rfl, .plain hds⟩

/-- A number may end before the text: neither a digit nor a point nor an exponent follows. -/
structure EndsNumber (t : List Char) : Prop where
  digit : StartsWithout Char.isDigit t
  point : StartsWithout (· == '.') t
  mark : StartsWithout isExponentMark t

theorem IsExponent.startsWithout (h : IsExponent cs) {p : Char → Bool} (ht : StartsWithout p t)
    (hmark : ∀ e, isExponentMark e = true → p e = false) : StartsWithout p (cs ++ t) := by
  cases h with
  | absent => exact ht
  | plain he _ => rintro _ ⟨⟩; exact hmark _ he
  | plus he _ => rintro _ ⟨⟩; exact hmark _ he
  | minus he _ => rintro _ ⟨⟩; exact hmark _ he

theorem IsFraction.startsWithout (h : IsFraction cs) {p : Char → Bool} (ht : StartsWithout p t)
    (hpoint : p '.' = false) : StartsWithout p (cs ++ t) := by
  cases h with
  | absent => exact ht
  | digits _ => rintro _ ⟨⟩; exact hpoint

theorem readMagnitude_of_isMagnitude (h : IsMagnitude cs) (ht : EndsNumber t) :
    readMagnitude (cs ++ t) = some (cs, t) := by
  obtain ⟨integer, fraction, exponent, hi, hf, he, rfl⟩ := h
  have hmark : ∀ e, isExponentMark e = true → e.isDigit = false ∧ (e == '.') = false := by
    intro e hmark
    rcases Bool.or_eq_true_iff.1 hmark with h | h <;> rw [beq_iff_eq.1 h] <;> decide
  have hdigit : StartsWithout Char.isDigit (exponent ++ t) :=
    he.startsWithout ht.digit fun e h => (hmark e h).1
  have hpoint : StartsWithout (· == '.') (exponent ++ t) :=
    he.startsWithout ht.point fun e h => (hmark e h).2
  have hinteger := readInteger_of_isInteger hi (hf.startsWithout hdigit (by decide))
  have hfraction := readFraction_of_isFraction hf hdigit hpoint
  have hexponent := readExponent_of_isExponent he ht.digit ht.mark
  simp [readMagnitude, hinteger, hfraction, hexponent]

theorem IsMagnitude.head_isDigit (h : IsMagnitude cs) : ∃ d ds, cs = d :: ds ∧ d.isDigit = true := by
  obtain ⟨integer, fraction, exponent, hi, -, -, rfl⟩ := h
  cases hi with
  | zero => exact ⟨_, _, rfl, by decide⟩
  | digits h _ =>
    obtain ⟨d, ds, rfl⟩ := List.exists_cons_of_ne_nil h.1
    exact ⟨d, _, rfl, h.2 d List.mem_cons_self⟩

/-- A number starts with its sign or a digit. -/
theorem IsNumeral.head (h : IsNumeral cs) :
    ∃ c rest, cs = c :: rest ∧ (c = '-' ∨ c.isDigit = true) := by
  cases h with
  | plain h =>
    obtain ⟨d, ds, rfl, hd⟩ := h.head_isDigit
    exact ⟨d, ds, rfl, .inr hd⟩
  | negative h => exact ⟨_, _, rfl, .inl rfl⟩

theorem readNumber_of_isNumeral (h : IsNumeral cs) (ht : EndsNumber t) :
    readNumber (cs ++ t) = some (String.ofList cs, t) := by
  cases h with
  | plain h =>
    obtain ⟨d, ds, rfl, hd⟩ := h.head_isDigit
    rw [readNumber, readMagnitude_of_isMagnitude h ht]
    · rfl
    · rintro rest heq
      rw [(List.cons.inj heq).1] at hd
      contradiction
  | negative h =>
    rw [List.cons_append, readNumber, readMagnitude_of_isMagnitude h ht]
    rfl

end AsyncIdioms.Json
