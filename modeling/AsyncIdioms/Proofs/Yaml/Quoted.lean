/-
  Written scalars between quotes are read back.

  * `readSingleQuoted_chars` : between single quotes. The breaks of such a text are separators, which
    are read as themselves; the spaces behind them are indentation;
  * `readDoubleQuoted_chars` : between double quotes, where breaks are escaped and lines never end.

  Both inductions are on the characters of the text. The gap that has been read and not yet given out
  stands in front of the text.
-/
import Mathlib.Algebra.Group.Nat.Defs
import Mathlib.Logic.Basic
import AsyncIdioms.Proofs.Yaml.Plain

namespace AsyncIdioms.Yaml

open Text (hexValue? hexNumber? hexChar?)

section
variable {gap : Gap} {place : Place} {c prev : Char} {cs t : List Char}

/-! ## Single quotes -/

/-- What a gap holds behind the character `prev` of a text that may stand between single quotes. -/
structure Gap.Behind (g : Gap) (prev : Char) : Prop where
  broken_eq : g.broken = isBreak prev
  first_ne : g.broken = true → g.first ≠ ['\n']
  spacing_eq : g.broken = false → prev ≠ ' ' → g.spacing = []

namespace Gap.Behind

theorem empty (hb : isBreak c = false) : Gap.Behind {} c :=
  ⟨hb.symm, nofun, fun _ _ => rfl⟩

theorem addSpacing (h : gap.Behind prev) (hb : isBreak prev = false) :
    (gap.addSpacing ' ').Behind ' ' where
  broken_eq := by
    rw [Gap.broken_addSpacing, h.broken_eq, hb]
    rfl
  first_ne hbroken := by
    rw [Gap.broken_addSpacing, h.broken_eq, hb] at hbroken
    contradiction
  spacing_eq _ hne := absurd rfl hne

theorem addBreak (h : gap.Behind prev) (hc : isPlainPrintable c = true) (hn : c ≠ '\n')
    (hb : isBreak c = true) : (gap.addBreak c).Behind c := by
  rw [Gap.addBreak, breakText_of_isPlainPrintable hc hb]
  split
  next hbroken => exact ⟨by rw [hb]; exact hbroken, h.first_ne, fun hf => by simp_all⟩
  next => exact ⟨hb.symm, by simp [hn], fun hf => absurd hf (by simp)⟩

/-- A break behind anything but a space adds itself to the text. -/
theorem text_addBreak (h : gap.Behind prev) (hc : isPlainPrintable c = true) (hn : c ≠ '\n')
    (hb : isBreak c = true) (hprev : prev ≠ ' ') : (gap.addBreak c).text = gap.text ++ [c] := by
  rw [Gap.addBreak, breakText_of_isPlainPrintable hc hb]
  cases hbroken : gap.broken with
  | false => simp [Gap.text, hbroken, h.spacing_eq hbroken hprev, hn]
  | true => simp [Gap.text, hbroken, h.first_ne hbroken]

end Gap.Behind

theorem readSingleQuoted_quote :
    readSingleQuoted gap place ('\'' :: '\'' :: t) =
      (readSingleQuoted {} (place.past 2) t).map (·.prepend (gap.text ++ ['\''])) := by
  rw [readSingleQuoted]

theorem readSingleQuoted_end (ht : t.head? ≠ some '\'') :
    readSingleQuoted gap place ('\'' :: t) = some ⟨gap.text, ⟨t, place.past 1⟩⟩ := by
  rw [readSingleQuoted]
  · simp
  · rintro rest - rfl
    simp at ht
  · rintro rest h
    exact absurd h (by decide)

theorem readSingleQuoted_char (hq : c ≠ '\'') (hr : c ≠ '\r') :
    readSingleQuoted gap place (c :: t) =
      if isSpacing c then readSingleQuoted (gap.addSpacing c) (place.past 1) t
      else if isBreak c then readSingleQuoted (gap.addBreak c) (place.pastBreak 1) t
      else if isDocumentMark (c :: t) place.column then none
      else (readSingleQuoted {} (place.past 1) t).map (·.prepend (gap.text ++ [c])) := by
  rw [readSingleQuoted, if_neg hq]
  · rintro rest rfl
    contradiction
  · rintro rest rfl
    contradiction

theorem readSingleQuoted_spaces (h : gap.broken = true) (n : Nat) (place : Place) :
    readSingleQuoted gap place (spaces n ++ t) = readSingleQuoted gap (place.past n) t := by
  induction n generalizing place with
  | zero => simp [spaces]
  | succ n ih =>
    rw [spaces_succ, List.cons_append, readSingleQuoted_char (by decide) (by decide),
      Gap.addSpacing_of_broken h, ih, Place.past_past, Nat.add_comm]
    rfl

/-- The indentation of a line behind a break is skipped. -/
theorem readSingleQuoted_indent {column : Nat} (hcol : 0 < column)
    (hplace : gap.broken = false → 0 < place.column) :
    ∃ p : Place, 0 < p.column ∧ p.line = place.line ∧ ∀ u, readSingleQuoted gap place
      ((if gap.broken then spaces column else []) ++ u) = readSingleQuoted gap p u := by
  cases hb : gap.broken with
  | false => exact ⟨place, hplace hb, rfl, fun u => rfl⟩
  | true => exact ⟨place.past column, by simp; omega, rfl, fun u => readSingleQuoted_spaces hb _ _⟩

theorem hasSpaceBeforeBreak_quote : hasSpaceBeforeBreak ('\'' :: cs) = hasSpaceBeforeBreak cs := by
  cases cs <;> rfl

theorem hasSpaceAfterBreak_quote : hasSpaceAfterBreak ('\'' :: cs) = hasSpaceAfterBreak cs := by
  cases cs <;> rfl

theorem readSingleQuoted_chars {column : Nat} (hcol : 0 < column) (ht : t.head? ≠ some '\'')
    (hprint : ∀ c ∈ cs, isPlainPrintable c = true ∧ c ≠ '\n')
    (hbefore : hasSpaceBeforeBreak (prev :: cs) = false)
    (hafter : hasSpaceAfterBreak (prev :: cs) = false) (hgap : gap.Behind prev)
    (hplace : gap.broken = false → 0 < place.column) :
    ∃ p : Place, place.line ≤ p.line ∧
      readSingleQuoted gap place (singleQuotedChars column gap.broken cs ++ t) =
        some ⟨gap.text ++ cs, ⟨t, p⟩⟩ := by
  induction cs generalizing prev gap place with
  | nil =>
    obtain ⟨p, -, hline, hp⟩ := readSingleQuoted_indent hcol hplace
    refine ⟨p.past 1, by simp [hline], ?_⟩
    rw [singleQuotedChars, List.append_assoc, hp, List.singleton_append, readSingleQuoted_end ht,
      List.append_nil]
  | cons c cs ih =>
    obtain ⟨⟨hc, hn⟩, hcs⟩ := List.forall_mem_cons.1 hprint
    simp only [hasSpaceBeforeBreak, hasSpaceAfterBreak, anyPair, Bool.or_eq_false_iff,
      Bool.and_eq_false_iff, beq_eq_false_iff_ne] at hbefore hafter
    rw [singleQuotedChars]
    by_cases hb : isBreak c = true
    · have hq : c ≠ '\'' := by
        rintro rfl
        exact absurd hb (by decide)
      have hprev : prev ≠ ' ' := hbefore.1.resolve_right (by simp [hb])
      have hgap' := hgap.addBreak hc hn hb
      have hplace' : (gap.addBreak c).broken = false → 0 < (place.pastBreak 1).column := by
        simp [hgap'.broken_eq, hb]
      obtain ⟨p, hline, hp⟩ := ih hcs hbefore.2 hafter.2 hgap' hplace'
      refine ⟨p, Nat.le_trans (Nat.le_succ _) hline, ?_⟩
      rw [hgap'.broken_eq, hb] at hp
      rw [if_pos hb, List.cons_append, readSingleQuoted_char hq (ne_return_of_isPlainPrintable hc),
        isSpacing_of_isBreak hb, if_neg (by decide), if_pos hb, hp,
        hgap.text_addBreak hc hn hb hprev, List.append_assoc, List.singleton_append]
    rw [Bool.not_eq_true] at hb
    rw [if_neg (by simp [hb]), List.append_assoc, List.append_assoc]
    by_cases hspace : c = ' '
    · subst hspace
      have hprev : isBreak prev = false := by simpa using hafter.1
      have hbroken : gap.broken = false := by rw [hgap.broken_eq, hprev]
      have hbroken' : (gap.addSpacing ' ').broken = false := by rw [Gap.broken_addSpacing, hbroken]
      obtain ⟨p, hline, hp⟩ := ih hcs hbefore.2 hafter.2 (hgap.addSpacing hprev)
        (fun _ => place.column_past_pos Nat.one_pos)
      refine ⟨p, hline, ?_⟩
      rw [hbroken'] at hp
      rw [hbroken, if_neg (by decide), List.nil_append, if_neg (by decide), List.singleton_append,
        readSingleQuoted_char (by decide) (by decide), if_pos (by decide), hp,
        Gap.text_addSpacing hbroken, List.append_assoc, List.singleton_append]
    -- in front of any other character the gap is read, with the indentation behind a break
    obtain ⟨q, hpos, hline, hq⟩ := readSingleQuoted_indent hcol hplace
    rw [hq]
    by_cases hquote : c = '\''
    · subst hquote
      obtain ⟨p, hline', hp⟩ := ih hcs hbefore.2 hafter.2 (Gap.Behind.empty hb)
        (fun _ => q.column_past_pos Nat.two_pos)
      refine ⟨p, hline ▸ hline', ?_⟩
      rw [if_pos rfl, List.cons_append, List.singleton_append, readSingleQuoted_quote, hp]
      simp [Reading.prepend]
    · obtain ⟨p, hline', hp⟩ := ih hcs hbefore.2 hafter.2 (Gap.Behind.empty hb)
        (fun _ => q.column_past_pos Nat.one_pos)
      refine ⟨p, hline ▸ hline', ?_⟩
      rw [if_neg hquote, List.singleton_append,
        readSingleQuoted_char hquote (ne_return_of_isPlainPrintable hc),
        isSpacing_of_isPlainPrintable hc hspace, hb, isDocumentMark_of_pos hpos, hp]
      simp [Reading.prepend]

/-- A text that may stand between single quotes is read up to the closing quote. -/
theorem readSingleQuoted_text {column : Nat} (hcol : 0 < column) (ht : t.head? ≠ some '\'')
    (hcs : singleQuotedAllowed cs = true) (hn : '\n' ∉ cs) (hplace : 0 < place.column) :
    ∃ p : Place, place.line ≤ p.line ∧
      readSingleQuoted {} place (singleQuotedChars column false cs ++ t) = some ⟨cs, ⟨t, p⟩⟩ := by
  obtain ⟨hprint, hbefore, hafter⟩ := singleQuotedAllowed_iff.1 hcs
  -- what stands in front is the opening quote
  exact readSingleQuoted_chars hcol ht (fun c hc => ⟨hprint c hc, fun hc' => hn (hc' ▸ hc)⟩)
    (hasSpaceBeforeBreak_quote.trans hbefore) (hasSpaceAfterBreak_quote.trans hafter)
    (Gap.Behind.empty (by decide)) (fun _ => hplace)

/-! ## Escapes -/

theorem hexValue?_upperHexDigit {d : Nat} (h : d < 16) : hexValue? (upperHexDigit d) = some d := by
  have hall : ∀ d < 16, hexValue? (upperHexDigit d) = some d := by decide
  exact hall d h

theorem hexNumber?_concat (cs : List Char) (c : Char) :
    hexNumber? (cs ++ [c]) =
      (hexNumber? cs).bind fun n => (hexValue? c).bind fun d => some (n * 16 + d) := by
  simp [hexNumber?]

theorem hexNumber?_hexDigits (width n : Nat) :
    hexNumber? (hexDigits width n) = some (n % 16 ^ width) := by
  induction width generalizing n with
  | zero => simp [hexDigits, hexNumber?, Nat.mod_one]
  | succ width ih =>
    have hdigit := hexValue?_upperHexDigit (Nat.mod_lt n (by decide : 0 < 16))
    rw [hexDigits, hexNumber?_concat, ih, hdigit, Nat.pow_succ', Nat.mod_mul]
    simp only [Option.bind_some, Option.some.injEq]
    omega

theorem toNat_bounds (c : Char) :
    c.toNat < 0xD800 ∨ (0xDFFF < c.toNat ∧ c.toNat < 0x110000) := c.valid

theorem hexChar?_hexDigits {width : Nat} (h : c.toNat < 16 ^ width) :
    hexChar? (hexDigits width c.toNat) = some c := by
  have hvalid : c.toNat ≤ 0x10FFFF ∧ ¬ (0xD800 ≤ c.toNat ∧ c.toNat ≤ 0xDFFF) := by
    have hc := toNat_bounds c
    omega
  rw [hexChar?, hexNumber?_hexDigits, Nat.mod_eq_of_lt h]
  simp only [Option.bind_eq_bind, Option.bind_some]
  rw [if_pos hvalid, Char.ofNat_toNat]

/-- The letter of an escape is read as the character, and as no other thing. -/
theorem escapedLetter?_of_escapeLetter? {e : Char} (h : escapeLetter? c.toNat = some e) :
    escapedLetter? e = some c ∧ isReadable e = true ∧ isBreak e = false ∧ e ≠ 'x' ∧ e ≠ 'u' ∧
      e ≠ 'U' := by
  rw [← Char.ofNat_toNat c]
  generalize c.toNat = n at h
  rw [escapeLetter?] at h
  iterate 14
    obtain ⟨rfl, he⟩ | ⟨-, h⟩ := ite_eq_iff.1 h
    · obtain rfl := Option.some.inj he
      decide
  contradiction

/-! ## Double quotes -/

theorem readDoubleQuoted_end :
    readDoubleQuoted gap place ('"' :: t) = some ⟨gap.text, ⟨t, place.past 1⟩⟩ := by
  rw [readDoubleQuoted] <;> simp

theorem readDoubleQuoted_char (hq : c ≠ '"') (hr : c ≠ '\r') (he : c ≠ '\\') :
    readDoubleQuoted gap place (c :: t) =
      if isSpacing c then readDoubleQuoted (gap.addSpacing c) (place.past 1) t
      else if isBreak c then readDoubleQuoted (gap.addBreak c) (place.pastBreak 1) t
      else if isDocumentMark (c :: t) place.column then none
      else (readDoubleQuoted {} (place.past 1) t).map (·.prepend (gap.text ++ [c])) := by
  rw [readDoubleQuoted, if_neg hq, if_neg he]
  all_goals
    intros
    contradiction

theorem readDoubleQuoted_letter {e : Char} (hc : escapedLetter? e = some c) (hb : isBreak e = false)
    (hx : e ≠ 'x') (hu : e ≠ 'u') (hU : e ≠ 'U') :
    readDoubleQuoted gap place ('\\' :: e :: t) =
      (readDoubleQuoted {} (place.past 2) t).map (·.prepend (gap.text ++ [c])) := by
  have hr : e ≠ '\r' := by
    rintro rfl
    exact absurd hb (by decide)
  rw [readDoubleQuoted]
  · simp only [hb, Bool.false_eq_true, if_false, hc, Option.bind_eq_bind, Option.bind_some]
    cases readDoubleQuoted {} (place.past 2) t <;> rfl
  all_goals
    intros
    contradiction

theorem readDoubleQuoted_hex2 {a b : Char} (hc : hexChar? [a, b] = some c) :
    readDoubleQuoted gap place ('\\' :: 'x' :: a :: b :: t) =
      (readDoubleQuoted {} (place.past 4) t).map (·.prepend (gap.text ++ [c])) := by
  rw [readDoubleQuoted, hc]
  cases readDoubleQuoted {} (place.past 4) t <;> rfl

theorem readDoubleQuoted_hex4 {a₁ a₂ a₃ a₄ : Char} (hc : hexChar? [a₁, a₂, a₃, a₄] = some c) :
    readDoubleQuoted gap place ('\\' :: 'u' :: a₁ :: a₂ :: a₃ :: a₄ :: t) =
      (readDoubleQuoted {} (place.past 6) t).map (·.prepend (gap.text ++ [c])) := by
  rw [readDoubleQuoted, hc]
  cases readDoubleQuoted {} (place.past 6) t <;> rfl

theorem readDoubleQuoted_hex8 {a₁ a₂ a₃ a₄ a₅ a₆ a₇ a₈ : Char}
    (hc : hexChar? [a₁, a₂, a₃, a₄, a₅, a₆, a₇, a₈] = some c) :
    readDoubleQuoted gap place ('\\' :: 'U' :: a₁ :: a₂ :: a₃ :: a₄ :: a₅ :: a₆ :: a₇ :: a₈ :: t) =
      (readDoubleQuoted {} (place.past 10) t).map (·.prepend (gap.text ++ [c])) := by
  rw [readDoubleQuoted, hc]
  cases readDoubleQuoted {} (place.past 10) t <;> rfl

/-- An escaped character is read as itself. -/
theorem readDoubleQuoted_escapedChar (gap : Gap) (place : Place) (c : Char) : ∃ n, 0 < n ∧
    ∀ t, readDoubleQuoted gap place (escapedChar c ++ t) =
      (readDoubleQuoted {} (place.past n) t).map (·.prepend (gap.text ++ [c])) := by
  simp only [escapedChar]
  split
  next e h =>
    obtain ⟨hc, -, hb, hx, hu, hU⟩ := escapedLetter?_of_escapeLetter? h
    exact ⟨2, by decide, fun t => readDoubleQuoted_letter hc hb hx hu hU⟩
  next =>
    have hlt := toNat_bounds c
    split
    next h => exact ⟨4, by decide, fun t =>
      readDoubleQuoted_hex2 (hexChar?_hexDigits (by omega : c.toNat < 16 ^ 2))⟩
    next =>
      split
      next h => exact ⟨6, by decide, fun t =>
        readDoubleQuoted_hex4 (hexChar?_hexDigits (by omega : c.toNat < 16 ^ 4))⟩
      next => exact ⟨10, by decide, fun t =>
        readDoubleQuoted_hex8 (hexChar?_hexDigits (by omega : c.toNat < 16 ^ 8))⟩

theorem readDoubleQuoted_chars (hgap : gap.broken = false) (hplace : 0 < place.column) :
    ∃ p : Place, place.line ≤ p.line ∧
      readDoubleQuoted gap place (cs.flatMap doubleQuotedChar ++ '"' :: t) =
        some ⟨gap.text ++ cs, ⟨t, p⟩⟩ := by
  induction cs generalizing gap place with
  | nil => exact ⟨place.past 1, Nat.le_refl _, by simp [readDoubleQuoted_end]⟩
  | cons c cs ih =>
    rw [List.flatMap_cons, List.append_assoc, doubleQuotedChar]
    split
    next =>
      obtain ⟨n, hn, hread⟩ := readDoubleQuoted_escapedChar gap place c
      obtain ⟨p, hline, hp⟩ := ih (rfl : ({} : Gap).broken = false) (place.column_past_pos hn)
      refine ⟨p, hline, ?_⟩
      rw [hread, hp]
      simp [Reading.prepend]
    next h =>
      simp only [Bool.or_eq_true, Bool.not_eq_true', beq_iff_eq, not_or, Bool.not_eq_false,
        Bool.not_eq_true] at h
      obtain ⟨⟨⟨hc, hb⟩, hq⟩, he⟩ := h
      rw [List.singleton_append, readDoubleQuoted_char hq (ne_return_of_isPlainPrintable hc) he]
      by_cases hspace : c = ' '
      · subst hspace
        have hbroken : (gap.addSpacing ' ').broken = false := by rw [Gap.broken_addSpacing, hgap]
        obtain ⟨p, hline, hp⟩ := ih hbroken (place.column_past_pos Nat.one_pos)
        refine ⟨p, hline, ?_⟩
        rw [if_pos (by decide), hp, Gap.text_addSpacing hgap, List.append_assoc,
          List.singleton_append]
      · obtain ⟨p, hline, hp⟩ := ih (rfl : ({} : Gap).broken = false)
          (place.column_past_pos Nat.one_pos)
        refine ⟨p, hline, ?_⟩
        rw [isSpacing_of_isPlainPrintable hc hspace, hb, isDocumentMark_of_pos hplace, hp]
        simp [Reading.prepend]

/-- Any text is read up to the closing quote. -/
theorem readDoubleQuoted_text (cs t : List Char) (hplace : 0 < place.column) :
    ∃ p : Place, place.line ≤ p.line ∧
      readDoubleQuoted {} place (cs.flatMap doubleQuotedChar ++ '"' :: t) = some ⟨cs, ⟨t, p⟩⟩ :=
  readDoubleQuoted_chars rfl hplace

end

end AsyncIdioms.Yaml
