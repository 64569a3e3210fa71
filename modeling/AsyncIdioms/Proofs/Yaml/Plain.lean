/-
  Written plain scalars are read back.

  The reader gives the text from which the writer made the scalar, and stops right behind it. A line
  is followed by the next one, which starts in some column with a character that shows (`StartsInk`),
  or by the end of the text:

  * `readPlain_text` : a scalar at the end of its line, with the break and the spaces behind it;
  * `readPlain_key` : a key, up to its colon.

  Both follow from `readPlain_words`, by induction on the characters of the text. The spaces that the
  reader has seen and not yet given out (`Gap`) stand in front of the text in the statement.
-/
import AsyncIdioms.Yaml.Token
import AsyncIdioms.Yaml.Writer

namespace AsyncIdioms.Yaml

/-! ## Characters -/

section
variable {c : Char}

theorem isReadable_of_isPlainPrintable (h : isPlainPrintable c = true) : isReadable c = true := by
  simp only [isPlainPrintable, isReadable, Bool.or_eq_true, Bool.and_eq_true, beq_iff_eq, bne_iff_ne,
    decide_eq_true_eq] at h ⊢
  omega

theorem ne_tab_of_isPlainPrintable (h : isPlainPrintable c = true) : c ≠ '\t' := by
  rintro rfl
  exact absurd h (by decide)

theorem ne_return_of_isPlainPrintable (h : isPlainPrintable c = true) : c ≠ '\r' := by
  rintro rfl
  exact absurd h (by decide)

theorem isSpacing_of_isBreak (h : isBreak c = true) : isSpacing c = false := by
  rw [Bool.eq_false_iff]
  intro hs
  simp only [isSpacing, Bool.or_eq_true, beq_iff_eq] at hs
  rcases hs with rfl | rfl <;> exact absurd h (by decide)

theorem isSpacing_of_isPlainPrintable (h : isPlainPrintable c = true) (hc : c ≠ ' ') :
    isSpacing c = false := by
  simp [isSpacing, hc, ne_tab_of_isPlainPrintable h]

/-- The breaks that are written as themselves are read as themselves. -/
theorem breakText_of_isPlainPrintable (h : isPlainPrintable c = true) (hb : isBreak c = true) :
    breakText c = [c] := by
  rw [breakText]
  split
  · rfl
  next hs =>
    have hn : c = '\n' := by
      simp only [isBreak, Bool.or_eq_true, beq_iff_eq, hs, Bool.false_eq_true, or_false] at hb
      rcases hb with (hn | hr) | hu
      · exact hn
      · exact absurd hr (ne_return_of_isPlainPrintable h)
      · simp [isPlainPrintable, hu] at h
    rw [hn]

/-- A character with which neither spacing nor a comment starts. -/
def isInk (c : Char) : Bool := !(isSpacing c || isBreak c || c == '#' || isByteOrderMark c)

/-- A small letter or an underscore, of which keys consist. -/
def isKeyChar (c : Char) : Bool := c.isLower || c == '_'

theorem ne_of_isKeyChar {d : Char} (hc : isKeyChar c = true) (hd : isKeyChar d = false) : c ≠ d := by
  rintro rfl
  exact Bool.noConfusion (hc.symm.trans hd)

theorem isKeyChar_printable (h : isKeyChar c = true) :
    isPlainPrintable c = true ∧ isBreak c = false := by
  have hn : (0x61 ≤ c.toNat ∧ c.toNat ≤ 0x7A) ∨ c.toNat = 0x5F := by
    rw [isKeyChar, Bool.or_eq_true] at h
    rcases h with h | h
    · obtain ⟨h₁, h₂⟩ := Bool.and_eq_true_iff.1 h
      exact .inl ⟨UInt32.le_iff_toNat_le.1 (of_decide_eq_true h₁),
        UInt32.le_iff_toNat_le.1 (of_decide_eq_true h₂)⟩
    · rw [beq_iff_eq] at h
      exact .inr (h ▸ rfl)
  have hlf : (c == '\n') = false := beq_eq_false_iff_ne.2 (ne_of_isKeyChar h rfl)
  have hcr : (c == '\r') = false := beq_eq_false_iff_ne.2 (ne_of_isKeyChar h rfl)
  simp only [isPlainPrintable, isBreak, isSeparator, Bool.or_eq_true, Bool.and_eq_true,
    Bool.or_eq_false_iff, decide_eq_true_eq, beq_iff_eq, beq_eq_false_iff_ne, hlf, hcr,
    bne_iff_ne, true_and]
  omega

/-- The text starts with a character that shows, or ends. -/
def StartsInk (t : List Char) : Prop := ∀ c ∈ t.head?, isInk c = true

theorem isInk_iff : isInk c = true ↔
    isSpacing c = false ∧ isBreak c = false ∧ c ≠ '#' ∧ isByteOrderMark c = false := by
  simp [isInk, and_assoc]

theorem StartsInk.head {t : List Char} (h : StartsInk (c :: t)) :
    isSpacing c = false ∧ isBreak c = false ∧ c ≠ '#' ∧ isByteOrderMark c = false :=
  isInk_iff.1 (h c rfl)

theorem startsInk_cons {t : List Char} (h : isInk c = true) : StartsInk (c :: t) :=
  fun _ hc => Option.some.inj hc ▸ h

theorem isInk_of_isPlainPrintable (hc : isPlainPrintable c = true) (hspace : c ≠ ' ')
    (hb : isBreak c = false) (hhash : c ≠ '#') : isInk c = true := by
  have hmark : isByteOrderMark c = false := by
    rw [Bool.eq_false_iff]
    intro h
    simp only [isByteOrderMark, beq_iff_eq] at h
    simp [isPlainPrintable, h] at hc
  exact isInk_iff.2 ⟨isSpacing_of_isPlainPrintable hc hspace, hb, hhash, hmark⟩

theorem isInk_of_isKeyChar (hc : isKeyChar c = true) : isInk c = true := by
  obtain ⟨hprint, hb⟩ := isKeyChar_printable hc
  exact isInk_of_isPlainPrintable hprint (ne_of_isKeyChar hc rfl) hb (ne_of_isKeyChar hc rfl)

end

namespace Place

@[simp]
theorem past_zero (p : Place) : p.past 0 = p := rfl

@[simp]
theorem past_past (p : Place) (m n : Nat) : (p.past m).past n = p.past (m + n) := by
  simp [past, Nat.add_assoc]

@[simp]
theorem column_past (p : Place) (n : Nat) : (p.past n).column = p.column + n := rfl

@[simp]
theorem line_past (p : Place) (n : Nat) : (p.past n).line = p.line := rfl

@[simp]
theorem column_pastBreak (p : Place) (n : Nat) : (p.pastBreak n).column = 0 := rfl

theorem column_past_pos (p : Place) {n : Nat} (h : 0 < n) : 0 < (p.past n).column :=
  Nat.add_pos_right _ h

end Place

theorem isDocumentMark_of_pos {rest : List Char} {column : Nat} (h : 0 < column) :
    isDocumentMark rest column = false := by
  have : column ≠ 0 := by omega
  simp [isDocumentMark, this]

theorem isDocumentMark_of_ne {c : Char} {rest : List Char} {column : Nat} (hdash : c ≠ '-')
    (hdot : c ≠ '.') : isDocumentMark (c :: rest) column = false := by
  rw [isDocumentMark]
  · simp
  · rintro tail h
    exact absurd (List.cons.inj h).1 hdash
  · rintro tail h
    exact absurd (List.cons.inj h).1 hdot

theorem spaces_succ (n : Nat) : spaces (n + 1) = ' ' :: spaces n := rfl

namespace Gap

@[simp]
theorem text_empty : ({} : Gap).text = [] := rfl

theorem text_addSpacing {g : Gap} (h : g.broken = false) (c : Char) :
    (g.addSpacing c).text = g.text ++ [c] := by
  simp [addSpacing, text, h]

theorem broken_addSpacing (g : Gap) (c : Char) : (g.addSpacing c).broken = g.broken := by
  rw [addSpacing]
  split <;> simp_all

theorem addSpacing_of_broken {g : Gap} (h : g.broken = true) (c : Char) : g.addSpacing c = g := by
  rw [addSpacing, if_pos h]

end Gap

/-! ## Plain scalars -/

section
variable {indent k : Nat} {gap : Gap} {atWord : Bool} {place : Place} {c prev : Char}
  {cs t : List Char}

theorem readPlain_space : readPlain false indent gap atWord place (' ' :: t) =
    readPlain false indent (gap.addSpacing ' ') true (place.past 1) t := by
  simp [readPlain, isSpacing]

theorem readPlain_break (hr : c ≠ '\r') (hb : isBreak c = true) (hs : isSpacing c = false) :
    readPlain false indent gap atWord place (c :: t) =
      readPlain false indent (gap.addBreak c) true (place.pastBreak 1) t := by
  rw [readPlain]
  · simp [hs, hb]
  · rintro rest rfl
    contradiction

theorem isMisplacedColon_false (cs : List Char) : isMisplacedColon false cs = false := by
  rw [isMisplacedColon.eq_def]
  split <;> rfl

/-- In front of a character of a word: the scalar ends there, or the character belongs to it. -/
theorem readPlain_inkOrHash (hs : isSpacing c = false) (hb : isBreak c = false) :
    readPlain false indent gap atWord place (c :: t) =
      if atWord && (decide (place.column < indent) || c == '#' ||
          isDocumentMark (c :: t) place.column) || (c == ':' && isBlankOrEnd t) then
        some (⟨[], ⟨c :: t, place⟩⟩, gap.broken)
      else (readPlain false indent {} false (place.past 1) t).map fun (reading, broken) =>
        (reading.prepend (gap.text ++ [c]), broken) := by
  rw [readPlain]
  · rw [hs, hb, isMisplacedColon_false]
    simp only [Bool.false_eq_true, if_false, Bool.not_false, Bool.true_and, endsPlainWord,
      Bool.false_and, Bool.or_false]
    cases atWord && (decide (place.column < indent) || c == '#' ||
      isDocumentMark (c :: t) place.column)
    · cases c == ':' && isBlankOrEnd t
      · cases readPlain false indent {} false (place.past 1) t <;> rfl
      · rfl
    · rfl
  · rintro rest rfl
    exact absurd hb (by decide)

theorem readPlain_spaces (h : gap.broken = true) (n : Nat) (place : Place) :
    readPlain false indent gap true place (spaces n ++ t) =
      readPlain false indent gap true (place.past n) t := by
  induction n generalizing place with
  | zero => simp [spaces]
  | succ n ih =>
    rw [spaces_succ, List.cons_append, readPlain_space, Gap.addSpacing_of_broken h, ih,
      Place.past_past, Nat.add_comm]

/-- At the end of its line a plain scalar ends, if the next line is indented less. -/
theorem readPlain_lineEnd (ht : StartsInk t) (hk : k < indent) (place : Place) :
    readPlain false indent {} false place ('\n' :: spaces k ++ t) =
      some (⟨[], ⟨t, (place.pastBreak 1).past k⟩⟩, true) := by
  rw [List.cons_append, readPlain_break (by decide) (by decide) (by decide), readPlain_spaces rfl]
  cases t with
  | nil =>
    rw [readPlain]
    rfl
  | cons c t =>
    obtain ⟨hs, hb, -⟩ := ht.head
    rw [readPlain_inkOrHash hs hb]
    simp [hk, Gap.addBreak]

/-- At a colon that ends a word a plain scalar ends. -/
theorem readPlain_colon (ht : isBlankOrEnd t = true) (place : Place) :
    readPlain false indent {} false place (':' :: t) = some (⟨[], ⟨':' :: t, place⟩⟩, false) := by
  rw [readPlain_inkOrHash (by decide) (by decide)]
  simp [ht]

theorem isBlankOrEnd_append (h : isBlankOrEnd cs = false) (t : List Char) :
    isBlankOrEnd (cs ++ t) = false := by
  cases cs with
  | nil => exact absurd h (by decide)
  | cons c cs => exact h

/-- The words of a plain scalar are read, with the spaces between them, up to where it ends. `prev`
    is the character in front; behind a space the gap is open. -/
theorem readPlain_words {ending : List Char} {cursor : Cursor} {broken : Bool}
    (hprint : ∀ c ∈ cs, isPlainPrintable c = true ∧ isBreak c = false)
    (hinner : hasInnerIndicator (prev :: cs) = false) (hlast : (prev :: cs).getLast? ≠ some ' ')
    (hgap : gap.broken = false) (hprev : prev ≠ ' ' → gap = {} ∧ atWord = false)
    (hplace : atWord = true ∨ ' ' ∈ cs → indent ≤ place.column ∧ 0 < place.column)
    (hend : readPlain false indent {} false (place.past cs.length) ending =
      some (⟨[], cursor⟩, broken)) :
    readPlain false indent gap atWord place (cs ++ ending) =
      some (⟨gap.text ++ cs, cursor⟩, broken) := by
  induction cs generalizing prev gap atWord place with
  | nil =>
    obtain ⟨rfl, rfl⟩ := hprev (by simpa using hlast)
    simpa using hend
  | cons c cs ih =>
    obtain ⟨⟨hc, hb⟩, hcs⟩ := List.forall_mem_cons.1 hprint
    simp only [hasInnerIndicator, Bool.or_eq_false_iff] at hinner
    obtain ⟨⟨hcolon, hhash⟩, hinner⟩ := hinner
    rw [List.getLast?_cons_cons] at hlast
    rw [List.length_cons, Nat.add_comm, ← Place.past_past] at hend
    by_cases hspace : c = ' '
    · subst hspace
      obtain ⟨hindent, hpos⟩ := hplace (.inr List.mem_cons_self)
      rw [List.cons_append, readPlain_space, ih hcs hinner hlast (by rw [Gap.broken_addSpacing, hgap])
        (by simp) (fun _ => ⟨Nat.le_succ_of_le hindent, Nat.succ_pos _⟩) hend,
        Gap.text_addSpacing hgap, List.append_assoc, List.singleton_append]
    · have hs : isSpacing c = false := isSpacing_of_isPlainPrintable hc hspace
      have hcolon' : (c == ':' && isBlankOrEnd (cs ++ ending)) = false := by
        rw [Bool.and_eq_false_iff] at hcolon ⊢
        exact hcolon.imp_right (isBlankOrEnd_append · ending)
      -- behind a space the scalar could end at a number sign, or if it stood too far to the left
      have hword : (atWord && (decide (place.column < indent) || c == '#' ||
          isDocumentMark (c :: (cs ++ ending)) place.column)) = false := by
        cases atWord with
        | false => rfl
        | true =>
          obtain ⟨hindent, hpos⟩ := hplace (.inl rfl)
          have hblank : prev = ' ' :=
            Decidable.byContradiction fun hne => Bool.noConfusion (hprev hne).2
          have hhash' : (c == '#') = false := by simpa [hblank, isBlankOrEnd, isSpacing] using hhash
          simp [hindent, hhash', isDocumentMark_of_pos hpos]
      rw [List.cons_append, readPlain_inkOrHash hs hb, hword, hcolon']
      have hplace' : false = true ∨ ' ' ∈ cs →
          indent ≤ (place.past 1).column ∧ 0 < (place.past 1).column := by
        rintro (h | h)
        · contradiction
        · obtain ⟨hindent, hpos⟩ := hplace (.inr (List.mem_cons_of_mem _ h))
          exact ⟨Nat.le_succ_of_le hindent, Nat.succ_pos _⟩
      simp only [Bool.or_self, Bool.false_eq_true, if_false,
        ih hcs hinner hlast rfl (fun _ => ⟨rfl, rfl⟩) hplace' hend, Option.map_some,
        Reading.prepend, Gap.text_empty, List.nil_append, List.append_assoc, List.singleton_append]

theorem hasSpecial_eq_false_iff :
    hasSpecial cs = false ↔ ∀ c ∈ cs, isPlainPrintable c = true := by
  simp [hasSpecial]

theorem singleQuotedAllowed_iff : singleQuotedAllowed cs = true ↔
    (∀ c ∈ cs, isPlainPrintable c = true) ∧ hasSpaceBeforeBreak cs = false ∧
      hasSpaceAfterBreak cs = false := by
  simp only [singleQuotedAllowed, Bool.not_eq_true', Bool.or_eq_false_iff, hasSpecial_eq_false_iff,
    and_assoc]

theorem plainAllowed_iff : plainAllowed cs = true ↔
    singleQuotedAllowed cs = true ∧ startsLikeIndicator cs = false ∧ hasInnerIndicator cs = false ∧
      cs.any isBreak = false ∧ cs.head?.any isSpaceOrBreak = false ∧
      cs.getLast?.any isSpaceOrBreak = false := by
  simp only [plainAllowed, Bool.and_eq_true, Bool.not_eq_true', Bool.or_eq_false_iff, and_assoc]

/-- A text that does not start like an indicator starts with no sign, or a word goes on behind it. -/
theorem startsLikeIndicator_cons (h : startsLikeIndicator (c :: cs) = false) :
    ("#,[]\x7b\x7d&*!|>'\"%@`".toList).contains c = false ∧
      ((c == '?' || c == ':' || c == '-') = true → isBlankOrEnd cs = false) := by
  rw [startsLikeIndicator.eq_def] at h
  split at h
  · contradiction
  · contradiction
  next heq =>
    obtain ⟨rfl, rfl⟩ := List.cons.inj heq
    rw [Bool.or_eq_false_iff] at h
    refine ⟨h.1, fun hsign => ?_⟩
    simpa [hsign] using h.2
  · contradiction

/-- In front of a text that does not start like an indicator, a letter makes none inside it. -/
theorem hasInnerIndicator_cons (hstart : startsLikeIndicator cs = false)
    (hinner : hasInnerIndicator cs = false) : hasInnerIndicator ('x' :: cs) = false := by
  cases cs with
  | nil => rfl
  | cons c cs =>
    have hcolon : (c == ':' && isBlankOrEnd cs) = false := by
      by_cases hc : c = ':'
      · simp [hc, (startsLikeIndicator_cons hstart).2 (by simp [hc])]
      · simp [hc]
    have hx : isBlankOrEnd ['x'] = false := by decide
    simp [hasInnerIndicator, hcolon, hx, hinner]

/-- A plain scalar is read up to the next line, which is indented less. -/
theorem readPlain_text (hcs : plainAllowed cs = true) (hne : cs ≠ []) (ht : StartsInk t)
    (hk : k < indent) (hplace : indent ≤ place.column) :
    readPlain false indent {} false place (cs ++ ('\n' :: spaces k ++ t)) =
      some (⟨cs, ⟨t, ((place.past cs.length).pastBreak 1).past k⟩⟩, true) := by
  obtain ⟨hsingle, hstart, hinner, hbreak, -, hlast⟩ := plainAllowed_iff.1 hcs
  have hprint : ∀ c ∈ cs, isPlainPrintable c = true ∧ isBreak c = false := by
    intro c hc
    exact ⟨(singleQuotedAllowed_iff.1 hsingle).1 c hc,
      Bool.eq_false_iff.2 (List.any_eq_false.1 hbreak c hc)⟩
  have hlast' : ('x' :: cs).getLast? ≠ some ' ' := by
    rw [List.getLast?_cons_of_ne_nil hne]
    intro h
    simp [h, isSpaceOrBreak] at hlast
  exact readPlain_words hprint (hasInnerIndicator_cons hstart hinner) hlast' rfl
    (fun _ => ⟨rfl, rfl⟩) (fun _ => ⟨hplace, by omega⟩) (readPlain_lineEnd ht hk _)

theorem hasInnerIndicator_of_forall (h : ∀ c ∈ cs, c ≠ ':' ∧ c ≠ '#') :
    hasInnerIndicator (prev :: cs) = false := by
  induction cs generalizing prev with
  | nil => rfl
  | cons c cs ih =>
    obtain ⟨⟨hcolon, hhash⟩, hcs⟩ := List.forall_mem_cons.1 h
    simp [hasInnerIndicator, hcolon, hhash, ih hcs]

/-- A key is read up to its colon. -/
theorem readPlain_key (hcs : ∀ c ∈ cs, isKeyChar c = true) (ht : isBlankOrEnd t = true)
    (place : Place) :
    readPlain false indent {} false place (cs ++ ':' :: t) =
      some (⟨cs, ⟨':' :: t, place.past cs.length⟩⟩, false) := by
  have hnospace : ' ' ∉ 'x' :: cs := by
    simp only [List.mem_cons, not_or]
    exact ⟨by decide, fun h => absurd (hcs _ h) (by decide)⟩
  have hinner : hasInnerIndicator ('x' :: cs) = false :=
    hasInnerIndicator_of_forall fun c hc =>
      ⟨ne_of_isKeyChar (hcs c hc) rfl, ne_of_isKeyChar (hcs c hc) rfl⟩
  refine readPlain_words (fun c hc => isKeyChar_printable (hcs c hc)) hinner
    (fun h => hnospace (List.mem_of_getLast? h)) rfl (fun _ => ⟨rfl, rfl⟩) ?_
    (readPlain_colon ht _)
  rintro (h | h)
  · contradiction
  · exact absurd (List.mem_cons_of_mem _ h) hnospace

end

end AsyncIdioms.Yaml
