/-
  The lines of written scalars.

  * `IsScalarLine` : the four forms of a written scalar, with its line end; `isScalarLine_scalarLine`
    says that `scalarLine` writes one of them, in the style that is chosen for the text;
  * `IsScalarLine.readable` : all characters that are written may stand in a text.
-/
import AsyncIdioms.Proofs.Yaml.Block
import AsyncIdioms.Proofs.Yaml.Quoted

namespace AsyncIdioms.Yaml

/-- The written forms of a text. Lines behind the first start in `column`. -/
inductive IsScalarLine (column : Nat) (cs : List Char) : Style → List Char → Prop where
  | plain (hne : cs ≠ []) (hcs : plainAllowed cs = true) :
    IsScalarLine column cs .plain (cs ++ ['\n'])
  | singleQuoted (hn : '\n' ∉ cs) (hcs : singleQuotedAllowed cs = true) :
    IsScalarLine column cs .singleQuoted ('\'' :: (singleQuotedChars column false cs ++ ['\n']))
  | doubleQuoted :
    IsScalarLine column cs .doubleQuoted ('"' :: (cs.flatMap doubleQuotedChar ++ ['"', '\n']))
  | literal (hne : cs ≠ []) (hcs : blockAllowed cs = true) :
    IsScalarLine column cs .literal (literalHead cs ++ (literalLines column true cs ++
      if behindBreak true cs then [] else ['\n']))

section
variable {column : Nat} {cs : List Char} {c : Char}

theorem getLast?_literalLines (column : Nat) (b : Bool) (cs : List Char) :
    (literalLines column b cs).getLast? = cs.getLast? := by
  induction cs generalizing b with
  | nil => rfl
  | cons c cs ih =>
    rw [literalLines, List.getLast?_cons]
    split
    · rw [List.getLast?_cons, ih]
    · rw [List.getLast?_append, List.getLast?_cons, ih]
      rfl

theorem getLast?_singleQuotedChars (column : Nat) (b : Bool) (cs : List Char) :
    (singleQuotedChars column b cs).getLast? = some '\'' := by
  induction cs generalizing b with
  | nil => simp [singleQuotedChars]
  | cons c cs ih =>
    rw [singleQuotedChars]
    split
    · rw [List.getLast?_cons, ih]
      rfl
    · rw [List.getLast?_append, ih]
      rfl

end

/-- What a text is like for which a style is chosen. -/
def Style.Suits (s : String) : Style → Prop
  | plain => readsAsText s = true ∧ plainAllowed s.toList = true
  | singleQuoted => '\n' ∉ s.toList ∧ singleQuotedAllowed s.toList = true
  | doubleQuoted => True
  | literal => s.toList ≠ [] ∧ blockAllowed s.toList = true
  | folded => False

theorem chooseStyle_suits (s : String) : (chooseStyle s).Suits s := by
  rw [chooseStyle]
  by_cases hn : '\n' ∈ s.toList
  · rw [if_pos (List.contains_iff_mem.2 hn)]
    split
    next hb => exact ⟨List.ne_nil_of_mem hn, hb⟩
    next => trivial
  · rw [if_neg (mt List.contains_iff_mem.1 hn)]
    split
    next hp => simpa [Style.Suits] using hp
    next =>
      split
      next hs => exact ⟨hn, hs⟩
      next => trivial

theorem scalarLine_of_getLast? {column : Nat} {s : String} {c : Char}
    (h : (scalarChars column s).getLast? = some c) (hc : isBreak c = false) :
    scalarLine column s = scalarChars column s ++ ['\n'] := by
  rw [scalarLine, h]
  simp [hc]

/-- A text is written in one of the forms, in the style that is chosen for it. -/
theorem isScalarLine_scalarLine (column : Nat) (s : String) :
    IsScalarLine column s.toList (chooseStyle s) (scalarLine column s) := by
  have hsuits := chooseStyle_suits s
  cases hstyle : chooseStyle s with
  | plain =>
    rw [hstyle] at hsuits
    obtain ⟨htext, hplain⟩ := hsuits
    have hchars : scalarChars column s = s.toList := by rw [scalarChars, hstyle]
    have hne : s.toList ≠ [] := by
      intro h
      simp [readsAsText, String.toList_eq_nil_iff.1 h] at htext
    have hlast := (plainAllowed_iff.1 hplain).2.2.2.2.2
    rw [List.getLast?_eq_some_getLast hne] at hlast
    simp only [Option.any_some, isSpaceOrBreak, Bool.or_eq_false_iff] at hlast
    rw [scalarLine_of_getLast? (by rw [hchars, List.getLast?_eq_some_getLast hne]) hlast.2, hchars]
    exact .plain hne hplain
  | singleQuoted =>
    rw [hstyle] at hsuits
    have hchars : scalarChars column s = '\'' :: singleQuotedChars column false s.toList := by
      rw [scalarChars, hstyle]
    have hlast : (scalarChars column s).getLast? = some '\'' := by
      rw [hchars, List.getLast?_cons, getLast?_singleQuotedChars]
      rfl
    rw [scalarLine_of_getLast? hlast (by decide), hchars]
    exact .singleQuoted hsuits.1 hsuits.2
  | doubleQuoted =>
    have hchars : scalarChars column s = '"' :: s.toList.flatMap doubleQuotedChar ++ ['"'] := by
      rw [scalarChars, hstyle]
    have hlast : (scalarChars column s).getLast? = some '"' := by rw [hchars, List.getLast?_concat]
    rw [scalarLine_of_getLast? hlast (by decide), hchars, List.append_assoc, List.cons_append]
    exact .doubleQuoted
  | literal =>
    rw [hstyle] at hsuits
    obtain ⟨hne, hblock⟩ := hsuits
    have hchars : scalarChars column s =
        literalHead s.toList ++ literalLines column true s.toList := by
      rw [scalarChars, hstyle]
    have hlast : (scalarChars column s).getLast?.any isBreak = behindBreak true s.toList := by
      rw [hchars, List.getLast?_append, getLast?_literalLines, behindBreak,
        List.getLast?_eq_some_getLast hne]
      rfl
    have hline : scalarLine column s = literalHead s.toList ++ (literalLines column true s.toList ++
        if behindBreak true s.toList then [] else ['\n']) := by
      rw [scalarLine, hlast, hchars]
      split <;> simp
    rw [hline]
    exact .literal hne hblock
  | folded =>
    rw [hstyle] at hsuits
    exact hsuits.elim

/-! ## The characters -/

/-- A written scalar starts with a character that shows. -/
theorem IsScalarLine.startsInk {column : Nat} {cs : List Char} {style : Style} {line : List Char}
    (h : IsScalarLine column cs style line) (t : List Char) : StartsInk (line ++ t) := by
  cases h with
  | plain hne hcs =>
    cases cs with
    | nil => contradiction
    | cons c cs =>
      obtain ⟨hsingle, hstart, -, -, hhead, -⟩ := plainAllowed_iff.1 hcs
      simp only [List.head?_cons, Option.any_some, isSpaceOrBreak, Bool.or_eq_false_iff,
        beq_eq_false_iff_ne] at hhead
      have hprint := (singleQuotedAllowed_iff.1 hsingle).1 c List.mem_cons_self
      have hhash : c ≠ '#' := by
        rintro rfl
        exact absurd (startsLikeIndicator_cons hstart).1 (by decide)
      exact startsInk_cons (isInk_of_isPlainPrintable hprint hhead.1 hhead.2 hhash)
  | singleQuoted => exact startsInk_cons (by decide)
  | doubleQuoted => exact startsInk_cons (by decide)
  | literal => exact startsInk_cons (by decide)

/-- All characters may stand in a text. -/
def Readable (t : List Char) : Prop := ∀ c ∈ t, isReadable c = true

section
variable {column : Nat} {b : Bool} {cs : List Char} {c : Char}

@[simp]
theorem readable_nil : Readable [] := nofun

@[simp]
theorem readable_cons {t : List Char} : Readable (c :: t) ↔ isReadable c = true ∧ Readable t :=
  List.forall_mem_cons

@[simp]
theorem readable_append {t u : List Char} : Readable (t ++ u) ↔ Readable t ∧ Readable u :=
  List.forall_mem_append

@[simp]
theorem readable_spaces (n : Nat) : Readable (spaces n) := by
  intro c hc
  rw [List.eq_of_mem_replicate hc]
  decide

@[simp]
theorem isReadable_lineFeed : isReadable '\n' = true := by decide

theorem readable_of_all (h : cs.all isReadable = true) : Readable cs := List.all_eq_true.1 h

theorem readable_of_printable (h : ∀ c ∈ cs, isPlainPrintable c = true) : Readable cs :=
  fun c hc => isReadable_of_isPlainPrintable (h c hc)

theorem blockAllowed_printable (h : blockAllowed cs = true) :
    ∀ c ∈ cs, isPlainPrintable c = true := by
  simp only [blockAllowed, Bool.not_eq_true', Bool.or_eq_false_iff] at h
  exact hasSpecial_eq_false_iff.1 h.1.1

theorem readable_singleQuotedChars (h : Readable cs) :
    Readable (singleQuotedChars column b cs) := by
  have hquote : isReadable '\'' = true := by decide
  induction cs generalizing b with
  | nil => cases b <;> simp [singleQuotedChars, hquote]
  | cons c cs ih =>
    obtain ⟨hc, hcs⟩ := readable_cons.1 h
    rw [singleQuotedChars]
    split
    · exact readable_cons.2 ⟨hc, ih hcs⟩
    · refine readable_append.2 ⟨readable_append.2 ⟨by split <;> simp, ?_⟩, ih hcs⟩
      split <;> simp [hquote, hc]

theorem readable_literalLines (h : Readable cs) : Readable (literalLines column b cs) := by
  induction cs generalizing b with
  | nil => exact readable_nil
  | cons c cs ih =>
    obtain ⟨hc, hcs⟩ := readable_cons.1 h
    rw [literalLines]
    split
    · exact readable_cons.2 ⟨hc, ih hcs⟩
    · exact readable_append.2 ⟨by split <;> simp, readable_cons.2 ⟨hc, ih hcs⟩⟩

theorem readable_literalHead (hne : cs ≠ []) : Readable (literalHead cs) := by
  have hsigns : isReadable '|' = true ∧ isReadable '2' = true ∧ isReadable '-' = true ∧
      isReadable '+' = true := by decide
  obtain ⟨chomping, hsign, -⟩ := Chomping.exists_suits hne
  rw [literalHead, hsign]
  cases chomping <;> cases cs.head?.any isSpaceOrBreak <;> simp [Chomping.sign, hsigns]

theorem readable_hexDigits (width n : Nat) : Readable (hexDigits width n) := by
  induction width generalizing n with
  | zero => exact readable_nil
  | succ width ih =>
    have hall : ∀ d < 16, isReadable (upperHexDigit d) = true := by decide
    exact readable_append.2 ⟨ih _, by simp [hall (n % 16) (Nat.mod_lt _ (by decide))]⟩

theorem readable_escapedChar (c : Char) : Readable (escapedChar c) := by
  have hslash : isReadable '\\' = true ∧ isReadable 'x' = true ∧ isReadable 'u' = true ∧
      isReadable 'U' = true := by decide
  rw [escapedChar]
  split
  next e he => simp [hslash, (escapedLetter?_of_escapeLetter? he).2.1]
  next =>
    split
    · simp [hslash, readable_hexDigits]
    · split <;> simp [hslash, readable_hexDigits]

theorem readable_doubleQuotedChar (c : Char) : Readable (doubleQuotedChar c) := by
  rw [doubleQuotedChar]
  split
  · exact readable_escapedChar c
  next h =>
    simp only [Bool.or_eq_true, Bool.not_eq_true', not_or, Bool.not_eq_false] at h
    simp [isReadable_of_isPlainPrintable h.1.1.1]

/-- All characters of a written scalar are readable. -/
theorem IsScalarLine.readable {style : Style} {line : List Char}
    (h : IsScalarLine column cs style line) : Readable line := by
  have hquotes : isReadable '\'' = true ∧ isReadable '"' = true := by decide
  cases h with
  | plain hne hcs =>
    have hprint := (singleQuotedAllowed_iff.1 (plainAllowed_iff.1 hcs).1).1
    simp [readable_of_printable hprint]
  | singleQuoted hn hcs =>
    have hprint := (singleQuotedAllowed_iff.1 hcs).1
    simp [hquotes, readable_singleQuotedChars (readable_of_printable hprint)]
  | doubleQuoted =>
    have hchars : Readable (cs.flatMap doubleQuotedChar) := by
      intro d hd
      obtain ⟨c, -, hd⟩ := List.mem_flatMap.1 hd
      exact readable_doubleQuotedChar c d hd
    simp [hquotes, hchars]
  | literal hne hcs =>
    refine readable_append.2 ⟨readable_literalHead hne, readable_append.2 ⟨?_, by split <;> simp⟩⟩
    exact readable_literalLines (readable_of_printable (blockAllowed_printable hcs))

end

end AsyncIdioms.Yaml
