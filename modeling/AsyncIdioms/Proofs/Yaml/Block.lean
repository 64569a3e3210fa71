/-
  Written blocks are read back.

  * `BlockState.Yields` : from a state, some of the text is read, some characters are given out, and
    another state is reached. What has been read and not given out are breaks (`pending`);
  * `BlockState.Reads` : the same up to these breaks. `BlockState.Fits.reads_char` is the step, for one
    character with the indentation in front of it, `BlockState.Fits.reads_literalLines` the run over a
    text;
  * `Chomping.Suits` : the sign at the head says what becomes of these breaks at the end, so that the
    text is complete (`Chomping.exists_suits`);
  * `readBlock_literal` : the lines of a block, up to the next line, which is indented less.
-/
import AsyncIdioms.Proofs.Yaml.Plain

namespace AsyncIdioms.Yaml

section
variable {s s₁ s₂ : BlockState} {p p₁ p₂ : Place} {c : Char} {cs t : List Char} {column : Nat}

namespace BlockState

/-- Reading `input` gives out `given` and leads to another state and place. -/
def Yields (s : BlockState) (p : Place) (input given : List Char) (s' : BlockState) (p' : Place) :
    Prop :=
  ∀ rest, readBlock s p (input ++ rest) = (readBlock s' p' rest).map (·.prepend given)

theorem Yields.refl (s : BlockState) (p : Place) : s.Yields p [] [] s p := by
  intro rest
  cases h : readBlock s p rest <;> simp [h, Reading.prepend]

theorem Yields.trans {input₁ input₂ given₁ given₂ : List Char}
    (h₁ : s.Yields p input₁ given₁ s₁ p₁) (h₂ : s₁.Yields p₁ input₂ given₂ s₂ p₂) :
    s.Yields p (input₁ ++ input₂) (given₁ ++ given₂) s₂ p₂ := by
  intro rest
  rw [List.append_assoc, h₁, h₂, Option.map_map]
  cases readBlock s₂ p₂ rest <;> simp [Reading.prepend]

/-- The state of a block that keeps its lines and is indented to `column`. -/
structure Fits (s : BlockState) (chomping : Chomping) (column : Nat) (p : Place) : Prop where
  folded_eq : s.folded = false
  chomping_eq : s.chomping = chomping
  indent_eq : s.indent = some column
  in_line : s.inLine = true → s.ended = [] ∧ s.more = []
  at_start : s.inLine = false → p.column = 0

theorem yields_break (hr : c ≠ '\r') (hb : isBreak c = true) :
    s.Yields p [c] [] (s.pastBreak p.column c) (p.pastBreak 1) := by
  intro rest
  rw [List.singleton_append, readBlock, if_pos hb]
  · cases readBlock (s.pastBreak p.column c) (p.pastBreak 1) rest <;> simp [Reading.prepend]
  · rintro rest rfl
    contradiction

theorem yields_inLine (hs : s.inLine = true) (hb : isBreak c = false) :
    s.Yields p [c] [c] s (p.past 1) := by
  intro rest
  rw [List.singleton_append, readBlock, hb, hs]
  · simp
  · rintro rest rfl
    exact absurd hb (by decide)

theorem yields_spaces {n : Nat} (hs : s.inLine = false)
    (hbefore : ∀ i < n, s.isBefore (p.column + i) = true) : s.Yields p (spaces n) [] s (p.past n) := by
  induction n generalizing p with
  | zero => exact Yields.refl s p
  | succ n ih =>
    intro rest
    have hfirst : s.isBefore p.column = true := hbefore 0 (Nat.succ_pos n)
    have hrest : ∀ i < n, s.isBefore ((p.past 1).column + i) = true := fun i hi => by
      have := hbefore (i + 1) (Nat.succ_lt_succ hi)
      rwa [Place.column_past, Nat.add_assoc, Nat.add_comm 1 i]
    rw [spaces_succ, List.cons_append, readBlock, hs, hfirst]
    · have hspace : isBreak ' ' = false := by decide
      simp only [hspace, Bool.false_eq_true, if_false, beq_self_eq_true, Bool.and_self, if_true]
      rw [ih hrest, Place.past_past, Nat.add_comm]
    · rintro rest h
      exact absurd h (by decide)

/-- The first character of a line, in the column where lines start. -/
theorem yields_lineStart (hs : s.inLine = false) (hf : s.folded = false)
    (hc : isPlainPrintable c = true) (hb : isBreak c = false)
    (hspace : c = ' ' → s.isBefore p.column = false) (hcol : s.settledIndent p.column ≤ p.column) :
    s.Yields p [c] (s.ended ++ s.more ++ [c])
      { s with
        indent := some (s.settledIndent p.column), ended := [], more := [],
        afterSpacing := isSpacing c, inLine := true }
      (p.past 1) := by
  intro rest
  have hskip : (c == ' ' && s.isBefore p.column) = false := by
    by_cases h : c = ' '
    · simp [hspace h]
    · simp [h]
  have htab : (c == '\t' && s.isBefore p.column) = false := by
    simp [ne_tab_of_isPlainPrintable hc]
  rw [List.singleton_append, readBlock, hb, hs, hskip, htab]
  · simp [Nat.not_lt.2 hcol, joint, hf]
  · rintro rest rfl
    exact absurd hb (by decide)

/-- The breaks that have been read and not given out. -/
def pending (s : BlockState) : List Char := s.ended ++ s.more

/-- Reading `input` amounts to the text `cs`, up to breaks that are still pending. -/
def Reads (s : BlockState) (p : Place) (input cs : List Char) (s' : BlockState) (p' : Place) : Prop :=
  ∃ given, s.Yields p input given s' p' ∧ given ++ s'.pending = s.pending ++ cs

theorem Reads.trans {input₁ input₂ cs₁ cs₂ : List Char} (h₁ : s.Reads p input₁ cs₁ s₁ p₁)
    (h₂ : s₁.Reads p₁ input₂ cs₂ s₂ p₂) : s.Reads p (input₁ ++ input₂) (cs₁ ++ cs₂) s₂ p₂ := by
  obtain ⟨given₁, hy₁, hg₁⟩ := h₁
  obtain ⟨given₂, hy₂, hg₂⟩ := h₂
  refine ⟨given₁ ++ given₂, hy₁.trans hy₂, ?_⟩
  rw [List.append_assoc, hg₂, ← List.append_assoc, hg₁, List.append_assoc]

end BlockState

open BlockState

/-! ## Lines -/

/-- Does a line start behind these characters? `b` tells whether one starts in front of them. -/
def behindBreak (b : Bool) (cs : List Char) : Bool := (cs.getLast?.map isBreak).getD b

theorem behindBreak_cons (b : Bool) (c : Char) (cs : List Char) :
    behindBreak b (c :: cs) = behindBreak (isBreak c) cs := by
  rw [behindBreak, behindBreak, List.getLast?_cons]
  cases cs.getLast? <;> rfl

theorem behindBreak_concat (b : Bool) (cs : List Char) (c : Char) :
    behindBreak b (cs ++ [c]) = isBreak c := by
  simp [behindBreak]

theorem exists_concat (h : cs ≠ []) : ∃ init c, cs = init ++ [c] :=
  ⟨_, _, (List.dropLast_concat_getLast h).symm⟩

theorem literalLines_cons (column : Nat) (b : Bool) (c : Char) (cs : List Char) :
    literalLines column b (c :: cs) =
      literalLines column b [c] ++ literalLines column (isBreak c) cs := by
  cases hb : isBreak c <;> simp [literalLines, hb]

theorem literalLines_append (column : Nat) (b : Bool) (cs ds : List Char) :
    literalLines column b (cs ++ ds) =
      literalLines column b cs ++ literalLines column (behindBreak b cs) ds := by
  induction cs generalizing b with
  | nil => rfl
  | cons c cs ih =>
    rw [List.cons_append, literalLines_cons, ih, ← List.append_assoc, ← literalLines_cons,
      behindBreak_cons]

section
variable {chomping : Chomping}

theorem BlockState.Fits.isBefore_iff (h : s.Fits chomping column p) (i : Nat) :
    s.isBefore i = decide (i < column) := by
  simp [isBefore, h.indent_eq]

/-- A break behind a line is what ended the line. -/
theorem BlockState.Fits.reads_break (h : s.Fits chomping column p) (hs : s.inLine = true)
    (hc : isPlainPrintable c = true) (hb : isBreak c = true) :
    ∃ s', s.Reads p [c] [c] s' (p.pastBreak 1) ∧ s'.Fits chomping column (p.pastBreak 1) ∧
      s'.inLine = false ∧ s'.ended = [c] ∧ s'.more = [] := by
  have hstate : s.pastBreak p.column c = { s with ended := [c], more := [], inLine := false } := by
    rw [pastBreak, if_pos hs, breakText_of_isPlainPrintable hc hb]
  have hyields := yields_break (s := s) (p := p) (ne_return_of_isPlainPrintable hc) hb
  rw [hstate] at hyields
  obtain ⟨hended, hmore⟩ := h.in_line hs
  refine ⟨_, ⟨[], hyields, ?_⟩, ⟨h.folded_eq, h.chomping_eq, h.indent_eq, nofun, fun _ => rfl⟩,
    rfl, rfl, rfl⟩
  simp [pending, hended, hmore]

/-- The first character of a line, behind the indentation. -/
theorem reads_lineStart (hs : s.inLine = false) (hf : s.folded = false) (hp : p.column = 0)
    (hc : isPlainPrintable c = true) (hb : isBreak c = false)
    (hbefore : ∀ i < column, s.isBefore i = true) (hspace : c = ' ' → s.isBefore column = false)
    (hindent : s.settledIndent column = column) :
    ∃ s' p', s.Reads p (spaces column ++ [c]) [c] s' p' ∧ s'.Fits s.chomping column p' ∧
      s'.inLine = true := by
  have hcolumn : (p.past column).column = column := by simp [hp]
  have hspaces : s.Yields p (spaces column) [] s (p.past column) :=
    yields_spaces hs fun i hi => by simp [hp, hbefore i hi]
  have hstart := yields_lineStart (p := p.past column) hs hf hc hb (by rwa [hcolumn])
    (Nat.le_of_eq (by rw [hcolumn, hindent]))
  rw [hcolumn, hindent] at hstart
  exact ⟨_, _, ⟨_, hspaces.trans hstart, by simp [pending]⟩,
    ⟨hf, rfl, rfl, fun _ => ⟨rfl, rfl⟩, nofun⟩, rfl⟩

/-- The step: one character, with the indentation in front of it. -/
theorem BlockState.Fits.reads_char (h : s.Fits chomping column p) (hc : isPlainPrintable c = true) :
    ∃ s' p', s.Reads p (literalLines column (!s.inLine) [c]) [c] s' p' ∧
      s'.Fits chomping column p' ∧ (!s'.inLine) = isBreak c := by
  cases hb : isBreak c with
  | true =>
    have hlines : literalLines column (!s.inLine) [c] = [c] := by simp [literalLines, hb]
    rw [hlines]
    cases hs : s.inLine with
    | true =>
      obtain ⟨s', hreads, hfits, hline, -⟩ := h.reads_break hs hc hb
      exact ⟨s', _, hreads, hfits, by rw [hline]; rfl⟩
    | false =>
      have hyields := yields_break (s := s) (p := p) (ne_return_of_isPlainPrintable hc) hb
      have hstate : s.pastBreak p.column c =
          { s with deepest := max s.deepest p.column, more := s.more ++ [c] } := by
        rw [pastBreak, if_neg (by simp [hs]), breakText_of_isPlainPrintable hc hb]
      rw [hstate] at hyields
      refine ⟨_, _, ⟨[], hyields, by simp [pending]⟩,
        ⟨h.folded_eq, h.chomping_eq, h.indent_eq, fun hs' => ?_, fun _ => rfl⟩, by simp [hs]⟩
      simp [hs] at hs'
  | false =>
    cases hs : s.inLine with
    | true =>
      have hlines : literalLines column (!true) [c] = [c] := by simp [literalLines, hb]
      rw [hlines]
      obtain ⟨hended, hmore⟩ := h.in_line hs
      refine ⟨s, _, ⟨[c], yields_inLine hs hb, by simp [pending, hended, hmore]⟩,
        ⟨h.folded_eq, h.chomping_eq, h.indent_eq, h.in_line, fun hs' => ?_⟩, by simp [hs]⟩
      simp [hs] at hs'
    | false =>
      have hlines : literalLines column (!false) [c] = spaces column ++ [c] := by
        simp [literalLines, hb]
      have hindent : s.settledIndent column = column := by simp [settledIndent, h.indent_eq]
      obtain ⟨s', p', hreads, hfits, hline⟩ := reads_lineStart hs h.folded_eq (h.at_start hs) hc hb
        (fun i hi => by simp [h.isBefore_iff, hi]) (fun _ => by simp [h.isBefore_iff]) hindent
      rw [h.chomping_eq] at hfits
      rw [hlines]
      exact ⟨s', p', hreads, hfits, by rw [hline]; rfl⟩

/-- The run: a text, line by line. -/
theorem BlockState.Fits.reads_literalLines (h : s.Fits chomping column p)
    (hcs : ∀ c ∈ cs, isPlainPrintable c = true) :
    ∃ s' p', s.Reads p (literalLines column (!s.inLine) cs) cs s' p' ∧
      s'.Fits chomping column p' ∧ (!s'.inLine) = behindBreak (!s.inLine) cs := by
  induction cs generalizing s p with
  | nil => exact ⟨s, p, ⟨[], Yields.refl s p, by simp⟩, h, rfl⟩
  | cons c cs ih =>
    obtain ⟨hc, hcs⟩ := List.forall_mem_cons.1 hcs
    obtain ⟨s₁, p₁, hreads₁, hfits₁, hline₁⟩ := h.reads_char hc
    obtain ⟨s₂, p₂, hreads₂, hfits₂, hline₂⟩ := ih hfits₁ hcs
    rw [hline₁] at hreads₂ hline₂
    refine ⟨s₂, p₂, ?_, hfits₂, by rw [hline₂, behindBreak_cons]⟩
    rw [literalLines_cons]
    exact hreads₁.trans hreads₂

/-! ## The whole block -/

/-- The indentation that the head of a block tells, in columns behind the collection around it. -/
def blockHint (cs : List Char) : Option Nat := if cs.head?.any isSpaceOrBreak then some 2 else none

/-- The state in front of the lines. -/
def blockStart (chomping : Chomping) (parent : Int) (indent : Option Nat) : BlockState :=
  { folded := false, chomping, parent, indent }

/-- From the start, the indentation is told, or shown by the first line. -/
theorem reads_literalLines_start (chomping : Chomping) (parent : Nat) (hp : p.column = 0)
    (hcs : ∀ c ∈ cs, isPlainPrintable c = true) (hne : cs ≠ []) :
    ∃ s' p', (blockStart chomping parent ((blockHint cs).map (parent + ·))).Reads p
        (literalLines (parent + 2) true cs) cs s' p' ∧
      s'.Fits chomping (parent + 2) p' ∧ (!s'.inLine) = behindBreak true cs := by
  cases cs with
  | nil => exact absurd rfl hne
  | cons c cs =>
    by_cases hfirst : isSpaceOrBreak c = true
    · have hhint : blockHint (c :: cs) = some 2 := by simp [blockHint, hfirst]
      have hfits : (blockStart chomping parent (some (parent + 2))).Fits chomping (parent + 2) p :=
        ⟨rfl, rfl, rfl, nofun, fun _ => hp⟩
      rw [hhint]
      exact hfits.reads_literalLines hcs
    · have hhint : blockHint (c :: cs) = none := by simp [blockHint, hfirst]
      simp only [isSpaceOrBreak, Bool.or_eq_true, beq_iff_eq, not_or, Bool.not_eq_true] at hfirst
      obtain ⟨hspace, hb⟩ := hfirst
      obtain ⟨hc, hcs⟩ := List.forall_mem_cons.1 hcs
      have hindent : (blockStart chomping parent none).settledIndent (parent + 2) = parent + 2 := by
        simp only [settledIndent, blockStart, Option.getD_none]
        omega
      obtain ⟨s₁, p₁, hreads₁, hfits₁, hline₁⟩ := reads_lineStart
        (rfl : (blockStart chomping parent none).inLine = false) rfl hp hc hb
        (fun _ _ => rfl) (absurd · hspace) hindent
      obtain ⟨s₂, p₂, hreads₂, hfits₂, hline₂⟩ := hfits₁.reads_literalLines hcs
      have hlines : literalLines (parent + 2) true [c] = spaces (parent + 2) ++ [c] := by
        simp [literalLines, hb]
      rw [hline₁] at hreads₂ hline₂
      refine ⟨s₂, p₂, ?_, hfits₂, by rw [hline₂, behindBreak_cons, hb]; rfl⟩
      rw [hhint, literalLines_cons, hlines, hb]
      exact hreads₁.trans hreads₂

/-- A text that does not end with a break, with one behind it. -/
theorem reads_literalLines_break (chomping : Chomping) (parent : Nat) (hp : p.column = 0)
    (hcs : ∀ c ∈ cs, isPlainPrintable c = true) (hne : cs ≠ []) (hlast : behindBreak true cs = false)
    (hc : isPlainPrintable c = true) (hb : isBreak c = true) :
    ∃ s' p', (blockStart chomping parent ((blockHint cs).map (parent + ·))).Reads p
        (literalLines (parent + 2) true cs ++ [c]) (cs ++ [c]) s' p' ∧
      s'.Fits chomping (parent + 2) p' ∧ s'.inLine = false ∧ s'.ended = [c] ∧ s'.more = [] := by
  obtain ⟨s₁, p₁, hreads₁, hfits₁, hline₁⟩ := reads_literalLines_start chomping parent hp hcs hne
  rw [hlast, Bool.not_eq_false'] at hline₁
  obtain ⟨s₂, hreads₂, hfits₂, hline₂, hended⟩ := hfits₁.reads_break hline₁ hc hb
  exact ⟨s₂, _, hreads₁.trans hreads₂, hfits₂, hline₂, hended⟩

/-- In front of a line, the block ends where that line is indented less. -/
theorem BlockState.Fits.readBlock_end (h : s.Fits chomping column p) (hs : s.inLine = false)
    {k : Nat} (hk : k < column) (ht : StartsInk t) :
    readBlock s p (spaces k ++ t) = some ⟨s.tail, ⟨t, p.past k⟩⟩ := by
  have hcolumn : (p.past k).column = k := by simp [h.at_start hs]
  have hspaces : s.Yields p (spaces k) [] s (p.past k) :=
    yields_spaces hs fun i hi => by
      rw [h.isBefore_iff, h.at_start hs]
      exact decide_eq_true (by omega)
  have hstop : readBlock s (p.past k) t = some ⟨s.tail, ⟨t, p.past k⟩⟩ := by
    cases t with
    | nil => rw [readBlock]
    | cons c t =>
      obtain ⟨hspacing, hb, -⟩ := ht.head
      simp only [isSpacing, Bool.or_eq_false_iff] at hspacing
      rw [readBlock, hb, hs, hspacing.1, hspacing.2, hcolumn]
      · simp [settledIndent, h.indent_eq, hk]
      · rintro rest rfl
        exact absurd hb (by decide)
  rw [hspaces, hstop]
  rfl

/-- The sign of a chomping. -/
def Chomping.sign : Chomping → List Char
  | strip => ['-']
  | clip => []
  | keep => ['+']

/-- With this chomping, all breaks at the end of the text are read, and no others. -/
def Chomping.Suits (cs : List Char) : Chomping → Prop
  | strip => behindBreak true cs = false
  | clip => ∃ init c, cs = init ++ [c] ∧ isBreak c = true ∧ behindBreak true init = false
  | keep => behindBreak false cs = true

theorem Chomping.exists_suits (hne : cs ≠ []) :
    ∃ chomping : Chomping, chompingSign cs = chomping.sign ∧ chomping.Suits cs := by
  obtain ⟨init, c, rfl⟩ := exists_concat hne
  cases hb : isBreak c with
  | false =>
    refine ⟨strip, ?_, by rw [Suits, behindBreak_concat, hb]⟩
    rw [chompingSign, List.reverse_append]
    cases init.reverse <;> simp [hb, sign]
  | true =>
    have hkeep : keep.Suits (init ++ [c]) := by rw [Suits, behindBreak_concat, hb]
    by_cases hinit : init = []
    · exact ⟨keep, by simp [hinit, chompingSign, hb, sign], hkeep⟩
    obtain ⟨init, d, rfl⟩ := exists_concat hinit
    cases hd : isBreak d with
    | true => exact ⟨keep, by simp [chompingSign, hb, hd, sign], hkeep⟩
    | false =>
      exact ⟨clip, by simp [chompingSign, hb, hd, sign], _, c, rfl, hb, by rw [behindBreak_concat, hd]⟩

/-- At the end of the block the pending breaks are read, but for those that are dropped. -/
theorem BlockState.Reads.readBlock_end {input dropped : List Char} (h : s.Reads p input cs s₁ p₁)
    (hs : s.pending = []) (hfits : s₁.Fits chomping column p₁) (hline : s₁.inLine = false)
    (hdropped : s₁.pending = s₁.tail ++ dropped) {k : Nat} (hk : k < column) (ht : StartsInk t) :
    ∃ text, text ++ dropped = cs ∧
      readBlock s p (input ++ (spaces k ++ t)) = some ⟨text, ⟨t, p₁.past k⟩⟩ := by
  obtain ⟨given, hyields, hgiven⟩ := h
  refine ⟨given ++ s₁.tail, ?_, ?_⟩
  · rw [List.append_assoc, ← hdropped, hgiven, hs, List.nil_append]
  · rw [hyields, hfits.readBlock_end hline hk ht]
    rfl

/-- The lines of a block are read up to the next line, which is indented less. -/
theorem readBlock_literal {parent k : Nat} (hp : p.column = 0)
    (hcs : ∀ c ∈ cs, isPlainPrintable c = true) (hne : cs ≠ []) (hsuits : chomping.Suits cs)
    (hk : k < parent + 2) (ht : StartsInk t) :
    ∃ p' : Place, p'.column = k ∧
      readBlock (blockStart chomping parent ((blockHint cs).map (parent + ·))) p
        (literalLines (parent + 2) true cs ++
          ((if behindBreak true cs then [] else ['\n']) ++ (spaces k ++ t))) =
        some ⟨cs, ⟨t, p'⟩⟩ := by
  have hcolumn {q : Place} {s : BlockState} (hfits : s.Fits chomping (parent + 2) q)
      (hline : s.inLine = false) : (q.past k).column = k := by
    simp [hfits.at_start hline]
  cases chomping with
  | strip =>
    obtain ⟨s₁, p₁, hreads, hfits, hline, hended, hmore⟩ := reads_literalLines_break .strip parent hp
      hcs hne hsuits (by decide : isPlainPrintable '\n' = true) (by decide)
    have hdropped : s₁.pending = s₁.tail ++ ['\n'] := by
      simp [pending, tail, hfits.chomping_eq, hended, hmore]
    obtain ⟨text, htext, hread⟩ := hreads.readBlock_end rfl hfits hline hdropped hk ht
    rw [List.append_cancel_right htext, List.append_assoc] at hread
    rw [hsuits]
    exact ⟨_, hcolumn hfits hline, hread⟩
  | clip =>
    obtain ⟨init, c, rfl, hb, hinit⟩ := hsuits
    have hne' : init ≠ [] := by
      rintro rfl
      exact absurd hinit (by decide)
    have hhint : blockHint (init ++ [c]) = blockHint init := by
      cases init with
      | nil => contradiction
      | cons => rfl
    obtain ⟨hcs, hc⟩ := List.forall_mem_append.1 hcs
    obtain ⟨s₁, p₁, hreads, hfits, hline, hended, hmore⟩ := reads_literalLines_break .clip parent hp
      hcs hne' hinit (hc c List.mem_cons_self) hb
    have hdropped : s₁.pending = s₁.tail ++ [] := by
      simp [pending, tail, hfits.chomping_eq, hended, hmore]
    obtain ⟨text, htext, hread⟩ := hreads.readBlock_end rfl hfits hline hdropped hk ht
    rw [List.append_nil] at htext
    rw [htext] at hread
    have hlines : literalLines (parent + 2) false [c] = [c] := by simp [literalLines, hb]
    rw [hhint, literalLines_append, hinit, hlines, behindBreak_concat, hb]
    exact ⟨_, hcolumn hfits hline, hread⟩
  | keep =>
    have hbreak : behindBreak true cs = true := by
      obtain ⟨init, c, rfl⟩ := exists_concat hne
      rw [Chomping.Suits, behindBreak_concat] at hsuits
      rw [behindBreak_concat, hsuits]
    obtain ⟨s₁, p₁, hreads₁, hfits₁, hline₁⟩ := reads_literalLines_start .keep parent hp hcs hne
    rw [hbreak, Bool.not_eq_true'] at hline₁
    have hdropped : s₁.pending = s₁.tail ++ [] := by
      simp [pending, tail, hfits₁.chomping_eq]
    obtain ⟨text, htext, hread⟩ := hreads₁.readBlock_end rfl hfits₁ hline₁ hdropped hk ht
    rw [List.append_nil] at htext
    rw [htext] at hread
    rw [hbreak]
    exact ⟨_, hcolumn hfits₁ hline₁, hread⟩

end

/-! ## The head -/

/-- The head of a block is read back, up to the end of its line. -/
theorem readBlockHead_literalHead {chomping : Chomping} (hsign : chompingSign cs = chomping.sign) :
    ∃ signs n, literalHead cs = '|' :: signs ++ ['\n'] ∧
      ∀ t, readBlockHead ⟨signs ++ '\n' :: t, p⟩ =
        some (chomping, blockHint cs, ⟨'\n' :: t, p.past n⟩) := by
  rw [literalHead, blockHint, hsign]
  refine ⟨_, ((if cs.head?.any isSpaceOrBreak then ['2'] else []) ++ chomping.sign).length, rfl,
    fun t => ?_⟩
  cases cs.head?.any isSpaceOrBreak <;> cases chomping <;> rfl

theorem dropLineEnd?_break : Cursor.dropLineEnd? ⟨'\n' :: t, p⟩ = some ⟨t, p.pastBreak 1⟩ := rfl

end

end AsyncIdioms.Yaml
