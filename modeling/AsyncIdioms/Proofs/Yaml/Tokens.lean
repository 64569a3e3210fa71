/-
  The tokens of written scalars, keys, dashes and empty collections.

  There is one lemma for each kind of token that is written: it leads from a scan that reaches the
  token to one behind it. Behind a scalar or an empty collection that is the next line, where the
  collections that end there are closed.
-/
import AsyncIdioms.Proofs.Yaml.Scan
import AsyncIdioms.Proofs.Yaml.Written

namespace AsyncIdioms.Yaml

namespace Scan

variable {s s' s₁ s₂ : Scan} {t u : List Char} {c : Char} {b : Bool} {l : Level} {column k : Nat}
  {p : Place}

/-! ## Scalars -/

theorem startsPlain_of_word (hsign : ("#,[]\x7b\x7d&*!|>'\"%@`".toList).contains c = false)
    (hword : (c == '?' || c == ':' || c == '-') = true → isBlankOrEnd t = false)
    (hs : isSpacing c = false) (hb : isBreak c = false) : startsPlain false c t = true := by
  rw [startsPlain]
  split
  next hdash =>
    have hblank := hword (by simp [hdash])
    cases t with
    | nil => contradiction
    | cons d t =>
      rw [isBlankOrEnd, Bool.or_eq_false_iff] at hblank
      simp [hblank.1]
  next =>
    split
    next hsign' => simp [hword (by simp_all)]
    next =>
      simp only [String.reduceToList, List.contains_cons, List.contains_nil, Bool.or_eq_false_iff]
        at hsign
      simp only [hs, hb, hsign, String.reduceToList, List.contains_cons, List.contains_nil,
        Bool.or_self, Bool.not_false]

/-- A character that is no sign, or that a word goes on behind, starts a plain scalar. -/
theorem token_eq_plain (hflow : s.inFlow = false)
    (hsign : ("#,[]\x7b\x7d&*!|>'\"%@`".toList).contains c = false)
    (hword : (c == '?' || c == ':' || c == '-') = true → isBlankOrEnd t = false)
    (hmark : isDocumentMark (c :: t) s.column = false) (hs : isSpacing c = false)
    (hb : isBreak c = false) : s.token c t = s.plain := by
  have hstarts := startsPlain_of_word hsign hword hs hb
  have hblank (d : Char) (hd : (d == '?' || d == ':' || d == '-') = true) :
      (c == d && isBlankOrEnd t) = false := by
    by_cases hcd : c = d
    · subst hcd
      simp [hword hd]
    · simp [hcd]
  simp only [String.reduceToList, List.contains_cons, List.contains_nil, Bool.or_eq_false_iff] at hsign
  simp only [token, hsign, hmark, hflow, Bool.false_or, hblank '-' (by decide), hblank '?' (by decide),
    hblank ':' (by decide), Bool.false_and, Bool.false_eq_true, if_false]
  rw [if_pos hstarts]

theorem token_of_plainAllowed {cs : List Char} (hflow : s.inFlow = false) (hcolumn : 0 < s.column)
    (hcs : plainAllowed (c :: cs) = true) (t : List Char) : s.token c (cs ++ t) = s.plain := by
  obtain ⟨hsingle, hstart, -, -, hhead, -⟩ := plainAllowed_iff.1 hcs
  simp only [List.head?_cons, Option.any_some, isSpaceOrBreak, Bool.or_eq_false_iff] at hhead
  have hprint := (singleQuotedAllowed_iff.1 hsingle).1 c List.mem_cons_self
  obtain ⟨hsign, hword⟩ := startsLikeIndicator_cons hstart
  exact token_eq_plain hflow hsign (fun h => isBlankOrEnd_append (hword h) t)
    (isDocumentMark_of_pos hcolumn)
    (isSpacing_of_isPlainPrintable hprint (by simpa using hhead.1)) hhead.2

/-- Noting a key keeps the level; that key may be forgotten on the next line, where it is not at the
    start of its collection's line. -/
theorem Stands.noteKey (h : s.Stands t column b l) (hindent : l.indent ≠ column) :
    ∃ s₁, s.noteKey = some s₁ ∧ s₁.cursor = s.cursor ∧ s₁.level = l ∧ s₁.inFlow = false ∧
      ∀ line, s.cursor.place.line < line → s₁.Forgets line := by
  have hindent' : (s.indent == (s.column : Int)) = false := by
    rw [beq_eq_false_iff_ne]
    intro heq
    rw [Scan.column, h.column_eq] at heq
    rw [← h.level_eq] at hindent
    exact hindent heq
  cases b with
  | false =>
    refine ⟨s, ?_, rfl, h.level_eq, h.inFlow_eq, fun line _ => ⟨none, h.keys_eq, nofun⟩⟩
    rw [Scan.noteKey, h.keyAllowed_eq]
    rfl
  | true =>
    refine ⟨{ s.push (.slot .nothing) with
      keys := [some ⟨s.cursor.place, s.tokens.size, false⟩] }, ?_, rfl, ?_, rfl, fun line hline => ?_⟩
    · rw [Scan.noteKey, h.keyAllowed_eq, dropKey, h.keys_eq]
      simp [hindent', h.keys_eq]
    · have hlevel := s.level_push (.slot .nothing)
      rw [h.level_eq] at hlevel
      exact hlevel.trans l.push_nil
    · refine ⟨_, rfl, fun k hk => ?_⟩
      obtain rfl := Option.some.inj hk
      exact ⟨rfl, hline⟩

/-- The step of a scalar, behind which the scan reaches the next line. -/
theorem Stands.leads_scalar {b' : Bool} {style : Style} {text : String} {v : List Char} {q : Place}
    (h : s₁.Stands (c :: u) column b l) (hprep : s.prepared = some s₁) (hlevel : s₂.level = l)
    (hforgets : s₂.Forgets p.line)
    (htoken : s₁.token c u = some { s₂.push (.scalar style text) with
      cursor := ⟨v, q⟩, keyAllowed := b' })
    (hlength : v.length ≤ u.length) (hseek : seekToken false b' false q v = (true, ⟨t, p⟩)) :
    ∃ s', s.Leads s' ∧
      s'.Reaches t p.column true ((l.push [.scalar style text]).close p.column) := by
  refine ⟨_, .single (h.stepsTo hprep htoken hlength), ?_⟩
  have hforgets' : { s₂.push (.scalar style text) with
      cursor := ⟨v, q⟩, keyAllowed := b' }.Forgets p.line := hforgets
  have hpush := s₂.level_push (.scalar style text)
  rw [hlevel] at hpush
  exact hpush ▸ hforgets'.reaches hseek

section
variable {indent : Nat} {cs : List Char}

theorem Reaches.plain (h : s.Reaches (cs ++ ('\n' :: spaces k ++ t)) column b l) (hne : cs ≠ [])
    (hcs : plainAllowed cs = true) (hindent : l.indent = indent) (hcolumn : indent < column)
    (hk : k ≤ indent) (ht : StartsInk t) :
    ∃ s', s.Leads s' ∧
      s'.Reaches t k true ((l.push [.scalar .plain (String.ofList cs)]).close k) := by
  obtain ⟨s₁, hprep, hstands⟩ := h
  obtain ⟨s₂, hnote, hcursor, hlevel, hflow, hforgets⟩ := hstands.noteKey (by omega)
  have hindent₂ : (s₂.indent + 1).toNat = indent + 1 := by
    have : s₂.indent = indent := by rw [← hindent, ← hlevel]; rfl
    omega
  have hread : readPlain false (indent + 1) {} false s₁.cursor.place (cs ++ ('\n' :: spaces k ++ t)) =
      some (⟨cs, ⟨t, ((s₁.cursor.place.past cs.length).pastBreak 1).past k⟩⟩, true) :=
    readPlain_text hcs hne ht (Nat.lt_succ_of_le hk) (by rw [hstands.column_eq]; exact hcolumn)
  have hplain : s₁.plain = some { s₂.push (.scalar .plain (String.ofList cs)) with
      cursor := ⟨t, ((s₁.cursor.place.past cs.length).pastBreak 1).past k⟩, keyAllowed := true } := by
    rw [Scan.plain, hnote]
    simp only [Option.bind_eq_bind, Option.bind_some, hflow, hindent₂, hcursor, hstands.rest_eq, hread]
    rfl
  cases cs with
  | nil => contradiction
  | cons c cs =>
    have htoken := token_of_plainAllowed hstands.inFlow_eq
      (by rw [Scan.column, hstands.column_eq]; omega) hcs ('\n' :: spaces k ++ t)
    have hleads := hstands.leads_scalar hprep hlevel (hforgets _ (Nat.lt_succ_self _))
      (htoken.trans hplain) (by simp; omega) (seekToken_startsInk ht)
    simpa using hleads

/-- Between quotes, the reading ends in front of the line end. -/
theorem Stands.leads_quoted {isSingle : Bool} {style : Style}
    (h : s₁.Stands (c :: u) column b l) (hprep : s.prepared = some s₁)
    (htoken : s₁.token c u = s₁.quoted isSingle)
    (hread : (if isSingle then
        (readSingleQuoted {} (s₁.cursor.place.past 1) u).map (Style.singleQuoted, ·)
      else (readDoubleQuoted {} (s₁.cursor.place.past 1) u).map (Style.doubleQuoted, ·)) =
        some (style, ⟨cs, ⟨'\n' :: (spaces k ++ t), p⟩⟩))
    (hline : s₁.cursor.place.line ≤ p.line) (hlength : (spaces k ++ t).length < u.length)
    (hindent : l.indent ≠ column) (ht : StartsInk t) :
    ∃ s', s.Leads s' ∧
      s'.Reaches t k true ((l.push [.scalar style (String.ofList cs)]).close k) := by
  obtain ⟨s₂, hnote, hcursor, hlevel, hflow, hforgets⟩ := h.noteKey hindent
  have hquoted : s₁.quoted isSingle = some { s₂.push (.scalar style (String.ofList cs)) with
      cursor := ⟨'\n' :: (spaces k ++ t), p⟩, keyAllowed := false } := by
    rw [Scan.quoted, hnote]
    cases isSingle
    all_goals
      simp only [Bool.false_eq_true, if_true, if_false] at hread
      simp only [Option.bind_eq_bind, Option.bind_some, Cursor.drop, hcursor, h.rest_eq,
        List.drop_succ_cons, List.drop_zero, Bool.false_eq_true, if_true, if_false, hread]
      rfl
  have hleads := h.leads_scalar hprep hlevel (hforgets _ (Nat.lt_succ_of_le hline))
    (htoken.trans hquoted) hlength (seekToken_lineEnd ht)
  simpa using hleads

theorem token_singleQuote (s : Scan) (t : List Char) : s.token '\'' t = s.quoted true := by
  simp [token, isDocumentMark]

theorem token_doubleQuote (s : Scan) (t : List Char) : s.token '"' t = s.quoted false := by
  simp [token, isDocumentMark]

theorem Reaches.singleQuoted
    (h : s.Reaches ('\'' :: (singleQuotedChars (indent + 2) false cs ++ '\n' :: (spaces k ++ t)))
      column b l)
    (hn : '\n' ∉ cs) (hcs : singleQuotedAllowed cs = true) (hindent : l.indent ≠ column)
    (ht : StartsInk t) :
    ∃ s', s.Leads s' ∧
      s'.Reaches t k true ((l.push [.scalar .singleQuoted (String.ofList cs)]).close k) := by
  obtain ⟨s₁, hprep, hstands⟩ := h
  obtain ⟨p, hline, hread⟩ := readSingleQuoted_text (Nat.succ_pos (indent + 1))
    (by simp : ('\n' :: (spaces k ++ t)).head? ≠ some '\'') hcs hn
    (s₁.cursor.place.column_past_pos Nat.one_pos)
  exact hstands.leads_quoted hprep (s₁.token_singleQuote _) (by rw [if_pos rfl, hread]; rfl) hline
    (by simp; omega) hindent ht

theorem Reaches.doubleQuoted
    (h : s.Reaches ('"' :: (cs.flatMap doubleQuotedChar ++ '"' :: '\n' :: (spaces k ++ t))) column b l)
    (hindent : l.indent ≠ column) (ht : StartsInk t) :
    ∃ s', s.Leads s' ∧
      s'.Reaches t k true ((l.push [.scalar .doubleQuoted (String.ofList cs)]).close k) := by
  obtain ⟨s₁, hprep, hstands⟩ := h
  obtain ⟨p, hline, hread⟩ := readDoubleQuoted_text cs ('\n' :: (spaces k ++ t))
    (s₁.cursor.place.column_past_pos Nat.one_pos)
  exact hstands.leads_quoted hprep (s₁.token_doubleQuote _) (by rw [if_neg (by decide), hread]; rfl)
    hline (by simp; omega) hindent ht

theorem token_bar (hflow : s.inFlow = false) (t : List Char) : s.token '|' t = s.block false := by
  simp [token, isDocumentMark, hflow]

theorem Reaches.literal
    (h : s.Reaches (literalHead cs ++ (literalLines (indent + 2) true cs ++
      ((if behindBreak true cs then [] else ['\n']) ++ (spaces k ++ t)))) column b l)
    (hne : cs ≠ []) (hcs : blockAllowed cs = true) (hindent : l.indent = indent) (hk : k ≤ indent)
    (ht : StartsInk t) :
    ∃ s', s.Leads s' ∧
      s'.Reaches t k true ((l.push [.scalar .literal (String.ofList cs)]).close k) := by
  obtain ⟨s₁, hprep, hstands⟩ := h
  obtain ⟨chomping, hsign, hsuits⟩ := Chomping.exists_suits hne
  obtain ⟨signs, n, hhead, hreadHead⟩ := readBlockHead_literalHead (p := s₁.cursor.place.past 1) hsign
  obtain ⟨p, hp, hread⟩ := readBlock_literal
    (p := ((s₁.cursor.place.past 1).past n).pastBreak 1) rfl (blockAllowed_printable hcs) hne hsuits
    (by omega : k < indent + 2) ht
  rw [hhead, List.cons_append, List.cons_append, List.append_assoc, List.singleton_append] at hstands
  have hindent₁ : s₁.indent = indent := by
    rw [← hindent, ← hstands.level_eq]
    rfl
  have hdropKey : s₁.dropKey = some s₁ := by rw [dropKey, hstands.keys_eq]
  have hhint : (fun n => (max (indent : Int) 0).toNat + n) = (indent + ·) := by
    funext n
    omega
  have hblock : s₁.block false = some { s₁.push (.scalar .literal (String.ofList cs)) with
      cursor := ⟨t, p⟩, keyAllowed := true } := by
    rw [Scan.block, hdropKey]
    simp only [Option.bind_eq_bind, Option.bind_some, Cursor.drop, hstands.rest_eq,
      List.drop_succ_cons, List.drop_zero, hreadHead, dropLineEnd?_break, hindent₁, hhint]
    rw [blockStart] at hread
    rw [hread]
    rfl
  have hleads := hstands.leads_scalar hprep hstands.level_eq ⟨none, hstands.keys_eq, by simp⟩
    ((token_bar hstands.inFlow_eq _).trans hblock) (by simp; omega) (seekToken_startsInk ht)
  rwa [hp] at hleads

/-- A written scalar, in whatever form: the scan reaches the next line. -/
theorem Reaches.scalar {style : Style} {line : List Char}
    (h : s.Reaches (line ++ (spaces k ++ t)) column b l)
    (hline : IsScalarLine (indent + 2) cs style line) (hindent : l.indent = indent)
    (hcolumn : indent < column) (hk : k ≤ indent) (ht : StartsInk t) :
    ∃ s', s.Leads s' ∧
      s'.Reaches t k true ((l.push [.scalar style (String.ofList cs)]).close k) := by
  have hne : l.indent ≠ column := by omega
  cases hline with
  | plain hne hcs =>
    rw [List.append_assoc] at h
    exact h.plain hne hcs hindent hcolumn hk ht
  | singleQuoted hn hcs =>
    rw [List.cons_append, List.append_assoc] at h
    exact h.singleQuoted hn hcs hne ht
  | doubleQuoted =>
    rw [List.cons_append, List.append_assoc] at h
    exact h.doubleQuoted hne ht
  | literal hne hcs =>
    rw [List.append_assoc, List.append_assoc] at h
    exact h.literal hne hcs hindent hk ht

end

/-! ## Dashes -/

theorem level_openBlock (hflow : s.inFlow = false) (start : Token) (hstart : start.settle = [start])
    (column : Nat) : (s.openBlock column start).level = s.level.openAt column start := by
  rw [openBlock, hflow, Level.openAt]
  by_cases h : s.indent < column
  · have hpush := congrArg Level.tokens (s.level_push start)
    rw [hstart] at hpush
    simp only [Bool.not_false, Bool.true_and, decide_eq_true_eq]
    rw [if_pos h, if_pos (show s.level.indent < column from h)]
    exact congrArg (Level.mk · _ _) hpush
  · simp only [Bool.not_false, Bool.true_and, decide_eq_true_eq]
    rw [if_neg h, if_neg (show ¬ s.level.indent < column from h)]

theorem keys_openBlock (s : Scan) (column : Nat) (start : Token) :
    (s.openBlock column start).keys = s.keys := by
  rw [openBlock]
  split <;> rfl

theorem cursor_openBlock (s : Scan) (column : Nat) (start : Token) :
    (s.openBlock column start).cursor = s.cursor := by
  rw [openBlock]
  split <;> rfl

theorem token_dash (s : Scan) (t : List Char) : s.token '-' (' ' :: t) = s.blockEntry := by
  simp [token, isDocumentMark, isBlankOrEnd, isSpacing]

theorem Reaches.dash (h : s.Reaches ('-' :: ' ' :: t) column true l) :
    ∃ s', s.Leads s' ∧ s'.Stands (' ' :: t) (column + 1) true
      ((l.openAt column .blockSequenceStart).push [.blockEntry]) := by
  obtain ⟨s₁, hprep, h₁⟩ := h
  have hopen := level_openBlock h₁.inFlow_eq .blockSequenceStart rfl column
  rw [h₁.level_eq] at hopen
  have hentry : s₁.blockEntry = some { ((s₁.openBlock column .blockSequenceStart).push
      .blockEntry).skip 1 with keyAllowed := true } := by
    have hdropKey : (s₁.openBlock column .blockSequenceStart).dropKey =
        some (s₁.openBlock column .blockSequenceStart) := by
      rw [dropKey, keys_openBlock, h₁.keys_eq]
    rw [Scan.blockEntry, h₁.keyAllowed_eq, Scan.column, h₁.column_eq, hdropKey, Bool.or_true]
    rfl
  refine ⟨_, .single (h₁.stepsTo hprep ((s₁.token_dash t).trans hentry) ?_), ?_⟩
  · simp [skip, push, Cursor.drop, cursor_openBlock, h₁.rest_eq]
  · refine ⟨?_, ?_, rfl, ?_, ?_⟩
    · simp [skip, push, Cursor.drop, cursor_openBlock, h₁.rest_eq]
    · simp [skip, push, Cursor.drop, cursor_openBlock, h₁.column_eq]
    · simp [skip, push, keys_openBlock, h₁.keys_eq]
    · rw [← hopen]
      exact level_push _ .blockEntry

/-! ## Keys -/

theorem token_of_isKeyChar (hflow : s.inFlow = false) (hc : isKeyChar c = true) (t : List Char) :
    s.token c t = s.plain := by
  obtain ⟨hprint, hb⟩ := isKeyChar_printable hc
  have hsign : ("#,[]\x7b\x7d&*!|>'\"%@`".toList).contains c = false := by
    have hall : ("#,[]\x7b\x7d&*!|>'\"%@`".toList).all (!isKeyChar ·) = true := by decide
    rw [Bool.eq_false_iff]
    intro h
    have hsigns := List.all_eq_true.1 hall c (List.contains_iff_mem.1 h)
    rw [hc] at hsigns
    contradiction
  have hword : (c == '?' || c == ':' || c == '-') = false := by
    simp [ne_of_isKeyChar hc (rfl : isKeyChar '?' = false),
      ne_of_isKeyChar hc (rfl : isKeyChar ':' = false),
      ne_of_isKeyChar hc (rfl : isKeyChar '-' = false)]
  refine token_eq_plain hflow hsign (fun h => ?_)
    (isDocumentMark_of_ne (ne_of_isKeyChar hc rfl) (ne_of_isKeyChar hc rfl))
    (isSpacing_of_isPlainPrintable hprint (ne_of_isKeyChar hc rfl)) hb
  rw [hword] at h
  contradiction

theorem setIfInBounds_push_push (tokens : Array Token) (x y z : Token) :
    ((tokens.push x).push y).setIfInBounds tokens.size z = (tokens.push z).push y := by
  apply Array.toList_inj.1
  simp

theorem closeBlocks_of_le {column : Int} (h : s.indent ≤ column) : s.closeBlocks column = s := by
  rw [closeBlocks]
  split
  · rfl
  · cases houter : s.outer with
    | nil => simp [closeBlocks.close, ← houter]
    | cons next outer => simp [closeBlocks.close, Int.not_lt.2 h, ← houter]

theorem token_colon (s : Scan) (ht : isBlankOrEnd t = true) : s.token ':' t = s.value := by
  simp [token, isDocumentMark, ht]

/-- The scan behind a possible key. -/
def behindKey (s : Scan) (name rest : List Char) : Scan :=
  { s with
    cursor := ⟨rest, s.cursor.place.past name.length⟩
    tokens := (s.tokens.push (.slot .nothing)).push (.scalar .plain (String.ofList name))
    keys := [some ⟨s.cursor.place, s.tokens.size, s.indent == (s.column : Int)⟩]
    keyAllowed := false }

section
variable {name : List Char}

theorem Stands.plain_key (h : s.Stands (name ++ ':' :: t) column true l)
    (hkey : ∀ c ∈ name, isKeyChar c = true) (ht : isBlankOrEnd t = true) :
    s.plain = some (s.behindKey name (':' :: t)) := by
  have hread (indent : Nat) : readPlain false indent {} false s.cursor.place (name ++ ':' :: t) =
      some (⟨name, ⟨':' :: t, s.cursor.place.past name.length⟩⟩, false) :=
    readPlain_key hkey ht s.cursor.place
  have hdropKey : s.dropKey = some s := by rw [dropKey, h.keys_eq]
  rw [Scan.plain, Scan.noteKey, h.keyAllowed_eq, hdropKey]
  simp [push, h.rest_eq, inFlow, h.keys_eq, hread, behindKey, Scan.column]

theorem prepared_behindKey (hlength : name.length ≤ 1024) (hindent : s.indent ≤ s.column) :
    (s.behindKey name (':' :: t)).prepared = some (s.behindKey name (':' :: t)) := by
  have hink : StartsInk (':' :: t) := startsInk_cons (by decide)
  have hseek : (s.behindKey name (':' :: t)).seek = s.behindKey name (':' :: t) := by
    rw [seek]
    simp [behindKey, seekToken_startsInk hink]
  have hstale : (s.behindKey name (':' :: t)).dropStale = some (s.behindKey name (':' :: t)) := by
    have hfar : ¬ (s.cursor.place.index + 1024 < s.cursor.place.index + name.length) := by omega
    rw [dropStale]
    simp [behindKey, isStale, Place.past, hfar]
  have hclose : (s.behindKey name (':' :: t)).closeBlocks ((s.behindKey name (':' :: t)).column) =
      s.behindKey name (':' :: t) := by
    refine closeBlocks_of_le (Int.le_trans hindent (Int.ofNat_le.2 ?_))
    exact Nat.le_add_right s.cursor.place.column name.length
  rw [prepared, hseek, hstale]
  simp only [Option.bind_eq_bind, Option.bind_some, hclose]
  rfl

/-- The scan behind a key and its colon; `slot` is what stands in front of the key. -/
def behindColon (s : Scan) (slot : Slot) (name rest : List Char) : Scan :=
  { s with
    cursor := ⟨rest, s.cursor.place.past (name.length + 1)⟩
    tokens := ((s.tokens.push (.slot slot)).push (.scalar .plain (String.ofList name))).push .value
    keys := [none]
    keyAllowed := false }

theorem level_behindColon (s : Scan) (slot : Slot) (name rest : List Char) :
    (s.behindColon slot name rest).level =
      s.level.push ((Token.slot slot).settle ++ [.scalar .plain (String.ofList name), .value]) := by
  simp [level, behindColon, Level.push, Token.settle]

/-- At the colon the possible key turns out to be one, and opens a mapping where it is deeper. -/
theorem Stands.value_behindKey (h : s.Stands u column b l) (name t : List Char) :
    ∃ s', (s.behindKey name (':' :: t)).value = some s' ∧ s'.Stands t (column + name.length + 1) false
      ((l.openAt column .blockMappingStart).push
        [.key, .scalar .plain (String.ofList name), .value]) := by
  have hcolumn : (s.cursor.place.past (name.length + 1)).column = column + name.length + 1 := by
    rw [Place.column_past, h.column_eq, Nat.add_assoc]
  by_cases hopen : s.indent < column
  · refine ⟨{ s.behindColon .firstKey name t with indent := column, outer := s.indent :: s.outer },
      ?_, rfl, hcolumn, rfl, rfl, ?_⟩
    · simp [value, behindKey, behindColon, inFlow, h.column_eq, hopen, setIfInBounds_push_push, push,
        skip, Cursor.drop]
    · rw [← h.level_eq, Level.openAt, if_pos (show s.level.indent < column from hopen)]
      simp [level, behindColon, Level.push, Token.settle]
  · refine ⟨s.behindColon .key name t, ?_, rfl, hcolumn, rfl, rfl, ?_⟩
    · simp [value, behindKey, behindColon, inFlow, h.column_eq, hopen, setIfInBounds_push_push, push,
        skip, Cursor.drop]
    · rw [level_behindColon, h.level_eq, Level.openAt, if_neg (by rw [← h.level_eq]; exact hopen)]
      rfl

/-- A key and its colon. -/
theorem Reaches.key (h : s.Reaches (name ++ ':' :: t) column true l)
    (hkey : ∀ c ∈ name, isKeyChar c = true) (hne : name ≠ []) (hlength : name.length ≤ 1024)
    (ht : isBlankOrEnd t = true) (hindent : l.indent ≤ column) :
    ∃ s', s.Leads s' ∧ s'.Stands t (column + name.length + 1) false
      ((l.openAt column .blockMappingStart).push
        [.key, .scalar .plain (String.ofList name), .value]) := by
  obtain ⟨s₁, hprep, h₁⟩ := h
  have hplain := h₁.plain_key hkey ht
  obtain ⟨s₂, hvalue, h₂⟩ := h₁.value_behindKey name t
  have hindent₁ : s₁.indent ≤ s₁.column := by
    rw [Scan.column, h₁.column_eq]
    rw [← h₁.level_eq] at hindent
    exact hindent
  have hprep₁ := prepared_behindKey (t := t) hlength hindent₁
  have hsecond : (s₁.behindKey name (':' :: t)).StepsTo s₂ := by
    refine ⟨(step_eq hprep₁ rfl).trans ((token_colon _ ht).trans hvalue), ?_⟩
    rw [h₂.rest_eq]
    exact Nat.lt_succ_self _
  cases name with
  | nil => exact absurd rfl hne
  | cons c name =>
    have htoken := (token_of_isKeyChar h₁.inFlow_eq (hkey c List.mem_cons_self)
      (name ++ ':' :: t)).trans hplain
    have hfirst : s.StepsTo (s₁.behindKey (c :: name) (':' :: t)) :=
      h₁.stepsTo hprep htoken (by simp [behindKey])
    exact ⟨s₂, .tail (.single hfirst) hsecond, h₂⟩

end

/-! ## Empty collections -/

/-- The scan behind the sign that opens a flow collection. -/
def behindOpening (s : Scan) (start : Token) : Scan :=
  { (s.push start).skip 1 with keys := none :: s.keys, keyAllowed := true }

/-- In the flow collection, the possible key in front of it is kept, or forgotten. -/
theorem prepared_behindOpening {o e : Char} {key : Option PossibleKey} (start : Token)
    (hrest : s.cursor.rest = o :: e :: t) (hink : isInk e = true) (hkeys : s.keys = [key])
    (hkey : ∀ k ∈ key, k.required = false) :
    ∃ key', (∀ k ∈ key', k ∈ key) ∧ (s.behindOpening start).prepared =
      some { s.behindOpening start with keys := [none, key'] } := by
  have hflow : (s.behindOpening start).inFlow = true := by simp [inFlow, behindOpening, hkeys]
  have hseek : (s.behindOpening start).seek = s.behindOpening start := by
    have hstarts : StartsInk (s.behindOpening start).cursor.rest := by
      rw [show (s.behindOpening start).cursor.rest = e :: t by
        simp [behindOpening, push, skip, Cursor.drop, hrest]]
      exact startsInk_cons hink
    rw [seek, seekToken_startsInk hstarts]
  have hrequired : (s.behindOpening start).keys.any
      (·.any fun k => (s.behindOpening start).isStale k && k.required) = false := by
    cases key with
    | none => simp [behindOpening, hkeys]
    | some k => simp [behindOpening, hkeys, hkey k rfl]
  refine ⟨key.filter (!(s.behindOpening start).isStale ·),
    fun k hk => (Option.filter_eq_some_iff.1 hk).1, ?_⟩
  have hstale : (s.behindOpening start).dropStale = some { s.behindOpening start with
      keys := [none, key.filter (!(s.behindOpening start).isStale ·)] } := by
    rw [dropStale, hrequired]
    simp [behindOpening, hkeys]
  rw [prepared, hseek, hstale]
  rfl

/-- The scan behind an empty flow collection, in front of which the possible key stands. -/
def behindEmpty (s : Scan) (start stop : Token) (key : Option PossibleKey) : Scan :=
  { ((s.behindOpening start).push stop).skip 1 with keys := [key], keyAllowed := false }

theorem level_behindEmpty (s : Scan) (start stop : Token) (key : Option PossibleKey) :
    (s.behindEmpty start stop key).level = s.level.push (start.settle ++ stop.settle) := by
  rw [← Level.push_push, ← level_push, ← level_push]
  rfl

/-- An empty flow collection. -/
theorem Reaches.emptyFlow {o e : Char} {start stop : Token}
    (h : s.Reaches (o :: e :: '\n' :: (spaces k ++ t)) column b l)
    (ho : ∀ (s : Scan) rest, s.token o rest = s.flowStart start)
    (he : ∀ (s : Scan) rest, s.token e rest = s.flowEnd stop) (hink : isInk e = true)
    (hindent : l.indent ≠ column) (ht : StartsInk t) :
    ∃ s', s.Leads s' ∧
      s'.Reaches t k true ((l.push (start.settle ++ stop.settle)).close k) := by
  obtain ⟨s₁, hprep, h₁⟩ := h
  obtain ⟨s₂, hnote, hcursor, hlevel, hflow, hforgets⟩ := h₁.noteKey hindent
  obtain ⟨key, hkeys, hkey⟩ := hforgets _ (Nat.lt_succ_self _)
  have hrest : s₂.cursor.rest = o :: e :: '\n' :: (spaces k ++ t) := by rw [hcursor, h₁.rest_eq]
  have hinside : (s₂.behindOpening start).cursor.rest = e :: '\n' :: (spaces k ++ t) := by
    simp [behindOpening, push, skip, Cursor.drop, hrest]
  have hbehind (key : Option PossibleKey) : (s₂.behindEmpty start stop key).cursor =
      ⟨'\n' :: (spaces k ++ t), s₁.cursor.place.past 2⟩ := by
    simp [behindEmpty, behindOpening, push, skip, Cursor.drop, hcursor, h₁.rest_eq]
  have hfirst : s.StepsTo (s₂.behindOpening start) := by
    have htoken : s₁.token o (e :: '\n' :: (spaces k ++ t)) = some (s₂.behindOpening start) := by
      rw [ho, flowStart, hnote]
      rfl
    exact h₁.stepsTo hprep htoken (Nat.le_of_eq (by rw [hinside]))
  obtain ⟨key', hkey', hprep'⟩ :=
    prepared_behindOpening start hrest hink hkeys fun k hk => (hkey k hk).1
  have hsecond : (s₂.behindOpening start).StepsTo (s₂.behindEmpty start stop key') := by
    refine ⟨(step_eq hprep' hinside).trans (he _ _), ?_⟩
    rw [hbehind, hinside]
    exact Nat.lt_succ_self _
  have hforgets' : (s₂.behindEmpty start stop key').Forgets (s₁.cursor.place.line + 1) :=
    ⟨key', rfl, fun k hk => hkey k (hkey' k hk)⟩
  have hreaches := hforgets'.reaches (p := ((s₁.cursor.place.past 2).pastBreak 1).past k)
    (by rw [hbehind]; exact seekToken_lineEnd ht)
  rw [level_behindEmpty, hlevel, Place.column_past, Place.column_pastBreak, Nat.zero_add] at hreaches
  exact ⟨_, .tail (.single hfirst) hsecond, hreaches⟩

theorem Reaches.emptyItems (h : s.Reaches ('[' :: ']' :: '\n' :: (spaces k ++ t)) column b l)
    (hindent : l.indent ≠ column) (ht : StartsInk t) :
    ∃ s', s.Leads s' ∧
      s'.Reaches t k true ((l.push [.flowSequenceStart, .flowSequenceEnd]).close k) := by
  have ho (s : Scan) (rest : List Char) : s.token '[' rest = s.flowStart .flowSequenceStart := by
    simp [token, isDocumentMark]
  have he (s : Scan) (rest : List Char) : s.token ']' rest = s.flowEnd .flowSequenceEnd := by
    simp [token, isDocumentMark]
  exact h.emptyFlow ho he (by decide) hindent ht

theorem Reaches.emptyRecord
    (h : s.Reaches ('\x7b' :: '\x7d' :: '\n' :: (spaces k ++ t)) column b l)
    (hindent : l.indent ≠ column) (ht : StartsInk t) :
    ∃ s', s.Leads s' ∧
      s'.Reaches t k true ((l.push [.flowMappingStart, .flowMappingEnd]).close k) := by
  have ho (s : Scan) (rest : List Char) : s.token '\x7b' rest = s.flowStart .flowMappingStart := by
    simp [token, isDocumentMark]
  have he (s : Scan) (rest : List Char) : s.token '\x7d' rest = s.flowEnd .flowMappingEnd := by
    simp [token, isDocumentMark]
  exact h.emptyFlow ho he (by decide) hindent ht

end Scan

end AsyncIdioms.Yaml
