/-
  Scanning from token to token.

  * `Level` : the tokens so far, with the slots settled, and the block collections that are open;
    `Level.close` closes those that are deeper than a column;
  * `Scan.Stands` : a scan in front of a token, `Scan.Reaches` : one that gets there by skipping what
    is between tokens;
  * `Scan.Leads` : some steps, each of which takes characters. `scan_of_leads` says that steps up to
    the end of the text are all of its tokens.
-/
import Mathlib.Logic.Relation
import AsyncIdioms.Proofs.Yaml.Plain

namespace AsyncIdioms.Yaml

/-! ## Levels -/

/-- The tokens so far and the block collections that are open. -/
structure Level where
  tokens : List Token
  /-- The column of the innermost collection. -/
  indent : Int
  /-- The columns of those around it. -/
  outer : List Int

namespace Level

/-- Closes the collections that are deeper than `column`. -/
def closeFrom (column : Int) (tokens : List Token) (indent : Int) : List Int → Level
  | [] => ⟨tokens, indent, []⟩
  | next :: outer =>
    if column < indent then closeFrom column (tokens ++ [.blockEnd]) next outer
    else ⟨tokens, indent, next :: outer⟩

def close (l : Level) (column : Int) : Level := closeFrom column l.tokens l.indent l.outer

variable {l : Level} {column next : Int} {tokens : List Token} {indent : Int} {outer : List Int}

theorem close_of_le (h : l.indent ≤ column) : l.close column = l := by
  obtain ⟨tokens, indent, outer⟩ := l
  cases outer with
  | nil => rfl
  | cons next outer => exact if_neg (Int.not_lt.2 h)

theorem close_cons (h : column < indent) :
    (⟨tokens, indent, next :: outer⟩ : Level).close column =
      (⟨tokens ++ [.blockEnd], next, outer⟩ : Level).close column :=
  if_pos h

/-- The level with more tokens. -/
def push (l : Level) (tokens : List Token) : Level := { l with tokens := l.tokens ++ tokens }

theorem push_nil (l : Level) : l.push [] = l := by simp [push]

theorem push_push (l : Level) (ts us : List Token) : (l.push ts).push us = l.push (ts ++ us) := by
  simp [push]

/-- The level in which a collection in `column` is open. -/
def openAt (l : Level) (column : Nat) (start : Token) : Level :=
  if l.indent < column then ⟨l.tokens ++ [start], column, l.indent :: l.outer⟩ else l

end Level

namespace Scan

variable {s s' s₁ s₂ : Scan} {t u : List Char} {c : Char} {b : Bool} {l : Level} {column k : Nat}
  {p : Place}

/-- The level of a scan. -/
def level (s : Scan) : Level := ⟨s.tokens.toList.flatMap Token.settle, s.indent, s.outer⟩

theorem flatMap_settle_push (tokens : Array Token) (t : Token) :
    (tokens.push t).toList.flatMap Token.settle =
      tokens.toList.flatMap Token.settle ++ t.settle := by
  simp

theorem level_push (s : Scan) (t : Token) : (s.push t).level = s.level.push t.settle := by
  simp [level, push, Level.push]

theorem close_eq (column : Int) (tokens : Array Token) (indent : Int) (outer : List Int) :
    (⟨(closeBlocks.close column tokens indent outer).1.toList.flatMap Token.settle,
      (closeBlocks.close column tokens indent outer).2.1,
      (closeBlocks.close column tokens indent outer).2.2⟩ : Level) =
      Level.closeFrom column (tokens.toList.flatMap Token.settle) indent outer := by
  induction outer generalizing tokens indent with
  | nil => rfl
  | cons next outer ih =>
    rw [closeBlocks.close, Level.closeFrom]
    split
    · rw [ih, flatMap_settle_push]
      rfl
    · rfl

theorem level_closeBlocks (h : s.inFlow = false) (column : Int) :
    (s.closeBlocks column).level = s.level.close column := by
  rw [closeBlocks, if_neg (by simp [h])]
  exact close_eq column s.tokens s.indent s.outer

/-! ## Between tokens -/

end Scan

section
variable {inFlow b : Bool} {p : Place} {t : List Char} {k : Nat}

/-- What shows is not skipped. -/
theorem seekToken_startsInk (ht : StartsInk t) :
    seekToken inFlow b false p t = (b, ⟨t, p⟩) := by
  cases t with
  | nil => rw [seekToken]
  | cons c t =>
    obtain ⟨hs, hb, hhash, hmark⟩ := ht.head
    simp only [isSpacing, Bool.or_eq_false_iff] at hs
    rw [seekToken, hb, hs.1, hs.2, hmark]
    · simp [hhash]
    · rintro rest rfl
      exact absurd hb (by decide)

theorem seekToken_space :
    seekToken inFlow b false p (' ' :: t) = seekToken inFlow b false (p.past 1) t := by
  rw [seekToken]
  · simp [isBreak, isSeparator]
  · rintro rest h
    exact absurd h (by decide)

theorem seekToken_spaces (n : Nat) (p : Place) :
    seekToken inFlow b false p (spaces n ++ t) = seekToken inFlow b false (p.past n) t := by
  induction n generalizing p with
  | zero => simp [spaces]
  | succ n ih => rw [spaces_succ, List.cons_append, seekToken_space, ih, Place.past_past, Nat.add_comm]

/-- Behind a line end, in a block, a key may start. -/
theorem seekToken_lineEnd (ht : StartsInk t) :
    seekToken false b false p ('\n' :: (spaces k ++ t)) = (true, ⟨t, (p.pastBreak 1).past k⟩) := by
  have hstep : seekToken false b false p ('\n' :: (spaces k ++ t)) =
      seekToken false true false (p.pastBreak 1) (spaces k ++ t) := by
    rw [seekToken]
    · simp [isBreak]
    · rintro rest h
      exact absurd h (by decide)
  rw [hstep, seekToken_spaces, seekToken_startsInk ht]

theorem length_seekToken (inFlow b inComment : Bool) (p : Place) (t : List Char) :
    (seekToken inFlow b inComment p t).2.rest.length ≤ t.length := by
  fun_induction seekToken inFlow b inComment p t <;> simp_all <;> omega

end

namespace Scan

variable {s s' s₁ s₂ : Scan} {t u : List Char} {c : Char} {b : Bool} {l : Level} {column k : Nat}
  {p : Place}

/-- The scan in front of the next token. -/
def prepared (s : Scan) : Option Scan := do
  let s ← s.seek.dropStale
  return s.closeBlocks s.column

/-- A scan in front of `rest`, outside of flow collections and with no key in sight. -/
structure Stands (s : Scan) (rest : List Char) (column : Nat) (keyAllowed : Bool) (l : Level) :
    Prop where
  rest_eq : s.cursor.rest = rest
  column_eq : s.cursor.place.column = column
  keyAllowed_eq : s.keyAllowed = keyAllowed
  keys_eq : s.keys = [none]
  level_eq : s.level = l

/-- A scan that stands there once it has skipped what is between tokens. -/
def Reaches (s : Scan) (rest : List Char) (column : Nat) (keyAllowed : Bool) (l : Level) : Prop :=
  ∃ s', s.prepared = some s' ∧ s'.Stands rest column keyAllowed l

/-- The possible key, if there is one, is forgotten on that line: it stands above, and need not be a
    key. -/
def Forgets (s : Scan) (line : Nat) : Prop :=
  ∃ key : Option PossibleKey, s.keys = [key] ∧
    ∀ k ∈ key, k.required = false ∧ k.place.line < line

theorem Stands.inFlow_eq (h : s.Stands t column b l) : s.inFlow = false := by
  simp [inFlow, h.keys_eq]

theorem step_eq (h : s.prepared = some s') (hrest : s'.cursor.rest = c :: t) :
    s.step = s'.token c t := by
  rw [prepared] at h
  rw [step]
  cases hs : s.seek.dropStale with
  | none => simp [hs] at h
  | some s₁ =>
    simp only [hs, Option.bind_eq_bind, Option.bind_some, Option.pure_def, Option.some.injEq] at h ⊢
    subst h
    rw [hrest]

/-- The scan gets to what shows next, and closes the collections that end in front of it. -/
theorem Forgets.reaches (h : s.Forgets p.line)
    (hseek : seekToken false s.keyAllowed false s.cursor.place s.cursor.rest = (b, ⟨t, p⟩)) :
    s.Reaches t p.column b (s.level.close p.column) := by
  obtain ⟨key, hkeys, hkey⟩ := h
  have hflow : s.inFlow = false := by simp [inFlow, hkeys]
  have hs : s.seek = { s with cursor := ⟨t, p⟩, keyAllowed := b } := by
    rw [seek, hflow, hseek]
  have hstale : s.seek.dropStale =
      some { s with cursor := ⟨t, p⟩, keyAllowed := b, keys := [none] } := by
    rw [hs, dropStale]
    cases key with
    | none => simp [hkeys]
    | some k =>
      obtain ⟨hrequired, hline⟩ := hkey k rfl
      simp [hkeys, hrequired, isStale, Nat.not_le.2 hline]
  refine ⟨_, by rw [prepared, hstale]; rfl, ?_⟩
  have hclose := level_closeBlocks
    (s := { s with cursor := ⟨t, p⟩, keyAllowed := b, keys := [none] }) rfl p.column
  exact ⟨rfl, rfl, rfl, rfl, hclose⟩

/-- Where nothing has to be closed, the scan gets in front of what shows next. -/
theorem Stands.reaches (h : s.Stands u column b l)
    {b' : Bool} (hseek : seekToken false b false s.cursor.place u = (b', ⟨t, p⟩))
    (hindent : l.indent ≤ p.column) : s.Reaches t p.column b' l := by
  have hforgets : s.Forgets p.line := ⟨none, h.keys_eq, nofun⟩
  have hreaches := hforgets.reaches (by rw [h.keyAllowed_eq, h.rest_eq]; exact hseek)
  rwa [h.level_eq, Level.close_of_le hindent] at hreaches

theorem Stands.reaches_self (h : s.Stands t column b l) (ht : StartsInk t)
    (hindent : l.indent ≤ column) : s.Reaches t column b l := by
  have hreaches := h.reaches (seekToken_startsInk ht) (by rwa [h.column_eq])
  rwa [h.column_eq] at hreaches

theorem Stands.reaches_space (h : s.Stands (' ' :: t) column b l) (ht : StartsInk t)
    (hindent : l.indent ≤ column) : s.Reaches t (column + 1) b l := by
  have hcolumn : (s.cursor.place.past 1).column = column + 1 := by simp [h.column_eq]
  have hreaches := h.reaches (seekToken_space.trans (seekToken_startsInk ht)) (by omega)
  rwa [hcolumn] at hreaches

theorem Stands.reaches_lineEnd (h : s.Stands ('\n' :: (spaces k ++ t)) column b l)
    (ht : StartsInk t) (hindent : l.indent ≤ k) : s.Reaches t k true l := by
  have hcolumn : ((s.cursor.place.pastBreak 1).past k).column = k := by simp
  have hreaches := h.reaches (seekToken_lineEnd ht) (by omega)
  rwa [hcolumn] at hreaches

/-! ## Steps -/

/-- A step that takes characters. -/
def StepsTo (s s' : Scan) : Prop :=
  s.step = some s' ∧ s'.cursor.rest.length < s.cursor.rest.length

/-- Some steps. -/
def Leads : Scan → Scan → Prop := Relation.ReflTransGen StepsTo

theorem cursor_closeBlocks (s : Scan) (column : Int) : (s.closeBlocks column).cursor = s.cursor := by
  rw [closeBlocks]
  split <;> rfl

theorem keys_closeBlocks (s : Scan) (column : Int) : (s.closeBlocks column).keys = s.keys := by
  rw [closeBlocks]
  split <;> rfl

theorem cursor_dropStale (h : s.dropStale = some s') : s'.cursor = s.cursor := by
  rw [dropStale] at h
  split at h
  · contradiction
  · rw [← Option.some.inj h]

theorem length_prepared (h : s.prepared = some s') :
    s'.cursor.rest.length ≤ s.cursor.rest.length := by
  rw [prepared] at h
  obtain ⟨s₁, hs₁, h⟩ := Option.bind_eq_some_iff.1 h
  rw [← Option.some.inj h, cursor_closeBlocks, cursor_dropStale hs₁]
  exact length_seekToken _ _ _ _ _

/-- The token that a scan has reached makes a step. -/
theorem Stands.stepsTo (h : s'.Stands (c :: t) column b l) (hprep : s.prepared = some s')
    (htoken : s'.token c t = some s₂) (hlt : s₂.cursor.rest.length ≤ t.length) : s.StepsTo s₂ := by
  refine ⟨by rw [step_eq hprep h.rest_eq, htoken], ?_⟩
  have hle := length_prepared hprep
  rw [h.rest_eq, List.length_cons] at hle
  omega

/-! ## The whole run -/

theorem step_nil (h : s.prepared = some s') (hrest : s'.cursor.rest = []) : s.step = some s' := by
  obtain ⟨s₁, hs₁, h⟩ := Option.bind_eq_some_iff.1 h
  obtain rfl := Option.some.inj h
  rw [step, hs₁]
  simp only [Option.bind_eq_bind, Option.bind_some, hrest]

/-- However many steps are allowed, if they are enough, the run ends with these tokens. -/
def Ends (s : Scan) (tokens : List Token) : Prop :=
  ∀ n, s.cursor.rest.length < n →
    (if s.cursor.rest.isEmpty then do return (← (← s.step).finish).tokens else run n s).map
      (fun ts => ts.toList.flatMap Token.settle) = some tokens

theorem StepsTo.ends {tokens : List Token} (h : s.StepsTo s') (h' : s'.Ends tokens) :
    s.Ends tokens := by
  obtain ⟨hstep, hlt⟩ := h
  intro n hn
  obtain ⟨m, rfl⟩ : ∃ m, n = m + 1 := ⟨n - 1, by omega⟩
  have hne : s.cursor.rest.isEmpty = false := by
    rw [List.isEmpty_eq_false_iff]
    rintro hnil
    simp [hnil] at hlt
  rw [hne, run, hstep, ← h' m (by omega)]
  rfl

theorem Leads.ends {tokens : List Token} (h : s.Leads s') (h' : s'.Ends tokens) : s.Ends tokens := by
  induction h using Relation.ReflTransGen.head_induction_on with
  | refl => exact h'
  | head hstep _ ih => exact hstep.ends ih

theorem Stands.finish (h : s.Stands t column b l) :
    ∃ s', s.finish = some s' ∧ s'.level = l.close (-1) := by
  refine ⟨s.closeBlocks (-1), ?_, by rw [level_closeBlocks h.inFlow_eq, h.level_eq]⟩
  rw [Scan.finish, dropKey, keys_closeBlocks, h.keys_eq]

/-- At the end of the text, the collections that are still open are closed. -/
theorem Reaches.ends (h : s.Reaches [] column b l) (hindent : l.indent ≤ column) :
    s.Ends (l.close (-1)).tokens := by
  obtain ⟨s₁, hprep, h₁⟩ := h
  intro n hn
  obtain ⟨m, rfl⟩ : ∃ m, n = m + 1 := ⟨n - 1, by omega⟩
  have hstep := step_nil hprep h₁.rest_eq
  split
  next =>
    obtain ⟨s₂, hfinish, hlevel⟩ := h₁.finish
    rw [hstep, ← hlevel]
    simp only [Option.bind_eq_bind, Option.bind_some, hfinish]
    rfl
  next =>
    -- what is left are spaces and breaks, which take a step of their own
    obtain ⟨s₂, hprep₂, h₂⟩ := h₁.reaches_self nofun hindent
    obtain ⟨s₃, hfinish, hlevel⟩ := h₂.finish
    rw [run, hstep, ← hlevel]
    simp only [Option.bind_eq_bind, Option.bind_some, h₁.rest_eq, List.isEmpty_nil, if_true,
      step_nil hprep₂ h₂.rest_eq, hfinish]
    rfl

end Scan

/-- Steps from the start to the end of a text are all of its tokens. -/
theorem scan_of_leads {cs : List Char} {s : Scan} {column : Nat} {b : Bool} {l : Level}
    (hne : cs ≠ []) (hcs : cs.all isReadable = true)
    (h : ({ cursor := { rest := cs } } : Scan).Leads s) (hs : s.Reaches [] column b l)
    (hindent : l.indent ≤ column) : scan cs = some (l.close (-1)).tokens := by
  have hends := h.ends (hs.ends hindent) (cs.length + 1) (Nat.lt_succ_self _)
  rw [if_neg (by simpa using hne)] at hends
  obtain ⟨tokens, hrun, htokens⟩ := Option.map_eq_some_iff.1 hends
  rw [scan, hcs, hrun, ← htokens]
  rfl

end AsyncIdioms.Yaml
