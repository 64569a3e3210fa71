/-
  The grammar of JSON texts, and that reading follows it.

  A text spells a value (`Spells`): blanks may stand around every value and every key, commas stand
  between items and between members, and nothing else is left to choose but the spelling of literals.

  * `exists_of_readValue` : what was read spells the value that was found;
  * `readValue_of_spells` : a text that spells a value is read as this value, up to blanks behind it;
    the length of the text bounds the nesting;
  * `parse?_eq_some_iff` : a text is read as a value if and only if it spells the value.
-/
import AsyncIdioms.Proofs.Json.Literals

namespace AsyncIdioms.Json

/-! ## The grammar -/

/-- A key between quotes, with or without blanks around it. -/
def SpellsKey (key : Option String) (cs : List Char) : Prop :=
  ∃ before body after, IsBlanks before ∧ SpellsText key body ∧ IsBlanks after ∧
    cs = before ++ '"' :: (body ++ '"' :: after)

mutual

/-- The text spells the value, with or without blanks around it. -/
inductive Spells : Json → List Char → Prop
  | null : Spells .null "null".toList
  | bool (b : Bool) : Spells (.bool b) (Json.bool b).chars
  | number {literal : String} (h : IsNumeral literal.toList) :
      Spells (.number literal) literal.toList
  | string {s : Option String} {cs : List Char} (h : SpellsText s cs) :
      Spells (.string s) ('"' :: (cs ++ ['"']))
  | array {gap cs : List Char} {vs : List Json} (hgap : IsBlanks gap) (h : SpellsItems vs cs) :
      Spells (.array vs) ('[' :: (gap ++ (cs ++ [']'])))
  | object {gap cs : List Char} {ms : List (Option String × Json)} (hgap : IsBlanks gap)
      (h : SpellsMembers ms cs) : Spells (.object ms) ('\x7b' :: (gap ++ (cs ++ ['\x7d'])))
  | padded {v : Json} {before cs after : List Char} (hbefore : IsBlanks before) (h : Spells v cs)
      (hafter : IsBlanks after) : Spells v (before ++ (cs ++ after))

/-- The text spells the values, with commas between them. -/
inductive SpellsItems : List Json → List Char → Prop
  | nil : SpellsItems [] []
  | last {v : Json} {cs : List Char} (h : Spells v cs) : SpellsItems [v] cs
  | more {v w : Json} {vs : List Json} {cs ds : List Char} (h : Spells v cs)
      (hrest : SpellsItems (w :: vs) ds) : SpellsItems (v :: w :: vs) (cs ++ ',' :: ds)

/-- The text spells the members, with commas between them. -/
inductive SpellsMembers : List (Option String × Json) → List Char → Prop
  | nil : SpellsMembers [] []
  | last {key : Option String} {v : Json} {name cs : List Char} (hkey : SpellsKey key name)
      (h : Spells v cs) : SpellsMembers [(key, v)] (name ++ ':' :: cs)
  | more {key : Option String} {v : Json} {m : Option String × Json}
      {ms : List (Option String × Json)} {name cs ds : List Char} (hkey : SpellsKey key name)
      (h : Spells v cs) (hrest : SpellsMembers (m :: ms) ds) :
      SpellsMembers ((key, v) :: m :: ms) (name ++ ':' :: (cs ++ ',' :: ds))

end

variable {n : Nat} {v : Json} {vs : List Json} {key : Option String}
  {ms : List (Option String × Json)} {cs ds gap t : List Char}

theorem Spells.behind (h : Spells v cs) (hgap : IsBlanks gap) : Spells v (gap ++ cs) := by
  have := Spells.padded hgap h isBlanks_nil
  rwa [List.append_nil] at this

theorem Spells.before (h : Spells v cs) (hgap : IsBlanks gap) : Spells v (cs ++ gap) :=
  .padded isBlanks_nil h hgap

theorem SpellsItems.cons (h : Spells v cs) (hrest : SpellsItems vs ds) (hvs : vs ≠ []) :
    SpellsItems (v :: vs) (cs ++ ',' :: ds) := by
  obtain ⟨w, vs, rfl⟩ := List.exists_cons_of_ne_nil hvs
  exact .more h hrest

theorem SpellsMembers.cons {name : List Char} (hkey : SpellsKey key name) (h : Spells v cs)
    (hrest : SpellsMembers ms ds) (hms : ms ≠ []) :
    SpellsMembers ((key, v) :: ms) (name ++ ':' :: (cs ++ ',' :: ds)) := by
  obtain ⟨m, ms, rfl⟩ := List.exists_cons_of_ne_nil hms
  exact .more hkey h hrest

theorem SpellsItems.eq_nil (h : SpellsItems [] cs) : cs = [] := by
  cases h
  rfl

theorem SpellsMembers.eq_nil (h : SpellsMembers [] cs) : cs = [] := by
  cases h
  rfl

/-! ## What is read spells what is found -/

theorem readWord_eq_some {word : String} (h : readWord word cs = some t) : cs = word.toList ++ t := by
  rw [readWord] at h
  split at h
  · rename_i hprefix
    obtain ⟨rest, rfl⟩ := List.isPrefixOf_iff_prefix.1 hprefix
    rw [← String.length_toList, List.drop_left] at h
    rw [Option.some.inj h]
  · contradiction

mutual

/-- What is read from the text in front of `t` spells the value. -/
theorem exists_of_readValue : ∀ {n : Nat} {cs : List Char} {v : Json} {t : List Char},
    readValue n cs = some (v, t) → ∃ text, cs = text ++ t ∧ Spells v text
  | n + 1, cs, v, t, h => by
    obtain ⟨gap, hgap, hcs⟩ := exists_blanks cs
    rw [readValue] at h
    suffices hread : ∃ text, skipBlanks cs = text ++ t ∧ Spells v text by
      obtain ⟨text, htext, hspells⟩ := hread
      exact ⟨gap ++ text, by rw [List.append_assoc, ← htext, ← hcs], hspells.behind hgap⟩
    generalize skipBlanks cs = ds at h
    split at h
    · -- an object
      rename_i rest
      obtain ⟨gap, hgap, hrest⟩ := exists_blanks rest
      split at h
      · rename_i rest' hskip
        cases h
        refine ⟨'\x7b' :: (gap ++ ([] ++ ['\x7d'])), ?_, .object hgap .nil⟩
        rw [hrest, hskip]
        simp
      · obtain ⟨⟨ms, t'⟩, hmembers, h⟩ := Option.bind_eq_some_iff.1 h
        cases h
        obtain ⟨text, htext, hspells, -⟩ := exists_of_readMembers hmembers
        refine ⟨'\x7b' :: (gap ++ (text ++ ['\x7d'])), ?_, .object hgap hspells⟩
        rw [hrest, htext]
        simp
    · -- an array
      rename_i rest
      obtain ⟨gap, hgap, hrest⟩ := exists_blanks rest
      split at h
      · rename_i rest' hskip
        cases h
        refine ⟨'[' :: (gap ++ ([] ++ [']'])), ?_, .array hgap .nil⟩
        rw [hrest, hskip]
        simp
      · obtain ⟨⟨vs, t'⟩, hitems, h⟩ := Option.bind_eq_some_iff.1 h
        cases h
        obtain ⟨text, htext, hspells, -⟩ := exists_of_readItems hitems
        refine ⟨'[' :: (gap ++ (text ++ [']'])), ?_, .array hgap hspells⟩
        rw [hrest, htext]
        simp
    · -- a string
      obtain ⟨⟨s, t'⟩, hstring, h⟩ := Option.bind_eq_some_iff.1 h
      cases h
      obtain ⟨body, rfl, hbody⟩ := exists_of_readString hstring
      exact ⟨'"' :: (body ++ ['"']), by simp, .string hbody⟩
    · obtain ⟨t', hword, h⟩ := Option.bind_eq_some_iff.1 h
      cases h
      rw [readWord_eq_some hword]
      exact ⟨"null".toList, rfl, .null⟩
    · obtain ⟨t', hword, h⟩ := Option.bind_eq_some_iff.1 h
      cases h
      rw [readWord_eq_some hword]
      exact ⟨"true".toList, rfl, .bool true⟩
    · obtain ⟨t', hword, h⟩ := Option.bind_eq_some_iff.1 h
      cases h
      rw [readWord_eq_some hword]
      exact ⟨"false".toList, rfl, .bool false⟩
    · obtain ⟨⟨literal, t'⟩, hnumber, h⟩ := Option.bind_eq_some_iff.1 h
      cases h
      obtain ⟨rfl, hliteral⟩ := isNumeral_of_readNumber hnumber
      exact ⟨literal.toList, rfl, .number hliteral⟩

theorem exists_of_readItems : ∀ {n : Nat} {cs : List Char} {vs : List Json} {t : List Char},
    readItems n cs = some (vs, t) → ∃ text, cs = text ++ ']' :: t ∧ SpellsItems vs text ∧ vs ≠ []
  | n + 1, cs, vs, t, h => by
    rw [readItems] at h
    obtain ⟨⟨v, rest⟩, hvalue, hnext⟩ := Option.bind_eq_some_iff.1 h
    obtain ⟨text, htext, hspells⟩ := exists_of_readValue hvalue
    obtain ⟨gap, hgap, hrest⟩ := exists_blanks rest
    simp only at hnext
    split at hnext
    · rename_i rest' hskip
      cases hnext
      refine ⟨text ++ gap, ?_, .last (hspells.before hgap), by simp⟩
      rw [htext, hrest, hskip, List.append_assoc]
    · rename_i rest' hskip
      obtain ⟨⟨ws, t'⟩, hitems, hnext⟩ := Option.bind_eq_some_iff.1 hnext
      cases hnext
      obtain ⟨items, rfl, hspellsItems, hne⟩ := exists_of_readItems hitems
      refine ⟨text ++ gap ++ ',' :: items, ?_, .cons (hspells.before hgap) hspellsItems hne, by simp⟩
      rw [htext, hrest, hskip]
      simp
    · contradiction

theorem exists_of_readMembers : ∀ {n : Nat} {cs : List Char} {ms : List (Option String × Json)}
    {t : List Char}, readMembers n cs = some (ms, t) →
      ∃ text, cs = text ++ '\x7d' :: t ∧ SpellsMembers ms text ∧ ms ≠ []
  | n + 1, cs, ms, t, h => by
    obtain ⟨before, hbefore, hcs⟩ := exists_blanks cs
    rw [readMembers] at h
    split at h
    · rename_i rest hquote
      obtain ⟨⟨key, rest₁⟩, hstring, hcolon⟩ := Option.bind_eq_some_iff.1 h
      obtain ⟨body, hbody, hkey⟩ := exists_of_readString hstring
      obtain ⟨after, hafter, hrest₁⟩ := exists_blanks rest₁
      simp only at hcolon
      split at hcolon
      · rename_i rest₂ hskip₁
        obtain ⟨⟨v, rest₃⟩, hvalue, hnext⟩ := Option.bind_eq_some_iff.1 hcolon
        obtain ⟨text, htext, hspells⟩ := exists_of_readValue hvalue
        obtain ⟨gap, hgap, hrest₃⟩ := exists_blanks rest₃
        have hname : SpellsKey key (before ++ '"' :: (body ++ '"' :: after)) :=
          ⟨before, body, after, hbefore, hkey, hafter, rfl⟩
        have hall : cs = before ++ '"' :: (body ++ '"' :: after) ++ ':' ::
            (text ++ gap ++ skipBlanks rest₃) := by
          rw [hcs, hquote, hbody, hrest₁, hskip₁, htext, List.append_assoc text, ← hrest₃]
          simp
        simp only at hnext
        split at hnext
        · rename_i rest₄ hskip₃
          cases hnext
          refine ⟨_, ?_, .last hname (hspells.before hgap), by simp⟩
          rw [hall, hskip₃]
          simp
        · rename_i rest₄ hskip₃
          obtain ⟨⟨ws, t'⟩, hmembers, hnext⟩ := Option.bind_eq_some_iff.1 hnext
          cases hnext
          obtain ⟨members, rfl, hspellsMembers, hne⟩ := exists_of_readMembers hmembers
          refine ⟨_, ?_, .cons hname (hspells.before hgap) hspellsMembers hne, by simp⟩
          rw [hall, hskip₃]
          simp
        · contradiction
      · contradiction
    · contradiction

end

/-! ## What spells a value is read -/

/-- Behind a value stands nothing, a blank, or a character that goes on with a list or ends it. -/
def EndsValue (t : List Char) : Prop :=
  ∀ c ∈ t.head?, c ∈ [' ', '\t', '\n', '\r', ',', ']', '\x7d']

theorem EndsValue.endsNumber (h : EndsValue t) : EndsNumber t := by
  have hall : ∀ c ∈ [' ', '\t', '\n', '\r', ',', ']', '\x7d'],
      c.isDigit = false ∧ (c == '.') = false ∧ isExponentMark c = false := by
    simp [isExponentMark]
  exact ⟨fun c hc => (hall c (h c hc)).1, fun c hc => (hall c (h c hc)).2.1,
    fun c hc => (hall c (h c hc)).2.2⟩

theorem EndsValue.behind (ht : EndsValue t) (hgap : IsBlanks gap) : EndsValue (gap ++ t) := by
  cases gap with
  | nil => exact ht
  | cons c gap =>
    rintro _ ⟨⟩
    have hc : isBlank c = true := hgap c List.mem_cons_self
    simp only [isBlank, Bool.or_eq_true, beq_iff_eq, or_assoc] at hc
    rcases hc with rfl | rfl | rfl | rfl <;> decide

theorem endsValue_cons {c : Char} (hc : c ∈ [',', ']', '\x7d']) (t : List Char) :
    EndsValue (c :: t) := by
  rintro _ ⟨⟩
  exact List.mem_append_right [' ', '\t', '\n', '\r'] hc

theorem readWord_append (word : String) (t : List Char) :
    readWord word (word.toList ++ t) = some t := by
  have hprefix : word.toList.isPrefixOf (word.toList ++ t) = true :=
    List.isPrefixOf_iff_prefix.2 (List.prefix_append _ _)
  rw [readWord, if_pos hprefix, ← String.length_toList, List.drop_left]

theorem readValue_behind (hgap : IsBlanks gap) (n : Nat) (cs : List Char) :
    readValue n (gap ++ cs) = readValue n cs := by
  cases n with
  | zero => simp only [readValue]
  | succ n => rw [readValue, readValue, skipBlanks_append hgap]

theorem readItems_behind (hgap : IsBlanks gap) (n : Nat) (cs : List Char) :
    readItems n (gap ++ cs) = readItems n cs := by
  cases n with
  | zero => simp only [readItems]
  | succ n => rw [readItems, readItems, readValue_behind hgap]

theorem readMembers_behind (hgap : IsBlanks gap) (n : Nat) (cs : List Char) :
    readMembers n (gap ++ cs) = readMembers n cs := by
  cases n with
  | zero => simp only [readMembers]
  | succ n => rw [readMembers, readMembers, skipBlanks_append hgap]

/-- No item starts with the bracket that ends the list. -/
theorem readItems_bracket (n : Nat) (t : List Char) : readItems n (']' :: t) = none := by
  cases n with
  | zero => simp only [readItems]
  | succ n =>
    have hvalue : readValue n (']' :: t) = none := by
      cases n with
      | zero => simp only [readValue]
      | succ n =>
        simp [readValue, skipBlanks, isBlank, readNumber, readMagnitude, readInteger, readDigits]
    rw [readItems, hvalue]
    rfl

theorem readMembers_brace (n : Nat) (t : List Char) : readMembers n ('\x7d' :: t) = none := by
  cases n with
  | zero => simp only [readMembers]
  | succ n => simp [readMembers, skipBlanks, isBlank]

theorem readValue_emptyArray (hgap : IsBlanks gap) :
    readValue (n + 1) ('[' :: (gap ++ ']' :: t)) = some (.array [], t) := by
  have hopen : skipBlanks ('[' :: (gap ++ ']' :: t)) = '[' :: (gap ++ ']' :: t) :=
    skipBlanks_of_not_blank (by decide) _
  have hskip : skipBlanks (gap ++ ']' :: t) = ']' :: t := skipBlanks_behind hgap (by decide) t
  rw [readValue, hopen]
  simp [hskip]

theorem readValue_emptyObject (hgap : IsBlanks gap) :
    readValue (n + 1) ('\x7b' :: (gap ++ '\x7d' :: t)) = some (.object [], t) := by
  have hopen : skipBlanks ('\x7b' :: (gap ++ '\x7d' :: t)) = '\x7b' :: (gap ++ '\x7d' :: t) :=
    skipBlanks_of_not_blank (by decide) _
  have hskip : skipBlanks (gap ++ '\x7d' :: t) = '\x7d' :: t := skipBlanks_behind hgap (by decide) t
  rw [readValue, hopen]
  simp [hskip]

theorem readValue_array (h : readItems n cs = some (vs, t)) :
    readValue (n + 1) ('[' :: cs) = some (.array vs, t) := by
  obtain ⟨gap, hgap, hcs⟩ := exists_blanks cs
  rw [hcs, readItems_behind hgap] at h
  have hopen : skipBlanks ('[' :: cs) = '[' :: cs := skipBlanks_of_not_blank (by decide) cs
  rw [readValue, hopen]
  simp only
  split
  · rename_i rest hskip
    rw [hskip, readItems_bracket] at h
    contradiction
  · rw [h]
    rfl

theorem readValue_object (h : readMembers n cs = some (ms, t)) :
    readValue (n + 1) ('\x7b' :: cs) = some (.object ms, t) := by
  obtain ⟨gap, hgap, hcs⟩ := exists_blanks cs
  rw [hcs, readMembers_behind hgap] at h
  have hopen : skipBlanks ('\x7b' :: cs) = '\x7b' :: cs := skipBlanks_of_not_blank (by decide) cs
  rw [readValue, hopen]
  simp only
  split
  · rename_i rest hskip
    rw [hskip, readMembers_brace] at h
    contradiction
  · rw [h]
    rfl

theorem readValue_number {literal : String} (h : IsNumeral literal.toList) (ht : EndsValue t) :
    readValue (n + 1) (literal.toList ++ t) = some (.number literal, t) := by
  have hread : readNumber (literal.toList ++ t) = some (literal, t) := by
    rw [readNumber_of_isNumeral h ht.endsNumber, String.ofList_toList]
  obtain ⟨c, rest, hliteral, hc⟩ := h.head
  rw [hliteral, List.cons_append] at hread ⊢
  -- neither a blank nor the beginning of another value
  have hne : ∀ d ∈ [' ', '\t', '\n', '\r', '\x7b', '[', '"', 'n', 't', 'f'], c ≠ d := by
    have hall : ∀ d ∈ [' ', '\t', '\n', '\r', '\x7b', '[', '"', 'n', 't', 'f'],
        d ≠ '-' ∧ d.isDigit = false := by simp
    rintro d hd rfl
    rcases hc with hc | hc
    · exact (hall c hd).1 hc
    · exact Bool.false_ne_true ((hall c hd).2.symm.trans hc)
  have hblank : isBlank c = false := by simp [isBlank, hne]
  rw [readValue, skipBlanks_of_not_blank hblank]
  split
  all_goals
    first
    | rename_i heq
      exact absurd (List.cons.inj heq).1 (hne _ (by decide))
    | rw [hread]
      rfl

theorem readItems_last (h : readValue n cs = some (v, gap ++ ']' :: t)) (hgap : IsBlanks gap) :
    readItems (n + 1) cs = some ([v], t) := by
  have hskip : skipBlanks (gap ++ ']' :: t) = ']' :: t := skipBlanks_behind hgap (by decide) t
  rw [readItems, h]
  simp [hskip]

theorem readItems_more (h : readValue n cs = some (v, gap ++ ',' :: ds)) (hgap : IsBlanks gap)
    (hrest : readItems n ds = some (vs, t)) : readItems (n + 1) cs = some (v :: vs, t) := by
  have hskip : skipBlanks (gap ++ ',' :: ds) = ',' :: ds := skipBlanks_behind hgap (by decide) ds
  rw [readItems, h]
  simp [hskip, hrest]

/-- In front of a member, the reader skips the blanks around its key. -/
theorem skipBlanks_key {name : List Char} (hkey : SpellsKey key name) (t : List Char) :
    ∃ body after, skipBlanks (name ++ t) = '"' :: (body ++ '"' :: (after ++ t)) ∧ IsBlanks after ∧
      SpellsText key body := by
  obtain ⟨before, body, after, hbefore, hbody, hafter, rfl⟩ := hkey
  refine ⟨body, after, ?_, hafter, hbody⟩
  rw [List.append_assoc, skipBlanks_append hbefore, List.cons_append,
    skipBlanks_of_not_blank (by decide), List.append_assoc, List.cons_append]

theorem readMembers_last {name : List Char} (hkey : SpellsKey key name)
    (h : readValue n cs = some (v, gap ++ '\x7d' :: t)) (hgap : IsBlanks gap) :
    readMembers (n + 1) (name ++ ':' :: cs) = some ([(key, v)], t) := by
  obtain ⟨body, after, hname, hafter, hbody⟩ := skipBlanks_key hkey (':' :: cs)
  have hstring := readString_of_spells hbody (after ++ ':' :: cs)
  have hcolon : skipBlanks (after ++ ':' :: cs) = ':' :: cs := skipBlanks_behind hafter (by decide) cs
  have hskip : skipBlanks (gap ++ '\x7d' :: t) = '\x7d' :: t := skipBlanks_behind hgap (by decide) t
  rw [readMembers, hname]
  simp [hstring, hcolon, h, hskip]

theorem readMembers_more {name : List Char} (hkey : SpellsKey key name)
    (h : readValue n cs = some (v, gap ++ ',' :: ds)) (hgap : IsBlanks gap)
    (hrest : readMembers n ds = some (ms, t)) :
    readMembers (n + 1) (name ++ ':' :: cs) = some ((key, v) :: ms, t) := by
  obtain ⟨body, after, hname, hafter, hbody⟩ := skipBlanks_key hkey (':' :: cs)
  have hstring := readString_of_spells hbody (after ++ ':' :: cs)
  have hcolon : skipBlanks (after ++ ':' :: cs) = ':' :: cs := skipBlanks_behind hafter (by decide) cs
  have hskip : skipBlanks (gap ++ ',' :: ds) = ',' :: ds := skipBlanks_behind hgap (by decide) ds
  rw [readMembers, hname]
  simp [hstring, hcolon, h, hskip, hrest]

mutual

/-- A text that spells a value is read as this value, whatever follows it. -/
theorem readValue_of_spells : ∀ {v : Json} {cs : List Char}, Spells v cs → ∀ {n : Nat} {t : List Char},
    cs.length ≤ n → EndsValue t →
      ∃ gap, IsBlanks gap ∧ readValue (n + 1) (cs ++ t) = some (v, gap ++ t)
  | _, _, .null, n, t, _, _ => by
    have hword : readWord "ull" ('u' :: 'l' :: 'l' :: t) = some t := readWord_append "ull" t
    exact ⟨[], isBlanks_nil, by simp [readValue, skipBlanks, isBlank, hword]⟩
  | _, _, .bool true, n, t, _, _ => by
    have hword : readWord "rue" ('r' :: 'u' :: 'e' :: t) = some t := readWord_append "rue" t
    exact ⟨[], isBlanks_nil, by simp [chars, readValue, skipBlanks, isBlank, hword]⟩
  | _, _, .bool false, n, t, _, _ => by
    have hword : readWord "alse" ('a' :: 'l' :: 's' :: 'e' :: t) = some t := readWord_append "alse" t
    exact ⟨[], isBlanks_nil, by simp [chars, readValue, skipBlanks, isBlank, hword]⟩
  | _, _, .number h, n, t, _, ht => ⟨[], isBlanks_nil, readValue_number h ht⟩
  | _, _, .string h, n, t, _, _ => by
    have hstring := readString_of_spells h t
    exact ⟨[], isBlanks_nil, by simp [readValue, skipBlanks, isBlank, hstring]⟩
  | _, _, @Spells.array gap cs vs hgap h, n, t, hn, _ => by
    simp only [List.length_cons, List.length_append, List.length_nil] at hn
    obtain ⟨n, rfl⟩ : ∃ m, n = m + 2 := ⟨n - 2, by omega⟩
    have hitems (hvs : vs ≠ []) : readItems (n + 2) (gap ++ (cs ++ ']' :: t)) = some (vs, t) := by
      rw [readItems_behind hgap, readItems_of_spells h hvs (by omega)]
    refine ⟨[], isBlanks_nil, ?_⟩
    by_cases hvs : vs = []
    · subst hvs
      rw [h.eq_nil]
      simpa using readValue_emptyArray hgap
    · simpa using readValue_array (hitems hvs)
  | _, _, @Spells.object gap cs ms hgap h, n, t, hn, _ => by
    simp only [List.length_cons, List.length_append, List.length_nil] at hn
    obtain ⟨n, rfl⟩ : ∃ m, n = m + 2 := ⟨n - 2, by omega⟩
    have hmembers (hms : ms ≠ []) :
        readMembers (n + 2) (gap ++ (cs ++ '\x7d' :: t)) = some (ms, t) := by
      rw [readMembers_behind hgap, readMembers_of_spells h hms (by omega)]
    refine ⟨[], isBlanks_nil, ?_⟩
    by_cases hms : ms = []
    · subst hms
      rw [h.eq_nil]
      simpa using readValue_emptyObject hgap
    · simpa using readValue_object (hmembers hms)
  | _, _, @Spells.padded _ before cs after hbefore h hafter, n, t, hn, ht => by
    rw [List.length_append, List.length_append] at hn
    obtain ⟨gap, hgap, hread⟩ := readValue_of_spells h (n := n) (by omega) (ht.behind hafter)
    refine ⟨gap ++ after, hgap.append hafter, ?_⟩
    rw [List.append_assoc, readValue_behind hbefore, List.append_assoc, hread, List.append_assoc]

theorem readItems_of_spells : ∀ {vs : List Json} {cs : List Char}, SpellsItems vs cs → vs ≠ [] →
    ∀ {n : Nat} {t : List Char}, cs.length ≤ n → readItems (n + 2) (cs ++ ']' :: t) = some (vs, t)
  | _, _, .last h, _, n, t, hn => by
    obtain ⟨gap, hgap, hread⟩ := readValue_of_spells h hn (endsValue_cons (c := ']') (by decide) t)
    exact readItems_last hread hgap
  | _, _, @SpellsItems.more _ _ _ cs ds h hrest, _, n, t, hn => by
    rw [List.length_append, List.length_cons] at hn
    obtain ⟨n, rfl⟩ : ∃ m, n = m + 1 := ⟨n - 1, by omega⟩
    obtain ⟨gap, hgap, hread⟩ := readValue_of_spells h (n := n + 1) (by omega)
      (endsValue_cons (c := ',') (by decide) (ds ++ ']' :: t))
    rw [List.append_assoc, List.cons_append]
    exact readItems_more hread hgap (readItems_of_spells hrest (List.cons_ne_nil _ _) (by omega))

theorem readMembers_of_spells : ∀ {ms : List (Option String × Json)} {cs : List Char},
    SpellsMembers ms cs → ms ≠ [] → ∀ {n : Nat} {t : List Char}, cs.length ≤ n →
      readMembers (n + 2) (cs ++ '\x7d' :: t) = some (ms, t)
  | _, _, .last hkey h, _, n, t, hn => by
    rw [List.length_append, List.length_cons] at hn
    obtain ⟨gap, hgap, hread⟩ := readValue_of_spells h (n := n) (by omega)
      (endsValue_cons (c := '\x7d') (by decide) t)
    rw [List.append_assoc, List.cons_append]
    exact readMembers_last hkey hread hgap
  | _, _, @SpellsMembers.more _ _ _ _ _ _ ds hkey h hrest, _, n, t, hn => by
    simp only [List.length_append, List.length_cons] at hn
    obtain ⟨n, rfl⟩ : ∃ m, n = m + 1 := ⟨n - 1, by omega⟩
    obtain ⟨gap, hgap, hread⟩ := readValue_of_spells h (n := n + 1) (by omega)
      (endsValue_cons (c := ',') (by decide) (ds ++ '\x7d' :: t))
    rw [List.append_assoc, List.cons_append, List.append_assoc, List.cons_append]
    exact readMembers_more hkey hread hgap
      (readMembers_of_spells hrest (List.cons_ne_nil _ _) (by omega))

end

/-- **A text is read as a value if and only if it spells the value.** -/
theorem parse?_eq_some_iff {s : String} : parse? s = some v ↔ Spells v s.toList := by
  constructor
  · intro h
    obtain ⟨⟨v', rest⟩, hread, h⟩ := Option.bind_eq_some_iff.1 h
    obtain ⟨_, hrest, h⟩ := Option.bind_eq_some_iff.1 h
    cases h
    obtain ⟨text, htext, hspells⟩ := exists_of_readValue hread
    obtain ⟨gap, hgap, hrest'⟩ := exists_blanks rest
    have hnil : skipBlanks rest = [] := List.isEmpty_iff.1 ((Option.guard_eq_some' ()).1 hrest)
    rw [hnil, List.append_nil] at hrest'
    rw [htext, hrest']
    exact hspells.before hgap
  · intro h
    obtain ⟨gap, hgap, hread⟩ := readValue_of_spells h (Nat.le_refl _) (t := []) (by rintro _ ⟨⟩)
    rw [List.append_nil, List.append_nil] at hread
    have hskip : skipBlanks gap = [] := by simpa [skipBlanks] using skipBlanks_append hgap []
    have hend : (guard ((skipBlanks gap).isEmpty = true) : Option Unit) = some () :=
      (Option.guard_eq_some' ()).2 (List.isEmpty_iff.2 hskip)
    simp only [parse?, hread, hend, Option.bind_eq_bind, Option.bind_some, Option.pure_def]

end AsyncIdioms.Json
