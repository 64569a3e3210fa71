/-
  When ignoring case keeps a match.

  A condition that ignores case compares texts in lower case. A value that is found in a text as it
  stands is found in lower case, too, except where a capital sigma of it is final in the text and not
  in the value alone, or the other way round (`Text.KeepsSigmas`):

  * `TextOp.Admits` : what may stand around a value that a text is compared with;
  * `TextOp.relates_lowercase_iff` : a match that is not somewhere in the middle stays one exactly if
    the value keeps its sigmas;
  * `TextCondition.holds_ignoreCase` : ignoring case loses no match where the value keeps its sigmas,
    and these are all matches of equality and all matches of values without a capital sigma;
  * `TextCondition.not_holds_ignoreCase_final` : a final sigma is lost.
-/
import AsyncIdioms.Proofs.Classifier.Meaning
import AsyncIdioms.Proofs.Text.Lowercase

namespace AsyncIdioms

open Text

/-! ## Places of a value in a text -/

/-- What may stand in front of a value and behind it, so that the text stands in the relation to the
    value. -/
def TextOp.Admits : TextOp → List Char → List Char → Prop
  | .contains, _, _ => True
  | .startsWith, before, _ => before = []
  | .endsWith, _, after => after = []
  | .equals, before, after => before = [] ∧ after = []
  | .regex, _, _ => False

theorem TextOp.relates_iff_admits {op : TextOp} {text value : String} :
    op.relates text value = true ↔
      ∃ before after, text.toList = before ++ value.toList ++ after ∧ op.Admits before after := by
  cases op with
  | contains =>
    rw [TextOp.relates, contains_iff]
    constructor
    · rintro ⟨before, after, h⟩
      exact ⟨before, after, h.symm, trivial⟩
    · rintro ⟨before, after, h, -⟩
      exact ⟨before, after, h.symm⟩
  | startsWith =>
    rw [TextOp.relates, startsWith_iff]
    constructor
    · rintro ⟨after, h⟩
      exact ⟨[], after, h.symm, rfl⟩
    · rintro ⟨before, after, h, rfl⟩
      exact ⟨after, h.symm⟩
  | endsWith =>
    rw [TextOp.relates, endsWith_iff]
    constructor
    · rintro ⟨before, h⟩
      exact ⟨before, [], by rw [List.append_nil, h], rfl⟩
    · rintro ⟨before, after, h, rfl⟩
      exact ⟨before, by rw [h, List.append_nil]⟩
  | equals =>
    rw [TextOp.relates, beq_iff_eq]
    constructor
    · rintro rfl
      exact ⟨[], [], by rw [List.nil_append, List.append_nil], rfl, rfl⟩
    · rintro ⟨before, after, h, rfl, rfl⟩
      exact String.toList_inj.1 (by rw [h, List.nil_append, List.append_nil])
  | regex => simp [TextOp.relates, TextOp.Admits]

namespace TextOp

variable {op : TextOp} {text value : String} {before after : List Char}

/-- Nothing comes to stand around a part of which nothing stood around. -/
theorem Admits.lowerBetween (h : op.Admits before after) (front back front' back' : List Char) :
    op.Admits (lowerBetween front back before) (lowerBetween front' back' after) := by
  cases op with
  | contains => trivial
  | startsWith =>
    obtain rfl : before = [] := h
    exact rfl
  | endsWith =>
    obtain rfl : after = [] := h
    exact rfl
  | equals =>
    obtain ⟨rfl, rfl⟩ : before = [] ∧ after = [] := h
    exact ⟨rfl, rfl⟩
  | regex => exact h.elim

/-- Where a value keeps its sigmas, it is found in lower case. -/
theorem Admits.relates_lowercase (h : op.Admits before after)
    (htext : text.toList = before ++ value.toList ++ after)
    (hkeeps : KeepsSigmas before value.toList after) :
    op.relates (lowercase text) (lowercase value) = true := by
  refine relates_iff_admits.2 ⟨_, _, ?_, h.lowerBetween [] (value.toList ++ after)
    (before ++ value.toList).reverse []⟩
  rw [toList_lowercase_between htext, lowerBetween_eq_iff.2 hkeeps, toList_lowercase value]

/-- At a fixed place, it is found there only then. -/
theorem relates_lowercase_iff (hop : op ≠ .contains) (h : op.Admits before after)
    (htext : text.toList = before ++ value.toList ++ after) :
    op.relates (lowercase text) (lowercase value) = true ↔ KeepsSigmas before value.toList after := by
  refine ⟨fun hrelates => ?_, h.relates_lowercase htext⟩
  obtain ⟨before', after', hlower, h'⟩ := relates_iff_admits.1 hrelates
  have hcut := (toList_lowercase_between htext).symm.trans hlower
  rw [toList_lowercase value] at hcut
  -- The value in the text and the value alone have as many characters, and so do the rests.
  have hlength := length_lowerBetween before.reverse after [] [] value.toList
  rw [← lowerBetween_eq_iff]
  cases op with
  | contains => contradiction
  | startsWith =>
    obtain rfl : before = [] := h
    obtain rfl : before' = [] := h'
    exact List.append_inj_left hcut hlength
  | endsWith =>
    obtain rfl : after = [] := h
    obtain rfl : after' = [] := h'
    simp only [lowerBetween, List.append_nil] at hcut
    exact List.append_inj_right' hcut hlength
  | equals =>
    obtain ⟨rfl, rfl⟩ : before = [] ∧ after = [] := h
    obtain ⟨rfl, rfl⟩ : before' = [] ∧ after' = [] := h'
    exact List.append_inj_left hcut hlength
  | regex => exact h.elim

end TextOp

/-! ## Conditions -/

namespace TextCondition

section
variable [RegexLibrary] {c : TextCondition} {f : Facts}

/-- Some value is found in some text at a place where it keeps its sigmas. -/
def MatchKeepsSigmas (c : TextCondition) (f : Facts) : Prop :=
  ∃ text ∈ f.texts c.subject, ∃ value ∈ c.allValues, ∃ before after,
    text.toList = before ++ value.toList ++ after ∧ c.op.Admits before after ∧
      KeepsSigmas before value.toList after

/-- Some value is found in some text in lower case, but not as they stand. -/
def MatchesInLowercaseOnly (c : TextCondition) (f : Facts) : Prop :=
  ∃ text ∈ f.texts c.subject, ∃ value ∈ c.allValues,
    c.op.relates text value = false ∧ c.op.relates (lowercase text) (lowercase value) = true

/-- A test with values, not negated, holds where some text stands in the relation to some value. -/
theorem holds_iff_relates {test : TextTest} (hop : c.op ≠ .regex) (hneg : c.negate = false)
    (h : c.prepare = .ok test) :
    test.holds f = true ↔ ∃ text ∈ f.texts c.subject, ∃ value ∈ c.allValues,
      c.op.relates (c.fold text) (c.fold value) = true := by
  simp only [holds_iff h, Holds, hneg, Bool.false_eq_true, not_false_eq_true, iff_true,
    relates_iff hop]

omit [RegexLibrary] in
theorem MatchKeepsSigmas.exists_relates (h : c.MatchKeepsSigmas f) :
    ∃ text ∈ f.texts c.subject, ∃ value ∈ c.allValues,
      c.op.relates (lowercase text) (lowercase value) = true := by
  obtain ⟨text, htext, value, hvalue, before, after, hplace, hadmits, hkeeps⟩ := h
  exact ⟨text, htext, value, hvalue, hadmits.relates_lowercase hplace hkeeps⟩

/-- **Ignoring case keeps the matches whose value keeps its sigmas.** These are all matches of
    equality, and all if no value has a capital sigma. For relations at a fixed place they are, of the
    matches without ignoring case, the only ones that stay. -/
theorem holds_ignoreCase {plain folded : TextTest} (hop : c.op ≠ .regex) (hneg : c.negate = false)
    (hplain : ({ c with ignoreCase := false } : TextCondition).prepare = .ok plain)
    (hfolded : ({ c with ignoreCase := true } : TextCondition).prepare = .ok folded)
    (hholds : plain.holds f = true) :
    (c.MatchKeepsSigmas f → folded.holds f = true) ∧
    (c.op = .equals ∨ (∀ value ∈ c.allValues, 'Σ' ∉ value.toList) → c.MatchKeepsSigmas f) ∧
    (c.op ≠ .contains →
      (folded.holds f = true ↔ c.MatchKeepsSigmas f ∨ c.MatchesInLowercaseOnly f)) := by
  have hiff : folded.holds f = true ↔ ∃ text ∈ f.texts c.subject, ∃ value ∈ c.allValues,
      c.op.relates (lowercase text) (lowercase value) = true :=
    holds_iff_relates (c := { c with ignoreCase := true }) hop hneg hfolded
  refine ⟨fun h => hiff.2 h.exists_relates, fun h => ?_, fun hplace => ?_⟩
  · obtain ⟨text, htext, value, hvalue, hrelates⟩ :=
      (holds_iff_relates (c := { c with ignoreCase := false }) hop hneg hplain).1 hholds
    obtain ⟨before, after, hfound, hadmits⟩ := TextOp.relates_iff_admits.1 hrelates
    refine ⟨text, htext, value, hvalue, before, after, hfound, hadmits, ?_⟩
    rcases h with hequals | hsigma
    · rw [show c.op = .equals from hequals] at hadmits
      obtain ⟨rfl, rfl⟩ := hadmits
      exact keepsSigmas_alone _
    · exact keepsSigmas_of_not_mem (hsigma value hvalue)
  · rw [hiff]
    constructor
    · rintro ⟨text, htext, value, hvalue, hlower⟩
      cases hrelates : c.op.relates text value with
      | true =>
        obtain ⟨before, after, hfound, hadmits⟩ := TextOp.relates_iff_admits.1 hrelates
        have hkeeps := (TextOp.relates_lowercase_iff hplace hadmits hfound).1 hlower
        exact .inl ⟨text, htext, value, hvalue, before, after, hfound, hadmits, hkeeps⟩
      | false => exact .inr ⟨text, htext, value, hvalue, hrelates, hlower⟩
    · rintro (h | ⟨text, htext, value, hvalue, -, hlower⟩)
      · exact h.exists_relates
      · exact ⟨text, htext, value, hvalue, hlower⟩

end

/-- The sigma is final in the value, and in the text, where a bracket follows. -/
theorem holds_ignoreCase_bracket :
    let c : TextCondition := { subject := .identity, op := .startsWith, value := some "ΟΔΟΣ" }
    let f := ({ display := "ΟΔΟΣ(int)", returnType := "void" } : Method).symbol.facts
    ∃ plain folded, c.prepare = .ok plain ∧
      ({ c with ignoreCase := true } : TextCondition).prepare = .ok folded ∧
      plain.holds f = true ∧ folded.holds f = true := by
  intro c f
  let plain : TextTest := ⟨.identity, .literal .startsWith ["ΟΔΟΣ"], false, false⟩
  have hholds : plain.holds f = true := by decide +kernel
  have hkeeps : c.MatchKeepsSigmas f :=
    ⟨"ΟΔΟΣ(int)", by decide +kernel, "ΟΔΟΣ", by decide, [], "(int)".toList, by decide, rfl,
      by decide +kernel⟩
  exact ⟨plain, _, rfl, rfl, hholds,
    (holds_ignoreCase (c := c) (by decide) rfl rfl rfl hholds).1 hkeeps⟩

/-- A final sigma is lost: it is final in the value, but in the text a letter follows behind the dot,
    which does not count. -/
theorem not_holds_ignoreCase_final :
    let c : TextCondition := { subject := .identity, op := .contains, value := some "ΟΔΟΣ" }
    let f := ({ display := "ΟΔΟΣ.Run()", returnType := "void" } : Method).symbol.facts
    ∃ plain folded, c.prepare = .ok plain ∧
      ({ c with ignoreCase := true } : TextCondition).prepare = .ok folded ∧
      plain.holds f = true ∧ folded.holds f = false := by
  intro c f
  exact ⟨_, _, rfl, rfl, by decide +kernel, by decide +kernel⟩

end TextCondition

end AsyncIdioms
