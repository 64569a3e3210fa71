/-
  A display form is made of its parts.

  Whatever the text is, its name part consists of the segments that it is split into, with a dot between
  any two of them; behind the last one there may be a dot of which nothing is left, and then comes the
  signature. Which dots divide is said without the scanner:

  * `Divides` : a dot divides if it stands outside of brackets and an even number of dots stands right in
    front of it. So of several dots in a row, the first one divides, and the second one goes with what
    follows;
  * `Divided` : a text as its segments and the dot behind them; `SplitsInto.exists_divided` : that is how
    a name is split;
  * `splitSignature_opens` : where the signature begins;
  * `Identity.parse_keeps_text` : all that is read, put together again, is the text.
-/
import Mathlib.Algebra.Group.Nat.Even
import AsyncIdioms.Proofs.Method.Segments

namespace AsyncIdioms

open Text

variable {cs ds front back rest seg ahead tail : List Char} {segs : List (List Char)} {isFirst : Bool}

/-! ## Dots that divide -/

/-- How many dots stand at the end of a text. -/
def dotsAtEnd (cs : List Char) : Nat := (cs.rtakeWhile (· == '.')).length

/-- A dot behind this text divides. -/
def Divides (front : List Char) : Prop := depthBehind 0 front = 0 ∧ Even (dotsAtEnd front)

instance (front : List Char) : Decidable (Divides front) := inferInstanceAs (Decidable (_ ∧ _))

theorem even_dotsAtEnd_append (h : Even (dotsAtEnd cs)) :
    Even (dotsAtEnd (cs ++ ds)) ↔ Even (dotsAtEnd ds) := by
  simp only [dotsAtEnd, List.rtakeWhile, List.length_reverse, List.reverse_append,
    List.takeWhile_append] at h ⊢
  -- Where `ds` consists of dots only, those of `cs` are counted too, and their number is even.
  split
  next hall => simp [hall, Nat.even_add, h]
  next => rfl

/-- Where a dot divides, the dots that follow are counted anew. -/
theorem Divides.append_iff (h : Divides cs) : Divides (cs ++ ds) ↔ Divides ds := by
  rw [Divides, depthBehind_append, h.1, even_dotsAtEnd_append h.2]
  rfl

/-- A sealed text ends with no dot. -/
theorem Sealed.dotsAtEnd_append (h : Sealed '.' cs) (hne : cs ≠ []) : dotsAtEnd (front ++ cs) = 0 := by
  obtain ⟨cs, c, rfl⟩ := (List.eq_nil_or_concat' cs).resolve_left hne
  have hc : c ≠ '.' := by
    rintro rfl
    have hclosed : depthBehind 0 (cs ++ ['.']) = depthBehind 0 cs := depthBehind_append 0 cs ['.']
    exact (sheltered_append.1 h.sheltered).2.1 (hclosed ▸ h.closed) rfl
  rw [dotsAtEnd, ← List.append_assoc, List.rtakeWhile_concat_neg _ _ _ (by simpa using hc)]
  rfl

theorem Sealed.divides (h : Sealed '.' cs) : Divides cs := by
  refine ⟨h.closed, ?_⟩
  by_cases hne : cs = []
  · rw [hne]
    decide
  · rw [← List.nil_append cs, h.dotsAtEnd_append hne]
    exact Even.zero

/-! ## Segments and the dots between them -/

/-- What stands in front of a segment: the dot that divides it from the one before. -/
def lead (isFirst : Bool) : List Char := if isFirst then [] else ['.']

theorem depthBehind_lead_append : depthBehind 0 (lead isFirst ++ cs) = depthBehind 0 cs := by
  cases isFirst <;> rfl

theorem IsSegment.divides (h : IsSegment isFirst seg) (hclosed : depthBehind 0 seg = 0) :
    Divides (lead isFirst ++ seg) := by
  cases h with
  | plain h hne =>
    have hsealed : Sealed '.' seg := ⟨h, hclosed⟩
    cases isFirst with
    | true => exact hsealed.divides
    | false =>
      refine ⟨hclosed, ?_⟩
      rw [hsealed.dotsAtEnd_append (hne rfl)]
      exact Even.zero
  | @dotted cs h =>
    -- The dot at its front comes right behind the one that divides.
    have hsealed : Sealed '.' cs := ⟨h, hclosed⟩
    have hdots : Divides ['.', '.'] := by decide
    exact hdots.append_iff.2 hsealed.divides

/-- No dot within a segment divides. -/
theorem IsSegment.not_divides (h : IsSegment isFirst (front ++ '.' :: back)) :
    ¬ Divides (lead isFirst ++ front) := by
  -- A dot in a sheltered text stands inside of brackets.
  have hinside : ∀ {front : List Char}, Sheltered '.' 0 (front ++ '.' :: back) →
      depthBehind 0 front ≠ 0 := fun h hclosed => (sheltered_append.1 h).2.1 hclosed rfl
  generalize hseg : front ++ '.' :: back = seg at h
  cases h with
  | plain h hne =>
    subst hseg
    exact fun hdivides => hinside h (depthBehind_lead_append.symm.trans hdivides.1)
  | dotted h =>
    cases front with
    | nil => decide
    | cons c front =>
      obtain ⟨rfl, rfl⟩ := List.cons_eq_cons.1 hseg
      exact fun hdivides => hinside h hdivides.1

/-! ## Whole segments -/

/-- The text consists of the first segment, or of the first ones, joined by dots. -/
def WholeSegments (segs : List (List Char)) (front : List Char) : Prop :=
  ∃ parts, parts ≠ [] ∧ parts <+: segs ∧ front = ['.'].intercalate parts

theorem wholeSegments_cons_iff : WholeSegments (seg :: segs) front ↔
    front = seg ∨ ∃ rest, WholeSegments segs rest ∧ front = seg ++ '.' :: rest := by
  constructor
  · rintro ⟨parts, hne, hfirst, rfl⟩
    obtain ⟨p, parts, rfl⟩ := List.exists_cons_of_ne_nil hne
    obtain ⟨rfl, hparts⟩ := List.cons_prefix_cons.1 hfirst
    by_cases hnil : parts = []
    · rw [hnil, List.intercalate_singleton]
      exact .inl rfl
    · refine .inr ⟨_, ⟨parts, hnil, hparts, rfl⟩, ?_⟩
      rw [List.intercalate_cons_of_ne_nil hnil, List.append_assoc, List.singleton_append]
  · rintro (rfl | ⟨rest, ⟨parts, hne, hparts, rfl⟩, rfl⟩)
    · exact ⟨[front], List.cons_ne_nil _ _, List.prefix_append [front] segs,
        List.intercalate_singleton.symm⟩
    · refine ⟨seg :: parts, List.cons_ne_nil _ _, List.cons_prefix_cons.2 ⟨rfl, hparts⟩, ?_⟩
      rw [List.intercalate_cons_of_ne_nil hne, List.append_assoc, List.singleton_append]

/-- A part of the first segment is no whole segment. -/
theorem not_wholeSegments : ¬ WholeSegments ((front ++ '.' :: back) :: segs) front := by
  rw [wholeSegments_cons_iff]
  rintro (h | ⟨rest, -, h⟩)
  · simpa using congrArg List.length h
  · have hlength := congrArg List.length h
    simp at hlength

/-- How a dot lies to another one: in front of it, in the same place or behind it. -/
theorem dot_cases (h : seg ++ '.' :: rest = front ++ '.' :: back) :
    (∃ mid, seg = front ++ '.' :: mid ∧ back = mid ++ '.' :: rest) ∨ (front = seg ∧ back = rest) ∨
      ∃ mid, front = seg ++ '.' :: mid ∧ rest = mid ++ '.' :: back := by
  rcases List.append_eq_append_iff.1 h with ⟨mid, rfl, hmid⟩ | ⟨mid, rfl, hmid⟩
  all_goals rcases mid with _ | ⟨c, mid⟩
  · simp_all
  · obtain ⟨rfl, rfl⟩ := List.cons_eq_cons.1 hmid
    exact .inr (.inr ⟨mid, rfl, rfl⟩)
  · simp_all
  · obtain ⟨rfl, rfl⟩ := List.cons_eq_cons.1 hmid
    exact .inl ⟨mid, rfl, rfl⟩

/-- A text that stands behind `ahead`, as its segments and what is left over behind them. -/
structure Divided (ahead cs : List Char) (segs : List (List Char)) (tail : List Char) : Prop where
  /-- Nothing is lost. -/
  text_eq : cs = ['.'].intercalate segs ++ tail
  /-- The dots that divide are those with whole segments in front of them. -/
  divides_iff : ∀ front back, cs = front ++ '.' :: back →
    (Divides (ahead ++ front) ↔ WholeSegments segs front)
  tail_eq : tail = [] ∨ tail = ['.']
  /-- A dot is left over exactly if it divides and nothing follows it. -/
  tail_eq_dot_iff : tail = ['.'] ↔ ∃ front, cs = front ++ ['.'] ∧ Divides (ahead ++ front)

namespace Divided

theorem nil : Divided ahead [] [] [] where
  text_eq := rfl
  divides_iff front back hcs := by simp at hcs
  tail_eq := .inl rfl
  tail_eq_dot_iff := by simp

theorem last (h : IsSegment isFirst seg) : Divided (lead isFirst) seg [seg] [] where
  text_eq := by rw [List.intercalate_singleton, List.append_nil]
  divides_iff front back hcs := by
    subst hcs
    exact iff_of_false h.not_divides not_wholeSegments
  tail_eq := .inl rfl
  tail_eq_dot_iff := by
    refine iff_of_false nofun ?_
    rintro ⟨front, rfl, hdivides⟩
    exact h.not_divides hdivides

section
variable (h : IsSegment isFirst seg) (hclosed : depthBehind 0 seg = 0)
include h hclosed

/-- Behind a segment, dots divide as if the text started there. -/
theorem divides_behind : Divides (lead isFirst ++ (seg ++ '.' :: front)) ↔
    Divides (lead false ++ front) := by
  rw [← List.append_assoc]
  exact (h.divides hclosed).append_iff

theorem endsDivided_cons : (∃ front, seg ++ '.' :: rest = front ++ ['.'] ∧
    Divides (lead isFirst ++ front)) ↔
      rest = [] ∨ ∃ front, rest = front ++ ['.'] ∧ Divides (lead false ++ front) := by
  constructor
  · rintro ⟨front, hfront, hdivides⟩
    rcases dot_cases hfront with ⟨mid, -, hnil⟩ | ⟨-, hrest⟩ | ⟨mid, rfl, hmid⟩
    · simp at hnil
    · exact .inl hrest.symm
    · exact .inr ⟨mid, hmid, (divides_behind h hclosed).1 hdivides⟩
  · rintro (rfl | ⟨front, rfl, hdivides⟩)
    · exact ⟨seg, rfl, h.divides hclosed⟩
    · exact ⟨seg ++ '.' :: front, by simp, (divides_behind h hclosed).2 hdivides⟩

theorem divides_iff_cons (hcs : seg ++ '.' :: rest = front ++ '.' :: back)
    (hrest : ∀ front back, rest = front ++ '.' :: back →
      (Divides (lead false ++ front) ↔ WholeSegments segs front)) :
    Divides (lead isFirst ++ front) ↔ WholeSegments (seg :: segs) front := by
  rcases dot_cases hcs with ⟨mid, rfl, -⟩ | ⟨rfl, -⟩ | ⟨mid, rfl, hmid⟩
  · exact iff_of_false h.not_divides not_wholeSegments
  · exact iff_of_true (h.divides hclosed) (wholeSegments_cons_iff.2 (.inl rfl))
  · rw [divides_behind h hclosed, hrest mid back hmid, wholeSegments_cons_iff]
    simp

end

/-- A text that ends with the dot behind a segment leaves the dot over. -/
theorem dot (h : IsSegment isFirst seg) (hclosed : depthBehind 0 seg = 0) :
    Divided (lead isFirst) (seg ++ ['.']) [seg] ['.'] where
  text_eq := by rw [List.intercalate_singleton]
  divides_iff front back hcs := divides_iff_cons h hclosed hcs (by simp)
  tail_eq := .inr rfl
  tail_eq_dot_iff := iff_of_true rfl ⟨seg, rfl, h.divides hclosed⟩

theorem cons (h : IsSegment isFirst seg) (hclosed : depthBehind 0 seg = 0)
    (hrest : Divided (lead false) rest segs tail) (hne : rest ≠ []) (hsegs : segs ≠ []) :
    Divided (lead isFirst) (seg ++ '.' :: rest) (seg :: segs) tail where
  text_eq := by
    rw [List.intercalate_cons_of_ne_nil hsegs, List.append_assoc, List.append_assoc, ← hrest.text_eq,
      List.singleton_append]
  divides_iff front back hcs := divides_iff_cons h hclosed hcs hrest.divides_iff
  tail_eq := hrest.tail_eq
  tail_eq_dot_iff := by
    rw [endsDivided_cons h hclosed, hrest.tail_eq_dot_iff, or_iff_right hne]

end Divided

theorem SplitsInto.eq_nil_iff (h : SplitsInto isFirst cs segs) : segs = [] ↔ cs = [] := by
  cases h with
  | nil => simp
  | last _ hne => simp [hne]
  | cons => simp

/-- A text is split into segments at its dividing dots. -/
theorem SplitsInto.exists_divided (h : SplitsInto isFirst cs segs) :
    ∃ tail, Divided (lead isFirst) cs segs tail := by
  induction h with
  | nil => exact ⟨[], .nil⟩
  | last h _ => exact ⟨[], .last h⟩
  | @cons isFirst seg rest segs h hclosed hrest ih =>
    obtain ⟨tail, ih⟩ := ih
    by_cases hsegs : segs = []
    · subst hsegs
      obtain rfl := hrest.eq_nil_iff.1 rfl
      exact ⟨['.'], .dot h hclosed⟩
    · exact ⟨tail, .cons h hclosed ih (mt hrest.eq_nil_iff.2 hsegs) hsegs⟩

/-! ## Signatures -/

theorem splitSignature_opens (depth : Nat) (cs : List Char) : (splitSignature depth cs).2 = [] ∨
    depthBehind depth (splitSignature depth cs).1 = 0 ∧
      (splitSignature depth cs).2.head? = some '(' := by
  induction cs generalizing depth with
  | nil => exact .inl rfl
  | cons c cs ih =>
    rw [splitSignature]
    split
    next hand => exact .inr ⟨hand.2, by rw [hand.1, List.head?_cons]⟩
    next => exact ih (angleDepth depth c)

namespace Identity

/-- **Nothing of a text is lost when it is read.** Without the blanks around it, it consists of a name and
    of the signature, which begins at the first `(` outside of brackets, if there is one. The name
    consists of its segments and the dots between them, and of another dot if it ends with one that
    divides; namespace, type and member are taken from the segments. -/
theorem parse_keeps_text (display : String) :
    ∃ (name : List Char) (segs : List (List Char)) (tail : List Char),
      (trim display).toList = name ++ (parse display).signature.toList ∧
      (Sheltered '(' 0 name ∧ ((parse display).signature = "" ∨
        depthBehind 0 name = 0 ∧ (parse display).signature.toList.head? = some '(')) ∧
      segs = topLevelSegments name ∧ Divided [] name segs tail ∧
      (parse display).nameSpace = String.ofList (['.'].intercalate segs.dropLast.dropLast) ∧
      (parse display).containingType =
        String.ofList (trimChars (before '<' (segs.dropLast.getLast?.getD []))) ∧
      (parse display).member = String.ofList (trimChars (before '<' (segs.getLast?.getD []))) := by
  obtain ⟨name, signature, hname⟩ : ∃ name signature,
      splitSignature 0 (trimChars display.toList) = (name, signature) := ⟨_, _, rfl⟩
  have hparse : parse display =
      ofReversedSegments (String.ofList signature) (topLevelSegments name).reverse := by
    rw [parse, hname]
  have htext := splitSignature_append 0 (trimChars display.toList)
  have hparen := sheltered_splitSignature 0 (trimChars display.toList)
  have hopens := splitSignature_opens 0 (trimChars display.toList)
  rw [hname] at htext hparen hopens
  have hsplit : SplitsInto true name (topLevelSegments name) := splitsInto_iff.2 rfl
  obtain ⟨tail, hdivided⟩ := hsplit.exists_divided
  rw [hparse, ofReversedSegments_reverse]
  refine ⟨name, topLevelSegments name, tail, ?_, ⟨hparen, ?_⟩, rfl, hdivided, rfl, rfl, rfl⟩
  · simpa using htext.symm
  · simpa using hopens

/-- Of the dots at the end, the first one divides, the second one is the member, and the third one
    divides again and is left over. -/
example : parse "Foo.Bar...(int)" = ⟨"Foo", "Bar", ".", "(int)"⟩ := by decide

end Identity

end AsyncIdioms
