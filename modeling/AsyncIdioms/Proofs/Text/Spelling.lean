/-
  Replacing one spelling of a word by another.

  Both spellings start with a letter that stands nowhere else in them, and neither one is the start of
  the other (`Spellings`). Then a word that is looked for afterwards was there before, in one of the two
  spellings or untouched by them:

  * `replaceAll` : a text with one fragment replaced by another, wherever it occurs; `Replaced` says the
    same without the scanner, and `replaced_replaceFrom` that the scanner does it;
  * `Replaced.not_infix_old` : the old spelling is gone;
  * `Replaced.infix_new_iff` : the new one, with whatever follows it, stands where either stood;
  * `Replaced.infix_iff` : other words stand where they stood, if they do not run into the spellings.
-/
import Mathlib.Data.List.Infix
import AsyncIdioms.Text.Find

namespace AsyncIdioms.Text

variable {first a : Char} {old new cs ds word tail : List Char}

/-! ## Replacing -/

/-- The characters with `new` for each `old`, from left to right. The first `skip` characters belong to
    an `old` that has been replaced; `old` itself is not empty. -/
def replaceFrom (old new : List Char) : Nat → List Char → List Char
  | _, [] => []
  | skip + 1, _ :: cs => replaceFrom old new skip cs
  | 0, c :: cs =>
    if old.isPrefixOf (c :: cs) then new ++ replaceFrom old new (old.length - 1) cs
    else c :: replaceFrom old new 0 cs

/-- The text with `new` for every occurrence of `old`. -/
def replaceAll (old new text : String) : String :=
  String.ofList (replaceFrom old.toList new.toList 0 text.toList)

/-- `ds` is `cs` with `new` for each `old`: an `old` is replaced as a whole, and a character is kept
    where no `old` starts. -/
inductive Replaced (old new : List Char) : List Char → List Char → Prop
  | nil : Replaced old new [] []
  | kept {c : Char} {cs ds : List Char} (h : ¬ old <+: c :: cs) (hrest : Replaced old new cs ds) :
      Replaced old new (c :: cs) (c :: ds)
  | found {cs ds : List Char} (hrest : Replaced old new cs ds) :
      Replaced old new (old ++ cs) (new ++ ds)

theorem replaced_replaceFrom (hne : old ≠ []) (skip : Nat) (cs : List Char) :
    Replaced old new (cs.drop skip) (replaceFrom old new skip cs) := by
  induction cs generalizing skip with
  | nil =>
    rw [List.drop_nil]
    exact .nil
  | cons c cs ih =>
    cases skip with
    | succ skip => exact ih skip
    | zero =>
      rw [replaceFrom, List.drop_zero]
      split
      next hstart =>
        obtain ⟨d, old, rfl⟩ := List.exists_cons_of_ne_nil hne
        obtain ⟨rest, hrest⟩ := List.isPrefixOf_iff_prefix.1 hstart
        obtain ⟨rfl, hcs⟩ := List.cons_eq_cons.1 hrest
        have hreplaced := ih old.length
        rw [← hcs, List.append_eq, List.drop_left] at hreplaced
        rw [← hrest, ← hcs]
        exact .found hreplaced
      next hstart => exact .kept (fun hold => hstart (List.isPrefixOf_iff_prefix.2 hold)) (ih 0)

theorem replaced_replaceAll {old new text : String} (hne : old.toList ≠ []) :
    Replaced old.toList new.toList text.toList (replaceAll old new text).toList := by
  rw [replaceAll, String.toList_ofList]
  exact replaced_replaceFrom hne 0 text.toList

/-! ## Spellings -/

/-- Two spellings of a word, behind their first letter. -/
structure Spellings (first : Char) (old new : List Char) : Prop where
  not_mem_old : first ∉ old
  not_mem_new : first ∉ new
  old_apart : ¬ old <+: new
  new_apart : ¬ new <+: old

/-- Where one spelling stands, the other one does not. -/
theorem not_prefix_append (hold : ¬ old <+: new) (hnew : ¬ new <+: old) : ¬ old <+: new ++ cs :=
  fun h => (List.prefix_or_prefix_of_prefix h (List.prefix_append new cs)).elim hold hnew

namespace Replaced

/-- What stands at the front without the first letter of the spellings ends in front of the first
    spelling. -/
theorem prefix_iff (h : Replaced (first :: old) (first :: new) cs ds) (hword : first ∉ word) :
    word <+: ds ↔ word <+: cs := by
  induction h generalizing word with
  | nil => rfl
  | kept _ _ ih =>
    cases word with
    | nil => simp
    | cons a word =>
      rw [List.cons_prefix_cons, List.cons_prefix_cons, ih (List.not_mem_of_not_mem_cons hword)]
  | found _ _ =>
    -- Both texts go on with `first` here.
    cases word with
    | nil => simp
    | cons a word =>
      have hne : a ≠ first := fun heq => hword (heq ▸ List.mem_cons_self)
      simp [hne]

/-- A word that can neither start within the spellings nor reach into them stands where it stood. -/
theorem infix_iff (h : Replaced (first :: old) (first :: new) cs ds) (hword : first ∉ a :: word)
    (hold : a ∉ old) (hnew : a ∉ new) : a :: word <:+: ds ↔ a :: word <:+: cs := by
  have hne : a ≠ first := fun heq => hword (heq ▸ List.mem_cons_self)
  induction h with
  | nil => rfl
  | kept hkept hrest ih =>
    rw [List.infix_cons_iff, List.infix_cons_iff, (kept hkept hrest).prefix_iff hword]
    exact or_congr_right ih
  | found _ ih =>
    rw [infix_append_iff_of_not_mem (List.not_mem_cons_of_ne_of_not_mem hne hnew),
      infix_append_iff_of_not_mem (List.not_mem_cons_of_ne_of_not_mem hne hold)]
    exact ih

section
variable (h : Replaced (first :: old) (first :: new) cs ds) (hs : Spellings first old new)
include h hs

theorem prefix_new_iff (htail : first ∉ tail) : first :: (new ++ tail) <+: ds ↔
    first :: (new ++ tail) <+: cs ∨ first :: (old ++ tail) <+: cs := by
  cases h with
  | nil => simp
  | kept hkept hrest =>
    have hword : first ∉ new ++ tail := by simp [hs.not_mem_new, htail]
    -- No old spelling starts where a character is kept.
    have hold : ¬ first :: (old ++ tail) <+: _ :: _ := fun hold =>
      hkept ((List.prefix_append (first :: old) tail).trans hold)
    rw [or_iff_left hold, List.cons_prefix_cons, List.cons_prefix_cons, hrest.prefix_iff hword]
  | @found cs ds hrest =>
    have hnew : ¬ first :: (new ++ tail) <+: first :: (old ++ cs) := fun hnew =>
      not_prefix_append hs.new_apart hs.old_apart
        ((List.prefix_append new tail).trans (List.cons_prefix_cons.1 hnew).2)
    rw [List.cons_append, List.cons_append, or_iff_right hnew]
    simp [hrest.prefix_iff htail]

/-- **The new spelling stands where either stood**, with what follows it. -/
theorem infix_new_iff (htail : first ∉ tail) : first :: (new ++ tail) <:+: ds ↔
    first :: (new ++ tail) <:+: cs ∨ first :: (old ++ tail) <:+: cs := by
  induction h with
  | nil => simp
  | kept hkept hrest ih =>
    have hfront := (kept hkept hrest).prefix_new_iff hs htail
    simp only [List.infix_cons_iff, hfront, ih]
    exact or_or_or_comm
  | found hrest ih =>
    have hfront := (found hrest).prefix_new_iff hs htail
    rw [List.cons_append, List.cons_append] at hfront ⊢
    simp only [List.infix_cons_iff, hfront, infix_append_iff_of_not_mem hs.not_mem_new,
      infix_append_iff_of_not_mem hs.not_mem_old, ih]
    exact or_or_or_comm

theorem not_prefix_old : ¬ first :: old <+: ds := by
  cases h with
  | nil => simp
  | kept hkept hrest =>
    rwa [List.cons_prefix_cons, hrest.prefix_iff hs.not_mem_old, ← List.cons_prefix_cons]
  | found _ =>
    rw [List.cons_append, List.cons_prefix_cons]
    exact fun hold => not_prefix_append hs.old_apart hs.new_apart hold.2

/-- The old spelling is gone. -/
theorem not_infix_old : ¬ first :: old <:+: ds := by
  induction h with
  | nil => simp
  | kept hkept hrest ih =>
    rw [List.infix_cons_iff]
    exact not_or.2 ⟨(kept hkept hrest).not_prefix_old hs, ih⟩
  | found hrest ih =>
    have hfront := (found hrest).not_prefix_old hs
    rw [List.cons_append] at hfront ⊢
    rw [List.infix_cons_iff, infix_append_iff_of_not_mem hs.not_mem_new]
    exact not_or.2 ⟨hfront, ih⟩

end

end Replaced

end AsyncIdioms.Text
