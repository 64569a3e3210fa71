/-
  Lower case of a part of a text.

  A character goes to lower case on its own, except a capital sigma, which looks at what stands around
  it. So a part of a text has the same lower case inside the text and alone exactly if its capital
  sigmas are final in both or in neither (`KeepsSigmas`):

  * `lowerBetween` : lower case of characters that stand between others;
  * `toList_lowercase_between` : the lower case of a text, cut where the part begins and ends;
  * `lowerBetween_eq_iff` : a part keeps its lower case exactly if it keeps its sigmas.
-/
import AsyncIdioms.Text.Lowercase

namespace AsyncIdioms.Text

/-- Lower case of characters that stand behind `before` (nearest first) and in front of `after`. -/
def lowerBetween (before after : List Char) : List Char → List Char
  | [] => []
  | c :: rest =>
    (if c = 'Σ' then [if isFinalSigma before (rest ++ after) then 'ς' else 'σ'] else lowerChar c) ++
      lowerBetween (c :: before) after rest

/-- Each capital sigma of `cs` is final between `before` and `after` exactly if it is final in `cs`
    alone. -/
def KeepsSigmas (before cs after : List Char) : Prop :=
  ∀ front back, cs = front ++ 'Σ' :: back →
    isFinalSigma (before ++ front).reverse (back ++ after) = isFinalSigma front.reverse back

/-! ## Cutting a text -/

theorem lowerFrom_append (before cs after : List Char) :
    lowerFrom before (cs ++ after) =
      lowerBetween before after cs ++ lowerFrom (cs.reverse ++ before) after := by
  induction cs generalizing before with
  | nil => rfl
  | cons c cs ih =>
    rw [List.cons_append, lowerFrom, ih, lowerBetween, List.reverse_cons, List.append_assoc,
      List.append_assoc]
    rfl

theorem toList_lowercase (s : String) : (lowercase s).toList = lowerBetween [] [] s.toList := by
  have h := lowerFrom_append [] s.toList []
  rw [List.append_nil] at h
  rw [lowercase, String.toList_ofList, h]
  exact List.append_nil _

/-- What stands in front of the part and behind it goes to lower case without touching it. -/
theorem toList_lowercase_between {s : String} {before cs after : List Char}
    (h : s.toList = before ++ cs ++ after) :
    (lowercase s).toList = lowerBetween [] (cs ++ after) before ++
      lowerBetween before.reverse after cs ++ lowerBetween (before ++ cs).reverse [] after := by
  have hafter := lowerFrom_append (before ++ cs).reverse after []
  rw [List.append_nil, lowerFrom, List.append_nil] at hafter
  rw [lowercase, String.toList_ofList, h, List.append_assoc, lowerFrom_append, lowerFrom_append,
    List.append_nil, ← List.reverse_append, hafter, List.append_assoc]

/-! ## Sigmas -/

/-- The number of characters does not depend on what stands around. -/
theorem length_lowerBetween (before after before' after' cs : List Char) :
    (lowerBetween before after cs).length = (lowerBetween before' after' cs).length := by
  induction cs generalizing before before' with
  | nil => rfl
  | cons c cs ih =>
    rw [lowerBetween, lowerBetween, List.length_append, List.length_append,
      ih (c :: before) (c :: before')]
    split <;> rfl

theorem sigmaForm_inj {isFinal isFinal' : Bool}
    (h : (if isFinal then 'ς' else 'σ') = if isFinal' then 'ς' else 'σ') : isFinal = isFinal' := by
  revert h
  cases isFinal <;> cases isFinal' <;> decide

/-- The same characters between two pairs of neighbours: only sigmas can tell the difference. -/
theorem lowerBetween_congr_iff (before after before' after' cs : List Char) :
    lowerBetween before after cs = lowerBetween before' after' cs ↔
      ∀ front back, cs = front ++ 'Σ' :: back →
        isFinalSigma (front.reverse ++ before) (back ++ after) =
          isFinalSigma (front.reverse ++ before') (back ++ after') := by
  induction cs generalizing before before' with
  | nil =>
    refine ⟨fun _ front back h => ?_, fun _ => rfl⟩
    simp at h
  | cons c cs ih =>
    have hlength := length_lowerBetween (c :: before) after (c :: before') after' cs
    rw [lowerBetween, lowerBetween]
    constructor
    · intro h front back hsplit
      have htail := List.append_inj_right' h hlength
      have hhead := List.append_inj_left' h hlength
      rcases List.cons_eq_append_iff.1 hsplit with ⟨rfl, hcs⟩ | ⟨front, rfl, hcs⟩
      · obtain ⟨rfl, rfl⟩ := List.cons.inj hcs
        rw [if_pos rfl, if_pos rfl, List.singleton_inj] at hhead
        exact sigmaForm_inj hhead
      · have := (ih (c :: before) (c :: before')).1 htail front back hcs
        simpa using this
    · intro h
      have htail := (ih (c :: before) (c :: before')).2 fun front back hcs => by
        have := h (c :: front) back (by rw [hcs, List.cons_append])
        simpa using this
      rw [htail]
      split
      next hc =>
        have := h [] cs (by rw [hc, List.nil_append])
        rw [List.reverse_nil, List.nil_append, List.nil_append] at this
        rw [this]
      next => rfl

/-- **A part of a text keeps its lower case exactly if it keeps its sigmas.** -/
theorem lowerBetween_eq_iff {before cs after : List Char} :
    lowerBetween before.reverse after cs = lowerBetween [] [] cs ↔ KeepsSigmas before cs after := by
  simp only [lowerBetween_congr_iff, KeepsSigmas, List.reverse_append, List.append_nil]

instance (before cs after : List Char) : Decidable (KeepsSigmas before cs after) :=
  decidable_of_iff _ lowerBetween_eq_iff

theorem keepsSigmas_of_not_mem {before cs after : List Char} (h : 'Σ' ∉ cs) :
    KeepsSigmas before cs after := by
  rintro front back rfl
  exact absurd (by simp) h

theorem keepsSigmas_alone (cs : List Char) : KeepsSigmas [] cs [] := by
  intro front back _
  rw [List.nil_append, List.append_nil]

end AsyncIdioms.Text
