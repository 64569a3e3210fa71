/-
  The phone's name in one word and in two.

  References name the phone `WindowsPhone` or `Windows Phone`, and the check for a phone takes both. The
  check for its version 8 takes only the second one:

  * `Platform.spaced` : a reference with the phone's name in two words wherever it is in one;
  * `Platform.told_map_spaced` : the platforms that are told then are those that were told before, and
    `wp8` if `WindowsPhone\v8` stood somewhere;
  * `Platform.ofReferences_map_spaced` : so the two spellings can be exchanged, unless the version is told
    in one word only;
  * `Platform.ofReferences_spaced_ne` : a reference where they cannot.
-/
import AsyncIdioms.Proofs.Platform
import AsyncIdioms.Proofs.Text.Spelling

namespace AsyncIdioms

open Text

namespace Platform

variable {p : Platform} {refs : List String}

/-- The reference with the phone's name in two words. -/
def spaced : String → String := replaceAll "WindowsPhone" "Windows Phone"

/-! ## One reference -/

section
variable (r : String)

theorem spellings_phone : Spellings 'W' "indowsPhone".toList "indows Phone".toList := by
  constructor <;> decide

theorem replaced_spaced : Replaced ('W' :: "indowsPhone".toList) ('W' :: "indows Phone".toList)
    r.toList (spaced r).toList := by
  have hold : "WindowsPhone".toList = 'W' :: "indowsPhone".toList := by decide
  have hnew : "Windows Phone".toList = 'W' :: "indows Phone".toList := by decide
  rw [← hold, ← hnew]
  exact replaced_replaceAll (hold ▸ List.cons_ne_nil _ _)

theorem phone_infix_spaced_iff : "Windows Phone".toList <:+: (spaced r).toList ↔
    "Windows Phone".toList <:+: r.toList ∨ "WindowsPhone".toList <:+: r.toList :=
  (replaced_spaced r).infix_new_iff spellings_phone List.not_mem_nil

theorem v8_infix_spaced_iff : "Windows Phone\\v8".toList <:+: (spaced r).toList ↔
    "Windows Phone\\v8".toList <:+: r.toList ∨ "WindowsPhone\\v8".toList <:+: r.toList := by
  have htail : 'W' ∉ "\\v8".toList := by decide
  exact (replaced_spaced r).infix_new_iff spellings_phone htail

theorem not_infix_spaced : ¬ "WindowsPhone".toList <:+: (spaced r).toList :=
  (replaced_spaced r).not_infix_old spellings_phone

/-- The signs of the other platforms start with no letter of the phone's name, and its first letter
    does not stand in them. -/
theorem framework_infix_spaced_iff {sign : String} (h : sign ∈ signs net4 ++ signs net45) :
    sign.toList <:+: (spaced r).toList ↔ sign.toList <:+: r.toList := by
  have hapart : ∀ sign ∈ signs net4 ++ signs net45, ∃ a word, sign.toList = a :: word ∧
      'W' ∉ a :: word ∧ a ∉ "indowsPhone".toList ∧ a ∉ "indows Phone".toList := by
    simp [signs]
  obtain ⟨a, word, hsign, hfirst, hold, hnew⟩ := hapart sign h
  rw [hsign]
  exact (replaced_spaced r).infix_iff hfirst hold hnew

theorem exists_sign_spaced_iff : (∃ sign ∈ signs p, sign.toList <:+: (spaced r).toList) ↔
    (∃ sign ∈ signs p, sign.toList <:+: r.toList) ∨
      p = wp8 ∧ "WindowsPhone\\v8".toList <:+: r.toList := by
  have hframework : signs p ⊆ signs net4 ++ signs net45 → ((∃ sign ∈ signs p,
      sign.toList <:+: (spaced r).toList) ↔ ∃ sign ∈ signs p, sign.toList <:+: r.toList) :=
    fun hsub => exists_congr fun sign => and_congr_right fun hsign =>
      framework_infix_spaced_iff r (hsub hsign)
  cases p with
  | netOther => simp [signs]
  | net45 => simpa using hframework (List.subset_append_right _ _)
  | net4 => simpa using hframework (List.subset_append_left _ _)
  | wp7 =>
    simp only [signs, List.exists_mem_cons_iff, List.not_mem_nil, false_and, exists_false, or_false,
      phone_infix_spaced_iff, not_infix_spaced, reduceCtorEq]
  | wp8 => simp only [signs, List.mem_singleton, exists_eq_left, v8_infix_spaced_iff, true_and]

end

/-! ## All references -/

theorem mentions_singleton_iff {needle : String} : mentions refs [needle] = true ↔
    ∃ r ∈ refs, needle.toList <:+: r.toList := by
  simp [mentions_iff]

theorem told_map_spaced (refs : List String) :
    told (refs.map spaced) = told refs ∪ {p | p = wp8 ∧ mentions refs ["WindowsPhone\\v8"]} := by
  ext p
  simp only [told, mentions_singleton_iff, Set.mem_union, Set.mem_ofPred_eq, List.mem_map,
    exists_exists_and_eq_and, exists_sign_spaced_iff]
  grind

theorem le_wp8 (p : Platform) : p ≤ wp8 := by
  cases p <;> decide

theorem ofReferences_eq_wp8_iff : ofReferences refs = wp8 ↔ mentions refs (signs wp8) = true := by
  have htold : wp8 ∈ told refs ↔ mentions refs (signs wp8) = true :=
    mem_told_iff.trans (or_iff_right nofun)
  rw [← htold]
  exact ⟨fun h => h ▸ ofReferences_mem_told refs, fun h => (le_wp8 _).antisymm (le_ofReferences h)⟩

/-- **The phone's name can be written in two words instead of one, unless its version 8 is told in one
    word only.** In two words, version 8 is told wherever it was told in one. -/
theorem ofReferences_map_spaced (refs : List String) :
    (ofReferences (refs.map spaced) =
      if mentions refs ["WindowsPhone\\v8"] then wp8 else ofReferences refs) ∧
    (ofReferences (refs.map spaced) = ofReferences refs ↔
      (mentions refs ["WindowsPhone\\v8"] = true → mentions refs ["Windows Phone\\v8"] = true)) := by
  by_cases hword : mentions refs ["WindowsPhone\\v8"] = true
  · have htold : wp8 ∈ told (refs.map spaced) := by
      rw [told_map_spaced]
      exact .inr ⟨rfl, hword⟩
    have hspaced : ofReferences (refs.map spaced) = wp8 :=
      (le_wp8 _).antisymm (le_ofReferences htold)
    rw [hspaced, if_pos hword]
    refine ⟨rfl, eq_comm.trans (ofReferences_eq_wp8_iff.trans ?_)⟩
    exact ⟨fun h _ => h, fun h => h hword⟩
  · have htold : told (refs.map spaced) = told refs := by
      simp [told_map_spaced, hword]
    have hgreatest := isGreatest_ofReferences (refs.map spaced)
    rw [htold] at hgreatest
    rw [if_neg hword, hgreatest.unique (isGreatest_ofReferences refs)]
    exact ⟨rfl, fun _ h => absurd h hword, fun _ => rfl⟩

/-- Version 8 in one word is some phone, and in two words it is version 8. -/
theorem ofReferences_spaced_ne :
    spaced "Framework\\WindowsPhone\\v8.0\\mscorlib.dll" =
      "Framework\\Windows Phone\\v8.0\\mscorlib.dll" ∧
    ofReferences ["Framework\\WindowsPhone\\v8.0\\mscorlib.dll"] = wp7 ∧
    ofReferences ["Framework\\Windows Phone\\v8.0\\mscorlib.dll"] = wp8 := by
  decide +kernel

end Platform

end AsyncIdioms
