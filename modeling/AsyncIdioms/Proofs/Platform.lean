/-
  The platform of several references.

  The checks of `Platform.ofReferences` take precedence over one another, and this orders the
  platforms: `netOther < net45 < net4 < wp7 < wp8`.

  * `Platform.signs` : the fragments that tell a platform, and `Platform.told refs` : the platforms that
    some reference tells, each reference read alone;
  * `Platform.isGreatest_ofReferences` : of these, the references as a whole tell the highest;
  * `Platform.ofReferences_append_eq_max` : what two lists tell together is the higher of what each
    tells; neither order nor repetition matters, and more references never tell a lower platform.
-/
import Mathlib.Order.Bounds.Basic
import AsyncIdioms.Project

namespace AsyncIdioms

open Text

namespace Platform

variable {p : Platform} {refs xs ys needles : List String}

/-! ## Precedence -/

/-- How far up a platform stands. -/
def precedence : Platform → Nat
  | netOther => 0
  | net45 => 1
  | net4 => 2
  | wp7 => 3
  | wp8 => 4

theorem precedence_injective : Function.Injective precedence := by
  intro p q
  cases p <;> cases q <;> decide

instance : LinearOrder Platform := LinearOrder.lift' precedence precedence_injective

theorem netOther_le (p : Platform) : netOther ≤ p := Nat.zero_le (precedence p)

example : netOther < net45 ∧ net45 < net4 ∧ net4 < wp7 ∧ wp7 < wp8 := by decide

/-! ## Signs -/

/-- The fragments that tell a platform; for `netOther` there is none. -/
def signs : Platform → List String
  | netOther => []
  | net45 => ["Framework\\v4.5", ".NETCore\\v4.5"]
  | net4 => ["Framework\\v4.0"]
  | wp7 => ["Windows Phone", "WindowsPhone"]
  | wp8 => ["Windows Phone\\v8"]

theorem ofReferences_def : ofReferences refs =
    if mentions refs (signs wp7) then if mentions refs (signs wp8) then wp8 else wp7
    else if mentions refs (signs net4) then net4
    else if mentions refs (signs net45) then net45
    else netOther := rfl

/-- Some reference contains a sign of the platform, or no sign is needed. -/
def told (refs : List String) : Set Platform :=
  {p | p = netOther ∨ ∃ r ∈ refs, ∃ sign ∈ signs p, sign.toList <:+: r.toList}

theorem mentions_iff : mentions refs needles = true ↔
    ∃ r ∈ refs, ∃ needle ∈ needles, needle.toList <:+: r.toList := by
  simp [mentions, contains_iff]

theorem mem_told_iff : p ∈ told refs ↔ p = netOther ∨ mentions refs (signs p) = true := by
  rw [mentions_iff]
  rfl

theorem told_append (xs ys : List String) : told (xs ++ ys) = told xs ∪ told ys := by
  ext p
  simp only [told, Set.mem_ofPred_eq, Set.mem_union, List.mem_append, or_and_right, exists_or]
  exact or_or_distrib_left

theorem told_mono (h : xs ⊆ ys) : told xs ⊆ told ys := by
  rintro p (hother | ⟨r, hr, hsign⟩)
  · exact .inl hother
  · exact .inr ⟨r, h hr, hsign⟩

/-- A reference that tells version 8 of the phone tells a phone, so that the check for a phone does
    not hide it. -/
theorem mentions_phone (h : mentions refs (signs wp8) = true) :
    mentions refs (signs wp7) = true := by
  obtain ⟨r, hr, needle, hneedle, hinfix⟩ := mentions_iff.1 h
  have hprefix : "Windows Phone".toList <+: "Windows Phone\\v8".toList := by decide
  obtain rfl : needle = "Windows Phone\\v8" := List.mem_singleton.1 hneedle
  exact mentions_iff.2 ⟨r, hr, "Windows Phone", List.mem_cons_self, hprefix.isInfix.trans hinfix⟩

theorem ofReferences_mem_told (refs : List String) : ofReferences refs ∈ told refs := by
  rw [mem_told_iff, ofReferences_def]
  split_ifs with hphone hv8 hnet4 hnet45
  · exact .inr hv8
  · exact .inr hphone
  · exact .inr hnet4
  · exact .inr hnet45
  · exact .inl rfl

/-- No check hides a platform that stands above the one that it answers. -/
theorem le_ofReferences (h : p ∈ told refs) : p ≤ ofReferences refs := by
  rcases mem_told_iff.1 h with rfl | hsigns
  · exact netOther_le _
  · rw [ofReferences_def]
    cases p with
    | netOther => exact netOther_le _
    | net45 | net4 | wp7 =>
      simp only [hsigns, if_true]
      split_ifs <;> decide
    | wp8 => rw [if_pos (mentions_phone hsigns), if_pos hsigns]

/-- **The references tell the highest platform that one of them tells.** -/
theorem isGreatest_ofReferences (refs : List String) : IsGreatest (told refs) (ofReferences refs) :=
  ⟨ofReferences_mem_told refs, fun _ => le_ofReferences⟩

theorem ofReferences_mono (h : xs ⊆ ys) : ofReferences xs ≤ ofReferences ys :=
  (isGreatest_ofReferences xs).mono (isGreatest_ofReferences ys) (told_mono h)

/-- **Two lists of references together tell the higher of the platforms that each tells.** Hence neither
    the order nor the repetition of references matters, and more references never tell a lower
    platform. -/
theorem ofReferences_append_eq_max (xs ys : List String) :
    ofReferences (xs ++ ys) = max (ofReferences xs) (ofReferences ys) ∧
    (∀ zs, (∀ r, r ∈ zs ↔ r ∈ xs) → ofReferences zs = ofReferences xs) ∧
    ∀ zs, xs ⊆ zs → ofReferences xs ≤ ofReferences zs := by
  refine ⟨?_, fun zs hsame => ?_, fun zs => ofReferences_mono⟩
  · have hunion := (isGreatest_ofReferences xs).union (isGreatest_ofReferences ys)
    rw [← told_append] at hunion
    exact (isGreatest_ofReferences (xs ++ ys)).unique hunion
  · have hle : ofReferences zs ≤ ofReferences xs := ofReferences_mono fun r => (hsame r).1
    have hge : ofReferences xs ≤ ofReferences zs := ofReferences_mono fun r => (hsame r).2
    exact le_antisymm hle hge

/-- A framework and a phone; the phone's version is told by a third reference. -/
theorem ofReferences_append_eq_max_phone :
    let framework := "Framework\\.NETFramework\\v4.0\\mscorlib.dll"
    let phone := "Silverlight\\v4.0\\Profile\\WindowsPhone71\\System.dll"
    let tools := "Windows Phone\\v8.0\\Tools\\MicrosoftPhone.dll"
    (ofReferences [framework] = net4 ∧ ofReferences [phone] = wp7 ∧ ofReferences [tools] = wp8) ∧
    ofReferences [framework, phone, tools] = max (ofReferences [framework, phone]) wp8 ∧
    ofReferences [phone, framework, phone] = ofReferences [framework, phone] ∧
    ofReferences [framework, phone] ≤ ofReferences [tools, phone, framework] := by
  intro framework phone tools
  have htools : ofReferences [tools] = wp8 := by decide +kernel
  obtain ⟨happend, hsame, hmore⟩ := ofReferences_append_eq_max [framework, phone] [tools]
  rw [htools] at happend
  refine ⟨⟨by decide +kernel, by decide +kernel, htools⟩, happend, hsame _ ?_, hmore _ ?_⟩
  · simp [or_comm]
  · simp

end Platform

end AsyncIdioms
