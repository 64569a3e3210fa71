/-
  The names of types, and those of the same texts read as methods.

  The display form of a type consists of segments, each one a name with or without generic arguments
  (`TypeRendering`). `simpleTypeName` cuts it at the first bracket and takes what stands behind the last
  dot of the rest, while `Identity.parse` passes over brackets:

  * `TypeRendering.cut` : the segment in which the first bracket stands;
  * `TypeRendering.simpleTypeName_text`, `TypeRendering.member_parse_text` : the two readers name the
    cut segment and the last one;
  * `TypeRendering.simpleTypeName_eq_member_iff` : they agree where the cut segment has the name of the
    last one, and so in particular if only the last one has generic arguments;
  * `TypeRendering.simpleTypeName_ne_member_nested` : they differ on a type within a generic type.
-/
import AsyncIdioms.Proofs.Method.Segments

namespace AsyncIdioms

open Text

variable {rest : List Char}

/-! ## One segment -/

namespace Segment

variable (s : Segment)

theorem not_mem_name {x : Char} (hx : x = '.' ∨ x = '<') : x ∉ s.name.toList := by
  intro hmem
  obtain ⟨hdot, hopen, -, -⟩ := s.isName.plain x hmem
  rcases hx with rfl | rfl
  · exact hdot rfl
  · exact hopen rfl

/-- In front of the first bracket stands the name. -/
theorem afterLast_before_name (h : ∀ c ∈ rest.head?, c = '<') :
    afterLast '.' (before '<' (s.name.toList ++ rest)) = s.name.toList := by
  rw [before_append (s.not_mem_name (.inr rfl)), before_of_head? h, List.append_nil,
    afterLast_of_not_mem (s.not_mem_name (.inl rfl))]

/-- With generic arguments, nothing counts that follows. -/
theorem afterLast_before_of_isSome (h : s.arguments.isSome = true) :
    afterLast '.' (before '<' (s.text.toList ++ rest)) = s.name.toList := by
  obtain ⟨body, hbody⟩ := Option.isSome_iff_exists.1 h
  rw [toList_text, List.append_assoc]
  exact s.afterLast_before_name (by simp [argumentText, hbody])

/-- Without generic arguments, only what follows counts. -/
theorem afterLast_before_of_not_isSome (h : ¬ s.arguments.isSome = true) :
    afterLast '.' (before '<' (s.text.toList ++ '.' :: rest)) = afterLast '.' (before '<' rest) := by
  have hnone : s.arguments = none := by simpa using h
  have hfront : '<' ∉ s.name.toList ++ ['.'] := by
    simpa using s.not_mem_name (.inr rfl)
  have htext : s.text.toList ++ '.' :: rest = s.name.toList ++ ['.'] ++ rest := by
    simp [text, argumentText, hnone]
  rw [htext, before_append hfront, List.append_assoc, List.singleton_append, afterLast_append_cons]

end Segment

/-! ## Several segments -/

/-- The display form of a type, by its parts. -/
structure TypeRendering where
  /-- The namespaces and the types that it stands in. -/
  outer : List Segment
  last : Segment

namespace TypeRendering

variable (t : TypeRendering)

/-- The segments, joined by dots. -/
def text : String := ".".intercalate (t.outer.map Segment.text ++ [t.last.text])

/-- The first segment with generic arguments, or the last segment if there is none. -/
def cut : Segment := (t.outer.find? (·.arguments.isSome)).getD t.last

/-- The segments as the scanners have to find them. -/
def parts : List (List Char) := t.outer.map (·.text.toList) ++ [t.last.text.toList]

theorem parts_ne_nil : t.parts ≠ [] := List.append_ne_nil_of_right_ne_nil _ (List.cons_ne_nil _ _)

theorem toList_text : t.text.toList = ['.'].intercalate t.parts := by
  rw [text, String.toList_intercalate, parts]
  simp [Function.comp_def]

theorem forall_parts {P : List Char → Prop} (h : ∀ s : Segment, P s.text.toList) :
    ∀ p ∈ t.parts, P p := by
  simp only [parts, List.forall_mem_append, List.forall_mem_map, List.forall_mem_singleton]
  exact ⟨fun s _ => h s, h t.last⟩

theorem trimmed_text : Trimmed t.text.toList := by
  rw [toList_text]
  exact trimmed_intercalate t.parts_ne_nil (t.forall_parts fun s => s.trimmed)

theorem isSealed_text : Sealed '(' t.text.toList := by
  rw [toList_text]
  exact .intercalate (by decide) t.parts_ne_nil (t.forall_parts fun s => s.isSealed (.inr rfl))

/-! ## The simple name -/

theorem intercalate_parts_cons (s last : Segment) (outer : List Segment) :
    ['.'].intercalate (mk (s :: outer) last).parts =
      s.text.toList ++ '.' :: ['.'].intercalate (mk outer last).parts := by
  have hcons : (mk (s :: outer) last).parts = s.text.toList :: (mk outer last).parts := rfl
  rw [hcons, List.intercalate_cons_of_ne_nil (mk outer last).parts_ne_nil, List.append_assoc,
    List.singleton_append]

/-- The induction is on the segments in front: one with generic arguments is where the text is cut, and
    one without drops out at the dot behind it. -/
theorem afterLast_before_parts (last : Segment) : ∀ outer : List Segment,
    afterLast '.' (before '<' (['.'].intercalate (mk outer last).parts)) =
      (mk outer last).cut.name.toList
  | [] => by
    have hlast : ['.'].intercalate (mk [] last).parts = last.text.toList :=
      List.intercalate_singleton
    rw [hlast, Segment.toList_text]
    exact last.afterLast_before_name last.head?_argumentText
  | s :: outer => by
    rw [intercalate_parts_cons]
    by_cases h : s.arguments.isSome = true
    · rw [s.afterLast_before_of_isSome h]
      simp [cut, h]
    · rw [s.afterLast_before_of_not_isSome h, afterLast_before_parts last outer]
      simp [cut, h]

/-- The simple name of a type is the name of the segment in which the first bracket stands. -/
theorem simpleTypeName_text : simpleTypeName t.text = t.cut.name := by
  have htrimmed := t.trimmed_text
  rw [simpleTypeName, trimChars_eq_self htrimmed.first htrimmed.last, toList_text,
    afterLast_before_parts, String.ofList_toList]

/-! ## The member -/

theorem splitsInto_parts : SplitsInto true t.text.toList t.parts := by
  rw [splitsInto_iff, toList_text]
  have hsealed := t.last.isSealed (.inl rfl)
  have hne := t.last.trimmed.ne_nil
  by_cases houter : t.outer = []
  · -- A single segment has no dot in front, and is the first one for the scanner.
    rw [parts, houter, List.map_nil, List.nil_append, List.intercalate_singleton]
    exact hsealed.segmentsFrom_eq hne
  · refine segmentsFrom_intercalate (hsealed.segmentsFrom_eq hne) (by simpa using houter) ?_
    simp only [List.forall_mem_map]
    exact fun s _ => ⟨s.isSealed (.inl rfl), s.trimmed.ne_nil⟩

/-- Read as a method, a type has the name of its last segment. -/
theorem member_parse_text : (Identity.parse t.text).member = t.last.name := by
  rw [Identity.parse_of_splitsInto t.trimmed_text t.isSealed_text t.splitsInto_parts,
    Identity.ofReversedSegments_reverse, parts, List.getLast?_concat, Option.getD_some,
    Segment.stripGenericArgs_text, String.ofList_toList]

/-- **Read as a type, a display form has the name of the segment in which the first bracket stands; read
    as a method, that of the last segment.** The two agree exactly if the first segment with generic
    arguments, where it is not the last one, has the last one's name. -/
theorem simpleTypeName_eq_member_iff :
    simpleTypeName t.text = ((t.outer.find? (·.arguments.isSome)).getD t.last).name ∧
    (Identity.parse t.text).member = t.last.name ∧
    (simpleTypeName t.text = (Identity.parse t.text).member ↔
      ∀ s, t.outer.find? (·.arguments.isSome) = some s → s.name = t.last.name) := by
  refine ⟨t.simpleTypeName_text, t.member_parse_text, ?_⟩
  rw [t.simpleTypeName_text, t.member_parse_text, cut]
  cases t.outer.find? (·.arguments.isSome) with
  | none => simp
  | some s => simp

theorem balanced_none : ∀ body ∈ (none : Option String), AngleBalanced body.toList := by simp

theorem balanced_keyValue : ∀ body ∈ some "K, V", AngleBalanced body.toList := by
  intro body hbody
  obtain rfl := Option.some.inj hbody
  have hplain : ∀ c ∈ ['K', ',', ' ', 'V'], c ≠ '<' ∧ c ≠ '>' := by simp
  exact .plain_append hplain .nil

/-- A type within a generic type. -/
def dictionaryEnumerator : TypeRendering where
  outer := [⟨"System", none, by decide, balanced_none⟩,
    ⟨"Dictionary", some "K, V", by decide, balanced_keyValue⟩]
  last := ⟨"Enumerator", none, by decide, balanced_none⟩

/-- The name of the generic type stands for that of the type within. -/
theorem simpleTypeName_ne_member_nested :
    dictionaryEnumerator.text = "System.Dictionary<K, V>.Enumerator" ∧
    dictionaryEnumerator.last.name = "Enumerator" ∧
    (Identity.parse "System.Dictionary<K, V>.Enumerator").member = "Enumerator" ∧
    simpleTypeName "System.Dictionary<K, V>.Enumerator" = "Dictionary" := by
  decide

end TypeRendering

end AsyncIdioms
