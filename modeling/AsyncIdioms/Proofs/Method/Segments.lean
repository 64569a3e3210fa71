/-
  Reading any text as a display form.

  Brackets may be left open or have no partner, dots may follow one another, and blanks may stand
  anywhere. `SplitsInto` says what the segments of such a text are without a scanner, and that is all
  that is needed to read a qualified name again:

  * `sheltered_or_exists` : either a character stands inside of brackets only, or there is a first place
    where it does not;
  * `IsSegment`, `SplitsInto` : the segments of a text; `splitsInto_iff` : the scanner finds them;
  * `SplitsInto.exists_tail` : behind some segments, the last ones can be exchanged for others;
  * `IsSegment.strip` : a segment without its generic arguments is a segment again;
  * `Identity.exists_segments` : how a text is read;
  * `Identity.parse_qualifiedName` : a qualified name is read as the parts it was put together from.
-/
import Mathlib.Data.List.DropRight
import AsyncIdioms.Proofs.Method.Rendering

namespace AsyncIdioms

open Text

variable {x : Char} {cs rest seg : List Char} {segs tail : List (List Char)} {isFirst : Bool}

/-! ## Segments -/

/-- Either `x` does not stand outside of brackets, or there is a first place where it does. -/
theorem sheltered_or_exists (x : Char) (depth : Nat) (cs : List Char) :
    Sheltered x depth cs ∨ ∃ front rest, cs = front ++ x :: rest ∧ Sheltered x depth front ∧
      depthBehind depth front = 0 := by
  induction cs generalizing depth with
  | nil => exact .inl trivial
  | cons c cs ih =>
    by_cases hc : depth = 0 ∧ c = x
    · obtain ⟨rfl, rfl⟩ := hc
      exact .inr ⟨[], cs, rfl, trivial, rfl⟩
    · have hfree : depth = 0 → c ≠ x := fun hd heq => hc ⟨hd, heq⟩
      rcases ih (angleDepth depth c) with hcs | ⟨front, rest, rfl, hfront, hdepth⟩
      · exact .inl ⟨hfree, hcs⟩
      · exact .inr ⟨c :: front, rest, rfl, ⟨hfree, hfront⟩, hdepth⟩

/-- A text that is not divided any further. Only the first segment may be empty, and all others may
    start with a dot. -/
inductive IsSegment : Bool → List Char → Prop
  | plain {isFirst : Bool} {cs : List Char} (h : Sheltered '.' 0 cs)
      (hne : isFirst = false → cs ≠ []) : IsSegment isFirst cs
  | dotted {cs : List Char} (h : Sheltered '.' 0 cs) : IsSegment false ('.' :: cs)

/-- The segments of a text: those with a dot behind them have closed all brackets, and nothing is an
    empty last segment. -/
inductive SplitsInto : Bool → List Char → List (List Char) → Prop
  | nil {isFirst : Bool} : SplitsInto isFirst [] []
  | last {isFirst : Bool} {seg : List Char} (h : IsSegment isFirst seg) (hne : seg ≠ []) :
      SplitsInto isFirst seg [seg]
  | cons {isFirst : Bool} {seg rest : List Char} {segs : List (List Char)}
      (h : IsSegment isFirst seg) (hclosed : depthBehind 0 seg = 0)
      (hrest : SplitsInto false rest segs) : SplitsInto isFirst (seg ++ '.' :: rest) (seg :: segs)

/-- A segment is read as a whole. -/
theorem IsSegment.segmentsFrom_append (h : IsSegment isFirst seg) :
    segmentsFrom 0 isFirst [] (seg ++ rest) =
      segmentsFrom (depthBehind 0 seg) isFirst seg rest := by
  cases h with
  | plain h => rw [h.segmentsFrom_append, List.nil_append]
  | dotted h =>
    rw [List.cons_append, segmentsFrom_dot_after_dot, h.segmentsFrom_append]
    rfl

theorem SplitsInto.segmentsFrom_eq (h : SplitsInto isFirst cs segs) :
    segmentsFrom 0 isFirst [] cs = segs := by
  induction h with
  | nil => rfl
  | @last isFirst seg h hne =>
    have hread : segmentsFrom 0 isFirst [] (seg ++ []) =
        segmentsFrom (depthBehind 0 seg) isFirst seg [] := h.segmentsFrom_append
    rw [List.append_nil] at hread
    rw [hread, segmentsFrom, if_neg (by simpa using hne)]
  | @cons isFirst seg rest segs h hclosed _ ih =>
    have hopen : ¬ (seg.isEmpty && !isFirst) = true := by
      cases h with
      | plain _ hne =>
        intro hempty
        simp only [Bool.and_eq_true, List.isEmpty_iff, Bool.not_eq_true'] at hempty
        exact hne hempty.2 hempty.1
      | dotted _ => simp
    rw [h.segmentsFrom_append, hclosed, segmentsFrom, if_pos ⟨rfl, rfl⟩, if_neg hopen, ih]

theorem exists_splitsInto (isFirst : Bool) (cs : List Char) : ∃ segs, SplitsInto isFirst cs segs := by
  induction hn : cs.length using Nat.strong_induction_on generalizing isFirst cs with
  | _ n ih =>
    subst hn
    rcases sheltered_or_exists '.' 0 cs with hcs | ⟨front, rest, rfl, hfront, hclosed⟩
    · cases cs with
      | nil => exact ⟨[], .nil⟩
      | cons c cs =>
        have hne := List.cons_ne_nil c cs
        exact ⟨_, .last (.plain hcs fun _ => hne) hne⟩
    · by_cases hdot : isFirst = false ∧ front = []
      · -- The dot stands at the front of a segment, which goes on behind it.
        obtain ⟨rfl, rfl⟩ := hdot
        rcases sheltered_or_exists '.' 0 rest with hrest | ⟨front, rest, rfl, hfront, hclosed⟩
        · exact ⟨_, .last (.dotted hrest) (List.cons_ne_nil '.' rest)⟩
        · obtain ⟨segs, hsegs⟩ := ih rest.length (by simp; omega) false rest rfl
          have hdotted : SplitsInto false ('.' :: front ++ '.' :: rest) _ :=
            .cons (.dotted hfront) hclosed hsegs
          exact ⟨_, hdotted⟩
      · obtain ⟨segs, hsegs⟩ := ih rest.length (by simp; omega) false rest rfl
        exact ⟨_, .cons (.plain hfront fun hf he => hdot ⟨hf, he⟩) hclosed hsegs⟩

/-- The scanner finds the segments of a text. -/
theorem splitsInto_iff : SplitsInto isFirst cs segs ↔ segmentsFrom 0 isFirst [] cs = segs := by
  refine ⟨SplitsInto.segmentsFrom_eq, ?_⟩
  rintro rfl
  obtain ⟨segs, hsegs⟩ := exists_splitsInto isFirst cs
  rwa [hsegs.segmentsFrom_eq]

/-- Behind some segments, the others can be exchanged. -/
theorem SplitsInto.exists_tail (hne : tail ≠ []) : ∀ {spaces : List (List Char)} {isFirst : Bool}
    {cs : List Char}, spaces ≠ [] → SplitsInto isFirst cs (spaces ++ tail) →
    ∃ rest, cs = ['.'].intercalate spaces ++ '.' :: rest ∧
      depthBehind 0 (['.'].intercalate spaces) = 0 ∧ SplitsInto false rest tail ∧
      ∀ rest' tail', SplitsInto false rest' tail' →
        SplitsInto isFirst (['.'].intercalate spaces ++ '.' :: rest') (spaces ++ tail')
  | [], _, _, hspaces, _ => absurd rfl hspaces
  | [space], isFirst, cs, _, h => by
    rw [List.singleton_append] at h
    cases h with
    | last => exact absurd rfl hne
    | cons hseg hclosed hrest =>
      rw [List.intercalate_singleton]
      exact ⟨_, rfl, hclosed, hrest, fun rest' tail' h' => .cons hseg hclosed h'⟩
  | space :: next :: spaces, isFirst, cs, _, h => by
    rw [List.cons_append] at h
    cases h with
    | cons hseg hclosed hrest =>
      obtain ⟨rest, rfl, hdepth, htail, hexchange⟩ :=
        hrest.exists_tail hne (List.cons_ne_nil next spaces)
      rw [List.intercalate_cons_cons, List.append_assoc, List.singleton_append]
      refine ⟨rest, by simp, ?_, htail, fun rest' tail' h' => ?_⟩
      · rw [depthBehind_append, hclosed]
        exact hdepth
      · have hsplit := SplitsInto.cons hseg hclosed (hexchange rest' tail' h')
        simpa using hsplit

/-- What stands inside of brackets in a text does so in its segments. -/
theorem SplitsInto.sheltered (h : SplitsInto isFirst cs segs) (hx : Sheltered x 0 cs) :
    ∀ seg ∈ segs, Sheltered x 0 seg := by
  induction h with
  | nil => simp
  | last _ _ => simpa using hx
  | cons _ hclosed _ ih =>
    obtain ⟨hseg, -, hrest⟩ := sheltered_append.1 hx
    rw [hclosed] at hrest
    exact List.forall_mem_cons.2 ⟨hseg, ih hrest⟩

theorem SplitsInto.isSegment (h : SplitsInto isFirst cs segs) (hf : isFirst = false) :
    ∀ seg ∈ segs, IsSegment false seg := by
  induction h with
  | nil => simp
  | last hseg _ => simpa [← hf] using hseg
  | cons hseg _ _ ih => exact List.forall_mem_cons.2 ⟨hf ▸ hseg, ih rfl⟩

/-! ## Without generic arguments -/

theorem trimChars_eq_rdropWhile (cs : List Char) :
    trimChars cs = (cs.dropWhile isBlank).rdropWhile isBlank := rfl

theorem trimChars_subset (cs : List Char) : trimChars cs ⊆ cs := by
  rw [trimChars_eq_rdropWhile]
  exact List.Subset.trans (List.rdropWhile_prefix _ _).subset (List.dropWhile_suffix _).subset

/-- What is left of a text has no blanks at its ends. -/
theorem trimmed_trimChars (hne : trimChars cs ≠ []) : Trimmed (trimChars cs) := by
  rw [trimChars_eq_rdropWhile] at hne ⊢
  refine ⟨hne, fun c hc => ?_, fun c hc => ?_⟩
  · obtain ⟨back, hback⟩ := List.rdropWhile_prefix isBlank (cs.dropWhile isBlank)
    have hhead : (cs.dropWhile isBlank).head? = some c := by
      rw [← hback, List.head?_append_of_ne_nil _ hne, hc]
    have hblank := List.head?_dropWhile_not isBlank cs
    rwa [hhead] at hblank
  · have hblank := List.rdropWhile_last_not isBlank (cs.dropWhile isBlank) hne
    rw [List.getLast?_eq_some_getLast hne] at hc
    rw [← Option.some.inj hc]
    simpa using hblank

theorem isBlank_of_head?_trimChars {c : Char} (h : (trimChars cs).head? = some c) :
    isBlank c = false :=
  (trimmed_trimChars (List.ne_nil_of_mem (List.mem_of_head? h))).first c h

/-- A dot at the front is no blank. -/
theorem exists_trimChars_dot (cs : List Char) :
    ∃ ds, trimChars ('.' :: cs) = '.' :: ds ∧ ds ⊆ cs := by
  have hfront : ('.' :: cs).dropWhile isBlank = '.' :: cs := List.dropWhile_cons_of_neg (by decide)
  have hne : ('.' :: cs).rdropWhile isBlank ≠ [] := by
    rw [ne_eq, List.rdropWhile_eq_nil_iff]
    exact fun h => absurd (h '.' List.mem_cons_self) (by decide)
  rw [trimChars_eq_rdropWhile, hfront]
  rcases List.prefix_cons_iff.1 (List.rdropWhile_prefix isBlank ('.' :: cs)) with h | ⟨ds, h, hds⟩
  · exact absurd h hne
  · exact ⟨ds, h, hds.subset⟩

/-- In front of the first bracket, nothing is inside of brackets. -/
theorem Sheltered.ne_of_mem_before (h : Sheltered x 0 cs) :
    ∀ c ∈ before '<' cs, c ≠ '<' ∧ c ≠ x := by
  induction cs with
  | nil => simp [before]
  | cons c cs ih =>
    obtain ⟨hc, hcs⟩ := h
    by_cases hopen : c = '<'
    · simp [before, hopen]
    · rw [angleDepth_zero hopen] at hcs
      have hbefore : before '<' (c :: cs) = c :: before '<' cs := by simp [before, hopen]
      rw [hbefore]
      exact List.forall_mem_cons.2 ⟨⟨hopen, hc rfl⟩, ih hcs⟩

theorem Sheltered.isSealed_strip (h : Sheltered x 0 cs) : Sealed x (stripGenericArgs cs) :=
  .ofUnopened fun c hc => h.ne_of_mem_before c (trimChars_subset _ hc)

/-- A segment without its generic arguments is a segment, and all its brackets are closed. -/
theorem IsSegment.strip (h : IsSegment false seg) (hne : stripGenericArgs seg ≠ []) :
    IsSegment false (stripGenericArgs seg) ∧ depthBehind 0 (stripGenericArgs seg) = 0 := by
  cases h with
  | plain h => exact ⟨.plain h.isSealed_strip.sheltered fun _ => hne, h.isSealed_strip.closed⟩
  | @dotted cs h =>
    have hbefore : before '<' ('.' :: cs) = '.' :: before '<' cs := by simp [before]
    obtain ⟨ds, hds, hsub⟩ := exists_trimChars_dot (before '<' cs)
    have hsealed : Sealed '.' ds := .ofUnopened fun c hc => h.ne_of_mem_before c (hsub hc)
    rw [stripGenericArgs, hbefore, hds]
    exact ⟨.dotted hsealed.sheltered, hsealed.closed⟩

theorem stripGenericArgs_strip (hne : stripGenericArgs seg ≠ []) :
    stripGenericArgs (stripGenericArgs seg) = stripGenericArgs seg := by
  have hplain : ∀ c ∈ stripGenericArgs seg, c ≠ '<' := by
    intro c hc
    simpa using List.mem_takeWhile_imp (trimChars_subset _ hc)
  have hstrip : stripGenericArgs (stripGenericArgs seg ++ []) = stripGenericArgs seg :=
    stripGenericArgs_append (trimmed_trimChars hne) hplain (by simp)
  rwa [List.append_nil] at hstrip

section
variable {spaces : List (List Char)} {type member : List Char}

theorem ne_nil_of_intercalate_ne_nil (h : ['.'].intercalate spaces ≠ []) : spaces ≠ [] := by
  rintro rfl
  exact h rfl

/-- The segments of a name, of which the last two lose their generic arguments. -/
def strippedName (spaces : List (List Char)) (type member : List Char) : List Char :=
  ['.'].intercalate spaces ++ '.' :: (stripGenericArgs type ++ '.' :: stripGenericArgs member)

theorem SplitsInto.strip (h : SplitsInto true cs (spaces ++ [type, member])) (hspaces : spaces ≠ [])
    (htype : stripGenericArgs type ≠ []) (hmember : stripGenericArgs member ≠ []) :
    SplitsInto true (strippedName spaces type member)
      (spaces ++ [stripGenericArgs type, stripGenericArgs member]) := by
  obtain ⟨rest, -, -, htail, hexchange⟩ := h.exists_tail (List.cons_ne_nil type [member]) hspaces
  have hsegment := htail.isSegment rfl
  obtain ⟨htype', hclosed⟩ := (hsegment type (by simp)).strip htype
  obtain ⟨hmember', -⟩ := (hsegment member (by simp)).strip hmember
  exact hexchange _ _ (.cons htype' hclosed (.last hmember' hmember))

/-- Parentheses stay inside of brackets. -/
theorem SplitsInto.isSealed_strip (h : SplitsInto true cs (spaces ++ [type, member]))
    (hspaces : spaces ≠ []) (hparen : Sheltered '(' 0 cs) :
    Sealed '(' (strippedName spaces type member) := by
  have hsheltered := h.sheltered hparen
  obtain ⟨rest, rfl, hclosed, -⟩ := h.exists_tail (List.cons_ne_nil type [member]) hspaces
  have hfront : Sealed '(' (['.'].intercalate spaces) := ⟨(sheltered_append.1 hparen).1, hclosed⟩
  have hdot : Sealed '(' ['.'] := .ofPlain (by simp)
  have htype := (hsheltered type (by simp)).isSealed_strip
  have hmember := (hsheltered member (by simp)).isSealed_strip
  exact hfront.append (hdot.append (htype.append (hdot.append hmember)))

/-- The name starts as the text did, and it ends with its member. -/
theorem SplitsInto.trimmed_strip (h : SplitsInto true cs (spaces ++ [type, member]))
    (hne : ['.'].intercalate spaces ≠ []) (hmember : stripGenericArgs member ≠ [])
    (hfirst : ∀ c ∈ cs.head?, isBlank c = false) : Trimmed (strippedName spaces type member) := by
  have hspaces := ne_nil_of_intercalate_ne_nil hne
  obtain ⟨rest, rfl, -⟩ := h.exists_tail (List.cons_ne_nil type [member]) hspaces
  refine ⟨List.append_ne_nil_of_left_ne_nil hne _, ?_, ?_⟩
  · rw [List.head?_append_of_ne_nil _ hne] at hfirst
    rwa [strippedName, List.head?_append_of_ne_nil _ hne]
  · have hend : strippedName spaces type member =
        ['.'].intercalate spaces ++ '.' :: (stripGenericArgs type ++ ['.']) ++
          stripGenericArgs member := by
      simp [strippedName]
    rw [hend, List.getLast?_append_of_ne_nil _ hmember]
    exact (trimmed_trimChars hmember).last

end

/-! ## Display forms -/

theorem splitSignature_append (depth : Nat) (cs : List Char) :
    (splitSignature depth cs).1 ++ (splitSignature depth cs).2 = cs := by
  induction cs generalizing depth with
  | nil => rfl
  | cons c cs ih =>
    rw [splitSignature]
    split
    · rfl
    · exact congrArg (c :: ·) (ih _)

/-- In front of the signature, parentheses stand inside of brackets only. -/
theorem sheltered_splitSignature (depth : Nat) (cs : List Char) :
    Sheltered '(' depth (splitSignature depth cs).1 := by
  induction cs generalizing depth with
  | nil => trivial
  | cons c cs ih =>
    rw [splitSignature]
    split
    · trivial
    next hand => exact ⟨fun hd hc => hand ⟨hc, hd⟩, ih _⟩

namespace Identity

/-- How a text is read: in front of its signature stands a name, which is split into segments. -/
theorem exists_segments (display : String) :
    ∃ nameChars signature segs, trimChars display.toList = nameChars ++ signature ∧
      Sheltered '(' 0 nameChars ∧ SplitsInto true nameChars segs ∧
      parse display = ofReversedSegments (String.ofList signature) segs.reverse :=
  ⟨_, _, _, (splitSignature_append 0 _).symm, sheltered_splitSignature 0 _, splitsInto_iff.2 rfl, rfl⟩

/-- The type and the member are the last two segments, as far as there are any. -/
theorem ofReversedSegments_reverse (signature : String) (segs : List (List Char)) :
    ofReversedSegments signature segs.reverse =
      ⟨String.ofList (['.'].intercalate segs.dropLast.dropLast),
        String.ofList (stripGenericArgs (segs.dropLast.getLast?.getD [])),
        String.ofList (stripGenericArgs (segs.getLast?.getD [])), signature⟩ := by
  obtain ⟨reversed, rfl⟩ : ∃ reversed, segs = List.reverse reversed := ⟨_, segs.reverse_reverse.symm⟩
  rcases reversed with _ | ⟨member, _ | ⟨type, spaces⟩⟩
  · rfl
  · rfl
  · simp [ofReversedSegments]

theorem ofReversedSegments_append (signature : String) (spaces : List (List Char))
    (type member : List Char) :
    ofReversedSegments signature (spaces ++ [type, member]).reverse =
      ⟨String.ofList (['.'].intercalate spaces), String.ofList (stripGenericArgs type),
        String.ofList (stripGenericArgs member), signature⟩ := by
  simp [ofReversedSegments]

/-- A namespace comes with a type and a member. -/
theorem exists_of_nameSpace_ne {signature : String}
    (h : (ofReversedSegments signature segs.reverse).nameSpace ≠ "") :
    ∃ spaces type member, segs = spaces ++ [type, member] ∧ ['.'].intercalate spaces ≠ [] := by
  rcases hsegs : segs.reverse with _ | ⟨member, _ | ⟨type, spaces⟩⟩
  · simp [hsegs, ofReversedSegments] at h
  · simp [hsegs, ofReversedSegments] at h
  · rw [hsegs, ofReversedSegments] at h
    refine ⟨spaces.reverse, type, member, ?_, fun hnil => h (by simp [hnil])⟩
    rw [← List.reverse_reverse segs, hsegs]
    simp

/-- A text without blanks around it and without a signature is read by its segments. -/
theorem parse_of_splitsInto {display : String} (htrimmed : Trimmed display.toList)
    (hsealed : Sealed '(' display.toList) (h : SplitsInto true display.toList segs) :
    parse display = ofReversedSegments "" segs.reverse := by
  have hname : splitSignature 0 (display.toList ++ []) = (display.toList, []) :=
    hsealed.splitSignature_eq (by simp)
  rw [List.append_nil] at hname
  rw [parse, trimChars_eq_self htrimmed.first htrimmed.last, hname]
  simp only [topLevelSegments, h.segmentsFrom_eq]

theorem toList_qualifiedName {i : Identity} (hspace : i.nameSpace ≠ "") (htype : i.containingType ≠ "")
    (hmember : i.member ≠ "") : i.qualifiedName.toList =
      i.nameSpace.toList ++ '.' :: (i.containingType.toList ++ '.' :: i.member.toList) := by
  simp [qualifiedName, hspace, htype, hmember]

/-- **A qualified name is read as the parts it was put together from.** Whatever the text, if it has a
    namespace, a type and a member, then reading its qualified name gives the same three, and no
    signature. -/
theorem parse_qualifiedName (display : String) (hspace : (parse display).nameSpace ≠ "")
    (htype : (parse display).containingType ≠ "") (hmember : (parse display).member ≠ "") :
    parse (parse display).qualifiedName = { parse display with signature := "" } := by
  have hname := toList_qualifiedName hspace htype hmember
  obtain ⟨nameChars, signature, segs, htrim, hparen, hsplit, hparse⟩ := exists_segments display
  rw [hparse] at hspace htype hmember hname ⊢
  obtain ⟨spaces, type, member, rfl, hne⟩ := exists_of_nameSpace_ne hspace
  rw [ofReversedSegments_append] at htype hmember hname ⊢
  have hspaces := ne_nil_of_intercalate_ne_nil hne
  have htype' : stripGenericArgs type ≠ [] := fun hnil => htype (by simp [hnil])
  have hmember' : stripGenericArgs member ≠ [] := fun hnil => hmember (by simp [hnil])
  have hfirst : ∀ c ∈ nameChars.head?, isBlank c = false := fun c hc =>
    isBlank_of_head?_trimChars (by rw [htrim, List.head?_append, hc, Option.some_or])
  simp only [String.toList_ofList] at hname
  have htrimmed := hsplit.trimmed_strip hne hmember' hfirst
  have hsealed := hsplit.isSealed_strip hspaces hparen
  have hsplit' := hsplit.strip hspaces htype' hmember'
  rw [strippedName, ← hname] at htrimmed hsealed hsplit'
  rw [parse_of_splitsInto htrimmed hsealed hsplit', ofReversedSegments_append,
    stripGenericArgs_strip htype', stripGenericArgs_strip hmember']

/-- A dot and a parenthesis stand inside of brackets, a segment of the namespace is blank, two brackets
    have no partner, and one dot follows another. -/
theorem parse_qualifiedName_unbalanced :
    parse " N<(a.b)>. .Pipe > <T>..ctor >(v<" = ⟨"N<(a.b)>. ", "Pipe >", ".ctor >", "(v<"⟩ ∧
    parse "N<(a.b)>. .Pipe >..ctor >" = ⟨"N<(a.b)>. ", "Pipe >", ".ctor >", ""⟩ := by
  have hparse : parse " N<(a.b)>. .Pipe > <T>..ctor >(v<" =
      ⟨"N<(a.b)>. ", "Pipe >", ".ctor >", "(v<"⟩ := by decide
  have hagain := parse_qualifiedName " N<(a.b)>. .Pipe > <T>..ctor >(v<" (by rw [hparse]; decide)
    (by rw [hparse]; decide) (by rw [hparse]; decide)
  have hname : qualifiedName ⟨"N<(a.b)>. ", "Pipe >", ".ctor >", "(v<"⟩ =
      "N<(a.b)>. .Pipe >..ctor >" := by decide
  rw [hparse, hname] at hagain
  exact ⟨hparse, hagain⟩

end Identity

end AsyncIdioms
