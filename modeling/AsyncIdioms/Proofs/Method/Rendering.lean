/-
  Reading display forms that are written from parts.

  A display form consists of the segments of a namespace, a type and a member, each one a name with
  or without generic arguments, and of a signature (`Rendering`). In generic arguments anything may
  stand, dots and parentheses too, as long as the angle brackets are balanced.

  * `AngleBalanced` : each `<` has its `>`;
  * `Sealed x` : a text in which all brackets are closed and `x` stands only inside of them. Both
    scanners pass over such a text as a whole (`Sealed.splitSignature_eq`, `Sealed.segmentsFrom_eq`);
  * `segmentsFrom_intercalate` : what is joined by dots is split again, and the last part may start
    with a dot of its own;
  * `Identity.parse_rendering` : the parts of a display form are read as they were written, with any
    blanks around it.
-/
import Mathlib.Data.List.Basic
import AsyncIdioms.Method.Identity

namespace AsyncIdioms

open Text

variable {x : Char} {cs ds rest : List Char}

/-! ## Joined texts -/

/-- What holds of all parts and of the separator holds of the joined text, if texts that are put one
    behind the other keep it. -/
theorem forall_intercalate {P : List Char → Prop} (happend : ∀ cs ds, P cs → P ds → P (cs ++ ds))
    {sep : List Char} (hsep : P sep) : ∀ {parts : List (List Char)}, parts ≠ [] →
    (∀ p ∈ parts, P p) → P (sep.intercalate parts)
  | [], hne, _ => absurd rfl hne
  | [p], _, h => by
    rw [List.intercalate_singleton]
    exact h p List.mem_cons_self
  | p :: q :: parts, _, h => by
    obtain ⟨hp, hparts⟩ := List.forall_mem_cons.1 h
    rw [List.intercalate_cons_cons]
    exact happend _ _ (happend _ _ hp hsep)
      (forall_intercalate happend hsep (List.cons_ne_nil q parts) hparts)

/-! ## Blanks at the ends -/

/-- A text that neither starts nor ends with a blank. -/
structure Trimmed (cs : List Char) : Prop where
  ne_nil : cs ≠ []
  first : ∀ c ∈ cs.head?, isBlank c = false
  last : ∀ c ∈ cs.getLast?, isBlank c = false

theorem Trimmed.append (hcs : Trimmed cs) (hds : Trimmed ds) : Trimmed (cs ++ ds) := by
  refine ⟨List.append_ne_nil_of_left_ne_nil hcs.ne_nil ds, ?_, ?_⟩
  · rw [List.head?_append_of_ne_nil _ hcs.ne_nil]
    exact hcs.first
  · rw [List.getLast?_append_of_ne_nil _ hds.ne_nil]
    exact hds.last

theorem trimmed_dot : Trimmed ['.'] := ⟨by simp, by simp [isBlank], by simp [isBlank]⟩

theorem trimmed_intercalate {parts : List (List Char)} (hne : parts ≠ [])
    (h : ∀ p ∈ parts, Trimmed p) : Trimmed (['.'].intercalate parts) :=
  forall_intercalate (fun _ _ => .append) trimmed_dot hne h

theorem dropWhile_isBlank_append {front : List Char} (hfront : ∀ c ∈ front, isBlank c = true)
    (hfirst : ∀ c ∈ cs.head?, isBlank c = false) : (front ++ cs).dropWhile isBlank = cs := by
  rw [List.dropWhile_append_of_pos hfront]
  cases cs with
  | nil => rfl
  | cons c cs => rw [List.dropWhile_cons, hfirst c rfl, if_neg Bool.false_ne_true]

/-- Only the blanks around a text are trimmed. -/
theorem Trimmed.trimChars_append (h : Trimmed cs) {front back : List Char}
    (hfront : ∀ c ∈ front, isBlank c = true) (hback : ∀ c ∈ back, isBlank c = true) :
    trimChars (front ++ cs ++ back) = cs := by
  have hstart : (front ++ (cs ++ back)).dropWhile isBlank = cs ++ back := by
    refine dropWhile_isBlank_append hfront ?_
    rw [List.head?_append_of_ne_nil _ h.ne_nil]
    exact h.first
  have hend : (back.reverse ++ cs.reverse).dropWhile isBlank = cs.reverse := by
    refine dropWhile_isBlank_append (by simpa using hback) ?_
    rw [List.head?_reverse]
    exact h.last
  rw [trimChars, List.append_assoc, hstart, List.reverse_append, hend, List.reverse_reverse]

/-! ## Angle brackets -/

/-- Each `<` has its `>`. -/
inductive AngleBalanced : List Char → Prop
  | nil : AngleBalanced []
  | char {c : Char} {cs : List Char} (hopen : c ≠ '<') (hclose : c ≠ '>') (h : AngleBalanced cs) :
      AngleBalanced (c :: cs)
  | list {body cs : List Char} (hbody : AngleBalanced body) (h : AngleBalanced cs) :
      AngleBalanced ('<' :: (body ++ '>' :: cs))

/-- Read from that depth on, `x` stands inside of brackets only. -/
def Sheltered (x : Char) : Nat → List Char → Prop
  | _, [] => True
  | depth, c :: cs => (depth = 0 → c ≠ x) ∧ Sheltered x (angleDepth depth c) cs

/-- The depth behind a text. -/
def depthBehind (depth : Nat) (cs : List Char) : Nat := cs.foldl angleDepth depth

@[simp]
theorem depthBehind_nil (depth : Nat) : depthBehind depth [] = depth := rfl

@[simp]
theorem depthBehind_cons (depth : Nat) (c : Char) (cs : List Char) :
    depthBehind depth (c :: cs) = depthBehind (angleDepth depth c) cs := rfl

theorem depthBehind_append (depth : Nat) (cs ds : List Char) :
    depthBehind depth (cs ++ ds) = depthBehind (depthBehind depth cs) ds := List.foldl_append

theorem sheltered_append {depth : Nat} : Sheltered x depth (cs ++ ds) ↔
    Sheltered x depth cs ∧ Sheltered x (depthBehind depth cs) ds := by
  induction cs generalizing depth with
  | nil => simp [Sheltered]
  | cons c cs ih => rw [List.cons_append, Sheltered, Sheltered, ih, depthBehind_cons, and_assoc]

theorem angleDepth_of_ne {depth : Nat} {c : Char} (hopen : c ≠ '<') (hclose : c ≠ '>') :
    angleDepth depth c = depth := by
  rw [angleDepth]
  · exact hopen
  · exact hclose

theorem angleDepth_zero {c : Char} (hopen : c ≠ '<') : angleDepth 0 c = 0 := by
  by_cases hclose : c = '>'
  · rw [hclose]
    rfl
  · exact angleDepth_of_ne hopen hclose

namespace AngleBalanced

theorem plain_append (hcs : ∀ c ∈ cs, c ≠ '<' ∧ c ≠ '>') (h : AngleBalanced ds) :
    AngleBalanced (cs ++ ds) := by
  induction cs with
  | nil => exact h
  | cons c cs ih =>
    obtain ⟨⟨hopen, hclose⟩, hcs⟩ := List.forall_mem_cons.1 hcs
    exact .char hopen hclose (ih hcs)

theorem depthBehind_eq (h : AngleBalanced cs) (depth : Nat) : depthBehind depth cs = depth := by
  induction h generalizing depth with
  | nil => rfl
  | char hopen hclose _ ih => rw [depthBehind_cons, angleDepth_of_ne hopen hclose, ih]
  | list _ _ ihbody ih =>
    rw [depthBehind_cons, depthBehind_append, ihbody, depthBehind_cons]
    exact ih depth

/-- Inside of brackets everything is sheltered. -/
theorem sheltered (h : AngleBalanced cs) (depth : Nat) : Sheltered x (depth + 1) cs := by
  induction h generalizing depth with
  | nil => trivial
  | char hopen hclose _ ih =>
    refine ⟨nofun, ?_⟩
    rw [angleDepth_of_ne hopen hclose]
    exact ih depth
  | list hbody _ ihbody ih =>
    refine ⟨nofun, sheltered_append.2 ⟨ihbody (depth + 1), ?_⟩⟩
    rw [hbody.depthBehind_eq]
    exact ⟨nofun, ih depth⟩

end AngleBalanced

/-- All brackets are closed, and `x` stands inside of brackets only. -/
structure Sealed (x : Char) (cs : List Char) : Prop where
  sheltered : Sheltered x 0 cs
  closed : depthBehind 0 cs = 0

namespace Sealed

theorem append (hcs : Sealed x cs) (hds : Sealed x ds) : Sealed x (cs ++ ds) := by
  constructor
  · rw [sheltered_append, hcs.closed]
    exact ⟨hcs.sheltered, hds.sheltered⟩
  · rw [depthBehind_append, hcs.closed, hds.closed]

/-- Where no bracket is opened, a `>` has no partner and changes nothing. -/
theorem ofUnopened (h : ∀ c ∈ cs, c ≠ '<' ∧ c ≠ x) : Sealed x cs := by
  induction cs with
  | nil => exact ⟨trivial, rfl⟩
  | cons c cs ih =>
    obtain ⟨⟨hopen, hne⟩, hcs⟩ := List.forall_mem_cons.1 h
    have hdepth : angleDepth 0 c = 0 := angleDepth_zero hopen
    refine ⟨⟨fun _ => hne, ?_⟩, ?_⟩
    · rw [hdepth]
      exact (ih hcs).sheltered
    · rw [depthBehind_cons, hdepth]
      exact (ih hcs).closed

theorem ofPlain (h : ∀ c ∈ cs, c ≠ '<' ∧ c ≠ '>' ∧ c ≠ x) : Sealed x cs :=
  ofUnopened fun c hc => ⟨(h c hc).1, (h c hc).2.2⟩

theorem intercalate {parts : List (List Char)} (hx : '.' ≠ x) (hne : parts ≠ [])
    (h : ∀ p ∈ parts, Sealed x p) : Sealed x (['.'].intercalate parts) :=
  forall_intercalate (fun _ _ => .append) (.ofPlain (by simpa using hx)) hne h

/-- Generic arguments are sealed, whatever they are. -/
theorem arguments (hx : '<' ≠ x) (h : AngleBalanced cs) : Sealed x ('<' :: (cs ++ ['>'])) := by
  constructor
  · refine ⟨fun _ => hx, sheltered_append.2 ⟨h.sheltered 0, ?_⟩⟩
    rw [show angleDepth 0 '<' = 1 from rfl, h.depthBehind_eq]
    exact ⟨nofun, trivial⟩
  · rw [depthBehind_cons, depthBehind_append, h.depthBehind_eq]
    rfl

end Sealed

/-! ## Scanning -/

theorem Sheltered.splitSignature_append {depth : Nat} (h : Sheltered '(' depth cs) :
    splitSignature depth (cs ++ rest) =
      (cs ++ (splitSignature (depthBehind depth cs) rest).1,
        (splitSignature (depthBehind depth cs) rest).2) := by
  induction cs generalizing depth with
  | nil => rfl
  | cons c cs ih =>
    obtain ⟨hc, hcs⟩ := h
    rw [List.cons_append, splitSignature, if_neg fun hand => hc hand.2 hand.1, ih hcs]
    rfl

theorem Sheltered.segmentsFrom_append {depth : Nat} {isFirst : Bool} {current : List Char}
    (h : Sheltered '.' depth cs) :
    segmentsFrom depth isFirst current (cs ++ rest) =
      segmentsFrom (depthBehind depth cs) isFirst (current ++ cs) rest := by
  induction cs generalizing depth current with
  | nil => rw [List.append_nil, List.nil_append, depthBehind_nil]
  | cons c cs ih =>
    obtain ⟨hc, hcs⟩ := h
    rw [List.cons_append, segmentsFrom, if_neg fun hand => hc hand.2 hand.1, ih hcs,
      List.append_assoc, List.singleton_append, depthBehind_cons]

/-- The signature starts at the first `(` behind a sealed text. -/
theorem Sealed.splitSignature_eq {signature : List Char} (h : Sealed '(' cs)
    (hopens : ∀ c ∈ signature.head?, c = '(') :
    splitSignature 0 (cs ++ signature) = (cs, signature) := by
  have hsignature : splitSignature 0 signature = ([], signature) := by
    cases signature with
    | nil => rfl
    | cons c signature =>
      obtain rfl := hopens c rfl
      rw [splitSignature, if_pos ⟨rfl, rfl⟩]
  rw [h.sheltered.splitSignature_append, h.closed, hsignature, List.append_nil]

section
variable {isFirst : Bool} {current : List Char}

/-- A sealed text is the rest of the open segment. -/
theorem Sealed.segmentsFrom_eq (h : Sealed '.' cs) (hne : cs ≠ []) :
    segmentsFrom 0 isFirst current cs = [current ++ cs] := by
  have hscan : segmentsFrom 0 isFirst current (cs ++ []) =
      segmentsFrom (depthBehind 0 cs) isFirst (current ++ cs) [] := h.sheltered.segmentsFrom_append
  rw [List.append_nil, h.closed] at hscan
  rw [hscan, segmentsFrom, if_neg (by simp [hne])]

/-- A sealed text with a dot behind it is a segment. -/
theorem Sealed.segmentsFrom_dot (h : Sealed '.' cs) (hne : cs ≠ []) :
    segmentsFrom 0 isFirst [] (cs ++ '.' :: rest) = cs :: segmentsFrom 0 false [] rest := by
  rw [h.sheltered.segmentsFrom_append, h.closed, List.nil_append, segmentsFrom, if_pos ⟨rfl, rfl⟩,
    if_neg (by simp [hne])]

end

/-- A dot right after a dot stays with the segment behind it. -/
theorem segmentsFrom_dot_after_dot :
    segmentsFrom 0 false [] ('.' :: rest) = segmentsFrom 0 false ['.'] rest := by
  rw [segmentsFrom, if_pos ⟨rfl, rfl⟩]
  rfl

/-- What is joined by dots is split again. The last part may be one that is found right behind a
    dot, such as `.ctor`. -/
theorem segmentsFrom_intercalate {last : List Char} (hlast : segmentsFrom 0 false [] last = [last]) :
    ∀ {parts : List (List Char)} {isFirst : Bool}, parts ≠ [] →
      (∀ p ∈ parts, Sealed '.' p ∧ p ≠ []) →
      segmentsFrom 0 isFirst [] (['.'].intercalate (parts ++ [last])) = parts ++ [last]
  | [], _, hne, _ => absurd rfl hne
  | [p], isFirst, _, h => by
    obtain ⟨hp, hne⟩ := h p List.mem_cons_self
    rw [List.singleton_append, List.intercalate_cons_cons, List.intercalate_singleton,
      List.append_assoc, List.singleton_append, hp.segmentsFrom_dot hne, hlast]
  | p :: q :: parts, isFirst, _, h => by
    obtain ⟨⟨hp, hne⟩, hparts⟩ := List.forall_mem_cons.1 h
    have ih : segmentsFrom 0 false [] (['.'].intercalate (q :: parts ++ [last])) =
        q :: parts ++ [last] := segmentsFrom_intercalate hlast (List.cons_ne_nil q parts) hparts
    rw [List.cons_append, List.cons_append, List.intercalate_cons_cons, List.append_assoc,
      List.singleton_append, hp.segmentsFrom_dot hne]
    exact congrArg (p :: ·) ih

/-- Generic arguments are stripped. -/
theorem stripGenericArgs_append {label arguments : List Char} (hlabel : Trimmed label)
    (hplain : ∀ c ∈ label, c ≠ '<') (hopens : ∀ c ∈ arguments.head?, c = '<') :
    stripGenericArgs (label ++ arguments) = label := by
  have hbefore : before '<' (label ++ arguments) = label := by
    rw [before_append fun hopen => hplain _ hopen rfl, before_of_head? hopens, List.append_nil]
  rw [stripGenericArgs, hbefore, trimChars_eq_self hlabel.first hlabel.last]

/-! ## Display forms -/

/-- A name: no blanks around it, no dots and brackets in it. -/
structure IsName (cs : List Char) : Prop extends Trimmed cs where
  plain : ∀ c ∈ cs, c ≠ '.' ∧ c ≠ '<' ∧ c ≠ '>' ∧ c ≠ '('

theorem isName_iff : IsName cs ↔ cs ≠ [] ∧ cs.head?.all (!isBlank ·) = true ∧
    cs.getLast?.all (!isBlank ·) = true ∧
    cs.all (fun c => decide (c ≠ '.' ∧ c ≠ '<' ∧ c ≠ '>' ∧ c ≠ '(')) = true := by
  simp only [Option.all_eq_true, Bool.not_eq_true', List.all_eq_true, decide_eq_true_iff]
  constructor
  · intro h
    exact ⟨h.ne_nil, h.first, h.last, h.plain⟩
  · rintro ⟨hne, hfirst, hlast, hplain⟩
    exact ⟨⟨hne, hfirst, hlast⟩, hplain⟩

instance (cs : List Char) : Decidable (IsName cs) := decidable_of_iff' _ isName_iff

theorem IsName.isSealed (h : IsName cs) (hx : x = '.' ∨ x = '(') : Sealed x cs := by
  refine .ofPlain fun c hc => ?_
  obtain ⟨hdot, hopen, hclose, hparen⟩ := h.plain c hc
  refine ⟨hopen, hclose, ?_⟩
  rcases hx with rfl | rfl
  · exact hdot
  · exact hparen

/-- A name with or without generic arguments. -/
structure Segment where
  name : String
  /-- What stands between the brackets. -/
  arguments : Option String
  isName : IsName name.toList
  balanced : ∀ body ∈ arguments, AngleBalanced body.toList

namespace Segment

/-- The generic arguments in their brackets. -/
def argumentText (s : Segment) : String := s.arguments.elim "" fun body => "<" ++ body ++ ">"

def text (s : Segment) : String := s.name ++ s.argumentText

variable (s : Segment)

theorem toList_text : s.text.toList = s.name.toList ++ s.argumentText.toList :=
  String.toList_append

theorem toList_argumentText : s.argumentText.toList = [] ∨
    ∃ body, AngleBalanced body ∧ s.argumentText.toList = '<' :: (body ++ ['>']) := by
  rw [argumentText]
  cases h : s.arguments with
  | none => exact .inl rfl
  | some body => exact .inr ⟨body.toList, s.balanced body h, by simp⟩

theorem isSealed (hx : x = '.' ∨ x = '(') : Sealed x s.text.toList := by
  have hopen : '<' ≠ x := by
    rcases hx with rfl | rfl <;> decide
  rw [toList_text]
  rcases s.toList_argumentText with h | ⟨body, hbody, h⟩
  · rw [h, List.append_nil]
    exact s.isName.isSealed hx
  · rw [h]
    exact (s.isName.isSealed hx).append (.arguments hopen hbody)

theorem trimmed : Trimmed s.text.toList := by
  rw [toList_text]
  rcases s.toList_argumentText with h | ⟨body, -, h⟩
  · rw [h, List.append_nil]
    exact s.isName.toTrimmed
  · rw [h]
    refine s.isName.toTrimmed.append ⟨List.cons_ne_nil _ _, ?_, ?_⟩
    · intro c hc
      obtain rfl := Option.some.inj hc
      rfl
    · rw [← List.cons_append, List.getLast?_append_of_ne_nil _ (List.cons_ne_nil _ _)]
      intro c hc
      obtain rfl := Option.some.inj hc
      rfl

theorem head?_argumentText : ∀ c ∈ s.argumentText.toList.head?, c = '<' := by
  rcases s.toList_argumentText with h | ⟨body, -, h⟩ <;> simp [h]

theorem stripGenericArgs_text : stripGenericArgs s.text.toList = s.name.toList := by
  rw [toList_text]
  exact stripGenericArgs_append s.isName.toTrimmed (fun c hc => (s.isName.plain c hc).2.1)
    s.head?_argumentText

end Segment

/-- A display form, by its parts. -/
structure Rendering where
  spaces : List Segment
  type : Segment
  /-- Does a dot stand in front of the member, as in `.ctor`? -/
  isDotted : Bool
  member : Segment
  signature : String
  opens : ∀ c ∈ signature.toList.head?, c = '('
  ends : ∀ c ∈ signature.toList.getLast?, isBlank c = false

namespace Rendering

variable (r : Rendering)

/-- The dot in front of the member, if there is one. -/
def dot : String := if r.isDotted then "." else ""

def memberName : String := r.dot ++ r.member.name

/-- The member with its generic arguments. -/
def memberText : String := r.dot ++ r.member.text

/-- The names, joined by dots. -/
def nameText : String := ".".intercalate (r.spaces.map Segment.text ++ [r.type.text, r.memberText])

def text : String := r.nameText ++ r.signature

theorem toList_dot : r.dot.toList = [] ∨ r.dot.toList = ['.'] := by
  rw [dot]
  cases r.isDotted
  · exact .inl rfl
  · exact .inr (by simp)

theorem toList_memberText : r.memberText.toList = r.dot.toList ++ r.member.text.toList :=
  String.toList_append

theorem trimmed_dot_append (h : Trimmed cs) : Trimmed (r.dot.toList ++ cs) := by
  rcases r.toList_dot with hdot | hdot
  · rwa [hdot]
  · rw [hdot]
    exact trimmed_dot.append h

theorem isSealed_memberText : Sealed '(' r.memberText.toList := by
  rw [toList_memberText]
  refine .append (.ofPlain ?_) (r.member.isSealed (.inr rfl))
  rcases r.toList_dot with hdot | hdot <;> simp [hdot]

/-- A member is one segment, with its dot. -/
theorem segmentsFrom_memberText :
    segmentsFrom 0 false [] r.memberText.toList = [r.memberText.toList] := by
  have hmember := r.member.isSealed (.inl rfl)
  have hne := r.member.trimmed.ne_nil
  rw [toList_memberText]
  rcases r.toList_dot with hdot | hdot
  · rw [hdot, List.nil_append, hmember.segmentsFrom_eq hne, List.nil_append]
  · rw [hdot, List.singleton_append, segmentsFrom_dot_after_dot, hmember.segmentsFrom_eq hne,
      List.singleton_append]

theorem stripGenericArgs_memberText :
    stripGenericArgs r.memberText.toList = r.memberName.toList := by
  have hname : r.memberName.toList = r.dot.toList ++ r.member.name.toList := String.toList_append
  rw [toList_memberText, Segment.toList_text, ← List.append_assoc, ← hname]
  refine stripGenericArgs_append ?_ (fun c hc => ?_) r.member.head?_argumentText
  · rw [hname]
    exact r.trimmed_dot_append r.member.isName.toTrimmed
  · rw [hname] at hc
    rcases List.mem_append.1 hc with hc | hc
    · rcases r.toList_dot with hdot | hdot
      · simp [hdot] at hc
      · rw [hdot, List.mem_singleton] at hc
        rw [hc]
        decide
    · exact (r.member.isName.plain c hc).2.1

/-- The segments of the name, as the scanner has to find them. -/
def parts : List (List Char) :=
  r.spaces.map (·.text.toList) ++ [r.type.text.toList] ++ [r.memberText.toList]

theorem toList_nameText : r.nameText.toList = ['.'].intercalate r.parts := by
  rw [nameText, String.toList_intercalate, parts]
  simp [Function.comp_def]

theorem forall_parts {P : List Char → Prop} (hsegment : ∀ s : Segment, P s.text.toList)
    (hmember : P r.memberText.toList) : ∀ p ∈ r.parts, P p := by
  simp only [parts, List.forall_mem_append, List.forall_mem_map, List.forall_mem_singleton]
  exact ⟨⟨fun s _ => hsegment s, hsegment r.type⟩, hmember⟩

theorem parts_ne_nil : r.parts ≠ [] := List.append_ne_nil_of_right_ne_nil _ (List.cons_ne_nil _ _)

theorem isSealed_nameText : Sealed '(' r.nameText.toList := by
  rw [toList_nameText]
  exact .intercalate (by decide) r.parts_ne_nil
    (r.forall_parts (fun s => s.isSealed (.inr rfl)) r.isSealed_memberText)

theorem trimmed_text : Trimmed r.text.toList := by
  have hname : Trimmed r.nameText.toList := by
    rw [toList_nameText]
    refine trimmed_intercalate r.parts_ne_nil (r.forall_parts (fun s => s.trimmed) ?_)
    rw [toList_memberText]
    exact r.trimmed_dot_append r.member.trimmed
  rw [text, String.toList_append]
  by_cases hne : r.signature.toList = []
  · rwa [hne, List.append_nil]
  · refine hname.append ⟨hne, fun c hc => ?_, r.ends⟩
    rw [r.opens c hc]
    rfl

theorem topLevelSegments_nameText : topLevelSegments r.nameText.toList = r.parts := by
  rw [toList_nameText]
  refine segmentsFrom_intercalate r.segmentsFrom_memberText (by simp) fun p hp => ?_
  rcases List.mem_append.1 hp with hp | hp
  · obtain ⟨s, -, rfl⟩ := List.mem_map.1 hp
    exact ⟨s.isSealed (.inl rfl), s.trimmed.ne_nil⟩
  · obtain rfl := List.mem_singleton.1 hp
    exact ⟨r.type.isSealed (.inl rfl), r.type.trimmed.ne_nil⟩

/-- The namespace, with the generic arguments of its segments. -/
def nameSpace : String := ".".intercalate (r.spaces.map Segment.text)

/-- What is to be read from the display form. -/
def identity : Identity := ⟨r.nameSpace, r.type.name, r.memberName, r.signature⟩

theorem ofReversedSegments_parts :
    Identity.ofReversedSegments r.signature r.parts.reverse = r.identity := by
  have hspaces : String.ofList (['.'].intercalate (r.spaces.map (·.text.toList))) = r.nameSpace := by
    rw [nameSpace, ← String.toList_inj, String.toList_ofList, String.toList_intercalate, List.map_map]
    rfl
  rw [parts, List.reverse_append, List.reverse_append]
  simp only [List.reverse_singleton, List.singleton_append, Identity.ofReversedSegments,
    List.reverse_reverse, hspaces, Segment.stripGenericArgs_text, stripGenericArgs_memberText,
    String.ofList_toList, identity]

theorem nameSpace_ne_empty (h : r.spaces ≠ []) : r.nameSpace ≠ "" := by
  have htrimmed : Trimmed (['.'].intercalate (r.spaces.map (·.text.toList))) := by
    refine trimmed_intercalate (by simpa using h) ?_
    simp only [List.forall_mem_map]
    exact fun s _ => s.trimmed
  rw [nameSpace, ne_eq, ← String.toList_eq_nil_iff, String.toList_intercalate, List.map_map]
  exact htrimmed.ne_nil

theorem memberName_ne_empty : r.memberName ≠ "" := by
  have hne := r.member.isName.ne_nil
  rw [ne_eq, ← String.toList_eq_nil_iff, memberName, String.toList_append]
  exact List.append_ne_nil_of_right_ne_nil _ hne

/-- The qualified name joins the segments of the namespace, the type and the member. -/
theorem qualifiedName_identity : r.identity.qualifiedName =
    ".".intercalate (r.spaces.map Segment.text ++ [r.type.name, r.memberName]) := by
  have htype : r.type.name ≠ "" := mt String.toList_eq_nil_iff.2 r.type.isName.ne_nil
  have hmember := r.memberName_ne_empty
  by_cases hspaces : r.spaces = []
  · have hempty : r.nameSpace = "" := by
      rw [nameSpace, hspaces]
      rfl
    simp [Identity.qualifiedName, identity, hempty, htype, hmember, hspaces]
  · have hnonempty := r.nameSpace_ne_empty hspaces
    have hjoin : ".".intercalate (r.spaces.map Segment.text ++ [r.type.name, r.memberName]) =
        r.nameSpace ++ "." ++ ".".intercalate [r.type.name, r.memberName] :=
      String.intercalate_append_of_ne_nil (by simpa using hspaces) (List.cons_ne_nil _ _)
    rw [hjoin]
    simp [Identity.qualifiedName, identity, hnonempty, htype, hmember]

end Rendering

/-- **The parts of a display form are read as they were written**, whatever blanks stand around it. -/
theorem Identity.parse_rendering (r : Rendering) {front back : String}
    (hfront : ∀ c ∈ front.toList, isBlank c = true) (hback : ∀ c ∈ back.toList, isBlank c = true) :
    parse (front ++ r.text ++ back) =
      ⟨".".intercalate (r.spaces.map Segment.text), r.type.name, r.memberName, r.signature⟩ ∧
    (parse (front ++ r.text ++ back)).qualifiedName =
      ".".intercalate (r.spaces.map Segment.text ++ [r.type.name, r.memberName]) := by
  have hparse : parse (front ++ r.text ++ back) = r.identity := by
    rw [parse, String.toList_append, String.toList_append, r.trimmed_text.trimChars_append hfront hback,
      Rendering.text, String.toList_append, r.isSealed_nameText.splitSignature_eq r.opens]
    simp only [r.topLevelSegments_nameText, String.ofList_toList, r.ofReversedSegments_parts]
  rw [hparse]
  exact ⟨rfl, r.qualifiedName_identity⟩

/-- The constructor of a generic type: dots and parentheses stand in its arguments, and one dot in
    front of its name. -/
def Rendering.pipeConstructor : Rendering where
  spaces := [⟨"Acme", none, by decide, nofun⟩]
  type := ⟨"Pipe", some "(A.B, C<D>)", by decide, fun body hbody => by
    obtain rfl := Option.some.inj hbody
    have hinner : AngleBalanced ['D'] := .char (by decide) (by decide) .nil
    have hend : AngleBalanced [')'] := .char (by decide) (by decide) .nil
    have hfront : ∀ c ∈ ['(', 'A', '.', 'B', ',', ' ', 'C'], c ≠ '<' ∧ c ≠ '>' := by simp
    exact .plain_append hfront (.list hinner hend)⟩
  isDotted := true
  member := ⟨"ctor", none, by decide, nofun⟩
  signature := "(System.Int32)"
  opens := fun c hc => (Option.some.inj hc).symm
  ends := fun c hc => Option.some.inj hc ▸ rfl

theorem Identity.parse_rendering_pipeConstructor :
    (Rendering.pipeConstructor.text = "Acme.Pipe<(A.B, C<D>)>..ctor(System.Int32)" ∧
      ∀ c ∈ "\t ".toList, isBlank c = true) ∧
    parse ("\t " ++ Rendering.pipeConstructor.text ++ " ") =
      ⟨"Acme", "Pipe", ".ctor", "(System.Int32)"⟩ ∧
    (parse ("\t " ++ Rendering.pipeConstructor.text ++ " ")).qualifiedName = "Acme.Pipe..ctor" := by
  have hfront : ∀ c ∈ "\t ".toList, isBlank c = true := List.all_eq_true.1 (by decide)
  have hback : ∀ c ∈ " ".toList, isBlank c = true := List.all_eq_true.1 (by decide)
  exact ⟨⟨by decide, hfront⟩, parse_rendering .pipeConstructor hfront hback⟩

end AsyncIdioms
