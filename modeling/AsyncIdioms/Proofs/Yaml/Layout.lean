/-
  The tokens of written data.

  * `tokensOf` : the tokens of data. A list behind a field's colon has no indentation of its own, and
    so no tokens for its start and end;
  * `leads_value`, `leads_item`, `leads_items`, `leads_fields` : the written lines are scanned as
    these tokens, up to the next line, by induction on the data;
  * `scan_fieldLines` : the tokens of a whole record.
-/
import AsyncIdioms.Proofs.Yaml.Tokens

namespace AsyncIdioms.Yaml

/-! ## Data and its tokens -/

/-- The name of a field that can be written as it is, and be told to be a key. -/
def IsKey (name : String) : Prop :=
  name.toList ≠ [] ∧ name.toList.length ≤ 1024 ∧ name.toList.all isKeyChar = true

instance : DecidablePred IsKey := fun _ => inferInstanceAs (Decidable (_ ∧ _ ∧ _))

theorem IsKey.isKeyChar {name : String} (h : IsKey name) : ∀ c ∈ name.toList, isKeyChar c = true :=
  List.all_eq_true.1 h.2.2

mutual

/-- All fields have names that are keys. -/
def HasKeys : Data → Prop
  | .text _ => True
  | .flag _ => True
  | .items ds => HaveKeys ds
  | .record fields => FieldsHaveKeys fields

def HaveKeys : List Data → Prop
  | [] => True
  | d :: ds => HasKeys d ∧ HaveKeys ds

def FieldsHaveKeys : List (String × Data) → Prop
  | [] => True
  | (key, d) :: fields => IsKey key ∧ HasKeys d ∧ FieldsHaveKeys fields

end

mutual

/-- The tokens of data; `indentless` tells that a list has the indentation of the mapping around it. -/
def tokensOf (indentless : Bool) : Data → List Token
  | .text s => [.scalar (chooseStyle s) s]
  | .flag b => [.scalar .plain (String.ofList (flagChars b))]
  | .items [] => [.flowSequenceStart, .flowSequenceEnd]
  | .items (d :: ds) =>
    if indentless then itemTokens (d :: ds)
    else .blockSequenceStart :: itemTokens (d :: ds) ++ [.blockEnd]
  | .record [] => [.flowMappingStart, .flowMappingEnd]
  | .record (f :: fs) => .blockMappingStart :: fieldTokens (f :: fs) ++ [.blockEnd]

def itemTokens : List Data → List Token
  | [] => []
  | d :: ds => .blockEntry :: tokensOf false d ++ itemTokens ds

def fieldTokens : List (String × Data) → List Token
  | [] => []
  | (key, d) :: fields =>
    [.key, .scalar .plain key, .value] ++ tokensOf true d ++ fieldTokens fields

end

/-! ## What the lines start with -/

theorem isBlankOrEnd_valueLines (column : Nat) (d : Data) (t : List Char) :
    isBlankOrEnd (valueLines column d ++ t) = true := by
  match d with
  | .text s => rfl
  | .flag b => rfl
  | .items [] => rfl
  | .items (d :: ds) => rfl
  | .record [] => rfl
  | .record (f :: fs) => rfl

theorem itemLines_cons_cons (column : Nat) (d d' : Data) (ds : List Data) :
    itemLines column (d :: d' :: ds) =
      '-' :: ' ' :: (itemBody column d ++ (spaces column ++ itemLines column (d' :: ds))) := by
  rw [itemLines]
  · simp
  · nofun

theorem fieldLines_cons_cons (column : Nat) (key : String) (d : Data) (f : String × Data)
    (fs : List (String × Data)) :
    fieldLines column ((key, d) :: f :: fs) =
      key.toList ++
        ':' :: (valueLines column d ++ (spaces column ++ fieldLines column (f :: fs))) := by
  rw [fieldLines]
  · simp
  · nofun

theorem startsInk_itemLines (column : Nat) (d : Data) (ds : List Data) (t : List Char) :
    StartsInk (itemLines column (d :: ds) ++ t) := by
  cases ds <;> exact startsInk_cons (by decide)

theorem startsInk_fieldLines (column : Nat) {f : String × Data} {fs : List (String × Data)}
    (h : FieldsHaveKeys (f :: fs)) (t : List Char) : StartsInk (fieldLines column (f :: fs) ++ t) := by
  obtain ⟨key, d⟩ := f
  obtain ⟨hkey, -⟩ := h
  have hfirst (u : List Char) : StartsInk (key.toList ++ u) := by
    cases hname : key.toList with
    | nil => exact absurd hname hkey.1
    | cons c cs => exact startsInk_cons (isInk_of_isKeyChar (hkey.isKeyChar c (by simp [hname])))
  cases fs with
  | nil =>
    rw [fieldLines, List.append_assoc]
    exact hfirst _
  | cons f fs =>
    rw [fieldLines_cons_cons, List.append_assoc]
    exact hfirst _

theorem isScalarLine_flag (column : Nat) (b : Bool) :
    IsScalarLine column (flagChars b) .plain (flagChars b ++ ['\n']) := by
  cases b <;> exact .plain (by decide) (by decide)

/-! ## Collections that are opened and closed -/

namespace Level

variable {l : Level} {column k : Nat} {start : Token}

theorem indent_openAt (h : l.indent ≤ column) : (l.openAt column start).indent = column := by
  rw [openAt]
  split
  · rfl
  · omega

theorem openAt_of_eq (h : l.indent = column) : l.openAt column start = l := by
  rw [openAt, if_neg (by omega)]

/-- A collection that has been opened is closed in front of a lesser column. -/
theorem close_openAt (h : l.indent < column) (hk : k < column) (ts : List Token) :
    ((l.openAt column start).push ts).close k = (l.push (start :: ts ++ [.blockEnd])).close k := by
  rw [openAt, if_pos h, push, close_cons (Int.ofNat_lt.2 hk), push]
  simp

end Level

namespace Scan

variable {s : Scan} {l : Level} {column k : Nat} {t : List Char}

theorem Leads.trans_exists {s₁ : Scan} {p : Scan → Prop} (h : s.Leads s₁)
    (h₁ : ∃ s', s₁.Leads s' ∧ p s') : ∃ s', s.Leads s' ∧ p s' := by
  obtain ⟨s', hs', hp⟩ := h₁
  exact ⟨s', h.trans hs', hp⟩

/-! ## The induction -/

/-- A scalar behind a space. -/
theorem Stands.leads_scalarLine {b : Bool} {c : Nat} {cs line : List Char} {style : Style}
    (h : s.Stands (' ' :: (line ++ (spaces k ++ t))) column b l)
    (hline : IsScalarLine (c + 2) cs style line) (hindent : l.indent = c) (hcolumn : c < column)
    (hk : k ≤ c) (ht : StartsInk t) :
    ∃ s', s.Leads s' ∧
      s'.Reaches t k true ((l.push [.scalar style (String.ofList cs)]).close k) :=
  (h.reaches_space (hline.startsInk _) (by omega)).scalar hline hindent (by omega) hk ht

mutual

/-- What stands behind a field's colon. -/
theorem leads_value (d : Data) (hd : HasKeys d) {s : Scan} {l : Level} {c column k : Nat}
    {t : List Char} (h : s.Stands (valueLines c d ++ (spaces k ++ t)) column false l)
    (hindent : l.indent = c) (hcolumn : c < column) (hk : k ≤ c) (ht : StartsInk t) :
    ∃ s', s.Leads s' ∧ s'.Reaches t k true ((l.push (tokensOf true d)).close k) := by
  match d, hd with
  | .text x, _ =>
    have hleads := h.leads_scalarLine (isScalarLine_scalarLine (c + 2) x) hindent hcolumn hk ht
    rwa [String.ofList_toList] at hleads
  | .flag b, _ => exact h.leads_scalarLine (isScalarLine_flag (c + 2) b) hindent hcolumn hk ht
  | .items [], _ =>
    exact (h.reaches_space (startsInk_cons (by decide)) (by omega)).emptyItems (by omega) ht
  | .items (d :: ds), hd =>
    rw [valueLines, List.append_assoc, List.cons_append] at h
    have hreaches := h.reaches_lineEnd (startsInk_itemLines c d ds _) (by omega)
    have hleads := leads_items d ds hd hreaches (by omega) hk ht
    rwa [Level.openAt_of_eq hindent] at hleads
  | .record [], _ =>
    exact (h.reaches_space (startsInk_cons (by decide)) (by omega)).emptyRecord (by omega) ht
  | .record (f :: fs), hd =>
    rw [valueLines, List.append_assoc, List.cons_append] at h
    have hreaches := h.reaches_lineEnd (startsInk_fieldLines (c + 2) hd _) (by omega)
    have hleads := leads_fields f fs hd hreaches (by omega) (by omega) ht
    rwa [Level.close_openAt (by omega) (by omega)] at hleads
termination_by sizeOf d

/-- What stands behind an item's dash. -/
theorem leads_item (d : Data) (hd : HasKeys d) {s : Scan} {l : Level} {c k : Nat} {t : List Char}
    (h : s.Stands (' ' :: (itemBody c d ++ (spaces k ++ t))) (c + 1) true l) (hindent : l.indent = c)
    (hk : k ≤ c) (ht : StartsInk t) :
    ∃ s', s.Leads s' ∧ s'.Reaches t k true ((l.push (tokensOf false d)).close k) := by
  match d, hd with
  | .text x, _ =>
    have hleads := h.leads_scalarLine (isScalarLine_scalarLine (c + 2) x) hindent (by omega) hk ht
    rwa [String.ofList_toList] at hleads
  | .flag b, _ => exact h.leads_scalarLine (isScalarLine_flag (c + 2) b) hindent (by omega) hk ht
  | .items [], _ =>
    exact (h.reaches_space (startsInk_cons (by decide)) (by omega)).emptyItems (by omega) ht
  | .items (d :: ds), hd =>
    have hreaches := h.reaches_space (startsInk_itemLines (c + 2) d ds _) (by omega)
    have hleads := leads_items d ds hd hreaches (by omega) (by omega) ht
    rwa [Level.close_openAt (by omega) (by omega)] at hleads
  | .record [], _ =>
    exact (h.reaches_space (startsInk_cons (by decide)) (by omega)).emptyRecord (by omega) ht
  | .record (f :: fs), hd =>
    have hreaches := h.reaches_space (startsInk_fieldLines (c + 2) hd _) (by omega)
    have hleads := leads_fields f fs hd hreaches (by omega) (by omega) ht
    rwa [Level.close_openAt (by omega) (by omega)] at hleads
termination_by sizeOf d

/-- The items of a list. -/
theorem leads_items (d : Data) (ds : List Data) (hds : HaveKeys (d :: ds)) {s : Scan} {l : Level}
    {c k : Nat} {t : List Char} (h : s.Reaches (itemLines c (d :: ds) ++ (spaces k ++ t)) c true l)
    (hindent : l.indent ≤ c) (hk : k ≤ c) (ht : StartsInk t) :
    ∃ s', s.Leads s' ∧ s'.Reaches t k true
      (((l.openAt c .blockSequenceStart).push (itemTokens (d :: ds))).close k) := by
  have hopen : (l.openAt c .blockSequenceStart).indent = c := Level.indent_openAt hindent
  match ds, hds with
  | [], hds =>
    rw [itemLines, List.cons_append, List.cons_append] at h
    obtain ⟨s₁, hlead, h₁⟩ := h.dash
    have hleads := leads_item d hds.1 h₁ hopen hk ht
    rw [Level.push_push] at hleads
    rw [itemTokens, itemTokens, List.append_nil]
    exact hlead.trans_exists hleads
  | d' :: ds, hds =>
    rw [itemLines_cons_cons, List.cons_append, List.cons_append, List.append_assoc,
      List.append_assoc] at h
    obtain ⟨s₁, hlead₁, h₁⟩ := h.dash
    obtain ⟨s₂, hlead₂, h₂⟩ :=
      leads_item d hds.1 h₁ hopen (Nat.le_refl c) (startsInk_itemLines c d' ds _)
    -- the next item stands in the same column, so that nothing is closed or opened there
    have hindent₂ : (((l.openAt c .blockSequenceStart).push [.blockEntry]).push
        (tokensOf false d)).indent = c := hopen
    rw [Level.close_of_le (Int.le_of_eq hindent₂)] at h₂
    have hleads := leads_items d' ds hds.2 h₂ (Int.le_of_eq hindent₂) hk ht
    rw [Level.openAt_of_eq hindent₂, Level.push_push, Level.push_push] at hleads
    rw [itemTokens]
    exact hlead₁.trans_exists (hlead₂.trans_exists (by simpa using hleads))
termination_by sizeOf (d :: ds)

/-- The fields of a record. -/
theorem leads_fields (f : String × Data) (fs : List (String × Data)) (hfs : FieldsHaveKeys (f :: fs))
    {s : Scan} {l : Level} {c k : Nat} {t : List Char}
    (h : s.Reaches (fieldLines c (f :: fs) ++ (spaces k ++ t)) c true l) (hindent : l.indent ≤ c)
    (hk : k ≤ c) (ht : StartsInk t) :
    ∃ s', s.Leads s' ∧ s'.Reaches t k true
      (((l.openAt c .blockMappingStart).push (fieldTokens (f :: fs))).close k) := by
  have hopen : (l.openAt c .blockMappingStart).indent = c := Level.indent_openAt hindent
  match f, fs, hfs with
  | (key, d), [], ⟨hkey, hd, _⟩ =>
    rw [fieldLines, List.append_assoc, List.cons_append] at h
    obtain ⟨s₁, hlead, h₁⟩ :=
      h.key hkey.isKeyChar hkey.1 hkey.2.1 (isBlankOrEnd_valueLines c d _) hindent
    have hleads := leads_value d hd h₁ hopen (by omega) hk ht
    rw [Level.push_push, String.ofList_toList] at hleads
    rw [fieldTokens, fieldTokens, List.append_nil]
    exact hlead.trans_exists hleads
  | (key, d), f' :: fs, ⟨hkey, hd, hfs⟩ =>
    rw [fieldLines_cons_cons, List.append_assoc, List.cons_append, List.append_assoc,
      List.append_assoc] at h
    obtain ⟨s₁, hlead₁, h₁⟩ :=
      h.key hkey.isKeyChar hkey.1 hkey.2.1 (isBlankOrEnd_valueLines c d _) hindent
    obtain ⟨s₂, hlead₂, h₂⟩ :=
      leads_value d hd h₁ hopen (by omega) (Nat.le_refl c) (startsInk_fieldLines c hfs _)
    have hindent₂ : (((l.openAt c .blockMappingStart).push
        [.key, .scalar .plain (String.ofList key.toList), .value]).push
          (tokensOf true d)).indent = c := hopen
    rw [Level.close_of_le (Int.le_of_eq hindent₂)] at h₂
    have hleads := leads_fields f' fs hfs h₂ (Int.le_of_eq hindent₂) hk ht
    rw [Level.openAt_of_eq hindent₂, Level.push_push, Level.push_push, String.ofList_toList] at hleads
    rw [fieldTokens]
    exact hlead₁.trans_exists (hlead₂.trans_exists (by simpa using hleads))
termination_by sizeOf (f :: fs)

end

end Scan

/-! ## The characters -/

theorem readable_scalarLine (column : Nat) (s : String) : Readable (scalarLine column s) :=
  (isScalarLine_scalarLine column s).readable

theorem readable_flagLine (b : Bool) : Readable (flagChars b ++ ['\n']) :=
  (isScalarLine_flag 0 b).readable

theorem readable_key {key : String} (h : IsKey key) : Readable key.toList :=
  readable_of_printable fun c hc => (isKeyChar_printable (h.isKeyChar c hc)).1

mutual

theorem readable_valueLines (column : Nat) (d : Data) (hd : HasKeys d) :
    Readable (valueLines column d) := by
  have hspace : isReadable ' ' = true := by decide
  match d, hd with
  | .text s, _ => exact readable_cons.2 ⟨hspace, readable_scalarLine _ s⟩
  | .flag b, _ => exact readable_cons.2 ⟨hspace, readable_flagLine b⟩
  | .items [], _ => exact readable_of_all (by decide : " []\n".toList.all isReadable = true)
  | .items (d :: ds), hd =>
    simp [valueLines, readable_itemLines column (d :: ds) hd]
  | .record [], _ => exact readable_of_all (by decide : " \x7b\x7d\n".toList.all isReadable = true)
  | .record (f :: fs), hd =>
    simp [valueLines, readable_fieldLines (column + 2) (f :: fs) hd]
termination_by sizeOf d

theorem readable_itemBody (column : Nat) (d : Data) (hd : HasKeys d) :
    Readable (itemBody column d) := by
  match d, hd with
  | .text s, _ => exact readable_scalarLine _ s
  | .flag b, _ => exact readable_flagLine b
  | .items [], _ => exact readable_of_all (by decide : "[]\n".toList.all isReadable = true)
  | .items (d :: ds), hd => exact readable_itemLines (column + 2) (d :: ds) hd
  | .record [], _ => exact readable_of_all (by decide : "\x7b\x7d\n".toList.all isReadable = true)
  | .record (f :: fs), hd => exact readable_fieldLines (column + 2) (f :: fs) hd
termination_by sizeOf d

theorem readable_itemLines (column : Nat) (ds : List Data) (hds : HaveKeys ds) :
    Readable (itemLines column ds) := by
  have hdash : isReadable '-' = true ∧ isReadable ' ' = true := by decide
  match ds, hds with
  | [], _ => exact readable_nil
  | [d], hd => simp [itemLines, hdash, readable_itemBody column d hd.1]
  | d :: d' :: ds, hds =>
    rw [itemLines_cons_cons]
    simp [hdash, readable_itemBody column d hds.1, readable_itemLines column (d' :: ds) hds.2]
termination_by sizeOf ds

theorem readable_fieldLines (column : Nat) (fs : List (String × Data)) (hfs : FieldsHaveKeys fs) :
    Readable (fieldLines column fs) := by
  have hcolon : isReadable ':' = true := by decide
  match fs, hfs with
  | [], _ => exact readable_nil
  | [(key, d)], ⟨hkey, hd, _⟩ =>
    simp [fieldLines, hcolon, readable_key hkey, readable_valueLines column d hd]
  | (key, d) :: f :: fs, ⟨hkey, hd, hfs⟩ =>
    rw [fieldLines_cons_cons]
    simp [hcolon, readable_key hkey, readable_valueLines column d hd,
      readable_fieldLines column (f :: fs) hfs]
termination_by sizeOf fs

end

/-! ## The whole text -/

/-- The tokens of a record that is written as a whole text. -/
theorem scan_fieldLines (f : String × Data) (fs : List (String × Data))
    (h : FieldsHaveKeys (f :: fs)) :
    scan (fieldLines 0 (f :: fs)) =
      some (.blockMappingStart :: fieldTokens (f :: fs) ++ [.blockEnd]) := by
  have hstart : ({ cursor := { rest := fieldLines 0 (f :: fs) } } : Scan).Stands
      (fieldLines 0 (f :: fs) ++ (spaces 0 ++ [])) 0 true ⟨[], -1, []⟩ :=
    ⟨(List.append_nil _).symm, rfl, rfl, rfl, rfl⟩
  obtain ⟨s, hleads, hs⟩ := Scan.leads_fields f fs h
    (hstart.reaches_self (startsInk_fieldLines 0 h _) (by decide)) (by decide) (Nat.le_refl 0) nofun
  -- the record is still open at the end of the text
  have hopen : (Level.openAt ⟨[], -1, []⟩ 0 .blockMappingStart).push (fieldTokens (f :: fs)) =
      ⟨.blockMappingStart :: fieldTokens (f :: fs), 0, [-1]⟩ := rfl
  rw [hopen, Level.close_of_le (Int.le_refl 0)] at hs
  have hne : fieldLines 0 (f :: fs) ≠ [] := by
    obtain ⟨key, d⟩ := f
    cases fs <;> simp [fieldLines]
  have hreadable := List.all_eq_true.2 (readable_fieldLines 0 (f :: fs) h)
  rw [scan_of_leads hne hreadable hleads hs (Int.le_refl 0)]
  rfl

end AsyncIdioms.Yaml
