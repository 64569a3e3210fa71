/-
  Data written as JSON is read back.

  * `spellsUnits_text` : in a string literal, the escapes spell the characters that were escaped;
  * `decodeUnits_toNat` : characters are no surrogates, so each one is decoded on its own;
  * `spells_ofData` : what is written for data spells the value of the data;
  * `parse?_render` : so the text of data is read as the value of the data;
  * `readsBack_ofData` : from this value, the data are read.
-/
import Mathlib.Data.List.Nodup
import Mathlib.Data.Option.Basic
import AsyncIdioms.Json.Source
import AsyncIdioms.Proofs.Catalog.Record
import AsyncIdioms.Proofs.Json.Grammar

namespace AsyncIdioms.Json

open Data Text

/-! ## String literals -/

theorem hexNumber?_control {n : Nat} (h : n < 0x20) :
    hexNumber? ['0', '0', hexDigit (n / 16), hexDigit (n % 16)] = some n := by
  have hall : ∀ n < 0x20, hexNumber? ['0', '0', hexDigit (n / 16), hexDigit (n % 16)] = some n := by
    decide
  exact hall n h

/-- A character is spelled as it is written. -/
theorem SpellsUnits.escapeChar {units : List Nat} {cs : List Char} (h : SpellsUnits units cs)
    (c : Char) : SpellsUnits (c.toNat :: units) (Json.escapeChar c ++ cs) := by
  unfold Json.escapeChar
  split
  · exact .letter rfl h
  · exact .letter rfl h
  · exact .letter rfl h
  · exact .letter rfl h
  · exact .letter rfl h
  next hquote hslash _ _ _ =>
    split
    next hc =>
      rw [hc]
      exact .letter rfl h
    next =>
      split
      next hc =>
        rw [hc]
        exact .letter rfl h
      next =>
        split
        next hc => exact .hex (hexNumber?_control hc) h
        next hc => exact .char hquote hslash (Nat.le_of_not_lt hc) h

theorem spellsUnits_text (cs : List Char) :
    SpellsUnits (cs.map Char.toNat) (cs.flatMap escapeChar) := by
  induction cs with
  | nil => exact .nil
  | cons c cs ih => exact ih.escapeChar c

/-- A character is no surrogate. -/
theorem not_surrogate (c : Char) :
    isHighSurrogate c.toNat = false ∧ isLowSurrogate c.toNat = false := by
  have hc : c.toNat < 0xD800 ∨ (0xDFFF < c.toNat ∧ c.toNat < 0x110000) := c.valid
  simp only [isHighSurrogate, isLowSurrogate, Bool.and_eq_false_iff, decide_eq_false_iff_not]
  omega

theorem decodeUnits_toNat (cs : List Char) : decodeUnits (cs.map Char.toNat) = some cs := by
  induction cs with
  | nil => rfl
  | cons c cs ih =>
    obtain ⟨hhigh, hlow⟩ := not_surrogate c
    cases cs with
    | nil => simp [decodeUnits, hhigh, hlow]
    | cons d cs =>
      rw [List.map_cons] at ih
      rw [List.map_cons, List.map_cons, decodeUnits, hhigh, hlow, ih]
      simp

theorem spellsText_text (s : String) : SpellsText (some s) (s.toList.flatMap escapeChar) :=
  ⟨_, spellsUnits_text s.toList, by rw [decodeUnits_toNat, Option.map_some, String.ofList_toList]⟩

theorem spellsKey_literal (s : String) : SpellsKey (some s) (literalChars (some s)) :=
  ⟨[], _, [], isBlanks_nil, spellsText_text s, isBlanks_nil, rfl⟩

/-! ## What is written for data -/

mutual
/-- What is written for data spells the value of the data. -/
theorem spells_ofData : ∀ d : Data, Spells (ofData d) (ofData d).chars
  | .text s => .string (spellsText_text s)
  | .flag b => .bool b
  | .items ds => by
    rw [ofData, chars]
    exact .array isBlanks_nil (spellsItems_ofItems ds)
  | .record fields => by
    rw [ofData, chars]
    exact .object isBlanks_nil (spellsMembers_ofFields fields)
theorem spellsItems_ofItems : ∀ ds : List Data, SpellsItems (ofItems ds) (itemChars (ofItems ds))
  | [] => .nil
  | [d] => .last (spells_ofData d)
  | d :: d' :: ds => .more (spells_ofData d) (spellsItems_ofItems (d' :: ds))
theorem spellsMembers_ofFields : ∀ fields : List (String × Data),
    SpellsMembers (ofFields fields) (memberChars (ofFields fields))
  | [] => .nil
  | [(key, d)] => .last (spellsKey_literal key) (spells_ofData d)
  | (key, d) :: (key', d') :: fields => by
    have hmore := SpellsMembers.more (spellsKey_literal key) (spells_ofData d)
      (spellsMembers_ofFields ((key', d') :: fields))
    simpa [ofFields, memberChars] using hmore
end

/-- The text of data is read as the value of the data. -/
theorem parse?_render (d : Data) : parse? (ofData d).render = some (ofData d) := by
  rw [parse?_eq_some_iff, render, String.toList_ofList]
  exact spells_ofData d

/-! ## JSON as a source -/

theorem ofItems_eq (ds : List Data) : ofItems ds = ds.map ofData := by
  induction ds with
  | nil => rfl
  | cons d ds ih => rw [ofItems, ih, List.map_cons]

theorem ofFields_eq (fields : List (String × Data)) :
    ofFields fields = fields.map fun f => (some f.1, ofData f.2) := by
  induction fields with
  | nil => rfl
  | cons f fields ih => rw [ofFields, ih, List.map_cons]

/-- The keys are known if they are all among the names, and none is repeated. -/
theorem knownKeys_eq_true_iff {names : List String} {ms : List (Option String × Json)} :
    knownKeys names ms = true ↔
      (∀ m ∈ ms, ∃ name ∈ names, m.1 = some name) ∧ (ms.map (·.1)).Nodup := by
  induction ms with
  | nil => simp [knownKeys]
  | cons m ms ih =>
    obtain ⟨key, v⟩ := m
    have hname : key.any names.contains = true ↔ ∃ name ∈ names, key = some name := by
      cases key <;> simp
    have hothers : ms.all (·.1 != key) = true ↔ key ∉ ms.map (·.1) := by
      simp only [List.all_eq_true, bne_iff_ne, List.mem_map, not_exists, not_and]
    rw [knownKeys, Bool.and_eq_true, Bool.and_eq_true, hname, hothers, ih, List.forall_mem_cons,
      List.map_cons, List.nodup_cons]
    tauto

/-- Fields that are not repeated are known among names that hold theirs. -/
theorem knownKeys_ofFields {names : List String} {fields : List (String × Data)}
    (hnodup : (fields.map (·.1)).Nodup) (hnames : ∀ f ∈ fields, f.1 ∈ names) :
    knownKeys names (ofFields fields) = true := by
  rw [knownKeys_eq_true_iff, ofFields_eq]
  constructor
  · intro m hm
    obtain ⟨f, hf, rfl⟩ := List.mem_map.1 hm
    exact ⟨f.1, hnames f hf, rfl⟩
  · have hkeys : (fields.map fun f => (some f.1, ofData f.2)).map (·.1) =
        (fields.map (·.1)).map some := by simp
    rw [hkeys]
    exact hnodup.map (Option.some_injective String)

theorem fields?_ofData {names : List String} {rows : List (String × Option Data)}
    (hnames : rows.map (·.1) = names) (hnodup : names.Nodup) :
    fields? names (ofData (.record (rowFields rows))) =
      some (rows.map fun row => row.2.map ofData) := by
  subst hnames
  have hsublist := sublist_rowFields rows
  have hknown : knownKeys (rows.map (·.1)) (ofFields (rowFields rows)) = true :=
    knownKeys_ofFields (hsublist.nodup hnodup) fun f hf => hsublist.subset (List.mem_map_of_mem hf)
  have hfind : ∀ row ∈ rows, ((ofFields (rowFields rows)).find? (·.1 == some row.1)).map (·.2) =
      row.2.map ofData := by
    intro row hrow
    rw [← find?_rowFields hnodup hrow, ofFields_eq, List.find?_map]
    simp [Function.comp_def]
  rw [ofData, fields?, if_pos hknown, List.map_map]
  exact congrArg some (List.map_congr_left hfind)

/-- JSON reads back the values of data. -/
theorem readsBack_ofData : source.ReadsBack ofData where
  text _ := rfl
  flag _ := rfl
  items ds := congrArg some (ofItems_eq ds)
  fields := fields?_ofData
  word _ := rfl
  presentText _ := rfl
  presentFlag _ := rfl

end AsyncIdioms.Json
