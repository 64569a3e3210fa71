/-
  Written data is read as its nodes.

  * `nodeOf` : the node of data; texts keep the style in which they are written;
  * `readNode_tokensOf` : the tokens of data are read as its node, with what follows left, by induction
    on the data. The depth that is needed is bounded by the number of tokens;
  * `parse?_render` : the text of a record is read as its node.
-/
import AsyncIdioms.Proofs.Yaml.Layout
import AsyncIdioms.Yaml.Node

namespace AsyncIdioms.Yaml

mutual

/-- The node of data. -/
def nodeOf : Data → Node
  | .text s => .scalar (chooseStyle s) none s
  | .flag b => .scalar .plain none (String.ofList (flagChars b))
  | .items ds => .items (nodesOf ds)
  | .record fields => .fields (entriesOf fields)

def nodesOf : List Data → List Node
  | [] => []
  | d :: ds => nodeOf d :: nodesOf ds

def entriesOf : List (String × Data) → List (Node × Node)
  | [] => []
  | (key, d) :: fields => (.scalar .plain none key, nodeOf d) :: entriesOf fields

end

/-! ## Reading tokens -/

section
variable {handles : Handles} {n : Nat} {inBlock indentless : Bool} {rest : List Token}

theorem readNode_scalar (style : Style) (text : String) :
    readNode handles (n + 1) inBlock indentless [] (.scalar style text :: rest) =
      some (.scalar style none text, [], rest) := by
  simp [readNode, readDecoration, noteAnchor]

theorem readNode_emptyItems :
    readNode handles (n + 2) inBlock indentless [] (.flowSequenceStart :: .flowSequenceEnd :: rest) =
      some (.items [], [], rest) := by
  simp [readNode, readDecoration, noteAnchor, readFlowItems]

theorem readNode_emptyRecord :
    readNode handles (n + 2) inBlock indentless [] (.flowMappingStart :: .flowMappingEnd :: rest) =
      some (.fields [], [], rest) := by
  simp [readNode, readDecoration, noteAnchor, readFlowFields]

theorem readNode_blockSequence {nodes : List Node} {rest' : List Token}
    (h : readBlockItems handles n [] rest = some (nodes, [], rest')) :
    readNode handles (n + 1) true indentless [] (.blockSequenceStart :: rest) =
      some (.items nodes, [], rest') := by
  simp [readNode, readDecoration, noteAnchor, h]

theorem readNode_indentless {nodes : List Node} {rest' : List Token}
    (h : readIndentlessItems handles n [] (.blockEntry :: rest) = some (nodes, [], rest')) :
    readNode handles (n + 1) inBlock true [] (.blockEntry :: rest) =
      some (.items nodes, [], rest') := by
  simp [readNode, readDecoration, noteAnchor, h]

theorem readNode_blockMapping {entries : List (Node × Node)} {rest' : List Token}
    (h : readBlockFields handles n [] rest = some (entries, [], rest')) :
    readNode handles (n + 1) true indentless [] (.blockMappingStart :: rest) =
      some (.fields entries, [], rest') := by
  simp [readNode, readDecoration, noteAnchor, h]

end

/-- The tokens of an item are not empty, so that the item is not left out. -/
theorem not_ends_tokensOf_item (d : Data) (rest : List Token) :
    endsBlockItem (tokensOf false d ++ rest) = false ∧
      endsBlockPart true (tokensOf false d ++ rest) = false := by
  match d with
  | .text s => exact ⟨rfl, rfl⟩
  | .flag b => exact ⟨rfl, rfl⟩
  | .items [] => exact ⟨rfl, rfl⟩
  | .items (d :: ds) => exact ⟨rfl, rfl⟩
  | .record [] => exact ⟨rfl, rfl⟩
  | .record (f :: fs) => exact ⟨rfl, rfl⟩

theorem not_ends_tokensOf_value (d : Data) (rest : List Token) :
    endsBlockPart false (tokensOf true d ++ rest) = false := by
  match d with
  | .text s => rfl
  | .flag b => rfl
  | .items [] => rfl
  | .items (d :: ds) => rfl
  | .record [] => rfl
  | .record (f :: fs) => rfl

section
variable {handles : Handles}

/-! The depth goes down by one with each collection and with each item or field in it, and there are
more tokens than that; only a list without indentation has no tokens of its own. -/

mutual

theorem readNode_tokensOf (d : Data) {indentless : Bool} {n : Nat} {rest : List Token}
    (hn : (tokensOf indentless d).length + 2 * indentless.toNat ≤ n)
    (hrest : indentless = true → rest.head? ≠ some .blockEntry) :
    readNode handles n true indentless [] (tokensOf indentless d ++ rest) =
      some (nodeOf d, [], rest) := by
  match d with
  | .text s =>
    obtain ⟨m, rfl⟩ : ∃ m, n = m + 1 := ⟨n - 1, by simp [tokensOf] at hn; omega⟩
    exact readNode_scalar _ _
  | .flag b =>
    obtain ⟨m, rfl⟩ : ∃ m, n = m + 1 := ⟨n - 1, by simp [tokensOf] at hn; omega⟩
    exact readNode_scalar _ _
  | .items [] =>
    obtain ⟨m, rfl⟩ : ∃ m, n = m + 2 := ⟨n - 2, by simp [tokensOf] at hn; omega⟩
    exact readNode_emptyItems
  | .items (d :: ds) =>
    cases indentless with
    | true =>
      simp only [tokensOf, if_true, Bool.toNat_true] at hn
      obtain ⟨m, rfl⟩ : ∃ m, n = m + 1 := ⟨n - 1, by omega⟩
      exact readNode_indentless (readIndentlessItems_itemTokens (d :: ds) (by omega) (hrest rfl))
    | false =>
      simp only [tokensOf, Bool.false_eq_true, if_false, List.length_append, List.length_cons] at hn
      obtain ⟨m, rfl⟩ : ∃ m, n = m + 1 := ⟨n - 1, by omega⟩
      rw [tokensOf, if_neg (by decide), List.append_assoc]
      exact readNode_blockSequence (readBlockItems_itemTokens (d :: ds) (by omega))
  | .record [] =>
    obtain ⟨m, rfl⟩ : ∃ m, n = m + 2 := ⟨n - 2, by simp [tokensOf] at hn; omega⟩
    exact readNode_emptyRecord
  | .record (f :: fs) =>
    simp only [tokensOf, List.length_append, List.length_cons] at hn
    obtain ⟨m, rfl⟩ : ∃ m, n = m + 1 := ⟨n - 1, by omega⟩
    rw [tokensOf, List.append_assoc]
    exact readNode_blockMapping (readBlockFields_fieldTokens (f :: fs) (by omega))
termination_by sizeOf d

theorem readBlockItems_itemTokens (ds : List Data) {n : Nat} {rest : List Token}
    (hn : (itemTokens ds).length + 1 ≤ n) :
    readBlockItems handles n [] (itemTokens ds ++ .blockEnd :: rest) =
      some (nodesOf ds, [], rest) := by
  match ds, n with
  | [], m + 1 => simp [itemTokens, readBlockItems, nodesOf]
  | d :: ds, m + 1 =>
    simp only [itemTokens, List.length_cons, List.length_append, List.cons_append] at hn
    have hitem : readNode handles m true false []
        (tokensOf false d ++ (itemTokens ds ++ .blockEnd :: rest)) =
          some (nodeOf d, [], itemTokens ds ++ .blockEnd :: rest) :=
      readNode_tokensOf d (by rw [Bool.toNat_false]; omega) nofun
    have hitems : readBlockItems handles m [] (itemTokens ds ++ .blockEnd :: rest) =
        some (nodesOf ds, [], rest) := readBlockItems_itemTokens ds (by omega)
    have hends := (not_ends_tokensOf_item d (itemTokens ds ++ .blockEnd :: rest)).1
    simp [itemTokens, readBlockItems, nodesOf, hends, hitem, hitems]
termination_by sizeOf ds

theorem readIndentlessItems_itemTokens (ds : List Data) {n : Nat} {rest : List Token}
    (hn : (itemTokens ds).length + 1 ≤ n) (hrest : rest.head? ≠ some .blockEntry) :
    readIndentlessItems handles n [] (itemTokens ds ++ rest) = some (nodesOf ds, [], rest) := by
  match ds, n with
  | [], m + 1 =>
    rw [itemTokens, List.nil_append, readIndentlessItems, nodesOf]
    rintro rest' rfl
    simp at hrest
  | d :: ds, m + 1 =>
    simp only [itemTokens, List.length_cons, List.length_append, List.cons_append] at hn
    have hitem : readNode handles m true false [] (tokensOf false d ++ (itemTokens ds ++ rest)) =
        some (nodeOf d, [], itemTokens ds ++ rest) :=
      readNode_tokensOf d (by rw [Bool.toNat_false]; omega) nofun
    have hitems : readIndentlessItems handles m [] (itemTokens ds ++ rest) =
        some (nodesOf ds, [], rest) := readIndentlessItems_itemTokens ds (by omega) hrest
    have hends := (not_ends_tokensOf_item d (itemTokens ds ++ rest)).2
    simp [itemTokens, readIndentlessItems, nodesOf, hends, hitem, hitems]
termination_by sizeOf ds

theorem readBlockFields_fieldTokens (fs : List (String × Data)) {n : Nat} {rest : List Token}
    (hn : (fieldTokens fs).length + 1 ≤ n) :
    readBlockFields handles n [] (fieldTokens fs ++ .blockEnd :: rest) =
      some (entriesOf fs, [], rest) := by
  match fs, n with
  | [], m + 1 => simp [fieldTokens, readBlockFields, entriesOf]
  | (key, d) :: fs, m + 1 =>
    simp only [fieldTokens, List.length_cons, List.length_append, List.length_nil] at hn
    obtain ⟨m, rfl⟩ : ∃ j, m = j + 1 := ⟨m - 1, by omega⟩
    have hnext : (fieldTokens fs ++ .blockEnd :: rest).head? ≠ some .blockEntry := by
      cases fs <;> simp [fieldTokens]
    have hvalue : readNode handles m true true []
        (tokensOf true d ++ (fieldTokens fs ++ .blockEnd :: rest)) =
          some (nodeOf d, [], fieldTokens fs ++ .blockEnd :: rest) :=
      readNode_tokensOf d (by rw [Bool.toNat_true]; omega) (fun _ => hnext)
    have hfields : readBlockFields handles (m + 1) [] (fieldTokens fs ++ .blockEnd :: rest) =
        some (entriesOf fs, [], rest) := readBlockFields_fieldTokens fs (by omega)
    have hkey (rest : List Token) : endsBlockPart false (.scalar .plain key :: rest) = false := rfl
    have hends := not_ends_tokensOf_value d (fieldTokens fs ++ .blockEnd :: rest)
    have hread : readBlockValue handles (m + 1) []
        (.value :: (tokensOf true d ++ (fieldTokens fs ++ .blockEnd :: rest))) =
          some (nodeOf d, [], fieldTokens fs ++ .blockEnd :: rest) := by
      rw [readBlockValue, hends, if_neg Bool.false_ne_true, hvalue]
    simp only [fieldTokens, List.cons_append, List.nil_append, List.append_assoc, readBlockFields,
      hkey, Bool.false_eq_true, if_false, readNode_scalar, Option.bind_eq_bind, Option.bind_some,
      hread, hfields]
    rfl
termination_by sizeOf fs

end

end

/-! ## Documents -/

mutual

/-- Written data has no aliases. -/
theorem jumps_nodeOf (d : Data) : (nodeOf d).jumps = 0 := by
  match d with
  | .text s => rfl
  | .flag b => rfl
  | .items ds => exact jumps_nodesOf ds
  | .record fs => exact jumps_entriesOf fs

theorem jumps_nodesOf (ds : List Data) : Node.jumpsOfList (nodesOf ds) = 0 := by
  match ds with
  | [] => rfl
  | d :: ds => rw [nodesOf, Node.jumpsOfList, jumps_nodeOf d, jumps_nodesOf ds]

theorem jumps_entriesOf (fs : List (String × Data)) : Node.jumpsOfEntries (entriesOf fs) = 0 := by
  match fs with
  | [] => rfl
  | (key, d) :: fs =>
    rw [entriesOf, Node.jumpsOfEntries, jumps_nodeOf d, jumps_entriesOf fs]
    rfl

end

theorem ofTokens?_record (f : String × Data) (fs : List (String × Data)) :
    Node.ofTokens? (tokensOf false (.record (f :: fs))) = some (nodeOf (.record (f :: fs))) := by
  have hread : readDocument (tokensOf false (.record (f :: fs))) =
      some (nodeOf (.record (f :: fs)), []) := by
    have hnode : readNode defaultHandles (2 * (tokensOf false (.record (f :: fs))).length + 2) true
        false [] (tokensOf false (.record (f :: fs)) ++ []) =
          some (nodeOf (.record (f :: fs)), [], []) :=
      readNode_tokensOf _ (by rw [Bool.toNat_false]; omega) nofun
    rw [List.append_nil] at hnode
    have hstart : startsExplicitly (tokensOf false (.record (f :: fs))) = false := rfl
    simp [readDocument, hstart, hnode]
  have hne : (tokensOf false (.record (f :: fs))).isEmpty = false := rfl
  have hguard (node : Node) (h : node.jumps = 0) : (([] : List Token).all (· == .documentEnd) &&
      decide (node.jumps ≤ 100 * node.weight)) = true := by
    simp [h]
  rw [Node.ofTokens?, hne, if_neg Bool.false_ne_true, hread, Option.bind_eq_bind, Option.bind_some]
  dsimp only
  rw [hguard _ (jumps_nodeOf _)]
  rfl

theorem dropByteOrderMark_of_startsInk {t : List Char} (h : StartsInk t) :
    dropByteOrderMark t = t := by
  cases t with
  | nil => rfl
  | cons c t =>
    obtain ⟨-, -, -, hmark⟩ := h.head
    simp [dropByteOrderMark, hmark]

/-- The text of a record is read as its node. -/
theorem parse?_render (f : String × Data) (fs : List (String × Data)) (h : FieldsHaveKeys (f :: fs)) :
    parse? (render (.record (f :: fs))) = some (nodeOf (.record (f :: fs))) := by
  have hink := startsInk_fieldLines 0 h []
  rw [List.append_nil] at hink
  rw [parse?, render, String.toList_ofList, dropByteOrderMark_of_startsInk hink,
    scan_fieldLines f fs h]
  exact ofTokens?_record f fs

end AsyncIdioms.Yaml
