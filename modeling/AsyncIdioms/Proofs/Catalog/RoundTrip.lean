/-
  Every catalog survives being written and read back, as YAML and as JSON.

  * `Yaml.readsBack_nodeOf` : YAML reads back the nodes of data; a text is never taken for an absent
    value, since it is written between quotes where it would be;
  * `Catalog.hasKeys_data` : the names of all fields can be written as keys;
  * `Catalog.ofYaml_toYaml`, `Catalog.ofJson_toJson` : reading the text of a catalog gives the catalog,
    whatever its rules and texts are.
-/
import AsyncIdioms.Catalog.Load
import AsyncIdioms.Proofs.Catalog.Record
import AsyncIdioms.Proofs.Json.RoundTrip
import AsyncIdioms.Proofs.Yaml.Nodes

namespace AsyncIdioms

open Data

namespace Yaml

theorem nodesOf_eq (ds : List Data) : nodesOf ds = ds.map nodeOf := by
  induction ds with
  | nil => rfl
  | cons d ds ih => rw [nodesOf, ih, List.map_cons]

theorem entriesOf_eq (fields : List (String × Data)) :
    entriesOf fields = fields.map fun f => (.scalar .plain none f.1, nodeOf f.2) := by
  induction fields with
  | nil => rfl
  | cons f fields ih => rw [entriesOf, ih, List.map_cons]

/-! ## YAML as a source -/

/-- A text is never taken for an absent value. -/
theorem present?_nodeOf_text (s : String) :
    (nodeOf (.text s)).present? = some (some (nodeOf (.text s))) := by
  have hsuits := chooseStyle_suits s
  cases hstyle : chooseStyle s with
  | plain =>
    rw [hstyle] at hsuits
    have htext := hsuits.1
    simp only [readsAsText, Bool.not_eq_true', Bool.or_eq_false_iff] at htext
    simp [nodeOf, hstyle, Node.present?, Node.target, htext]
  | singleQuoted => simp [nodeOf, hstyle, Node.present?, Node.target]
  | doubleQuoted => simp [nodeOf, hstyle, Node.present?, Node.target]
  | literal => simp [nodeOf, hstyle, Node.present?, Node.target]
  | folded => simp [nodeOf, hstyle, Node.present?, Node.target]

theorem text?_key (name : String) : (Node.scalar .plain none name).text? = some name := rfl

/-- Fields that are not repeated are known among names that hold theirs. -/
theorem knownKeys_entriesOf {names : List String} {fields : List (String × Data)}
    (hnodup : (fields.map (·.1)).Nodup) (hnames : ∀ f ∈ fields, f.1 ∈ names) :
    Node.knownKeys names (entriesOf fields) = true := by
  induction fields with
  | nil => rfl
  | cons f fields ih =>
    obtain ⟨hfirst, hnodup⟩ := List.nodup_cons.1 hnodup
    obtain ⟨hname, hnames⟩ := List.forall_mem_cons.1 hnames
    have hothers : (entriesOf fields).all (·.1.text? != some f.1) = true := by
      rw [entriesOf_eq, List.all_eq_true]
      intro entry hentry
      obtain ⟨field, hfield, rfl⟩ := List.mem_map.1 hentry
      have hne : field.1 ≠ f.1 := fun heq => hfirst (List.mem_map.2 ⟨field, hfield, heq⟩)
      simpa [text?_key] using hne
    rw [entriesOf, Node.knownKeys, text?_key, hothers, ih hnodup hnames]
    simpa using hname

theorem fields?_nodeOf {names : List String} {rows : List (String × Option Data)}
    (hnames : rows.map (·.1) = names) (hnodup : names.Nodup) :
    (nodeOf (.record (rowFields rows))).fields? names =
      some (rows.map fun row => row.2.map nodeOf) := by
  subst hnames
  have hsublist := sublist_rowFields rows
  have hknown : Node.knownKeys (rows.map (·.1)) (entriesOf (rowFields rows)) = true :=
    knownKeys_entriesOf (hsublist.nodup hnodup) fun f hf =>
      hsublist.subset (List.mem_map_of_mem hf)
  have hfind : ∀ row ∈ rows, ((entriesOf (rowFields rows)).find? (·.1.text? == some row.1)).map (·.2) =
      row.2.map nodeOf := by
    intro row hrow
    rw [← find?_rowFields hnodup hrow, entriesOf_eq, List.find?_map]
    simp [Function.comp_def, text?_key]
  have hfields : (nodeOf (.record (rowFields rows))).fields? (rows.map (·.1)) =
      some ((rows.map (·.1)).map fun name =>
        ((entriesOf (rowFields rows)).find? (·.1.text? == some name)).map (·.2)) := if_pos hknown
  rw [hfields, List.map_map]
  exact congrArg some (List.map_congr_left hfind)

/-- YAML reads back the nodes of data. -/
theorem readsBack_nodeOf : source.ReadsBack nodeOf where
  text _ := rfl
  flag b := by cases b <;> decide
  items ds := congrArg some (nodesOf_eq ds)
  fields := fields?_nodeOf
  word _ := rfl
  presentText := present?_nodeOf_text
  presentFlag b := by cases b <;> rfl

/-! ## The keys of catalogs -/

theorem hasKeys_text (s : String) : HasKeys (.text s) := trivial

theorem hasKeys_flag (b : Bool) : HasKeys (.flag b) := trivial

theorem haveKeys_map {α : Type} {f : α → Data} (h : ∀ x, HasKeys (f x)) (xs : List α) :
    HaveKeys (xs.map f) := by
  induction xs with
  | nil => trivial
  | cons x xs ih => exact ⟨h x, ih⟩

theorem hasKeys_cons {name : String} {d : Option Data} {rows : List (String × Option Data)}
    (hkey : IsKey name) (hd : ∀ x ∈ d, HasKeys x) (hrows : HasKeys (.record (rowFields rows))) :
    HasKeys (.record (rowFields ((name, d) :: rows))) := by
  cases d with
  | none => exact hrows
  | some d => exact ⟨hkey, hd d rfl, hrows⟩

theorem hasKeys_some {d : Data} (h : HasKeys d) : ∀ x ∈ some d, HasKeys x :=
  fun _ hx => Option.some.inj hx ▸ h

theorem hasKeys_map {α : Type} {f : α → Data} (h : ∀ x, HasKeys (f x)) (o : Option α) :
    ∀ x ∈ o.map f, HasKeys x := by
  cases o with
  | none => nofun
  | some x => exact hasKeys_some (h x)

theorem hasKeys_trueFlag (b : Bool) : ∀ x ∈ trueFlag b, HasKeys x := by
  cases b with
  | false => nofun
  | true => exact hasKeys_some (hasKeys_flag true)

theorem hasKeys_nonemptyItems {α : Type} {f : α → Data} (h : ∀ x, HasKeys (f x)) (xs : List α) :
    ∀ x ∈ nonemptyItems (xs.map f), HasKeys x := by
  cases xs with
  | nil => nofun
  | cons x xs => exact hasKeys_some (haveKeys_map h (x :: xs))

end Yaml

open Yaml

theorem TextCondition.hasKeys_data (c : TextCondition) : HasKeys c.data := by
  rw [data_eq]
  exact hasKeys_cons (by decide) (hasKeys_some (hasKeys_text _)) <|
    hasKeys_cons (by decide) (hasKeys_some (hasKeys_text _)) <|
    hasKeys_cons (by decide) (hasKeys_map hasKeys_text _) <|
    hasKeys_cons (by decide) (hasKeys_nonemptyItems hasKeys_text _) <|
    hasKeys_cons (by decide) (hasKeys_trueFlag _) <|
    hasKeys_cons (by decide) (hasKeys_trueFlag _) trivial

theorem TagCondition.hasKeys_data (c : TagCondition) : HasKeys c.data := by
  rw [data_eq]
  exact hasKeys_cons (by decide) (hasKeys_some (hasKeys_text _)) <|
    hasKeys_cons (by decide) (hasKeys_trueFlag _) trivial

theorem Clause.hasKeys_data (c : Clause) : HasKeys c.data := by
  rw [data_eq]
  exact hasKeys_cons (by decide) (hasKeys_map hasKeys_flag _) <|
    hasKeys_cons (by decide) (hasKeys_map hasKeys_flag _) <|
    hasKeys_cons (by decide) (hasKeys_map hasKeys_flag _) <|
    hasKeys_cons (by decide) (hasKeys_nonemptyItems TextCondition.hasKeys_data _) <|
    hasKeys_cons (by decide) (hasKeys_nonemptyItems TagCondition.hasKeys_data _) trivial

theorem Rule.hasKeys_data (r : Rule) : HasKeys r.data := by
  rw [data_eq]
  exact hasKeys_cons (by decide) (hasKeys_some (hasKeys_text _)) <|
    hasKeys_cons (by decide) (hasKeys_map hasKeys_text _) <|
    hasKeys_cons (by decide) (hasKeys_some (haveKeys_map Clause.hasKeys_data _)) trivial

theorem Catalog.hasKeys_data (c : Catalog) : HasKeys c.data := by
  rw [data_eq]
  exact hasKeys_cons (by decide) (hasKeys_some (haveKeys_map Rule.hasKeys_data _)) trivial

/-- Reading the text of a catalog gives the catalog, whatever its rules and texts are. -/
theorem Catalog.ofYaml_toYaml (c : Catalog) : ofYaml c.toYaml = .ok c := by
  have hparse : Yaml.parse? c.toYaml = some (nodeOf c.data) := parse?_render _ _ c.hasKeys_data
  rw [ofYaml, hparse, Option.bind_some, read?_data readsBack_nodeOf c]

/-- Reading the JSON text of a catalog gives the catalog, whatever its rules and texts are. -/
theorem Catalog.ofJson_toJson (c : Catalog) : ofJson c.toJson = .ok c := by
  have hparse : Json.parse? c.toJson = some (Json.ofData c.data) := Json.parse?_render c.data
  rw [ofJson, hparse, Option.bind_some, read?_data Json.readsBack_ofData c]

end AsyncIdioms
