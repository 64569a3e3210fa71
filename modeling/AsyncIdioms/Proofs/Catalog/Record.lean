/-
  Catalogs are read back from the data that is written for them.

  This holds for each format whose values can be read back (`Source.ReadsBack`): what is written for
  texts, flags, lists and records is read as the same, and a record gives its fields by their names,
  whichever of them have been left out.

  * `Data.rowFields` : the fields of a record, of which some are left out; the records of a catalog
    are of this form (`TextCondition.data_eq` and the like);
  * `Catalog.read?_data` : reading the data of a catalog gives the catalog, from the conditions up.
-/
import AsyncIdioms.Catalog.Record

namespace AsyncIdioms

namespace Data

/-- The fields of a record: the rows that have a value. -/
def rowFields (rows : List (String × Option Data)) : List (String × Data) :=
  rows.filterMap fun row => row.2.map (row.1, ·)

/-- A list, unless it is empty. -/
def nonemptyItems (ds : List Data) : Option Data := if ds.isEmpty then none else some (.items ds)

/-- A flag, unless it is false. -/
def trueFlag (b : Bool) : Option Data := if b then some (.flag true) else none

section
variable (name : String)

theorem listField_eq (ds : List Data) : listField name ds = optionalField name (nonemptyItems ds) := by
  rw [listField, nonemptyItems]
  split <;> rfl

theorem trueField_eq (b : Bool) : trueField name b = optionalField name (trueFlag b) := by
  cases b <;> rfl

@[simp]
theorem rowFields_nil : rowFields [] = [] := rfl

theorem rowFields_cons (d : Option Data) (rows : List (String × Option Data)) :
    rowFields ((name, d) :: rows) = optionalField name d ++ rowFields rows := by
  cases d <;> rfl

end

/-- The names of the fields are those of the rows, some left out. -/
theorem sublist_rowFields (rows : List (String × Option Data)) :
    ((rowFields rows).map (·.1)).Sublist (rows.map (·.1)) := by
  induction rows with
  | nil => exact .slnil
  | cons row rows ih =>
    obtain ⟨name, d⟩ := row
    cases d with
    | none => exact ih.cons name
    | some d => exact ih.cons_cons name

theorem find?_rowFields_eq_none {rows : List (String × Option Data)} {name : String}
    (h : name ∉ rows.map (·.1)) : (rowFields rows).find? (·.1 == name) = none := by
  rw [List.find?_eq_none]
  intro field hfield heq
  have hname := (sublist_rowFields rows).subset (List.mem_map_of_mem hfield)
  rw [beq_iff_eq.1 heq] at hname
  exact h hname

/-- Each row is found by its name. -/
theorem find?_rowFields {rows : List (String × Option Data)} (hnodup : (rows.map (·.1)).Nodup)
    {row : String × Option Data} (hrow : row ∈ rows) :
    ((rowFields rows).find? (·.1 == row.1)).map (·.2) = row.2 := by
  induction rows with
  | nil => contradiction
  | cons first rows ih =>
    obtain ⟨hfirst, hnodup⟩ := List.nodup_cons.1 hnodup
    rw [rowFields_cons, List.find?_append]
    rcases List.mem_cons.1 hrow with rfl | hrow
    · rw [find?_rowFields_eq_none hfirst]
      cases hd : row.2 <;> simp [optionalField]
    · have hne : first.1 ≠ row.1 := fun heq => hfirst (List.mem_map.2 ⟨row, hrow, heq.symm⟩)
      have hnone : (optionalField first.1 first.2).find? (·.1 == row.1) = none := by
        cases hd : first.2 <;> simp [optionalField, hne]
      rw [hnone, Option.none_or, ih hnodup hrow]

end Data

open Data

theorem TextCondition.data_eq (c : TextCondition) :
    c.data = .record (rowFields [("subject", some (.text c.subject.name)),
      ("op", some (.text c.op.name)), ("value", c.value.map .text),
      ("values", nonemptyItems (c.values.map .text)), ("negate", trueFlag c.negate),
      ("ignore_case", trueFlag c.ignoreCase)]) := by
  simp [data, listField_eq, trueField_eq, rowFields_cons, optionalField]

theorem TagCondition.data_eq (c : TagCondition) :
    c.data = .record (rowFields [("tag", some (.text c.tag.name)),
      ("negate", trueFlag c.negate)]) := by
  simp [data, trueField_eq, rowFields_cons, optionalField]

theorem Clause.data_eq (c : Clause) :
    c.data = .record (rowFields [("returns_void", c.returnsVoid.map .flag),
      ("returns_task", c.returnsTask.map .flag), ("has_declaration", c.hasDeclaration.map .flag),
      ("text", nonemptyItems (c.text.map (·.data))),
      ("tagged", nonemptyItems (c.tagged.map (·.data)))]) := by
  simp [data, listField_eq, rowFields_cons]

theorem Rule.data_eq (r : Rule) :
    r.data = .record (rowFields [("tag", some (.text r.tag.name)),
      ("description", r.description.map .text),
      ("clauses", some (.items (r.clauses.map (·.data))))]) := by
  simp [data, rowFields_cons, optionalField]

theorem Catalog.data_eq (c : Catalog) :
    c.data = .record (rowFields [("rules", some (.items (c.rules.map (·.data))))]) := rfl

/-! ## Sources that read back what is written -/

namespace Source

variable {α β : Type} {src : Source α} {write : Data → α}

/-- What `write` makes of data is read back by the source. -/
structure ReadsBack (src : Source α) (write : Data → α) : Prop where
  text (s : String) : src.text? (write (.text s)) = some s
  flag (b : Bool) : src.flag? (write (.flag b)) = some b
  items (ds : List Data) : src.items? (write (.items ds)) = some (ds.map write)
  /-- The fields that have been left out are missing, the others have their values. -/
  fields {names : List String} {rows : List (String × Option Data)} (hnames : rows.map (·.1) = names)
    (hnodup : names.Nodup) :
    src.fields? names (write (.record (rowFields rows))) = some (rows.map fun row => row.2.map write)
  word (s : String) : src.word? (write (.text s)) = some s
  /-- A text is never taken for an absent value. -/
  presentText (s : String) : src.present? (write (.text s)) = some (some (write (.text s)))
  presentFlag (b : Bool) : src.present? (write (.flag b)) = some (some (write (.flag b)))

namespace ReadsBack

theorem named (h : src.ReadsBack write) {ofName? : String → Option β} {name : String} {x : β}
    (hx : ofName? name = some x) : src.named ofName? (write (.text name)) = some x := by
  simp [Source.named, h.word, hx]

theorem list (h : src.ReadsBack write) {f : β → Data} {read : α → Option β}
    (hread : ∀ x, read (write (f x)) = some x) (xs : List β) :
    src.list read (write (.items (xs.map f))) = some xs := by
  rw [Source.list, h.items]
  simp only [Option.bind_eq_bind, Option.bind_some, List.map_map]
  induction xs with
  | nil => rfl
  | cons x xs ih => simp [hread, ih]

theorem list_withDefault (h : src.ReadsBack write) {f : β → Data} {read : α → Option β}
    (hread : ∀ x, read (write (f x)) = some x) (xs : List β) :
    Source.withDefault [] (src.list read) ((nonemptyItems (xs.map f)).map write) = some xs := by
  cases xs with
  | nil => rfl
  | cons x xs => exact h.list hread (x :: xs)

theorem flag_withDefault (h : src.ReadsBack write) (b : Bool) :
    Source.withDefault false src.flag? ((trueFlag b).map write) = some b := by
  cases b with
  | false => rfl
  | true => exact h.flag true

theorem optional_text (h : src.ReadsBack write) (o : Option String) :
    src.optional src.text? (o.map (write ∘ .text)) = some o := by
  cases o with
  | none => rfl
  | some s => simp [Source.optional, h.presentText, h.text]

theorem optional_flag (h : src.ReadsBack write) (o : Option Bool) :
    src.optional src.flag? (o.map (write ∘ .flag)) = some o := by
  cases o with
  | none => rfl
  | some b => simp [Source.optional, h.presentFlag, h.flag]

end ReadsBack

end Source

/-! ## Catalogs -/

section
variable {α : Type} {src : Source α} {write : Data → α}

open Source

theorem TextCondition.read?_data (h : src.ReadsBack write) (c : TextCondition) :
    TextCondition.read? src (write c.data) = some c := by
  rw [read?, data_eq, h.fields]
  · simp [required, h.named (Subject.ofName?_name _), h.named (TextOp.ofName?_name _),
      h.optional_text, h.list_withDefault h.text, h.flag_withDefault]
  · rfl
  · decide

theorem TagCondition.read?_data (h : src.ReadsBack write) (c : TagCondition) :
    TagCondition.read? src (write c.data) = some c := by
  rw [read?, data_eq, h.fields]
  · simp [required, h.named (Tag.ofName?_name _), h.flag_withDefault]
  · rfl
  · decide

theorem Clause.read?_data (h : src.ReadsBack write) (c : Clause) :
    Clause.read? src (write c.data) = some c := by
  rw [read?, data_eq, h.fields]
  · simp [h.optional_flag, h.list_withDefault (TextCondition.read?_data h),
      h.list_withDefault (TagCondition.read?_data h)]
  · rfl
  · decide

theorem Rule.read?_data (h : src.ReadsBack write) (r : Rule) :
    Rule.read? src (write r.data) = some r := by
  rw [read?, data_eq, h.fields]
  · simp [required, h.named (Tag.ofName?_name _), h.optional_text, h.list (Clause.read?_data h)]
  · rfl
  · decide

theorem Catalog.read?_data (h : src.ReadsBack write) (c : Catalog) :
    Catalog.read? src (write c.data) = some c := by
  rw [read?, data_eq, h.fields]
  · simp [withDefault, h.list (Rule.read?_data h)]
  · rfl
  · decide

end

end AsyncIdioms
