/-
  No member of a JSON catalog is ignored.

  A reader is strict (`Json.Strict`) if it refuses each value that has one more member, in one of its
  objects, than a value that it reads. Strictness goes up from the conditions to the catalog: what
  changes inside a list or a record changes one item or one field, and this is refused.

  * `Json.exists_field_of_inserted` : an object that is still a record has no new key of its own, so
    one of its fields has changed;
  * `Json.Strict.list`, `Json.Strict.optional`, `Json.strict_record` : how strictness goes up;
  * `Catalog.schema`, `Catalog.strict_read?` : what is read where in a catalog, and that all of it is
    read strictly;
  * `Catalog.ofJson_inserted` : so a text is refused if it has one more member than a text that is read.
-/
import Mathlib.Data.List.Forall2
import Mathlib.Data.List.Nodup
import AsyncIdioms.Catalog.Load
import AsyncIdioms.Proofs.Json.Insertion
import AsyncIdioms.Proofs.Json.RoundTrip

namespace AsyncIdioms

namespace Json

variable {β : Type} {s : Schema} {key : Option String} {v v' w : Json} {read : Json → Option β}

/-- What can be read cannot be read any more with one more member in one of its objects. -/
def Strict (s : Schema) (read : Json → Option β) : Prop :=
  ∀ ⦃key : Option String⦄ ⦃w v v' : Json⦄, Inserted key w s v v' → (read v).isSome → ¬(read v').isSome

/-! ## Values without fields -/

theorem strict_text (s : Schema) : Strict s source.text? := by
  intro key w v v' h hv
  cases h <;> contradiction

theorem strict_flag (s : Schema) : Strict s source.flag? := by
  intro key w v v' h hv
  cases h <;> contradiction

theorem word?_object_eq_some {ms : List (Option String × Json)} {name : String}
    (h : word? (.object ms) = some name) : ms = [(some name, null)] := by
  rw [word?.eq_def] at h
  split at h
  · contradiction
  · rename_i key heq
    cases heq
    rw [h]
  · contradiction

/-- An object that names an alternative has one member, in which there is no object. -/
theorem strict_named (s : Schema) (ofName? : String → Option β) :
    Strict s (source.named ofName?) := by
  intro key w v v' h hv hv'
  have hword {v : Json} (hv : (source.named ofName? v).isSome) : ∃ name, word? v = some name := by
    obtain ⟨x, hx⟩ := Option.isSome_iff_exists.1 hv
    obtain ⟨name, hname, -⟩ := Option.bind_eq_some_iff.1 hx
    exact ⟨name, hname⟩
  obtain ⟨name, hname⟩ := hword hv
  obtain ⟨name', hname'⟩ := hword hv'
  cases h with
  | here before after =>
    have hone := congrArg List.length (word?_object_eq_some hname)
    have hone' := congrArg List.length (word?_object_eq_some hname')
    simp only [List.length_append, List.length_cons, List.length_nil] at hone hone'
    omega
  | @member _ k u u' before after h =>
    have hmem : (k, u) ∈ [(some name, null)] := by
      rw [← word?_object_eq_some hname]
      simp
    obtain ⟨rfl, rfl⟩ := Prod.mk.inj (List.mem_singleton.1 hmem)
    cases h
  | item => contradiction

/-! ## Lists and optional values -/

theorem isSome_of_isSome_mapM {α : Type} {f : α → Option β} {xs : List α} (h : (xs.mapM f).isSome) :
    ∀ x ∈ xs, (f x).isSome := by
  induction xs with
  | nil => simp
  | cons x xs ih =>
    obtain ⟨ys, hys⟩ := Option.isSome_iff_exists.1 h
    rw [List.mapM_cons] at hys
    obtain ⟨y, hy, hys⟩ := Option.bind_eq_some_iff.1 hys
    obtain ⟨zs, hzs, -⟩ := Option.bind_eq_some_iff.1 hys
    exact List.forall_mem_cons.2
      ⟨Option.isSome_iff_exists.2 ⟨y, hy⟩, ih (Option.isSome_iff_exists.2 ⟨zs, hzs⟩)⟩

theorem Strict.list (hread : Strict s read) : Strict (.list s) (source.list read) := by
  intro key w v v' h hv hv'
  cases h with
  | here => contradiction
  | member => contradiction
  | @item _ u u' before after h =>
    exact hread h (isSome_of_isSome_mapM hv u (by simp)) (isSome_of_isSome_mapM hv' u' (by simp))

theorem Strict.optional (hread : Strict s read) : Strict s (source.optional read ∘ some) := by
  intro key w v v' h hv hv'
  have hpresent : source.present? v = some (some v) ∧ source.present? v' = some (some v') := by
    cases h <;> exact ⟨rfl, rfl⟩
  have hsome {v : Json} (hpresent : source.present? v = some (some v))
      (hv : (source.optional read (some v)).isSome) : (read v).isSome := by
    rw [Source.optional, hpresent] at hv
    cases hread : read v <;> simp_all
  exact hread h (hsome hpresent.1 hv) (hsome hpresent.2 hv')

/-! ## Records -/

theorem fields?_object_eq_some_iff {names : List String} {ms : List (Option String × Json)}
    {fs : List (Option Json)} :
    fields? names (.object ms) = some fs ↔ knownKeys names ms = true ∧
      fs = names.map fun name => (ms.find? (·.1 == some name)).map (·.2) := by
  rw [fields?]
  split
  next h => simp [h, eq_comm]
  next h => simp [h]

theorem fields?_array_eq_some_iff {names : List String} {vs : List Json} {fs : List (Option Json)} :
    fields? names (.array vs) = some fs ↔ vs.length ≤ names.length ∧
      fs = vs.map some ++ List.replicate (names.length - vs.length) none := by
  rw [fields?]
  split
  next h => simp [h, eq_comm]
  next h => simp [h]

theorem find?_middle {before : List (Option String × Json)} (hkey : key ∉ before.map (·.1)) (u : Json)
    (after : List (Option String × Json)) :
    (before ++ (key, u) :: after).find? (·.1 == key) = some (key, u) := by
  have hbefore : before.find? (·.1 == key) = none := by
    rw [List.find?_eq_none]
    intro m hm heq
    exact hkey (List.mem_map.2 ⟨m, hm, beq_iff_eq.1 heq⟩)
  simp [hbefore]

/-- What is read from a member is what is read at the place of its name. -/
theorem exists_getElem?_member {fields : List (String × Schema)} {name : String}
    (h : name ∈ fields.map (·.1)) :
    ∃ (i : Nat) (s : Schema), fields[i]? = some (name, s) ∧
      (Schema.record fields).member (some name) = s := by
  obtain ⟨f, hf, rfl⟩ := List.mem_map.1 h
  obtain ⟨⟨name, s⟩, hfind⟩ : ∃ field, fields.find? (some ·.1 == some f.1) = some field :=
    Option.isSome_iff_exists.1 (List.find?_isSome.2 ⟨f, hf, beq_self_eq_true _⟩)
  obtain ⟨heq, i, hi, hfield, -⟩ := List.find?_eq_some_iff_getElem.1 hfind
  obtain rfl : name = f.1 := Option.some.inj (beq_iff_eq.1 heq)
  refine ⟨i, s, ?_, ?_⟩
  · rw [List.getElem?_eq_getElem hi, hfield]
  · rw [Schema.member, hfind]
    rfl

/-- If a record is still one with one more member, then one of its fields has changed. -/
theorem exists_field_of_inserted {fields : List (String × Schema)}
    (h : Inserted key w (.record fields) v v') {fs fs' : List (Option Json)}
    (hfs : fields? (fields.map (·.1)) v = some fs) (hfs' : fields? (fields.map (·.1)) v' = some fs') :
    ∃ (i : Nat) (field : String × Schema) (u u' : Json), fields[i]? = some field ∧
      fs[i]? = some (some u) ∧ fs'[i]? = some (some u') ∧ Inserted key w field.2 u u' := by
  cases h with
  | here before after hkey =>
    -- the key is unknown or repeated, so this is no record
    obtain ⟨hknown, -⟩ := fields?_object_eq_some_iff.1 hfs'
    obtain ⟨hnames, hnodup⟩ := knownKeys_eq_true_iff.1 hknown
    rw [List.map_append, List.map_cons, List.nodup_middle, ← List.map_append] at hnodup
    exfalso
    rcases hkey with hkey | hkey
    · obtain ⟨name, hname, heq⟩ := hnames (key, w) (by simp)
      exact hkey name hname heq
    · exact (List.nodup_cons.1 hnodup).1 hkey
  | @member _ k u u' before after h =>
    obtain ⟨hknown, rfl⟩ := fields?_object_eq_some_iff.1 hfs
    obtain ⟨-, rfl⟩ := fields?_object_eq_some_iff.1 hfs'
    obtain ⟨hnames, hnodup⟩ := knownKeys_eq_true_iff.1 hknown
    rw [List.map_append, List.map_cons, List.nodup_middle, List.nodup_cons] at hnodup
    have hbefore : k ∉ before.map (·.1) := fun hk => hnodup.1 (List.mem_append_left _ hk)
    obtain ⟨name, hname, rfl⟩ : ∃ name ∈ fields.map (·.1), k = some name := hnames (k, u) (by simp)
    obtain ⟨i, s, hfield, hs⟩ := exists_getElem?_member hname
    have hvalue (u : Json) : ((fields.map (·.1)).map fun name' =>
        ((before ++ (some name, u) :: after).find? (·.1 == some name')).map (·.2))[i]? =
          some (some u) := by
      rw [List.getElem?_map, List.getElem?_map, hfield, Option.map_some, Option.map_some,
        find?_middle hbefore, Option.map_some]
    rw [hs] at h
    exact ⟨i, (name, s), u, u', hfield, hvalue u, hvalue u', h⟩
  | @item _ u u' before after h =>
    obtain ⟨hlength, rfl⟩ := fields?_array_eq_some_iff.1 hfs
    obtain ⟨-, rfl⟩ := fields?_array_eq_some_iff.1 hfs'
    have hi : before.length < fields.length := by
      simp only [List.length_append, List.length_cons, List.length_map] at hlength
      omega
    have hfield : fields[before.length]? = some fields[before.length] := List.getElem?_eq_getElem hi
    rw [Schema.item, hfield] at h
    exact ⟨before.length, fields[before.length], u, u', hfield, by simp, by simp, h⟩

/-- A field of a record: its name, what is read there, and how. -/
structure Field where
  name : String
  schema : Schema
  {Value : Type}
  read : Option Json → Option Value

theorem forall₂_getElem? {α γ : Type*} {R : α → γ → Prop} {xs : List α} {ys : List γ} {i : Nat} {x : α}
    {y : γ} (h : List.Forall₂ R xs ys) (hx : xs[i]? = some x) (hy : ys[i]? = some y) : R x y := by
  obtain ⟨hi, rfl⟩ := List.getElem?_eq_some_iff.1 hx
  obtain ⟨hi', rfl⟩ := List.getElem?_eq_some_iff.1 hy
  exact h.get hi hi'

/-- A record is read strictly if its fields are. -/
theorem strict_record (fields : List Field) {make : List (Option Json) → Option β}
    (hmake : ∀ fs x, make fs = some x → List.Forall₂ (fun field f => (field.read f).isSome) fields fs)
    (hstrict : ∀ field ∈ fields, Strict field.schema (field.read ∘ some)) :
    Strict (.record (fields.map fun field => (field.name, field.schema)))
      fun v => (fields? (fields.map (·.name)) v).bind make := by
  intro key w v v' h hv hv'
  have hnames : fields.map (·.name) =
      (fields.map fun field => (field.name, field.schema)).map (·.1) := by
    rw [List.map_map]
    rfl
  rw [hnames] at hv hv'
  obtain ⟨x, hx⟩ := Option.isSome_iff_exists.1 hv
  obtain ⟨x', hx'⟩ := Option.isSome_iff_exists.1 hv'
  obtain ⟨fs, hfs, hx⟩ := Option.bind_eq_some_iff.1 hx
  obtain ⟨fs', hfs', hx'⟩ := Option.bind_eq_some_iff.1 hx'
  obtain ⟨i, entry, u, u', hi, hu, hu', hinserted⟩ := exists_field_of_inserted h hfs hfs'
  rw [List.getElem?_map] at hi
  obtain ⟨field, hfield, rfl⟩ := Option.map_eq_some_iff.1 hi
  have hread := forall₂_getElem? (hmake fs x hx) hfield hu
  have hread' := forall₂_getElem? (hmake fs' x' hx') hfield hu'
  exact hstrict field (List.mem_of_getElem? hfield) hinserted hread hread'

end Json

open Json Source

/-! ## Catalogs -/

def TextCondition.schema : Schema :=
  .record [("subject", .plain), ("op", .plain), ("value", .plain), ("values", .list .plain),
    ("negate", .plain), ("ignore_case", .plain)]

def TagCondition.schema : Schema := .record [("tag", .plain), ("negate", .plain)]

def Clause.schema : Schema :=
  .record [("returns_void", .plain), ("returns_task", .plain), ("has_declaration", .plain),
    ("text", .list TextCondition.schema), ("tagged", .list TagCondition.schema)]

def Rule.schema : Schema :=
  .record [("tag", .plain), ("description", .plain), ("clauses", .list Clause.schema)]

/-- What is read where in a catalog. -/
def Catalog.schema : Schema := .record [("rules", .list Rule.schema)]

theorem TextCondition.strict_read? : Strict schema (read? source) := by
  refine strict_record [⟨"subject", .plain, required (source.named Subject.ofName?)⟩,
    ⟨"op", .plain, required (source.named TextOp.ofName?)⟩,
    ⟨"value", .plain, source.optional source.text?⟩,
    ⟨"values", .list .plain, withDefault [] (source.list source.text?)⟩,
    ⟨"negate", .plain, withDefault false source.flag?⟩,
    ⟨"ignore_case", .plain, withDefault false source.flag?⟩] ?_ ?_
  · intro fs c hc
    split at hc
    · simp only [Option.bind_eq_bind, Option.bind_eq_some_iff] at hc
      obtain ⟨subject, hsubject, op, hop, value, hvalue, values, hvalues, negate, hnegate,
        ignoreCase, hignoreCase, -⟩ := hc
      simp [hsubject, hop, hvalue, hvalues, hnegate, hignoreCase]
    · contradiction
  · simp only [List.forall_mem_cons]
    exact ⟨strict_named _ _, strict_named _ _, (strict_text _).optional, (strict_text _).list,
      strict_flag _, strict_flag _, by simp⟩

theorem TagCondition.strict_read? : Strict schema (read? source) := by
  refine strict_record [⟨"tag", .plain, required (source.named Tag.ofName?)⟩,
    ⟨"negate", .plain, withDefault false source.flag?⟩] ?_ ?_
  · intro fs c hc
    split at hc
    · simp only [Option.bind_eq_bind, Option.bind_eq_some_iff] at hc
      obtain ⟨tag, htag, negate, hnegate, -⟩ := hc
      simp [htag, hnegate]
    · contradiction
  · simp only [List.forall_mem_cons]
    exact ⟨strict_named _ _, strict_flag _, by simp⟩

theorem Clause.strict_read? : Strict schema (read? source) := by
  refine strict_record [⟨"returns_void", .plain, source.optional source.flag?⟩,
    ⟨"returns_task", .plain, source.optional source.flag?⟩,
    ⟨"has_declaration", .plain, source.optional source.flag?⟩,
    ⟨"text", .list TextCondition.schema, withDefault [] (source.list (TextCondition.read? source))⟩,
    ⟨"tagged", .list TagCondition.schema, withDefault [] (source.list (TagCondition.read? source))⟩]
    ?_ ?_
  · intro fs c hc
    split at hc
    · simp only [Option.bind_eq_bind, Option.bind_eq_some_iff] at hc
      obtain ⟨returnsVoid, hvoid, returnsTask, htask, hasDeclaration, hdeclaration, text, htext,
        tagged, htagged, -⟩ := hc
      simp [hvoid, htask, hdeclaration, htext, htagged]
    · contradiction
  · simp only [List.forall_mem_cons]
    exact ⟨(strict_flag _).optional, (strict_flag _).optional, (strict_flag _).optional,
      TextCondition.strict_read?.list, TagCondition.strict_read?.list, by simp⟩

theorem Rule.strict_read? : Strict schema (read? source) := by
  refine strict_record [⟨"tag", .plain, required (source.named Tag.ofName?)⟩,
    ⟨"description", .plain, source.optional source.text?⟩,
    ⟨"clauses", .list Clause.schema, required (source.list (Clause.read? source))⟩] ?_ ?_
  · intro fs c hc
    split at hc
    · simp only [Option.bind_eq_bind, Option.bind_eq_some_iff] at hc
      obtain ⟨tag, htag, description, hdescription, clauses, hclauses, -⟩ := hc
      simp [htag, hdescription, hclauses]
    · contradiction
  · simp only [List.forall_mem_cons]
    exact ⟨strict_named _ _, (strict_text _).optional, Clause.strict_read?.list, by simp⟩

namespace Catalog

theorem strict_read? : Strict schema (read? source) := by
  refine strict_record [⟨"rules", .list Rule.schema,
    withDefault [] (source.list (Rule.read? source))⟩] ?_ ?_
  · intro fs c hc
    split at hc
    · simp only [Option.bind_eq_bind, Option.bind_eq_some_iff] at hc
      obtain ⟨rules, hrules, -⟩ := hc
      simp [hrules]
    · contradiction
  · simp only [List.forall_mem_cons]
    exact ⟨Rule.strict_read?.list, by simp⟩

/-! ## Texts -/

variable {text : String} {c : Catalog}

theorem exists_of_ofJson (h : ofJson text = .ok c) :
    ∃ v, Json.parse? text = some v ∧ read? source v = some c := by
  rw [ofJson] at h
  split at h
  · rename_i c' hread
    cases h
    exact Option.bind_eq_some_iff.1 hread
  · contradiction

theorem ofJson_of_read?_eq_none {v : Json} (hv : Spells v text.toList) (h : read? source v = none) :
    ofJson text = .error .invalidJson := by
  rw [ofJson, parse?_eq_some_iff.2 hv, Option.bind_some, h]

/-- **A member that is unknown or repeated is never ignored.** When a text is read as a catalog, every
    text whose value has one more such member, in any object at any depth, is refused; and each such
    value is the value of a text that has been made by putting the member in. -/
theorem ofJson_inserted (h : ofJson text = .ok c) :
    ∃ v, (∀ u, Spells u text.toList ↔ u = v) ∧ ∀ key w v', Inserted key w schema v v' →
      (∀ text' : String, Spells v' text'.toList → ofJson text' = .error .invalidJson) ∧
        ∀ name cs, SpellsKey key name → Spells w cs → ∃ text' : String,
          PutsIn (name ++ ':' :: cs) text.toList text'.toList ∧ Spells v' text'.toList := by
  obtain ⟨v, hparse, hread⟩ := exists_of_ofJson h
  refine ⟨v, fun u => ?_, fun key w v' hinserted => ⟨?_, ?_⟩⟩
  · rw [← parse?_eq_some_iff, hparse, Option.some.injEq, eq_comm]
  · intro text' htext'
    have hrefused := strict_read? hinserted (Option.isSome_iff_exists.2 ⟨c, hread⟩)
    exact ofJson_of_read?_eq_none htext' (Option.not_isSome_iff_eq_none.1 hrefused)
  · intro name cs hname hw
    obtain ⟨cs', hput, hspells⟩ := hinserted.exists_putsIn hname hw (parse?_eq_some_iff.1 hparse)
    exact ⟨String.ofList cs', by rwa [String.toList_ofList], by rwa [String.toList_ofList]⟩

/-- A condition of a clause of a rule, with its tag given twice. -/
theorem ofJson_inserted_repeatedTag :
    let document (condition : List (String × Data)) : Data :=
      .record [("rules", .items [.record [("tag", .text "TAP"),
        ("clauses", .items [.record [("tagged", .items [.record condition])]])]])]
    let text := (ofData (document [("tag", .text "EAP")])).render
    let text' := (ofData (document [("tag", .text "EAP"), ("tag", .text "ThreadStart")])).render
    (∃ c, ofJson text = .ok c) ∧ ofJson text' = .error .invalidJson := by
  intro document text text'
  have hspells (d : Data) : Spells (ofData d) (ofData d).render.toList := by
    rw [← parse?_eq_some_iff, parse?_render]
  have hread : ofJson text = .ok ⟨[{ tag := .tap, clauses := [{ tagged := [{ tag := .eap }] }] }]⟩ := by
    rw [ofJson, parse?_render]
    rfl
  have hinserted : Inserted (some "tag") (.text "ThreadStart") schema
      (ofData (document [("tag", .text "EAP")]))
      (ofData (document [("tag", .text "EAP"), ("tag", .text "ThreadStart")])) :=
    .member [] [] (.item [] [] (.member [(some "tag", .text "TAP")] [] (.item [] [] (.member [] []
      (.item [] [] (.here [(some "tag", .text "EAP")] [] (.inr (by decide))))))))
  obtain ⟨v, hv, hrefused⟩ := ofJson_inserted hread
  obtain rfl := (hv _).1 (hspells (document [("tag", .text "EAP")]))
  exact ⟨⟨_, hread⟩, (hrefused _ _ _ hinserted).1 text' (hspells _)⟩

end Catalog

end AsyncIdioms
