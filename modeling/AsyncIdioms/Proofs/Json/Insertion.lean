/-
  One more member in an object, in values and in texts.

  * `Schema` : what is read where in a value, so that the objects in it have field names;
  * `Inserted` : a value with one more member in one of its objects, at any depth;
  * `PutsIn` : a text with the text of a member put in;
  * `Inserted.exists_putsIn` : each insertion into the value of a text is made by putting the member
    into the text, wherever the object stands.
-/
import AsyncIdioms.Proofs.Json.Grammar

namespace AsyncIdioms.Json

/-! ## Insertion into values -/

/-- What is read where in a value: a list, a record with its fields in order, or a value without
    fields. -/
inductive Schema where
  | plain
  | list (item : Schema)
  | record (fields : List (String × Schema))

namespace Schema

/-- The field names of what is read. -/
def names : Schema → List String
  | record fields => fields.map (·.1)
  | _ => []

/-- What is read from the member of that key. -/
def member (key : Option String) : Schema → Schema
  | record fields => ((fields.find? (some ·.1 == key)).map (·.2)).getD plain
  | _ => plain

/-- What is read from the item at that place. A record may be written as the list of its fields. -/
def item (i : Nat) : Schema → Schema
  | list s => s
  | record fields => (fields[i]?.map (·.2)).getD plain
  | plain => plain

end Schema

/-- The second value is the first one with one more member, in one of its objects: the key is no field
    name of what is read there, or the object has it already. -/
inductive Inserted (key : Option String) (w : Json) : Schema → Json → Json → Prop
  | here {s : Schema} (before after : List (Option String × Json))
      (hkey : (∀ name ∈ s.names, key ≠ some name) ∨ key ∈ (before ++ after).map (·.1)) :
      Inserted key w s (.object (before ++ after)) (.object (before ++ (key, w) :: after))
  | member {s : Schema} {k : Option String} {v v' : Json}
      (before after : List (Option String × Json)) (h : Inserted key w (s.member k) v v') :
      Inserted key w s (.object (before ++ (k, v) :: after)) (.object (before ++ (k, v') :: after))
  | item {s : Schema} {v v' : Json} (before after : List Json)
      (h : Inserted key w (s.item before.length) v v') :
      Inserted key w s (.array (before ++ v :: after)) (.array (before ++ v' :: after))

/-! ## Insertion into texts -/

variable {v v' w : Json} {vs : List Json} {key : Option String}
  {ms : List (Option String × Json)} {text name cs cs' ds : List Char}

/-- The second text is the first one with the text of a member put in, and with a comma where other
    members stand before it or behind it. -/
def PutsIn (text cs cs' : List Char) : Prop :=
  ∃ before after inserted, inserted ∈ [text, text ++ [','], ',' :: text] ∧ cs = before ++ after ∧
    cs' = before ++ (inserted ++ after)

theorem PutsIn.within (h : PutsIn text cs cs') (front back : List Char) :
    PutsIn text (front ++ (cs ++ back)) (front ++ (cs' ++ back)) := by
  obtain ⟨before, after, inserted, hinserted, rfl, rfl⟩ := h
  exact ⟨front ++ before, after ++ back, inserted, hinserted, by simp, by simp⟩

/-- The list of items of an array can be exchanged for another one. -/
theorem Spells.exists_items : ∀ {v : Json} {cs : List Char}, Spells v cs → ∀ {vs : List Json},
    v = .array vs → ∃ front inner back, cs = front ++ (inner ++ back) ∧ SpellsItems vs inner ∧
      ∀ {ws : List Json} {ds : List Char}, SpellsItems ws ds →
        Spells (.array ws) (front ++ (ds ++ back))
  | _, _, @Spells.array gap cs _ hgap h, vs, heq => by
    cases heq
    exact ⟨'[' :: gap, cs, [']'], rfl, h, fun hds => .array hgap hds⟩
  | _, _, @Spells.padded _ before cs after hbefore h hafter, vs, heq => by
    obtain ⟨front, inner, back, rfl, hinner, hother⟩ := h.exists_items heq
    refine ⟨before ++ front, inner, back ++ after, by simp, hinner, fun hds => ?_⟩
    simpa using Spells.padded hbefore (hother hds) hafter

/-- The list of members of an object can be exchanged for another one. -/
theorem Spells.exists_members : ∀ {v : Json} {cs : List Char}, Spells v cs →
    ∀ {ms : List (Option String × Json)}, v = .object ms →
      ∃ front inner back, cs = front ++ (inner ++ back) ∧ SpellsMembers ms inner ∧
        ∀ {ws : List (Option String × Json)} {ds : List Char}, SpellsMembers ws ds →
          Spells (.object ws) (front ++ (ds ++ back))
  | _, _, @Spells.object gap cs _ hgap h, ms, heq => by
    cases heq
    exact ⟨'\x7b' :: gap, cs, ['\x7d'], rfl, h, fun hds => .object hgap hds⟩
  | _, _, @Spells.padded _ before cs after hbefore h hafter, ms, heq => by
    obtain ⟨front, inner, back, rfl, hinner, hother⟩ := h.exists_members heq
    refine ⟨before ++ front, inner, back ++ after, by simp, hinner, fun hds => ?_⟩
    simpa using Spells.padded hbefore (hother hds) hafter

theorem SpellsItems.exists_of_cons (h : SpellsItems (v :: vs) cs) (hvs : vs ≠ []) :
    ∃ ds es, cs = ds ++ ',' :: es ∧ Spells v ds ∧ SpellsItems vs es := by
  cases h with
  | last h => contradiction
  | more h hrest => exact ⟨_, _, rfl, h, hrest⟩

theorem SpellsMembers.exists_of_cons (h : SpellsMembers ((key, v) :: ms) cs) (hms : ms ≠ []) :
    ∃ name ds es, cs = name ++ ':' :: (ds ++ ',' :: es) ∧ SpellsKey key name ∧ Spells v ds ∧
      SpellsMembers ms es := by
  cases h with
  | last hkey h => contradiction
  | more hkey h hrest => exact ⟨_, _, _, rfl, hkey, h, hrest⟩

/-- What can be put into an item can be put into the list. -/
theorem SpellsItems.exists_change
    (hchange : ∀ {cs}, Spells v cs → ∃ cs', PutsIn text cs cs' ∧ Spells v' cs')
    (before after : List Json) {cs : List Char} (h : SpellsItems (before ++ v :: after) cs) :
    ∃ cs', PutsIn text cs cs' ∧ SpellsItems (before ++ v' :: after) cs' := by
  induction before generalizing cs with
  | nil =>
    cases h with
    | last h =>
      obtain ⟨cs', hput, h'⟩ := hchange h
      exact ⟨cs', hput, .last h'⟩
    | more h hrest =>
      obtain ⟨cs', hput, h'⟩ := hchange h
      exact ⟨_, hput.within [] _, .more h' hrest⟩
  | cons u before ih =>
    obtain ⟨ds, es, rfl, hu, hrest⟩ := h.exists_of_cons (by simp)
    obtain ⟨es', hput, hrest'⟩ := ih hrest
    refine ⟨ds ++ ',' :: es', ?_, .cons hu hrest' (by simp)⟩
    simpa using hput.within (ds ++ [',']) []

/-- What can be put into the value of a member can be put into the list of members. -/
theorem SpellsMembers.exists_change
    (hchange : ∀ {cs}, Spells v cs → ∃ cs', PutsIn text cs cs' ∧ Spells v' cs')
    (before after : List (Option String × Json)) {cs : List Char}
    (h : SpellsMembers (before ++ (key, v) :: after) cs) :
    ∃ cs', PutsIn text cs cs' ∧ SpellsMembers (before ++ (key, v') :: after) cs' := by
  induction before generalizing cs with
  | nil =>
    cases h with
    | @last _ _ name cs hkey h =>
      obtain ⟨cs', hput, h'⟩ := hchange h
      refine ⟨name ++ ':' :: cs', ?_, .last hkey h'⟩
      simpa using hput.within (name ++ [':']) []
    | @more _ _ m ms name cs ds hkey h hrest =>
      obtain ⟨cs', hput, h'⟩ := hchange h
      refine ⟨name ++ ':' :: (cs' ++ ',' :: ds), ?_, .more hkey h' hrest⟩
      simpa using hput.within (name ++ [':']) (',' :: ds)
  | cons m before ih =>
    obtain ⟨name, ds, es, rfl, hkey, hu, hrest⟩ := h.exists_of_cons (by simp)
    obtain ⟨es', hput, hrest'⟩ := ih hrest
    refine ⟨name ++ ':' :: (ds ++ ',' :: es'), ?_, .cons hkey hu hrest' (by simp)⟩
    simpa using hput.within (name ++ ':' :: (ds ++ [','])) []

/-- A member can be put in at any place among the members. -/
theorem SpellsMembers.exists_insert (hkey : SpellsKey key name) (hw : Spells w ds)
    (before after : List (Option String × Json)) {cs : List Char}
    (h : SpellsMembers (before ++ after) cs) :
    ∃ cs', PutsIn (name ++ ':' :: ds) cs cs' ∧ SpellsMembers (before ++ (key, w) :: after) cs' := by
  induction before generalizing cs with
  | nil =>
    by_cases hafter : after = []
    · subst hafter
      rw [h.eq_nil]
      exact ⟨name ++ ':' :: ds, ⟨[], [], name ++ ':' :: ds, by simp, rfl, by simp⟩, .last hkey hw⟩
    · refine ⟨name ++ ':' :: (ds ++ ',' :: cs), ⟨[], cs, name ++ ':' :: ds ++ [','], by simp, rfl, ?_⟩,
        .cons hkey hw h hafter⟩
      simp
  | cons m before ih =>
    by_cases hrest : before ++ after = []
    · obtain ⟨rfl, rfl⟩ := List.append_eq_nil_iff.1 hrest
      cases h with
      | @last k u name' cs hkey' hu =>
        refine ⟨name' ++ ':' :: (cs ++ ',' :: (name ++ ':' :: ds)),
          ⟨name' ++ ':' :: cs, [], ',' :: (name ++ ':' :: ds), by simp, by simp, by simp⟩,
          .more hkey' hu (.last hkey hw)⟩
    · obtain ⟨name', ds', es, rfl, hkey', hu, hrest⟩ := h.exists_of_cons hrest
      obtain ⟨es', hput, hrest'⟩ := ih hrest
      refine ⟨name' ++ ':' :: (ds' ++ ',' :: es'), ?_, .cons hkey' hu hrest' (by simp)⟩
      simpa using hput.within (name' ++ ':' :: (ds' ++ [','])) []

/-- Each insertion into the value of a text can be made in the text. -/
theorem Inserted.exists_putsIn {s : Schema} (h : Inserted key w s v v') (hkey : SpellsKey key name)
    (hw : Spells w ds) (hv : Spells v cs) :
    ∃ cs', PutsIn (name ++ ':' :: ds) cs cs' ∧ Spells v' cs' := by
  induction h generalizing cs with
  | here before after =>
    obtain ⟨front, inner, back, rfl, hinner, hother⟩ := hv.exists_members rfl
    obtain ⟨inner', hput, hinner'⟩ := hinner.exists_insert hkey hw before after
    exact ⟨_, hput.within front back, hother hinner'⟩
  | member before after _ ih =>
    obtain ⟨front, inner, back, rfl, hinner, hother⟩ := hv.exists_members rfl
    obtain ⟨inner', hput, hinner'⟩ := hinner.exists_change ih before after
    exact ⟨_, hput.within front back, hother hinner'⟩
  | item before after _ ih =>
    obtain ⟨front, inner, back, rfl, hinner, hother⟩ := hv.exists_items rfl
    obtain ⟨inner', hput, hinner'⟩ := hinner.exists_change ih before after
    exact ⟨_, hput.within front back, hother hinner'⟩

end AsyncIdioms.Json
