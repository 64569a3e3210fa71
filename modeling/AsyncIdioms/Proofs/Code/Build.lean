/-
  What builders make of events.

  * `Builder.step_fault` : the first fault stays, and an event makes one exactly if it is refused;
  * `Builder.Grows` : nodes were added to a builder below the innermost open one;
  * `Tree.grows_events` : a builder that takes the events of a tree adds the layout of the tree;
  * `Tree.build_events` : a tree that is told is built, and is what is read from the arena.
-/
import AsyncIdioms.Proofs.Code.Tree

namespace AsyncIdioms.Code

/-! ## What one event does to a builder -/

namespace Builder

variable {b : Builder} {kind : Kind} {field : Option Field} {text : Option String}

/-- Why the builder cannot take the event. -/
def refusal (b : Builder) : Event → Option Fault
  | .start _ _ | .token _ _ _ => if b.path = [] ∧ b.root.isSome then some .multipleRoots else none
  | .finish => if b.path = [] then some .unbalancedFinish else none

theorem push_fault : (b.push kind field text).1.fault =
    b.fault.or (if b.path = [] ∧ b.root.isSome then some .multipleRoots else none) := by
  rw [push]
  split
  next h => rw [Option.or_of_isSome h]
  next h =>
    rw [Option.not_isSome_iff_eq_none.1 h, Option.none_or]
    simp only [Bool.and_eq_true, List.isEmpty_iff]
    split <;> rfl

/-- What is pushed is opened. -/
theorem start_fields (b : Builder) (kind : Kind) (field : Option Field) :
    (b.start kind field).entries = (b.push kind field none).1.entries ∧
    (b.start kind field).path = (b.push kind field none).2.toList ++ (b.push kind field none).1.path ∧
    (b.start kind field).root = (b.push kind field none).1.root ∧
    (b.start kind field).fault = (b.push kind field none).1.fault := by
  rw [start]
  split <;> (rename_i h; simp [h])

theorem finish_fields (b : Builder) : b.finish.entries = b.entries ∧ b.finish.path = b.path.tail ∧
    b.finish.root = b.root ∧ b.finish.fault = b.fault.or (b.refusal .finish) := by
  rw [finish]
  split
  next h =>
    split
    next hf => simp [h, refusal, Option.isNone_iff_eq_none.1 hf]
    next hf =>
      have hsome : b.fault.isSome := by simpa [Option.isSome_iff_ne_none] using hf
      simp [h, Option.or_of_isSome hsome]
  next h => simp [h, refusal]

/-- The first fault stays, and without one a refused event makes one. -/
theorem step_fault (e : Event) : (b.step e).fault = b.fault.or (b.refusal e) := by
  cases e with
  | start kind field => exact (b.start_fields kind field).2.2.2.trans push_fault
  | token kind field text => exact push_fault
  | finish => exact b.finish_fields.2.2.2

theorem close_eq_ok {root : Nat} (hf : b.fault = none) (hp : b.path = []) (hr : b.root = some root) :
    ∃ a, b.close = .ok a ∧ b.entries = a.entries ∧ a.root = root := by
  obtain ⟨entries, path, r, fault, hl, ho, hlt⟩ := b
  obtain rfl : fault = none := hf
  obtain rfl : path = [] := hp
  obtain rfl : r = some root := hr
  exact ⟨_, rfl, rfl, rfl⟩

theorem close_of_fault {fault : Fault} (h : b.fault = some fault) : b.close = .error fault := by
  rw [close, h]

theorem close_of_open (hf : b.fault = none) (hp : b.path ≠ []) :
    b.close = .error (.unclosed b.path.length) := by
  rw [close, hf]
  simp [hp]

theorem close_of_empty (hf : b.fault = none) (hp : b.path = []) (hr : b.root = none) :
    b.close = .error .empty := by
  rw [close, hf, hp]
  simp only [List.isEmpty_nil, Bool.not_true, Bool.false_eq_true, if_false]
  split
  · rfl
  next h => simp [hr] at h

/-- There is a place for one more node: below an open one, or as the root. -/
structure CanAdd (b : Builder) : Prop where
  fault : b.fault = none
  root : b.path = [] → b.root = none

theorem CanAdd.of_refusal {e : Event} (hf : b.fault = none) (hr : b.refusal e = none)
    (he : e ≠ .finish) : b.CanAdd := by
  refine ⟨hf, fun hp => ?_⟩
  cases e with
  | start kind field => simpa [refusal, hp] using hr
  | token kind field text => simpa [refusal, hp] using hr
  | finish => contradiction

theorem CanAdd.push (h : b.CanAdd) (kind : Kind) (field : Option Field) (text : Option String) :
    (b.push kind field text).2 = some b.entries.size ∧
    (b.push kind field text).1.entries = appendEntry b.entries kind field text b.path.head? ∧
    (b.push kind field text).1.path = b.path ∧
    (b.push kind field text).1.root = (if b.path = [] then some b.entries.size else b.root) := by
  have hf : ¬ b.fault.isSome := by simp [h.fault]
  have hr : ¬ (b.path.isEmpty && b.root.isSome) := by
    simp only [Bool.and_eq_true, List.isEmpty_iff, not_and]
    intro hp
    simp [h.root hp]
  rw [Builder.push, if_neg hf, if_neg hr]
  simp

theorem CanAdd.fault_push (h : b.CanAdd) : (b.push kind field text).1.fault = none := by
  rw [push_fault, h.fault, Option.none_or, if_neg]
  rintro ⟨hp, hr⟩
  simp [h.root hp] at hr

theorem head_lt : ∀ p ∈ b.path.head?, p < b.entries.size := fun p hp => by
  obtain ⟨e, he, -⟩ := b.isOpen p (List.mem_of_head? hp)
  exact (Array.getElem?_eq_some_iff.1 he).1

end Builder

/-! ## Building a tree -/

/-- The nodes with more children for `parent`. -/
def adopt (parent : Option Nat) (ids : List Nat) (entries : List Entry) : List Entry :=
  match parent with
  | none => entries
  | some p => entries.modify p fun e => { e with children := e.children ++ ids }

section
variable {parent : Option Nat} {ids ids' : List Nat} {entries entries' : List Entry}

@[simp]
theorem length_adopt : (adopt parent ids entries).length = entries.length := by
  cases parent <;> simp [adopt]

theorem adopt_nil : adopt parent [] entries = entries := by
  cases parent with
  | none => rfl
  | some p =>
    simp only [adopt, List.append_nil]
    exact List.modify_id p entries

theorem adopt_adopt :
    adopt parent ids' (adopt parent ids entries) = adopt parent (ids ++ ids') entries := by
  cases parent with
  | none => rfl
  | some p => simp [adopt, List.modify_modify_eq, Function.comp_def]

theorem adopt_append (h : ∀ p ∈ parent, p < entries.length) :
    adopt parent ids (entries ++ entries') = adopt parent ids entries ++ entries' := by
  cases parent with
  | none => rfl
  | some p =>
    have hp : p < entries.length := h p rfl
    simp only [adopt]
    rw [List.modify_eq_take_drop, List.modify_eq_take_drop,
      List.take_append_of_le_length (Nat.le_of_lt hp), List.drop_append_of_le_length (Nat.le_of_lt hp),
      List.append_assoc]
    cases hd : entries.drop p with
    | nil =>
      rw [List.drop_eq_nil_iff] at hd
      omega
    | cons e es => rfl

theorem adopt_append_self (ids : List Nat) (entries : List Entry) (e : Entry) :
    adopt (some entries.length) ids (entries ++ [e]) =
      entries ++ [{ e with children := e.children ++ ids }] := by
  simp [adopt, List.modify_eq_take_drop]

end

theorem toList_appendEntry {entries : Array Entry} {kind : Kind} {field : Option Field}
    {text : Option String} {parent : Option Nat} (h : ∀ p ∈ parent, p < entries.size) :
    (appendEntry entries kind field text parent).toList =
      adopt parent [entries.size] entries.toList ++ [⟨kind, field, text, parent, []⟩] := by
  rw [← adopt_append (by simpa using h)]
  cases parent <;> simp [appendEntry, adopt]

namespace Builder

variable {b b' b'' : Builder} {kind : Kind} {field : Option Field} {ids ids' : List Nat}
  {added added' : List Entry}

/-- From `b` to `b'`, nodes were added: `ids` below the innermost open node, or as the root, and all
    others below these. -/
structure Grows (b b' : Builder) (ids : List Nat) (added : List Entry) : Prop where
  fault : b'.fault = none
  path : b'.path = b.path
  root : b'.root = if b.path = [] then ids.head? else b.root
  entries : b'.entries.toList = adopt b.path.head? ids b.entries.toList ++ added

theorem Grows.size (h : b.Grows b' ids added) : b'.entries.size = b.entries.size + added.length := by
  rw [← Array.length_toList, h.entries, List.length_append, length_adopt, Array.length_toList]

theorem grows_refl (h : b.CanAdd) (hp : b.path ≠ []) : b.Grows b [] [] := by
  refine ⟨h.fault, rfl, by rw [if_neg hp], ?_⟩
  rw [adopt_nil, List.append_nil]

theorem Grows.trans (h : b.Grows b' ids added) (hp : b.path ≠ []) (h' : b'.Grows b'' ids' added') :
    b.Grows b'' (ids ++ ids') (added ++ added') := by
  have hlt : ∀ p ∈ b.path.head?, p < (adopt b.path.head? ids b.entries.toList).length := by
    simpa using b.head_lt
  refine ⟨h'.fault, h'.path.trans h.path, ?_, ?_⟩
  · rw [h'.root, h.path, h.root, if_neg hp, if_neg hp, if_neg hp]
  · rw [h'.entries, h.path, h.entries, adopt_append hlt, adopt_adopt, List.append_assoc]

theorem CanAdd.grows_token (h : b.CanAdd) (kind : Kind) (field : Option Field) (text : String) :
    b.Grows (b.token kind field text) [b.entries.size]
      [⟨kind, field, some text, b.path.head?, []⟩] := by
  obtain ⟨-, he, hp, hr⟩ := h.push kind field (some text)
  refine ⟨h.fault_push, hp, hr, ?_⟩
  rw [token, he, toList_appendEntry b.head_lt]

theorem CanAdd.start (h : b.CanAdd) (kind : Kind) (field : Option Field) :
    (b.start kind field).CanAdd ∧
    (b.start kind field).path = b.entries.size :: b.path ∧
    (b.start kind field).root = (if b.path = [] then some b.entries.size else b.root) ∧
    (b.start kind field).entries.toList = adopt b.path.head? [b.entries.size] b.entries.toList ++
      [⟨kind, field, none, b.path.head?, []⟩] := by
  obtain ⟨hi, he, hp, hr⟩ := h.push kind field none
  obtain ⟨hse, hsp, hsr, hsf⟩ := b.start_fields kind field
  rw [hi, hp] at hsp
  refine ⟨⟨hsf.trans h.fault_push, by simp [hsp]⟩, hsp, hsr.trans hr, ?_⟩
  rw [hse, he, toList_appendEntry b.head_lt]

/-- A node is opened, its children are added, it is closed. -/
theorem CanAdd.grows_node (h : b.CanAdd) (h' : (b.start kind field).Grows b' ids added) :
    b.Grows b'.finish [b.entries.size] (⟨kind, field, none, b.path.head?, ids⟩ :: added) := by
  obtain ⟨-, hp, hr, he⟩ := h.start kind field
  obtain ⟨hfe, hfp, hfr, hff⟩ := b'.finish_fields
  have hp' : b'.path = b.entries.size :: b.path := h'.path.trans hp
  have hr' : b'.root = (b.start kind field).root := by simp [h'.root, hp]
  refine ⟨?_, by rw [hfp, hp', List.tail_cons], by rw [hfr, hr', hr, List.head?_cons], ?_⟩
  · rw [hff, h'.fault, refusal, hp']
    rfl
  · have hlast := adopt_append_self ids (adopt b.path.head? [b.entries.size] b.entries.toList)
      ⟨kind, field, none, b.path.head?, []⟩
    rw [length_adopt, Array.length_toList] at hlast
    rw [hfe, h'.entries, hp, he, List.head?_cons, hlast, List.append_assoc]
    rfl

end Builder

namespace Tree

mutual
/-- A builder that takes the events of a tree adds the layout of the tree. -/
theorem grows_events : ∀ (t : Tree) {b : Builder}, b.CanAdd →
    b.Grows (t.events.foldl Builder.step b) [b.entries.size]
      (t.layout b.path.head? b.entries.size)
  | token kind field text, _, h => h.grows_token kind field text
  | node kind field ts, b, h => by
    obtain ⟨hc, hp, -, he⟩ := h.start kind field
    have hsize : (b.start kind field).entries.size = b.entries.size + 1 := by
      rw [← Array.length_toList, he]
      simp
    have hg := h.grows_node (grows_eventsAll ts hc (by simp [hp]))
    rw [hp, hsize, List.head?_cons] at hg
    rw [events, List.foldl_cons, List.foldl_append]
    exact hg
/-- A builder with an open node that takes the events of trees adds their layouts. -/
theorem grows_eventsAll : ∀ (ts : List Tree) {b : Builder}, b.CanAdd → b.path ≠ [] →
    b.Grows ((eventsAll ts).foldl Builder.step b) (rootNumbers b.entries.size ts)
      (layoutAll b.path.head? b.entries.size ts)
  | [], _, h, hp => Builder.grows_refl h hp
  | t :: ts, b, h, hp => by
    have ht := grows_events t h
    have hc : (t.events.foldl Builder.step b).CanAdd := ⟨ht.fault, by simp [ht.path, hp]⟩
    have hts := grows_eventsAll ts hc (ht.path ▸ hp)
    rw [ht.path, ht.size, length_layout] at hts
    rw [eventsAll, List.foldl_append]
    exact ht.trans hp hts
end

/-- **A tree that is told is built**: the arena holds its layout, and it is what is read there. -/
theorem build_events (t : Tree) :
    ∃ a, build t.events = .ok a ∧ a.entries.toList = t.layout none 0 ∧ a.root = 0 ∧ a.tree = t := by
  have h := grows_events t (b := .empty) ⟨rfl, fun _ => rfl⟩
  have hroot : (t.events.foldl Builder.step .empty).root = some 0 := h.root
  have hentries : (t.events.foldl Builder.step .empty).entries.toList = t.layout none 0 := h.entries
  obtain ⟨a, ha, hae, har⟩ := Builder.close_eq_ok h.fault h.path hroot
  rw [hae] at hentries
  refine ⟨a, ha, hentries, har, ?_⟩
  have hprefix : t.layout none 0 <+: a.entries.toList.drop 0 := hentries ▸ List.prefix_rfl
  rw [Arena.tree, har, Arena.treeAt_of_layout hprefix]

end Tree

end AsyncIdioms.Code
