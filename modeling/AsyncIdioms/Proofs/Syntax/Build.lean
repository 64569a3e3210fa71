/-
  Building stored trees.

  Both builders, the one with unbounded numbers and the one that keeps 32 bits of them, take the same
  events. They find the same faults, and add as many nodes, whatever the numbers are; and while there
  is room for the numbers, the one stores what the other builds:

  * `Builder.Stores` : what the two have in common; `Builder.Stores.step` : each event keeps it;
    `Covers` : in the end, this is as much of the links as has found room;
  * `build_eq_error_iff` : the faults are the same;
  * `build_stored` : a tree that fits is built as it is stored;
  * `exists_stored_of_build` : each stored tree of at most 2 ^ 32 nodes that was built is such a tree.
-/
import AsyncIdioms.Proofs.Code.Build
import AsyncIdioms.Proofs.Syntax.Stored
import AsyncIdioms.Syntax.Build

namespace AsyncIdioms.Syntax

open Code (Kind Field Event Fault)

/-! ## One node more -/

/-- As long as there is room for one node more, adding it is the same. -/
theorem appendEntry_stored {entries : Array Code.Entry} {kind : Kind} {field : Option Field}
    {text : Option String} {parent : Option Nat} (hp : ∀ p ∈ parent, p < entries.size)
    (hfit : entries.size < 2 ^ 32) :
    appendEntry (entries.map Code.Entry.stored) kind field text (parent.map UInt32.ofNat) =
      (Code.appendEntry entries kind field text parent).map Code.Entry.stored := by
  have hnumber : nextNumber (entries.map Code.Entry.stored) = .ofNat entries.size := by
    rw [nextNumber, Array.size_map]
  have hp' : ∀ p ∈ parent.map UInt32.ofNat, p.toNat < (entries.map Code.Entry.stored).size := by
    intro p hpp
    obtain ⟨q, hq, rfl⟩ := Option.map_eq_some_iff.1 hpp
    rw [Array.size_map]
    exact Nat.lt_of_le_of_lt (Code.toNat_ofNat_le q) (hp q hq)
  have hparent : (parent.map UInt32.ofNat).map UInt32.toNat = parent := by
    cases parent with
    | none => rfl
    | some p => simp [Code.toNat_ofNat (Nat.lt_trans (hp p rfl) hfit)]
  refine Array.ext_getElem? fun i => ?_
  rw [Array.getElem?_map]
  rcases Nat.lt_trichotomy i entries.size with hi | rfl | hi
  · rw [getElem?_appendEntry_of_lt (by simpa using hi), Code.getElem?_appendEntry_of_lt hi, hparent,
      hnumber, Array.getElem?_map, Option.map_map, Option.map_map]
    refine congrFun (congrArg _ (funext fun e => ?_)) _
    by_cases h : parent = some i
    · simp [h, Code.Entry.stored]
    · simp [h]
  · rw [Code.getElem?_appendEntry_size hp, ← Array.size_map (f := Code.Entry.stored),
      getElem?_appendEntry_size hp']
    rfl
  · rw [Array.getElem?_eq_none (by simpa using Nat.succ_le_of_lt hi),
      Array.getElem?_eq_none (by simpa using Nat.succ_le_of_lt hi)]
    rfl

/-- As far as 32 bits reach, the nodes are there, with all their children. -/
def Covers (entries : Array Entry) (entries' : Array Code.Entry) : Prop :=
  ∀ i < 2 ^ 32, ∀ e : Code.Entry, entries'[i]? = some e →
    ∃ e', entries[i]? = some e' ∧ e'.text = e.text ∧ ∀ j ∈ e.children, UInt32.ofNat j ∈ e'.children

/-- Adding a node keeps them, however many there are. -/
theorem Covers.append {entries : Array Entry} {entries' : Array Code.Entry} {kind : Kind}
    {field : Option Field} {text : Option String} {parent : Option Nat} (h : Covers entries entries')
    (hsize : entries.size = entries'.size) (hp : ∀ p ∈ parent, p < entries'.size) :
    Covers (appendEntry entries kind field text (parent.map UInt32.ofNat))
      (Code.appendEntry entries' kind field text parent) := by
  intro i hi e he
  have hlt : i < entries'.size + 1 := by
    simpa [Code.size_appendEntry] using (Array.getElem?_eq_some_iff.1 he).1
  rcases Nat.lt_or_eq_of_le (Nat.le_of_lt_succ hlt) with hlt | rfl
  · rw [Code.getElem?_appendEntry_of_lt hlt] at he
    obtain ⟨e₀, he₀, rfl⟩ := Option.map_eq_some_iff.1 he
    obtain ⟨e', he', htext, hchildren⟩ := h i hi e₀ he₀
    rw [getElem?_appendEntry_of_lt (hsize ▸ hlt), he', Option.map_some]
    refine ⟨_, rfl, by split <;> split <;> exact htext, ?_⟩
    by_cases hparent : parent = some i
    · -- The node is a parent whose number has kept its bits.
      have hsame : ((parent.map UInt32.ofNat).map UInt32.toNat) = some i := by
        rw [hparent, Option.map_some, Option.map_some, Code.toNat_ofNat hi]
      rw [if_pos hparent, if_pos hsame]
      intro j hj
      rcases List.mem_append.1 hj with hj | hj
      · exact List.mem_append_left _ (hchildren j hj)
      · obtain rfl := List.mem_singleton.1 hj
        exact List.mem_append_right _ (List.mem_singleton.2 (by rw [nextNumber, hsize]))
    · rw [if_neg hparent]
      intro j hj
      split
      · exact List.mem_append_left _ (hchildren j hj)
      · exact hchildren j hj
  · have hp' : ∀ p ∈ parent.map UInt32.ofNat, p.toNat < entries.size := by
      intro p hpp
      obtain ⟨q, hq, rfl⟩ := Option.map_eq_some_iff.1 hpp
      rw [hsize]
      exact Nat.lt_of_le_of_lt (Code.toNat_ofNat_le q) (hp q hq)
    rw [Code.getElem?_appendEntry_size hp] at he
    obtain rfl := Option.some.inj he
    rw [← hsize, getElem?_appendEntry_size hp']
    exact ⟨_, rfl, rfl, by simp⟩

/-! ## Builders -/

/-- What is pushed is opened. -/
theorem Builder.start_fields (b : Builder) (kind : Kind) (field : Option Field) :
    (b.start kind field).entries = (b.push kind field none).1.entries ∧
    (b.start kind field).path = (b.push kind field none).2.toList ++ (b.push kind field none).1.path ∧
    (b.start kind field).root = (b.push kind field none).1.root ∧
    (b.start kind field).fault = (b.push kind field none).1.fault := by
  rw [start]
  split <;> (rename_i h; simp [h])

theorem Builder.finish_fields (b : Builder) :
    b.finish.entries = b.entries ∧ b.finish.path = b.path.tail ∧ b.finish.root = b.root ∧
    b.finish.fault = b.fault.or (if b.path = [] then some .unbalancedFinish else none) := by
  rw [finish]
  split
  next h =>
    split
    next hf => simp [h, Option.isNone_iff_eq_none.1 hf]
    next hf =>
      have hsome : b.fault.isSome := by simpa [Option.isSome_iff_ne_none] using hf
      simp [h, Option.or_of_isSome hsome]
  next h => simp [h]

/-- What a builder that keeps 32 bits of the numbers has in common with one that keeps all: the open
    nodes, the root and the fault, and the nodes, while there is room for the numbers of them. -/
structure Builder.Stores (b : Builder) (l : Code.Builder) : Prop where
  size : b.entries.size = l.entries.size
  path : b.path = l.path.map UInt32.ofNat
  root : b.root = l.root.map UInt32.ofNat
  fault : b.fault = l.fault
  covers : Covers b.entries l.entries
  stored : l.entries.size ≤ 2 ^ 32 → b.entries = l.entries.map Code.Entry.stored

namespace Builder

theorem stores_empty : empty.Stores .empty where
  size := rfl
  path := rfl
  root := rfl
  fault := rfl
  covers i hi e he := by simp [Code.Builder.empty] at he
  stored _ := Array.map_empty.symm

namespace Stores

variable {b : Builder} {l : Code.Builder} (h : b.Stores l)

include h

theorem path_eq_nil_iff : b.path = [] ↔ l.path = [] := by rw [h.path, List.map_eq_nil_iff]

theorem isEmpty_path : b.path.isEmpty = l.path.isEmpty := by rw [h.path, List.isEmpty_map]

theorem isSome_root : b.root.isSome = l.root.isSome := by rw [h.root, Option.isSome_map]

/-- A node is added to both or to none. -/
theorem push (kind : Kind) (field : Option Field) (text : Option String) :
    (b.push kind field text).1.Stores (l.push kind field text).1 ∧
      (b.push kind field text).2 = (l.push kind field text).2.map UInt32.ofNat := by
  have hfault : b.fault.isSome = l.fault.isSome := by rw [h.fault]
  have hclosed : (b.path.isEmpty && b.root.isSome) = (l.path.isEmpty && l.root.isSome) := by
    rw [h.isEmpty_path, h.isSome_root]
  rw [Builder.push, Code.Builder.push]
  by_cases hl : l.fault.isSome = true
  · simp only [if_pos hl, if_pos (hfault.trans hl)]
    exact ⟨h, rfl⟩
  by_cases hl' : (l.path.isEmpty && l.root.isSome) = true
  · simp only [if_neg hl, if_neg (hfault ▸ hl), if_pos hl', if_pos (hclosed.trans hl')]
    exact ⟨{ h with fault := rfl }, rfl⟩
  simp only [if_neg hl, if_neg (hfault ▸ hl), if_neg hl', if_neg (hclosed ▸ hl')]
  have hhead : b.path.head? = l.path.head?.map UInt32.ofNat := by rw [h.path, List.head?_map]
  have hnumber : nextNumber b.entries = .ofNat l.entries.size := by rw [nextNumber, h.size]
  refine ⟨⟨?_, h.path, ?_, h.fault, ?_, fun hfit => ?_⟩, by rw [hnumber, Option.map_some]⟩
  · simp [h.size]
  · simp only [h.isEmpty_path, h.root, hnumber]
    split <;> rfl
  · simp only [hhead]
    exact h.covers.append h.size l.head_lt
  · simp only [Code.size_appendEntry] at hfit
    simp only [hhead, h.stored (Nat.le_of_lt hfit)]
    exact appendEntry_stored l.head_lt hfit

theorem start (kind : Kind) (field : Option Field) :
    (b.start kind field).Stores (l.start kind field) := by
  obtain ⟨hpush, hnumber⟩ := h.push kind field none
  obtain ⟨he, hp, hr, hf⟩ := b.start_fields kind field
  obtain ⟨he', hp', hr', hf'⟩ := l.start_fields kind field
  refine ⟨?_, ?_, ?_, ?_, ?_, ?_⟩
  · rw [he, he', hpush.size]
  · rw [hp, hp', List.map_append, hpush.path, hnumber, Option.toList_map]
  · rw [hr, hr', hpush.root]
  · rw [hf, hf', hpush.fault]
  · rw [he, he']
    exact hpush.covers
  · rw [he, he']
    exact hpush.stored

theorem finish : b.finish.Stores l.finish := by
  obtain ⟨he, hp, hr, hf⟩ := b.finish_fields
  obtain ⟨he', hp', hr', hf'⟩ := l.finish_fields
  refine ⟨?_, ?_, ?_, ?_, ?_, ?_⟩
  · rw [he, he', h.size]
  · rw [hp, hp', h.path, List.map_tail]
  · rw [hr, hr', h.root]
  · rw [hf, hf', h.fault, Code.Builder.refusal]
    simp only [h.path_eq_nil_iff]
  · rw [he, he']
    exact h.covers
  · rw [he, he']
    exact h.stored

/-- Each event keeps what the builders have in common. -/
theorem step (e : Event) : (b.step e).Stores (l.step e) := by
  cases e with
  | start kind field => exact h.start kind field
  | token kind field text => exact (h.push kind field (some text)).1
  | finish => exact h.finish

theorem foldl (es : List Event) : (es.foldl Builder.step b).Stores (es.foldl Code.Builder.step l) := by
  induction es generalizing b l with
  | nil => exact h
  | cons e es ih => exact ih (h.step e)

/-- Both end with a tree or with the same fault. The trees have as many nodes, and if there is room for
    the numbers of them, the one is the other as it is stored. -/
theorem close : (∃ fault, b.close = .error fault ∧ l.close = .error fault) ∨
    ∃ t a, b.close = .ok t ∧ l.close = .ok a ∧ t.size = a.size ∧ t.root = .ofNat a.root ∧
      Covers t.entries a.entries ∧ (a.Fits → t = a.stored) := by
  have hroot := h.isSome_root
  cases hfault : l.fault with
  | some fault =>
    refine .inl ⟨fault, ?_, ?_⟩
    · rw [Builder.close, h.fault, hfault]
    · rw [Code.Builder.close, hfault]
  | none =>
    have hlength : b.path.length = l.path.length := by rw [h.path, List.length_map]
    rw [Builder.close, Code.Builder.close, h.fault, hfault]
    simp only [h.isEmpty_path, hlength]
    by_cases hpath : (!l.path.isEmpty) = true
    · rw [if_pos hpath, if_pos hpath]
      exact .inl ⟨_, rfl, rfl⟩
    · rw [if_neg hpath, if_neg hpath]
      split
      next hb =>
        split
        next => exact .inl ⟨_, rfl, rfl⟩
        next hl => simp [hb, hl] at hroot
      next r hb =>
        split
        next hl => simp [hb, hl] at hroot
        next r' hl =>
          have hsame := h.root
          rw [hb, hl, Option.map_some, Option.some.injEq] at hsame
          exact .inr ⟨_, _, rfl, rfl, h.size, hsame, h.covers, fun hfit => Arena.ext (h.stored hfit) hsame⟩

end Stores

end Builder

/-! ## The outcome -/

variable {es : List Event}

/-- The builders agree on the outcome. -/
theorem build_cases (es : List Event) :
    (∃ fault, build es = .error fault ∧ Code.build es = .error fault) ∨
    ∃ t a, build es = .ok t ∧ Code.build es = .ok a ∧ t.size = a.size ∧ t.root = .ofNat a.root ∧
      Covers t.entries a.entries ∧ (a.Fits → t = a.stored) :=
  (Builder.stores_empty.foldl es).close

/-- The faults are the same. -/
theorem build_eq_error_iff {fault : Fault} : build es = .error fault ↔ Code.build es = .error fault := by
  rcases build_cases es with ⟨fault', h, h'⟩ | ⟨t, a, h, h', -⟩
  · rw [h, h', Except.error.injEq, Except.error.injEq]
  · simp [h, h']

/-- A tree is built by the one if it is by the other, with as many nodes. -/
theorem exists_build {a : Code.Arena} (h : Code.build es = .ok a) :
    ∃ t, build es = .ok t ∧ t.size = a.size := by
  rcases build_cases es with ⟨fault, -, h'⟩ | ⟨t, a', ht, h', hsize, -⟩
  · exact nomatch h.symm.trans h'
  · obtain rfl := Except.ok.inj (h.symm.trans h')
    exact ⟨t, ht, hsize⟩

/-- Whatever is built, its first nodes are those of the tree, with all their children. -/
theorem exists_covers_of_build {t : Arena} (h : build es = .ok t) :
    ∃ a, Code.build es = .ok a ∧ t.size = a.size ∧ t.root = .ofNat a.root ∧
      Covers t.entries a.entries := by
  rcases build_cases es with ⟨fault, h', -⟩ | ⟨t', a, h', ha, hsize, hroot, hcovers, -⟩
  · exact nomatch h.symm.trans h'
  · obtain rfl := Except.ok.inj (h.symm.trans h')
    exact ⟨a, ha, hsize, hroot, hcovers⟩

/-- A tree that fits is built as it is stored. -/
theorem build_stored {a : Code.Arena} (h : Code.build es = .ok a) (hfit : a.Fits) :
    build es = .ok a.stored := by
  rcases build_cases es with ⟨fault, -, h'⟩ | ⟨t, a', ht, h', -, -, -, hstored⟩
  · exact nomatch h.symm.trans h'
  · obtain rfl := Except.ok.inj (h.symm.trans h')
    exact hstored hfit ▸ ht

/-- What is built, with at most 2 ^ 32 nodes, is a tree as it is stored. -/
theorem exists_stored_of_build {t : Arena} (h : build es = .ok t) (hsize : t.size ≤ 2 ^ 32) :
    ∃ a, Code.build es = .ok a ∧ a.Fits ∧ t = a.stored := by
  rcases build_cases es with ⟨fault, h', -⟩ | ⟨t', a, h', ha, heq, -, -, hstored⟩
  · exact nomatch h.symm.trans h'
  · obtain rfl := Except.ok.inj (h.symm.trans h')
    have hfit : a.Fits := heq.symm.trans_le hsize
    exact ⟨a, ha, hfit, hstored hfit⟩

end AsyncIdioms.Syntax
