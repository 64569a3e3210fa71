/-
  Which events tell a tree.

  The grammar (`TellsTree`) says nothing about builders, and the first faulty event (`FirstFault`) is
  found by counting the events before it. A builder that has no fault was told a whole tree, or a
  part of one with as many nodes open as its path is long (`Builder.WasTold`):

  * `tellsTree_iff` : what follows the grammar are the events of trees;
  * `Builder.WasTold.step` : an event that is not refused extends what was told;
  * `Builder.WasTold.refusal` : an event is refused exactly if it is faulty where it stands;
  * `build_iff_tellsTree` : a tree is built exactly if the events follow the grammar; else the fault is that
    of the first faulty event, and without one it tells how many nodes are open.
-/
import Mathlib.Data.List.Induction
import AsyncIdioms.Proofs.Code.Build

namespace AsyncIdioms.Code

/-! ## The grammar -/

/-- A token tells a tree, and so does a start, then what tells the children, then a finish. -/
inductive TellsTree : List Event → Prop
  | token (kind : Kind) (field : Option Field) (text : String) : TellsTree [.token kind field text]
  | node (kind : Kind) (field : Option Field) {parts : List (List Event)}
      (h : ∀ part ∈ parts, TellsTree part) :
      TellsTree (.start kind field :: (parts.flatten ++ [.finish]))

mutual
theorem Tree.tellsTree_events : ∀ t : Tree, TellsTree t.events
  | token kind field text => .token kind field text
  | node kind field ts => by
    rw [events, eventsAll_eq, List.flatMap_def]
    exact .node kind field (tellsTree_of_mem_map ts)
theorem Tree.tellsTree_of_mem_map : ∀ ts : List Tree, ∀ part ∈ ts.map events, TellsTree part
  | [], _, h => nomatch h
  | t :: ts, part, h => by
    rcases List.mem_cons.1 h with rfl | h
    · exact tellsTree_events t
    · exact tellsTree_of_mem_map ts part h
end

/-- What follows the grammar are the events of trees. -/
theorem tellsTree_iff {es : List Event} : TellsTree es ↔ ∃ t : Tree, t.events = es := by
  refine ⟨fun h => ?_, fun ⟨t, ht⟩ => ht ▸ t.tellsTree_events⟩
  induction h with
  | token kind field text => exact ⟨.token kind field text, rfl⟩
  | @node kind field parts _ ih =>
    have hts : ∃ ts : List Tree, ts.map Tree.events = parts := by
      clear * - ih
      induction parts with
      | nil => exact ⟨[], rfl⟩
      | cons part parts hparts =>
        obtain ⟨t, ht⟩ := ih part List.mem_cons_self
        obtain ⟨ts, hts⟩ := hparts fun q hq => ih q (List.mem_cons_of_mem _ hq)
        exact ⟨t :: ts, by rw [List.map_cons, ht, hts]⟩
    obtain ⟨ts, rfl⟩ := hts
    exact ⟨.node kind field ts, by rw [Tree.events, Tree.eventsAll_eq, List.flatMap_def]⟩

/-- Events after which `n` nodes are open: each was started, and then whole children were told. -/
inductive Pending : Nat → List Event → Prop
  | nil : Pending 0 []
  | start {n : Nat} {before : List Event} (kind : Kind) (field : Option Field)
      {parts : List (List Event)} (hbefore : Pending n before) (h : ∀ part ∈ parts, TellsTree part) :
      Pending (n + 1) (before ++ .start kind field :: parts.flatten)

namespace Pending

variable {n : Nat} {es part : List Event}

/-- A whole tree is added below the innermost open node, or it is all that is told. -/
theorem append (h : Pending n es) (hpart : TellsTree part) :
    Pending n (es ++ part) ∨ n = 0 ∧ TellsTree (es ++ part) := by
  cases h with
  | nil => exact .inr ⟨rfl, hpart⟩
  | @start _ before kind field parts hbefore h =>
    have hparts : ∀ q ∈ parts ++ [part], TellsTree q := by
      simpa [or_imp, forall_and] using ⟨h, hpart⟩
    refine .inl ?_
    simpa using Pending.start kind field hbefore hparts

/-- A finish makes a whole tree of what was told since the innermost open node was started. -/
theorem finish (h : Pending (n + 1) es) :
    ∃ before part, es ++ [.finish] = before ++ part ∧ Pending n before ∧ TellsTree part := by
  cases h with
  | @start _ before kind field parts hbefore h =>
    exact ⟨before, _, by simp, hbefore, .node kind field h⟩

end Pending

/-! ## Faulty events -/

/-- A node is started or a token is added. -/
def Event.adds : Event → Bool
  | start _ _ | token _ _ _ => true
  | finish => false

def Event.starts : Event → Bool
  | start _ _ => true
  | _ => false

/-- How many nodes were started and not finished. -/
def openCount (es : List Event) : Nat := es.countP Event.starts - es.count .finish

/-- The fault of an event that comes after others: it finishes a node while none is open, or it adds
    one while none is open and there is a root. -/
def faultBehind (before : List Event) : Event → Option Fault
  | .start _ _ | .token _ _ _ =>
    if openCount before = 0 ∧ before.any Event.adds then some .multipleRoots else none
  | .finish => if openCount before = 0 then some .unbalancedFinish else none

/-- No event is faulty. -/
def Faultless (es : List Event) : Prop :=
  ∀ before e after, es = before ++ e :: after → faultBehind before e = none

/-- The first faulty event has this fault. -/
def FirstFault (es : List Event) (fault : Fault) : Prop :=
  ∃ before e after, es = before ++ e :: after ∧ Faultless before ∧ faultBehind before e = some fault

theorem faultless_concat {es : List Event} {e : Event} :
    Faultless (es ++ [e]) ↔ Faultless es ∧ faultBehind es e = none := by
  refine ⟨fun h => ⟨?_, h es e [] rfl⟩, ?_⟩
  · rintro before e' after rfl
    exact h before e' (after ++ [e]) (by simp)
  · rintro ⟨hes, he⟩ before e' after h
    rcases List.eq_nil_or_concat after with rfl | ⟨after, last, rfl⟩
    · obtain ⟨rfl, rfl⟩ := List.append_singleton_inj.1 h
      exact he
    · rw [List.concat_eq_append, ← List.cons_append, ← List.append_assoc] at h
      exact hes before e' after (List.append_singleton_inj.1 h).1

/-- Either no event is faulty, or there is a first one. -/
theorem faultless_or_firstFault (es : List Event) :
    Faultless es ∨ ∃ fault, FirstFault es fault := by
  induction es using List.reverseRecOn with
  | nil => exact .inl fun before e after h => by simp at h
  | append_singleton es e ih =>
    rcases ih with hes | ⟨fault, before, e', after, rfl, hb, he'⟩
    · cases he : faultBehind es e with
      | none => exact .inl (faultless_concat.2 ⟨hes, he⟩)
      | some fault => exact .inr ⟨fault, es, e, [], rfl, hes, he⟩
    · exact .inr ⟨fault, before, e', after ++ [e], by simp, hb, he'⟩

/-- The fault of events that end too early: nodes are open, or there are none. -/
def endFault (es : List Event) : Fault :=
  if 0 < openCount es then .unclosed (openCount es) else .empty

/-! ## Counting -/

/-- As many nodes are started as are finished. -/
def Balanced (es : List Event) : Prop := es.countP Event.starts = es.count .finish

theorem balanced_flatten {parts : List (List Event)} (h : ∀ part ∈ parts, Balanced part) :
    Balanced parts.flatten := by
  rw [Balanced, List.countP_flatten, List.count_flatten, List.map_congr_left h]

theorem TellsTree.balanced {es : List Event} (h : TellsTree es) : Balanced es := by
  induction h with
  | token kind field text => rfl
  | node kind field h ih =>
    have hparts := balanced_flatten ih
    rw [Balanced] at hparts ⊢
    simp [List.countP_cons, List.countP_append, Event.starts, hparts]

theorem Pending.countP_starts {n : Nat} {es : List Event} (h : Pending n es) :
    es.countP Event.starts = es.count .finish + n := by
  induction h with
  | nil => rfl
  | start kind field hbefore h ih =>
    have hparts : Balanced _ := balanced_flatten fun part hpart => (h part hpart).balanced
    rw [Balanced] at hparts
    simp [List.countP_cons, List.countP_append, Event.starts, ih, hparts]
    omega

theorem TellsTree.openCount_eq {es : List Event} (h : TellsTree es) : openCount es = 0 := by
  rw [openCount, h.balanced, Nat.sub_self]

theorem Pending.openCount_eq {n : Nat} {es : List Event} (h : Pending n es) : openCount es = n := by
  rw [openCount, h.countP_starts, Nat.add_sub_cancel_left]

theorem TellsTree.any_adds {es : List Event} (h : TellsTree es) : es.any Event.adds = true := by
  cases h <;> rfl

theorem Pending.any_adds {n : Nat} {es : List Event} (h : Pending (n + 1) es) :
    es.any Event.adds = true := by
  cases h with
  | start kind field hbefore h => simp [Event.adds]

/-! ## What a builder was told -/

namespace Builder

variable {b : Builder} {es : List Event} {e : Event}

/-- A builder without a fault after some events: they told a whole tree, or a part of one. -/
structure WasTold (b : Builder) (es : List Event) : Prop where
  fault : b.fault = none
  root : b.root.isSome = es.any Event.adds
  told : Pending b.path.length es ∨ b.path.length = 0 ∧ TellsTree es

theorem wasTold_empty : empty.WasTold [] := ⟨rfl, rfl, .inl .nil⟩

theorem WasTold.openCount_eq (h : b.WasTold es) : openCount es = b.path.length := by
  rcases h.told with ht | ⟨hp, ht⟩
  · exact ht.openCount_eq
  · rw [ht.openCount_eq, hp]

/-- An event is refused exactly if it is faulty where it stands. -/
theorem WasTold.refusal (h : b.WasTold es) (e : Event) : b.refusal e = faultBehind es e := by
  cases e <;> simp only [Builder.refusal, faultBehind, h.openCount_eq, h.root, List.length_eq_zero_iff]

theorem WasTold.fault_step (h : b.WasTold es) (e : Event) : (b.step e).fault = faultBehind es e := by
  rw [step_fault, h.fault, Option.none_or, h.refusal]

theorem WasTold.pending (h : b.WasTold es) (hc : b.CanAdd) : Pending b.path.length es := by
  rcases h.told with ht | ⟨hp, ht⟩
  · exact ht
  · have hroot := h.root
    rw [hc.root (List.length_eq_zero_iff.1 hp), ht.any_adds] at hroot
    contradiction

theorem WasTold.isSome_root (h : b.WasTold es) :
    (if b.path = [] then some b.entries.size else b.root).isSome = true := by
  split
  · rfl
  next hp =>
    rw [h.root]
    rcases h.told with ht | ⟨-, ht⟩
    · obtain ⟨n, hn⟩ := Nat.exists_eq_succ_of_ne_zero (mt List.length_eq_zero_iff.1 hp)
      exact (hn ▸ ht).any_adds
    · exact ht.any_adds

/-- An event that is not refused extends what was told. -/
theorem WasTold.step (h : b.WasTold es) (he : b.refusal e = none) :
    (b.step e).WasTold (es ++ [e]) := by
  cases e with
  | start kind field =>
    have hc : b.CanAdd := .of_refusal h.fault he (by simp)
    obtain ⟨hc', hp, hr, -⟩ := hc.start kind field
    refine ⟨hc'.fault, ?_, .inl ?_⟩
    · rw [Builder.step, hr, h.isSome_root]
      simp [Event.adds]
    · rw [Builder.step, hp]
      exact .start kind field (h.pending hc) (List.forall_mem_nil TellsTree)
  | token kind field text =>
    have hc : b.CanAdd := .of_refusal h.fault he (by simp)
    have hg := hc.grows_token kind field text
    refine ⟨hg.fault, ?_, ?_⟩
    · rw [Builder.step, hg.root, List.head?_cons, h.isSome_root]
      simp [Event.adds]
    · rw [Builder.step, hg.path]
      exact (h.pending hc).append (.token kind field text)
  | finish =>
    obtain ⟨-, hp, hr, hf⟩ := b.finish_fields
    cases hpath : b.path with
    | nil => simp [Builder.refusal, hpath] at he
    | cons p rest =>
      have hpending : Pending (rest.length + 1) es := by
        rcases h.told with ht | ⟨hlen, -⟩
        · rwa [hpath] at ht
        · simp [hpath] at hlen
      -- The innermost open node and its children are a whole tree now, which goes to the node
      -- around it.
      obtain ⟨before, part, heq, hbefore, hpart⟩ := hpending.finish
      refine ⟨by rw [Builder.step, hf, h.fault, he, Option.none_or], ?_, ?_⟩
      · rw [Builder.step, hr, h.root]
        simp [Event.adds]
      · rw [Builder.step, hp, hpath, List.tail_cons, heq]
        exact hbefore.append hpart

/-- Events without a fault leave a builder without one, which was told just these. -/
theorem wasTold_of_faultless (h : Faultless es) : (es.foldl step empty).WasTold es := by
  induction es using List.reverseRecOn with
  | nil => exact wasTold_empty
  | append_singleton es e ih =>
    obtain ⟨hes, he⟩ := faultless_concat.1 h
    rw [List.foldl_append, List.foldl_cons, List.foldl_nil]
    have ht := ih hes
    exact ht.step (by rw [ht.refusal, he])

theorem foldl_fault {fault : Fault} (es : List Event) (h : b.fault = some fault) :
    (es.foldl step b).fault = some fault := by
  induction es generalizing b with
  | nil => exact h
  | cons e es ih => exact ih (by rw [step_fault, h, Option.some_or])

/-- The fault that is kept is that of the first faulty event. -/
theorem fault_of_firstFault {fault : Fault} (h : FirstFault es fault) :
    (es.foldl step empty).fault = some fault := by
  obtain ⟨before, e, after, rfl, hbefore, he⟩ := h
  rw [List.foldl_append, List.foldl_cons]
  exact foldl_fault after (((wasTold_of_faultless hbefore).fault_step e).trans he)

/-- A whole tree is closed; else the nodes that are open are counted. -/
theorem WasTold.close (h : b.WasTold es) :
    TellsTree es ∧ (∃ a, b.close = .ok a) ∨ ¬ TellsTree es ∧ b.close = .error (endFault es) := by
  rcases h.told with ht | ⟨hp, ht⟩
  · refine .inr ?_
    rw [endFault, h.openCount_eq]
    cases hpath : b.path with
    | nil =>
      obtain rfl : es = [] := by
        rw [hpath] at ht
        cases ht
        rfl
      refine ⟨fun hes => Bool.false_ne_true hes.any_adds, ?_⟩
      exact close_of_empty h.fault hpath (Option.not_isSome_iff_eq_none.1 (by simp [h.root]))
    | cons p rest =>
      refine ⟨fun hes => ?_, ?_⟩
      · have := h.openCount_eq
        rw [hes.openCount_eq, hpath] at this
        contradiction
      · rw [close_of_open h.fault (by simp [hpath]), hpath, if_pos (by simp)]
  · obtain ⟨r, hr⟩ := Option.isSome_iff_exists.1 (h.root.trans ht.any_adds)
    obtain ⟨a, ha, -⟩ := close_eq_ok h.fault (List.length_eq_zero_iff.1 hp) hr
    exact .inl ⟨ht, a, ha⟩

end Builder

/-! ## The outcome -/

/-- A tree is built exactly if the events tell one. Else the fault is that of the first faulty event,
    whatever follows it; without one it says how many nodes are open, or that there are none. -/
theorem build_iff_tellsTree (es : List Event) :
    ((∃ a, build es = .ok a) ↔ TellsTree es) ∧
    ∀ fault, build es = .error fault ↔
      FirstFault es fault ∨ Faultless es ∧ ¬ TellsTree es ∧ fault = endFault es := by
  rcases faultless_or_firstFault es with hes | ⟨fault₀, hfirst⟩
  · have ht := Builder.wasTold_of_faultless hes
    have hno : ∀ fault, ¬ FirstFault es fault := fun fault hfault => by
      have := Builder.fault_of_firstFault hfault
      rw [ht.fault] at this
      contradiction
    rcases ht.close with ⟨htells, a, ha⟩ | ⟨htells, hclose⟩
    · have hbuild : build es = .ok a := ha
      simp [hbuild, hno, htells]
    · have hbuild : build es = .error (endFault es) := hclose
      simp [hbuild, hno, hes, htells, eq_comm]
  · have hfault := Builder.fault_of_firstFault hfirst
    have hbuild : build es = .error fault₀ := Builder.close_of_fault hfault
    have htells : ¬ TellsTree es := fun h => by
      obtain ⟨t, rfl⟩ := tellsTree_iff.1 h
      obtain ⟨a, ha, -⟩ := t.build_events
      rw [hbuild] at ha
      contradiction
    have hes : ¬ Faultless es := fun h => by
      rw [(Builder.wasTold_of_faultless h).fault] at hfault
      contradiction
    have hunique : ∀ fault, FirstFault es fault ↔ fault₀ = fault := fun fault => by
      refine ⟨fun h => ?_, fun h => h ▸ hfirst⟩
      exact Option.some.inj (hfault.symm.trans (Builder.fault_of_firstFault h))
    simp [hbuild, htells, hes, hunique]

end AsyncIdioms.Code
