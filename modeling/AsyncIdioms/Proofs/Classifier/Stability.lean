/-
  The order of evaluation keeps as close to the catalog as dependencies allow.

  Each time, the first of the rules that can be taken is taken. An order of this kind comes before all
  others: where another one differs from it for the first time, the other one takes a rule that stands
  further back in the catalog.

  * `Catalog.Takeable` : a rule can be taken next; `Catalog.Legal` : an order of rules that can be
    taken one after the other; `Catalog.Greedy` : an order in which each time the first one is taken;
  * `Agenda.Sound.greedy_take`, `Agenda.Sound.greedy_work` : one rule is taken, and all of them are;
  * `Catalog.Greedy.eq_or_lex` : a greedy order is the least of the legal ones;
  * `Catalog.IsSchedule` : orders of all rules, by their tags, that respect dependencies;
    `Catalog.places` : the places of their rules in the catalog;
  * `Catalog.compile_least_schedule` : the order of evaluation is the least schedule.
-/
import AsyncIdioms.Proofs.Classifier.Compile

namespace AsyncIdioms

/-! ## Orders that can be taken -/

namespace Catalog

variable (c : Catalog)

/-- Once the rules `done` are taken, rule `j` can be taken: it is none of them, and the rules that it
    looks at are among them. -/
def Takeable (done : List Nat) (j : Nat) : Prop :=
  j < c.rules.length ∧ j ∉ done ∧ ∀ d ∈ c.dependenciesAt j, d ∈ done

/-- Each rule can be taken after those before it. -/
def Legal (order : List Nat) : Prop :=
  ∀ before i after, order = before ++ i :: after → c.Takeable before i

/-- Each rule is the first of those that can be taken after those before it. -/
def Greedy (order : List Nat) : Prop :=
  ∀ before i after, order = before ++ i :: after → ∀ j, c.Takeable before j → i ≤ j

variable {c}

theorem greedy_nil : c.Greedy [] := by
  intro before i after h
  simp at h

theorem Greedy.concat {order : List Nat} {i : Nat} (h : c.Greedy order)
    (hi : ∀ j, c.Takeable order j → i ≤ j) : c.Greedy (order ++ [i]) := by
  intro before k after heq
  rcases List.eq_nil_or_concat after with rfl | ⟨after, z, rfl⟩
  · obtain ⟨rfl, hik⟩ := List.append_inj' heq rfl
    obtain rfl : i = k := by simpa using hik
    exact hi
  · have heq' : order ++ [i] = (before ++ k :: after) ++ [z] := by simpa using heq
    exact h before k after (List.append_inj' heq' rfl).1

/-- **A greedy order is the least of the legal ones.** -/
theorem Greedy.eq_or_lex {order other : List Nat} (h : c.Greedy order) (hother : c.Legal other)
    (hlen : order.length = other.length) : order = other ∨ List.Lex (· < ·) order other := by
  -- the induction is on what follows a common beginning `done`
  suffices hrest : ∀ (xs ys done : List Nat), order = done ++ xs → other = done ++ ys →
      xs.length = ys.length → xs = ys ∨ List.Lex (· < ·) xs ys from
    hrest order other [] rfl rfl hlen
  intro xs
  induction xs with
  | nil =>
    intro ys done _ _ hlen
    exact .inl (List.length_eq_zero_iff.1 hlen.symm).symm
  | cons i xs ih =>
    intro ys done hxs hys hlen
    cases ys with
    | nil => simp at hlen
    | cons j ys =>
      have hle : i ≤ j := h done i xs hxs j (hother done j ys hys)
      rcases Nat.lt_or_eq_of_le hle with hlt | rfl
      · exact .inr (.rel hlt)
      · rcases ih ys (done ++ [i]) (by simpa using hxs) (by simpa using hys)
          (by simpa using hlen) with rfl | hlex
        · exact .inl rfl
        · exact .inr (.cons hlex)

end Catalog

/-! ## Taking the first rule each time -/

namespace Agenda

variable {c : Catalog} {a a' : Agenda}

theorem order_release {i : Nat} (h : a.release i = .ok a') : a'.order = a.order := by
  obtain ⟨_, _, _, rfl⟩ := release_eq_ok_iff.1 h
  rfl

theorem order_foldlM_release {is : List Nat} (h : is.foldlM release a = .ok a') :
    a'.order = a.order := by
  induction is generalizing a with
  | nil =>
    cases h
    rfl
  | cons i is ih =>
    rw [List.foldlM_cons] at h
    obtain ⟨b, hb, h⟩ := bind_eq_ok_iff.1 h
    rw [ih h, order_release hb]

/-- The rule that is taken is put at the end of the order. -/
theorem order_take {dependents : Array (List Nat)} {i : Nat} {ready : List Nat}
    (h : a.take dependents i ready = .ok a') : a'.order = a.order ++ [i] := by
  obtain ⟨next, -, h⟩ := bind_eq_ok_iff.1 h
  exact order_foldlM_release h

/-- The rules that are ready are those that can be taken. -/
theorem Sound.mem_ready_iff (h : a.Sound c) {i : Nat} : i ∈ a.ready ↔ c.Takeable a.order i := by
  rw [h.mem_ready, Catalog.outstanding_eq_nil_iff, Catalog.Takeable]
  simp

theorem Sound.greedy_take (h : a.Sound c) (hg : c.Greedy a.order) {dependents : Array (List Nat)}
    {i : Nat} {ready : List Nat} (hready : a.ready = i :: ready)
    (htake : a.take dependents i ready = .ok a') : c.Greedy a'.order := by
  rw [order_take htake]
  refine hg.concat fun j hj => ?_
  have hsorted := h.sorted
  rw [hready] at hsorted
  have hmem := h.mem_ready_iff.2 hj
  rw [hready] at hmem
  rcases List.mem_cons.1 hmem with rfl | hmem
  · exact Nat.le_refl _
  · exact Nat.le_of_lt (List.rel_of_pairwise_cons hsorted hmem)

theorem Sound.greedy_work {w : Waiting} (hw : c.Counted c.rules.length w) (h : a.Sound c)
    (hg : c.Greedy a.order) (hwork : a.work w.dependents = .ok a') : c.Greedy a'.order := by
  induction a using Agenda.work.induct w.dependents with
  | case1 a hready =>
    rw [work_of_ready_nil hready] at hwork
    exact Except.ok.inj hwork ▸ hg
  | case2 a i ready hready b htake ih =>
    obtain ⟨b', hb', hbs⟩ := h.take hw hready
    obtain rfl : b = b' := Except.ok.inj (htake.symm.trans hb')
    rw [work_of_take hready htake] at hwork
    exact ih hbs (h.greedy_take hg hready htake) hwork
  | case3 a i ready hready fault htake =>
    obtain ⟨b', hb', -⟩ := h.take hw hready
    rw [htake] at hb'
    contradiction

end Agenda

namespace Catalog

variable {c : Catalog}

theorem greedy_evaluationOrder {order : List Nat} (h : c.evaluationOrder = .ok order) :
    c.Greedy order := by
  obtain ⟨w, hw, hcounted⟩ := c.waiting_counted
  obtain ⟨ready, hready, hsound⟩ := Agenda.sound_initially hcounted
  obtain ⟨a, hwork, ha, hnone⟩ := hsound.work hcounted
  have hg := hsound.greedy_work hcounted greedy_nil hwork
  simp only [evaluationOrder, hw, hready, hwork, stuckTags_ok ha hnone, bind, Except.bind] at h
  split at h
  · exact Except.ok.inj h ▸ hg
  · contradiction

theorem exhausted_evaluationOrder {order : List Nat} (h : c.evaluationOrder = .ok order) :
    c.Exhausted order := by
  obtain ⟨order', hex, hspec⟩ := c.evaluationOrder_spec
  rw [h] at hspec
  split at hspec
  · exact Except.ok.inj hspec ▸ hex
  · contradiction

/-! ## Places in the catalog -/

variable (c) in
/-- The places in the catalog of the rules for these tags. -/
def places (tags : List Tag) : List Nat := tags.map fun t => (c.rules.map (·.tag)).idxOf t

variable (c) in
/-- All rules, by their tags, each one behind those it depends on. -/
def IsSchedule (tags : List Tag) : Prop := tags.Perm (c.rules.map (·.tag)) ∧ c.Respects tags

theorem tagAt?_idxOf {t : Tag} (h : t ∈ c.rules.map (·.tag)) :
    c.tagAt? ((c.rules.map (·.tag)).idxOf t) = some t := by
  rw [tagAt?, ← List.getElem?_map]
  exact List.getElem?_idxOf h

theorem filterMap_tagAt?_places {tags : List Tag} (h : ∀ t ∈ tags, t ∈ c.rules.map (·.tag)) :
    (c.places tags).filterMap c.tagAt? = tags := by
  rw [places, List.filterMap_map]
  have hsome : ∀ t ∈ tags, (c.tagAt? ∘ fun t => (c.rules.map (·.tag)).idxOf t) t = some t :=
    fun t ht => tagAt?_idxOf (h t ht)
  rw [List.filterMap_congr hsome, List.filterMap_some]

section
variable (hnd : (c.rules.map (·.tag)).Nodup)
include hnd

theorem idxOf_tag {j : Nat} {s : Rule} (hs : c.rules[j]? = some s) :
    (c.rules.map (·.tag)).idxOf s.tag = j := by
  obtain ⟨hj, rfl⟩ := List.getElem?_eq_some_iff.1 hs
  have := hnd.idxOf_getElem j (by simpa using hj)
  simpa using this

theorem places_filterMap_tagAt? {order : List Nat} (h : ∀ i ∈ order, i < c.rules.length) :
    c.places (order.filterMap c.tagAt?) = order := by
  rw [places, List.map_filterMap]
  have hsome : ∀ i ∈ order,
      (c.tagAt? i).map (fun t => (c.rules.map (·.tag)).idxOf t) = some i := by
    intro i hi
    obtain ⟨r, hr⟩ : ∃ r, c.rules[i]? = some r := ⟨_, List.getElem?_eq_getElem (h i hi)⟩
    rw [tagAt?, hr, Option.map_some, Option.map_some, idxOf_tag hnd hr]
  rw [List.filterMap_congr hsome, List.filterMap_some]

/-- The places of a schedule can be taken one after the other. -/
theorem IsSchedule.legal {tags : List Tag} (h : c.IsSchedule tags) : c.Legal (c.places tags) := by
  obtain ⟨hperm, hresp⟩ := h
  intro before i after heq
  obtain ⟨earlier, rest, rfl, rfl, hrest⟩ := List.map_eq_append_iff.1 heq
  obtain ⟨t, later, rfl, rfl, rfl⟩ := List.map_eq_cons_iff.1 hrest
  have hmem : ∀ u ∈ earlier ++ t :: later, u ∈ c.rules.map (·.tag) := fun u hu => hperm.mem_iff.1 hu
  have ht : t ∈ c.rules.map (·.tag) := hmem t (by simp)
  obtain ⟨r, hr, hrt⟩ := Option.map_eq_some_iff.1 (tagAt?_idxOf ht)
  refine ⟨(List.getElem?_eq_some_iff.1 hr).1, fun hdone => ?_, fun d hd => ?_⟩
  · -- no tag stands twice in the schedule
    obtain ⟨u, hu, hut⟩ := List.mem_map.1 hdone
    obtain rfl : u = t := (List.idxOf_inj (hmem u (by simp [hu]))).1 hut
    have hnodup := hperm.nodup_iff.2 hnd
    exact (List.nodup_append.1 hnodup).2.2 u hu u (by simp) rfl
  · obtain ⟨s, hs⟩ : ∃ s, c.rules[d]? = some s :=
      ⟨_, List.getElem?_eq_getElem (dependenciesAt_lt hd).2⟩
    have hearlier := hresp earlier t later rfl r s ((dependsOn_iff hnd hr hs).2 hd) hrt
    exact List.mem_map.2 ⟨s.tag, hearlier, idxOf_tag hnd hs⟩

end

/-! ## The least schedule -/

/-- **The order of evaluation is the least schedule**: it lists all rules, each one behind those it
    depends on, and every other such list has a rule that stands further back in the catalog where it
    differs first. -/
theorem compile_least_schedule [RegexLibrary] {k : Classifier} (h : c.compile = .ok k) :
    c.IsSchedule k.evaluationOrder ∧
      ∀ tags, c.IsSchedule tags → k.evaluationOrder = tags ∨
        List.Lex (· < ·) (c.places k.evaluationOrder) (c.places tags) := by
  have hnd := nodup_tags (shapeFault?_of_compile h)
  have hschedule : c.IsSchedule k.evaluationOrder := order_of_compile h
  refine ⟨hschedule, fun tags htags => ?_⟩
  obtain ⟨order, horder, hk⟩ := evaluationOrder_of_compile h
  have hplaces : c.places k.evaluationOrder = order := by
    rw [hk, places_filterMap_tagAt? hnd]
    intro i hi
    exact List.mem_range.1 ((exhausted_evaluationOrder horder).subset_range hi)
  have hlen : order.length = (c.places tags).length := by
    rw [← hplaces, places, places, List.length_map, List.length_map, hschedule.1.length_eq,
      htags.1.length_eq]
  rcases (greedy_evaluationOrder horder).eq_or_lex (htags.legal hnd) hlen with heq | hlex
  · left
    rw [hk, heq, filterMap_tagAt?_places fun t ht => htags.1.mem_iff.1 ht]
  · right
    rwa [hplaces]

/-- The first rule has to wait for the third one, and then comes before the last. -/
theorem compile_least_schedule_jump :
    let c : Catalog := ⟨[lookingAt .tap [.eap, .eap], lookingAt .apmBegin [.threadStart],
      lookingAt .eap [.apmBegin], lookingAt .apmEnd []]⟩
    ∃ k, c.compile = .ok k ∧ k.evaluationOrder = [.apmBegin, .eap, .tap, .apmEnd] ∧
      c.IsSchedule k.evaluationOrder ∧
      ∀ tags, c.IsSchedule tags → k.evaluationOrder = tags ∨
        List.Lex (· < ·) (c.places k.evaluationOrder) (c.places tags) := by
  intro c
  obtain ⟨k, hk⟩ := exists_compile_of_isSome (c := c) (by decide +kernel)
  have horder : c.compile.toOption.map Classifier.evaluationOrder =
      some [.apmBegin, .eap, .tap, .apmEnd] := by decide +kernel
  rw [hk] at horder
  exact ⟨k, hk, Option.some.inj horder, compile_least_schedule hk⟩

end Catalog

end AsyncIdioms
