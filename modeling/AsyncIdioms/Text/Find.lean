/-
  Texts inside texts.

  * `contains`, `startsWith`, `endsWith` : where a needle occurs in a text; each is decided on the
    characters and stated as `<:+:`, `<+:` or `<:+` (`contains_iff`, `startsWith_iff`,
    `endsWith_iff`);
  * `infix_append_iff_of_not_mem` : a word that cannot start in front is found behind;
  * `before c` and `afterLast c` : a text cut at its first, or after its last, character `c`.
-/
namespace AsyncIdioms.Text

/-- Does the needle occur as a run of consecutive characters? -/
def occursIn (needle : List Char) : List Char → Bool
  | [] => needle.isEmpty
  | c :: rest => needle.isPrefixOf (c :: rest) || occursIn needle rest

theorem occursIn_iff {needle : List Char} : ∀ {cs : List Char},
    occursIn needle cs = true ↔ needle <:+: cs
  | [] => by simp [occursIn]
  | c :: rest => by
    simp [occursIn, List.infix_cons_iff, @occursIn_iff needle rest]

/-- A word whose first letter does not occur in front is found behind. -/
theorem infix_append_iff_of_not_mem {α : Type} {a : α} {word front rest : List α}
    (h : a ∉ front) : a :: word <:+: front ++ rest ↔ a :: word <:+: rest := by
  induction front with
  | nil => rfl
  | cons b front ih =>
    obtain ⟨hne, hfront⟩ := not_or.1 (mt List.mem_cons.2 h)
    rw [List.cons_append, List.infix_cons_iff, List.cons_prefix_cons, ih hfront]
    exact or_iff_right fun hstart => hne hstart.1

/-- Does `needle` occur in `text`? -/
def contains (text needle : String) : Bool := occursIn needle.toList text.toList

/-- Does `text` start with `needle`? -/
def startsWith (text needle : String) : Bool := needle.toList.isPrefixOf text.toList

/-- Does `text` end with `needle`? -/
def endsWith (text needle : String) : Bool := needle.toList.isSuffixOf text.toList

theorem contains_iff {text needle : String} :
    contains text needle = true ↔ needle.toList <:+: text.toList := occursIn_iff

theorem startsWith_iff {text needle : String} :
    startsWith text needle = true ↔ needle.toList <+: text.toList := List.isPrefixOf_iff_prefix

theorem endsWith_iff {text needle : String} :
    endsWith text needle = true ↔ needle.toList <:+ text.toList := List.isSuffixOf_iff_suffix

/-- The characters before the first `c`, all of them if there is none. -/
def before (c : Char) (cs : List Char) : List Char := cs.takeWhile (· != c)

theorem before_append {c : Char} {cs ds : List Char} (h : c ∉ cs) :
    before c (cs ++ ds) = cs ++ before c ds :=
  List.takeWhile_append_of_pos fun _ hd => bne_iff_ne.2 fun heq => h (heq ▸ hd)

theorem before_of_head? {c : Char} {cs : List Char} (h : ∀ d ∈ cs.head?, d = c) : before c cs = [] := by
  cases cs with
  | nil => rfl
  | cons d cs => simp [before, h d rfl]

/-- The characters after the last `c`, all of them if there is none. -/
def afterLast (c : Char) (cs : List Char) : List Char :=
  (cs.reverse.takeWhile (· != c)).reverse

theorem afterLast_of_not_mem {c : Char} {cs : List Char} (h : c ∉ cs) : afterLast c cs = cs := by
  have hkept : before c (cs.reverse ++ []) = cs.reverse ++ [] :=
    before_append fun hc => h (List.mem_reverse.1 hc)
  rw [List.append_nil] at hkept
  exact (congrArg List.reverse hkept).trans cs.reverse_reverse

/-- What stands in front of a `c` does not count. -/
theorem afterLast_append_cons (c : Char) (front cs : List Char) :
    afterLast c (front ++ c :: cs) = afterLast c cs := by
  have hreverse : (front ++ c :: cs).reverse = cs.reverse ++ c :: front.reverse := by simp
  rw [afterLast, afterLast, hreverse, List.takeWhile_append]
  split
  next hlength =>
    have hall := (List.takeWhile_prefix (· != c)).eq_of_length hlength
    simp [hall]
  next => rfl

end AsyncIdioms.Text
