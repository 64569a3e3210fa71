/-
  Sets of code points, written as closed ranges in increasing order.

  * `Ranges.mem` : membership of a code point;
  * `Ranges.ofTable` : reads a compact table, hexadecimal ranges such as
    `41-5A` and single code points such as `AA`, separated by blanks;
  * `Ranges.normalize`, `Ranges.union`, `Ranges.unions`, `Ranges.complement`, `Ranges.inter`, `Ranges.diff`,
    `Ranges.symmDiff` : the set operations.
-/
namespace AsyncIdioms.Text

/-- A set of code points as a list of closed ranges. -/
abbrev Ranges := List (Nat × Nat)

namespace Ranges

/-- Is the code point `n` in one of the ranges? -/
def mem (rs : Ranges) (n : Nat) : Bool :=
  rs.any fun r => decide (r.1 ≤ n) && decide (n ≤ r.2)

theorem mem_iff {rs : Ranges} {n : Nat} : rs.mem n = true ↔ ∃ r ∈ rs, r.1 ≤ n ∧ n ≤ r.2 := by
  simp [mem]

/-- Is the character in one of the ranges? -/
def has (rs : Ranges) (c : Char) : Bool := rs.mem c.toNat

/-! ## Compact tables -/

/-- The value of an upper-case hexadecimal digit. -/
def digitValue (c : Char) : Nat :=
  if c.toNat < 0x41 then c.toNat - 0x30 else c.toNat - 0x41 + 10

/-- The number of upper-case hexadecimal digits. -/
def ofDigits (cs : List Char) : Nat := cs.foldl (fun n c => n * 16 + digitValue c) 0

/-- A range, or a single code point. -/
def ofWord (word : List Char) : Nat × Nat :=
  match word.span (· != '-') with
  | (first, '-' :: last) => (ofDigits first, ofDigits last)
  | (only, _) => (ofDigits only, ofDigits only)

/-- The ranges of a compact table. -/
def ofTable (table : String) : Ranges :=
  ((table.toList.splitOnP fun c => c == ' ' || c == '\n').filter (!·.isEmpty)).map ofWord

/-! ## Set operations -/

/-- The greatest code point. -/
def maxCodePoint : Nat := 0x10FFFF

/-- Joins ranges, sorted by their first bound, that touch or overlap; `lo` to `hi` is the range
    that is being extended. -/
def joinFrom (lo hi : Nat) : Ranges → Ranges
  | [] => [(lo, hi)]
  | (a, b) :: rest => if a ≤ hi + 1 then joinFrom lo (max hi b) rest else (lo, hi) :: joinFrom a b rest

/-- Sorted ranges that neither touch nor overlap, with the same members. -/
def normalize (rs : Ranges) : Ranges :=
  match rs.mergeSort (fun r s => decide (r.1 ≤ s.1)) with
  | [] => []
  | (a, b) :: rest => joinFrom a b rest

def union (rs ss : Ranges) : Ranges := normalize (rs ++ ss)

def unions (rss : List Ranges) : Ranges := normalize rss.flatten

/-- The gaps of normalized ranges from `start` on. -/
def gapsFrom (start : Nat) : Ranges → Ranges
  | [] => if start ≤ maxCodePoint then [(start, maxCodePoint)] else []
  | (a, b) :: rest => if start < a then (start, a - 1) :: gapsFrom (b + 1) rest else gapsFrom (b + 1) rest

/-- The code points outside normalized ranges. -/
def complement (rs : Ranges) : Ranges := gapsFrom 0 rs

def inter (rs ss : Ranges) : Ranges :=
  normalize (rs.flatMap fun r => ss.filterMap fun s =>
    if max r.1 s.1 ≤ min r.2 s.2 then some (max r.1 s.1, min r.2 s.2) else none)

def diff (rs ss : Ranges) : Ranges := inter rs (complement (normalize ss))

def symmDiff (rs ss : Ranges) : Ranges := union (diff rs ss) (diff ss rs)

end Ranges

end AsyncIdioms.Text
