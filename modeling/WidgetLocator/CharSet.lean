namespace WidgetLocator

/-- Ranges that are not empty, ascend, and neither meet nor touch. -/
def RangesApart (ranges : List (Nat × Nat)) : Prop :=
  (∀ r ∈ ranges, r.1 ≤ r.2) ∧ ranges.Pairwise (fun r s => r.2 + 1 < s.1)

/-- A set of code points. -/
structure CharSet where
  ranges : Array (Nat × Nat)
  apart : RangesApart ranges.toList
deriving DecidableEq, Repr

/-- Joins a range and further ones, given by ascending start, that meet or touch. -/
def joinRanges (r : Nat × Nat) : List (Nat × Nat) → List (Nat × Nat)
  | [] => [r]
  | s :: rest =>
    if s.1 ≤ r.2 + 1 then joinRanges (r.1, max r.2 s.2) rest else r :: joinRanges s rest

theorem le_of_mem_joinRanges {r t : Nat × Nat} {rest : List (Nat × Nat)}
    (hrest : rest.Pairwise (·.1 ≤ ·.1)) (hr : ∀ s ∈ rest, r.1 ≤ s.1)
    (ht : t ∈ joinRanges r rest) : r.1 ≤ t.1 := by
  induction rest generalizing r with
  | nil => simp_all [joinRanges]
  | cons s rest ih =>
    have hs := List.pairwise_cons.mp hrest
    unfold joinRanges at ht
    split at ht
    next =>
      have joined : ∀ x ∈ rest, r.1 ≤ x.1 := fun x hx => hr x (List.mem_cons_of_mem s hx)
      exact ih (r := (r.1, max r.2 s.2)) hs.2 joined ht
    next =>
      rcases List.mem_cons.mp ht with he | ht
      · exact Nat.le_of_eq (congrArg Prod.fst he.symm)
      · exact Nat.le_trans (hr s List.mem_cons_self) (ih hs.2 hs.1 ht)

theorem joinRanges_apart {r : Nat × Nat} {rest : List (Nat × Nat)} (hr : r.1 ≤ r.2)
    (hle : ∀ s ∈ rest, s.1 ≤ s.2) (hrest : rest.Pairwise (·.1 ≤ ·.1)) :
    RangesApart (joinRanges r rest) := by
  induction rest generalizing r with
  | nil => simp_all [joinRanges, RangesApart]
  | cons s rest ih =>
    have hs := List.pairwise_cons.mp hrest
    have hle' : ∀ x ∈ rest, x.1 ≤ x.2 := fun x hx => hle x (List.mem_cons_of_mem s hx)
    unfold joinRanges
    split
    next => exact ih (Nat.le_trans hr (Nat.le_max_left _ _)) hle' hs.2
    next hgap =>
      have tail := ih (hle s List.mem_cons_self) hle' hs.2
      refine ⟨?_, List.pairwise_cons.mpr ⟨fun t ht => ?_, tail.2⟩⟩
      · intro x hx
        rcases List.mem_cons.mp hx with he | hx
        · exact he ▸ hr
        · exact tail.1 x hx
      · have := le_of_mem_joinRanges hs.2 hs.1 ht
        omega

/-- Joins ranges, given by ascending start, that meet or touch. -/
def joinAll : List (Nat × Nat) → List (Nat × Nat)
  | [] => []
  | r :: rest => joinRanges r rest

theorem joinAll_apart {ranges : List (Nat × Nat)} (hle : ∀ r ∈ ranges, r.1 ≤ r.2)
    (hs : ranges.Pairwise (·.1 ≤ ·.1)) : RangesApart (joinAll ranges) := by
  cases ranges with
  | nil => simp [joinAll, RangesApart]
  | cons r rest =>
    exact joinRanges_apart (hle r List.mem_cons_self)
      (fun s hs => hle s (List.mem_cons_of_mem r hs)) (List.pairwise_cons.mp hs).2

/-- The gaps between ranges, from a code point on. -/
def gaps (start : Nat) : List (Nat × Nat) → List (Nat × Nat)
  | [] => if start ≤ 0x10FFFF then [(start, 0x10FFFF)] else []
  | (a, b) :: rest => if start < a then (start, a - 1) :: gaps (b + 1) rest else gaps (b + 1) rest

theorem le_of_mem_gaps {start : Nat} {ranges : List (Nat × Nat)} {t : Nat × Nat}
    (hs : RangesApart ranges) (hstart : ∀ r ∈ ranges, start ≤ r.1) (ht : t ∈ gaps start ranges) :
    start ≤ t.1 := by
  induction ranges generalizing start with
  | nil =>
    simp only [gaps] at ht
    split at ht <;> simp_all
  | cons r rest ih =>
    have hp := List.pairwise_cons.mp hs.2
    have hr := hs.1 r List.mem_cons_self
    have hrs := hstart r List.mem_cons_self
    have later (h : t ∈ gaps (r.2 + 1) rest) : start ≤ t.1 := by
      have := ih ⟨fun x hx => hs.1 x (List.mem_cons_of_mem r hx), hp.2⟩
        (fun x hx => Nat.le_of_lt (hp.1 x hx)) h
      omega
    simp only [gaps] at ht
    split at ht
    next =>
      rcases List.mem_cons.mp ht with he | ht
      · exact Nat.le_of_eq (congrArg Prod.fst he.symm)
      · exact later ht
    next => exact later ht

theorem gaps_apart {start : Nat} {ranges : List (Nat × Nat)} (hs : RangesApart ranges) :
    RangesApart (gaps start ranges) := by
  induction ranges generalizing start with
  | nil =>
    simp only [gaps]
    split <;> simp_all [RangesApart]
  | cons r rest ih =>
    have hp := List.pairwise_cons.mp hs.2
    have hr := hs.1 r List.mem_cons_self
    have hrest : RangesApart rest := ⟨fun x hx => hs.1 x (List.mem_cons_of_mem r hx), hp.2⟩
    have tail : RangesApart (gaps (r.2 + 1) rest) := ih hrest
    simp only [gaps]
    split
    next =>
      refine ⟨?_, List.pairwise_cons.mpr ⟨fun t ht => ?_, tail.2⟩⟩
      · intro x hx
        rcases List.mem_cons.mp hx with he | hx
        · subst he
          exact Nat.le_pred_of_lt (by assumption)
        · exact tail.1 x hx
      · have := le_of_mem_gaps hrest (fun x hx => Nat.le_of_lt (hp.1 x hx)) ht
        omega
    next => exact tail

namespace CharSet

/-- The set of the code points in any of some ranges. -/
def ofRanges (ranges : List (Nat × Nat)) : CharSet :=
  let sorted := (ranges.filter fun r => r.1 ≤ r.2).mergeSort fun a b => a.1 ≤ b.1
  ⟨(joinAll sorted).toArray, by
    refine joinAll_apart (fun r hr => ?_) (List.Pairwise.imp of_decide_eq_true ?_)
    · exact of_decide_eq_true (List.mem_filter.mp (List.mem_mergeSort.mp hr)).2
    · refine List.pairwise_mergeSort (fun a b c h h' => ?_) (fun a b => ?_) _
      · exact decide_eq_true (Nat.le_trans (of_decide_eq_true h) (of_decide_eq_true h'))
      · simpa using Nat.le_total a.1 b.1⟩

def empty : CharSet :=
  ⟨#[], by simp [RangesApart]⟩

instance : Inhabited CharSet :=
  ⟨empty⟩

def all : CharSet :=
  ⟨#[(0, 0x10FFFF)], by simp [RangesApart]⟩

def single (c : Char) : CharSet :=
  ⟨#[(c.toNat, c.toNat)], by simp [RangesApart]⟩

def union (s t : CharSet) : CharSet :=
  ofRanges (s.ranges.toList ++ t.ranges.toList)

def complement (s : CharSet) : CharSet :=
  ⟨(gaps 0 s.ranges.toList).toArray, gaps_apart s.apart⟩

def inter (s t : CharSet) : CharSet :=
  (s.complement.union t.complement).complement

def diff (s t : CharSet) : CharSet :=
  s.inter t.complement

def symmDiff (s t : CharSet) : CharSet :=
  (s.diff t).union (t.diff s)

/-- Looks for a code point among the ranges from `low` up to `high`, halving them `fuel` times. -/
def searchRanges (ranges : Array (Nat × Nat)) (n : Nat) : Nat → Nat → Nat → Bool
  | 0, _, _ => false
  | fuel + 1, low, high =>
    if high ≤ low then false
    else
      let mid := (low + high) / 2
      match ranges[mid]? with
      | none => false
      | some (a, b) =>
        if n < a then searchRanges ranges n fuel low mid
        else if b < n then searchRanges ranges n fuel (mid + 1) high
        else true

def containsCode (s : CharSet) (n : Nat) : Bool :=
  searchRanges s.ranges n (s.ranges.size + 1) 0 s.ranges.size

def contains (s : CharSet) (c : Char) : Bool :=
  s.containsCode c.toNat

/-- Every member is an ASCII character. -/
def isAscii (s : CharSet) : Bool :=
  s.ranges.all (·.2 < 128)

end CharSet

end WidgetLocator
