import EditorKit.Search.Folded
import Mathlib.Algebra.Group.Nat.Defs
import Mathlib.Data.List.Basic

/-!
# Merged spans

`Span.merge` turns any spans of positive length into the maximal runs of the positions that they
cover.

* `IsRuns` says that a list of spans is the list of the maximal runs of some positions, and
  `IsRuns.eq` that there is only one such list;
* `Span.isRuns_merge` says that `Span.merge` gives it.

Positions and lengths can also be machine words of 64 bits. Sums and differences of these are
checked: they have no result if it is no word. Where they have one, it is that of the natural
numbers.
-/

namespace EditorKit.Search

/-- Whether one of some spans covers a position. -/
def IsCovered (spans : List Span) (position : Nat) : Prop := ∃ s ∈ spans, s.covers position

/-- The spans are the maximal runs of the positions with `IsHit`, all of which are below `size`:
they are in order, none is empty, and a position without `IsHit` lies between any two. -/
structure IsRuns (size : Nat) (IsHit : Nat → Prop) (spans : List Span) : Prop where
  ascending : spans.Pairwise fun a b => a.start < b.start
  separated : spans.Pairwise fun a b => a.stop < b.start
  positive : ∀ s ∈ spans, 0 < s.length
  within : ∀ s ∈ spans, s.stop ≤ size
  covered : ∀ position, IsCovered spans position ↔ IsHit position

@[simp] theorem isCovered_nil (position : Nat) : ¬ IsCovered [] position := by
  simp [IsCovered]

@[simp] theorem isCovered_cons {s : Span} {spans : List Span} {position : Nat} :
    IsCovered (s :: spans) position ↔ s.covers position ∨ IsCovered spans position := by
  simp [IsCovered]

theorem isCovered_append {xs ys : List Span} {position : Nat} :
    IsCovered (xs ++ ys) position ↔ IsCovered xs position ∨ IsCovered ys position := by
  simp [IsCovered, or_and_right, exists_or]

/-- The covered positions do not depend on the order of the spans. -/
theorem isCovered_perm {xs ys : List Span} (h : xs.Perm ys) {position : Nat} :
    IsCovered xs position ↔ IsCovered ys position := by
  simp only [IsCovered, h.mem_iff]

namespace Span

theorem covers_start {s : Span} (hs : 0 < s.length) : s.covers s.start :=
  ⟨Nat.le_refl _, Nat.lt_add_of_pos_right hs⟩

theorem start_lt_stop {s : Span} (hs : 0 < s.length) : s.start < s.stop :=
  Nat.lt_add_of_pos_right hs

/-! ## The order of spans -/

theorem atMost_trans (a b c : Span) (hab : a.atMost b) (hbc : b.atMost c) : a.atMost c := by
  simp only [atMost, Bool.or_eq_true, Bool.and_eq_true, decide_eq_true_eq, beq_iff_eq] at *
  omega

theorem atMost_total (a b : Span) : a.atMost b || b.atMost a := by
  simp only [atMost, Bool.or_eq_true, Bool.and_eq_true, decide_eq_true_eq, beq_iff_eq]
  omega

theorem start_le_of_atMost {a b : Span} (h : a.atMost b) : a.start ≤ b.start := by
  simp only [atMost, Bool.or_eq_true, Bool.and_eq_true, decide_eq_true_eq, beq_iff_eq] at h
  omega

/-- Sorted spans have ascending starts. -/
theorem pairwise_start_mergeSort (spans : List Span) :
    (spans.mergeSort atMost).Pairwise fun a b => a.start ≤ b.start :=
  (List.pairwise_mergeSort atMost_trans atMost_total spans).imp start_le_of_atMost

/-! ## Joining spans that are in order -/

/-- A span that reaches a second one, grown to the end of that one. -/
def grown (current s : Span) : Span :=
  ⟨current.start, max current.stop s.stop - current.start⟩

@[simp] theorem start_grown (current s : Span) : (current.grown s).start = current.start := rfl

theorem stop_grown (current s : Span) : (current.grown s).stop = max current.stop s.stop := by
  simp only [grown, stop]
  omega

theorem joinFrom_cons (current s : Span) (rest : List Span) :
    joinFrom current (s :: rest) =
      if s.start ≤ current.stop then joinFrom (current.grown s) rest
      else current :: joinFrom s rest := rfl

/-- A grown span covers what the two spans cover, if the second one starts inside the first or at
its end. -/
theorem covers_grown {current s : Span} (h₁ : current.start ≤ s.start)
    (h₂ : s.start ≤ current.stop) {position : Nat} :
    (current.grown s).covers position ↔ current.covers position ∨ s.covers position := by
  simp only [covers, start_grown, stop_grown]
  omega

theorem length_grown_pos {current s : Span} (h : 0 < current.length) :
    0 < (current.grown s).length := by
  have hstop : current.start < current.stop := start_lt_stop h
  show 0 < max current.stop s.stop - current.start
  omega

/-- Joining keeps the covered positions. -/
theorem isCovered_joinFrom {current : Span} {spans : List Span}
    (hsorted : (current :: spans).Pairwise fun a b => a.start ≤ b.start) {position : Nat} :
    IsCovered (joinFrom current spans) position ↔ IsCovered (current :: spans) position := by
  induction spans generalizing current with
  | nil => simp [joinFrom]
  | cons s rest ih =>
    simp only [List.pairwise_cons, List.mem_cons, forall_eq_or_imp] at hsorted
    obtain ⟨⟨hs, hrest⟩, hsrest, hpair⟩ := hsorted
    rw [joinFrom_cons]
    split
    · rename_i hreach
      rw [@ih (current.grown s) (List.pairwise_cons.2 ⟨hrest, hpair⟩)]
      simp only [isCovered_cons, covers_grown hs hreach, or_assoc]
    · simp only [isCovered_cons, ih (List.pairwise_cons.2 ⟨hsrest, hpair⟩)]

/-- Joined spans start with the first span or behind it. -/
theorem start_le_of_mem_joinFrom {current : Span} {spans : List Span}
    (hsorted : (current :: spans).Pairwise fun a b => a.start ≤ b.start) {r : Span}
    (hr : r ∈ joinFrom current spans) : current.start ≤ r.start := by
  induction spans generalizing current with
  | nil => simp [joinFrom] at hr; simp [hr]
  | cons s rest ih =>
    simp only [List.pairwise_cons, List.mem_cons, forall_eq_or_imp] at hsorted
    obtain ⟨⟨hs, hrest⟩, hsrest, hpair⟩ := hsorted
    rw [joinFrom_cons] at hr
    split at hr
    · exact @ih (current.grown s) (List.pairwise_cons.2 ⟨hrest, hpair⟩) hr
    · rcases List.mem_cons.1 hr with rfl | hr'
      · exact Nat.le_refl _
      · exact Nat.le_trans hs (ih (List.pairwise_cons.2 ⟨hsrest, hpair⟩) hr')

/-- Joined spans have gaps in between. -/
theorem separated_joinFrom {current : Span} {spans : List Span}
    (hsorted : (current :: spans).Pairwise fun a b => a.start ≤ b.start) :
    (joinFrom current spans).Pairwise fun a b => a.stop < b.start := by
  induction spans generalizing current with
  | nil => simp [joinFrom]
  | cons s rest ih =>
    simp only [List.pairwise_cons, List.mem_cons, forall_eq_or_imp] at hsorted
    obtain ⟨⟨hs, hrest⟩, hsrest, hpair⟩ := hsorted
    rw [joinFrom_cons]
    split
    · exact ih (List.pairwise_cons.2 ⟨hrest, hpair⟩)
    · rename_i hgap
      refine List.pairwise_cons.2 ⟨fun r hr => ?_, ih (List.pairwise_cons.2 ⟨hsrest, hpair⟩)⟩
      have hle := start_le_of_mem_joinFrom (List.pairwise_cons.2 ⟨hsrest, hpair⟩) hr
      omega

theorem length_pos_of_mem_joinFrom {current : Span} {spans : List Span}
    (hpos : ∀ s ∈ current :: spans, 0 < s.length) {r : Span} (hr : r ∈ joinFrom current spans) :
    0 < r.length := by
  induction spans generalizing current with
  | nil => simp [joinFrom] at hr; simpa [hr] using hpos
  | cons s rest ih =>
    simp only [List.mem_cons, forall_eq_or_imp] at hpos
    obtain ⟨hcurrent, hs, hrest⟩ := hpos
    rw [joinFrom_cons] at hr
    split at hr
    · exact ih (List.forall_mem_cons.2 ⟨length_grown_pos hcurrent, hrest⟩) hr
    · rcases List.mem_cons.1 hr with rfl | hr'
      · exact hcurrent
      · exact ih (List.forall_mem_cons.2 ⟨hs, hrest⟩) hr'

/-! ## Merging -/

theorem isCovered_merge {spans : List Span} {position : Nat} :
    IsCovered (merge spans) position ↔ IsCovered spans position := by
  have hsorted := pairwise_start_mergeSort spans
  rw [← isCovered_perm (List.mergeSort_perm spans atMost), merge]
  cases hcase : spans.mergeSort atMost with
  | nil => simp [join]
  | cons s rest => exact isCovered_joinFrom (hcase ▸ hsorted)

theorem separated_merge (spans : List Span) :
    (merge spans).Pairwise fun a b => a.stop < b.start := by
  have hsorted := pairwise_start_mergeSort spans
  rw [merge]
  cases hcase : spans.mergeSort atMost with
  | nil => exact List.Pairwise.nil
  | cons s rest => exact separated_joinFrom (hcase ▸ hsorted)

theorem length_pos_of_mem_merge {spans : List Span} (hpos : ∀ s ∈ spans, 0 < s.length) {r : Span}
    (hr : r ∈ merge spans) : 0 < r.length := by
  have hsorted : ∀ s ∈ spans.mergeSort atMost, 0 < s.length :=
    fun s hs => hpos s (List.mem_mergeSort.1 hs)
  rw [merge] at hr
  cases hcase : spans.mergeSort atMost with
  | nil => simp [hcase, join] at hr
  | cons s rest =>
    rw [hcase] at hr hsorted
    exact length_pos_of_mem_joinFrom hsorted hr

end Span

/-! ## Runs -/

/-- Spans with gaps in between have ascending starts. -/
theorem pairwise_start_of_separated {spans : List Span}
    (h : spans.Pairwise fun a b => a.stop < b.start) :
    spans.Pairwise fun a b => a.start < b.start :=
  h.imp fun {a _} hgap => Nat.lt_of_le_of_lt (Nat.le_add_right a.start a.length) hgap

/-- Separated spans of positive length are the maximal runs of what they cover. -/
theorem IsRuns.of_separated {size : Nat} {IsHit : Nat → Prop} {spans : List Span}
    (hsep : spans.Pairwise fun a b => a.stop < b.start) (hpos : ∀ s ∈ spans, 0 < s.length)
    (hcov : ∀ position, IsCovered spans position ↔ IsHit position)
    (hsize : ∀ position, IsHit position → position < size) : IsRuns size IsHit spans where
  ascending := pairwise_start_of_separated hsep
  separated := hsep
  positive := hpos
  within := fun s hs => by
    have hlt := Span.start_lt_stop (hpos s hs)
    have hlast : s.covers (s.stop - 1) := ⟨by omega, by omega⟩
    have := hsize _ ((hcov _).1 ⟨s, hs, hlast⟩)
    omega
  covered := hcov

/-- `Span.merge` gives the maximal runs of what the spans cover. -/
theorem Span.isRuns_merge {size : Nat} {spans : List Span} (hpos : ∀ s ∈ spans, 0 < s.length)
    (hsize : ∀ position, IsCovered spans position → position < size) :
    IsRuns size (IsCovered spans) (merge spans) :=
  .of_separated (separated_merge spans) (fun _ hr => length_pos_of_mem_merge hpos hr)
    (fun _ => isCovered_merge) hsize

namespace IsRuns

variable {size : Nat} {IsHit : Nat → Prop}

/-- The first of some separated spans starts at the least covered position. -/
theorem start_le_of_isCovered {s : Span} {spans : List Span}
    (hsep : (s :: spans).Pairwise fun a b => a.stop < b.start) {position : Nat}
    (h : IsCovered (s :: spans) position) : s.start ≤ position := by
  rcases isCovered_cons.1 h with hs | ⟨r, hr, hcov⟩
  · exact hs.1
  · have hgap : s.stop < r.start := (List.pairwise_cons.1 hsep).1 r hr
    have hstart := hcov.1
    have : s.start ≤ s.stop := Nat.le_add_right _ _
    omega

/-- The position behind the first of some separated spans is not covered. -/
theorem not_isCovered_stop {s : Span} {spans : List Span}
    (hsep : (s :: spans).Pairwise fun a b => a.stop < b.start) :
    ¬ IsCovered (s :: spans) s.stop := by
  intro h
  rcases isCovered_cons.1 h with hs | ⟨r, hr, hcov⟩
  · exact Nat.lt_irrefl _ hs.2
  · have hgap : s.stop < r.start := (List.pairwise_cons.1 hsep).1 r hr
    exact absurd hcov.1 (Nat.not_le.2 hgap)

/-- Two lists of separated spans that cover the same positions begin with the same span. -/
theorem head_eq {s t : Span} {xs ys : List Span}
    (hxsep : (s :: xs).Pairwise fun a b => a.stop < b.start)
    (hysep : (t :: ys).Pairwise fun a b => a.stop < b.start)
    (hs : 0 < s.length) (ht : 0 < t.length)
    (hcov : ∀ position, IsCovered (s :: xs) position ↔ IsCovered (t :: ys) position) : s = t := by
  have hst : t.start ≤ s.start := start_le_of_isCovered hysep
    ((hcov _).1 (isCovered_cons.2 (.inl (Span.covers_start hs))))
  have hts : s.start ≤ t.start := start_le_of_isCovered hxsep
    ((hcov _).2 (isCovered_cons.2 (.inl (Span.covers_start ht))))
  have hslt := Span.start_lt_stop hs
  have htlt := Span.start_lt_stop ht
  -- where one span ended before the other, its end would be covered after all
  have hstop : ¬ s.stop < t.stop := fun h => not_isCovered_stop hxsep
    ((hcov _).2 (isCovered_cons.2 (.inl ⟨by omega, h⟩)))
  have hstop' : ¬ t.stop < s.stop := fun h => not_isCovered_stop hysep
    ((hcov _).1 (isCovered_cons.2 (.inl ⟨by omega, h⟩)))
  obtain ⟨a, m⟩ := s
  obtain ⟨b, n⟩ := t
  simp only [Span.stop] at *
  obtain rfl : a = b := by omega
  obtain rfl : m = n := by omega
  rfl

/-- Separated spans of positive length are determined by the positions that they cover. -/
theorem eq_of_isCovered {xs ys : List Span}
    (hxsep : xs.Pairwise fun a b => a.stop < b.start) (hx : ∀ s ∈ xs, 0 < s.length)
    (hysep : ys.Pairwise fun a b => a.stop < b.start) (hy : ∀ s ∈ ys, 0 < s.length)
    (hcov : ∀ position, IsCovered xs position ↔ IsCovered ys position) : xs = ys := by
  induction xs generalizing ys with
  | nil =>
    cases ys with
    | nil => rfl
    | cons t ys =>
      have := (hcov t.start).2 (isCovered_cons.2 (.inl (Span.covers_start (hy t (by simp)))))
      exact absurd this (isCovered_nil _)
  | cons s xs ih =>
    cases ys with
    | nil =>
      have := (hcov s.start).1 (isCovered_cons.2 (.inl (Span.covers_start (hx s (by simp)))))
      exact absurd this (isCovered_nil _)
    | cons t ys =>
      obtain rfl := head_eq hxsep hysep (hx s (by simp)) (hy t (by simp)) hcov
      have htail : ∀ {zs : List Span}, ((s :: zs).Pairwise fun a b => a.stop < b.start) →
          ∀ position, IsCovered zs position ↔ IsCovered (s :: zs) position ∧ s.stop < position := by
        intro zs hsep position
        constructor
        · rintro ⟨r, hr, hcov⟩
          have hgap : s.stop < r.start := (List.pairwise_cons.1 hsep).1 r hr
          exact ⟨isCovered_cons.2 (.inr ⟨r, hr, hcov⟩), Nat.lt_of_lt_of_le hgap hcov.1⟩
        · rintro ⟨h, hlt⟩
          rcases isCovered_cons.1 h with hs | hzs
          · exact absurd hs.2 (by omega)
          · exact hzs
      congr 1
      refine ih hxsep.of_cons (fun r hr => hx r (by simp [hr])) hysep.of_cons
        (fun r hr => hy r (by simp [hr])) fun position => ?_
      rw [htail hxsep, htail hysep, hcov]

protected theorem congr {spans : List Span} {IsHit' : Nat → Prop} (h : IsRuns size IsHit' spans)
    (hiff : ∀ position, IsHit position ↔ IsHit' position) : IsRuns size IsHit spans :=
  { h with covered := fun position => (h.covered position).trans (hiff position).symm }

/-- There is only one list of the maximal runs of some positions. -/
protected theorem eq {xs ys : List Span} (hx : IsRuns size IsHit xs) (hy : IsRuns size IsHit ys) :
    xs = ys :=
  eq_of_isCovered hx.separated hx.positive hy.separated hy.positive
    fun position => (hx.covered position).trans (hy.covered position).symm

end IsRuns
/-! ## Words -/

/-- The sum of two words, if it is a word itself. -/
def wordSum? (a b : UInt64) : Option UInt64 :=
  if a.toNat + b.toNat < 2 ^ 64 then some (a + b) else none

/-- The difference of two words, if it is not below zero. -/
def wordDifference? (a b : UInt64) : Option UInt64 := if b ≤ a then some (a - b) else none

/-- The difference of two words, with zero in place of what is below it. -/
def wordMonus (a b : UInt64) : UInt64 := if b ≤ a then a - b else 0

theorem exists_wordSum?_eq {a b : UInt64} (h : a.toNat + b.toNat < 2 ^ 64) :
    ∃ c, wordSum? a b = some c ∧ c.toNat = a.toNat + b.toNat := by
  refine ⟨a + b, if_pos h, ?_⟩
  rw [UInt64.toNat_add, Nat.mod_eq_of_lt h]

theorem exists_wordDifference?_eq {a b : UInt64} (h : b.toNat ≤ a.toNat) :
    ∃ c, wordDifference? a b = some c ∧ c.toNat = a.toNat - b.toNat :=
  ⟨a - b, if_pos (UInt64.le_iff_toNat_le.2 h), UInt64.toNat_sub_of_le a b h⟩

@[simp] theorem toNat_wordMonus (a b : UInt64) : (wordMonus a b).toNat = a.toNat - b.toNat := by
  unfold wordMonus
  split
  · rename_i hle
    exact UInt64.toNat_sub_of_le a b hle
  · rename_i hlt
    rw [UInt64.le_iff_toNat_le] at hlt
    rw [UInt64.toNat_zero]
    omega

theorem toNat_minWord (a b : UInt64) : (min a b).toNat = min a.toNat b.toNat := by
  show (if a ≤ b then a else b).toNat = _
  split <;> rename_i h <;> rw [UInt64.le_iff_toNat_le] at h <;> omega

theorem toNat_maxWord (a b : UInt64) : (max a b).toNat = max a.toNat b.toNat := by
  show (if a ≤ b then b else a).toNat = _
  split <;> rename_i h <;> rw [UInt64.le_iff_toNat_le] at h <;> omega

/-- A number below 2 ^ 63 keeps its value as a word. -/
theorem toNat_ofNatWord {n : Nat} (h : n < 2 ^ 63) : (UInt64.ofNat n).toNat = n :=
  UInt64.toNat_ofNat_of_lt' (Nat.lt_of_lt_of_le h (by decide))

end EditorKit.Search
