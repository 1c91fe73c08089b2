import EditorKit.Proofs.Search.Span

/-!
# The laws of merging

Merged spans are a normal form: of all spans that cover the same positions, only one list is in
order and has gaps. So neither the order of spans nor the number of steps in which they are merged
makes a difference.

* `IsNormal` is the normal form, and `Span.eq_merge` says that `Span.merge` gives the only one;
* `mergeLoop?` merges in words of 64 bits, with a loop that changes the last span merged so far. It
  fails where a sum is too large for a word or a difference is below zero, which never happens to
  spans that end at words (`exists_mergeLoop?_eq`).

`Span.merge_normalizes` is the main result.
-/

namespace EditorKit.Search

/-! ## The normal form -/

/-- Spans in order, none of which is empty, with at least one position between any two. -/
structure IsNormal (spans : List Span) : Prop where
  ascending : spans.Pairwise fun a b => a.start < b.start
  positive : ∀ s ∈ spans, 0 < s.length
  separated : spans.Pairwise fun a b => a.stop < b.start

namespace Span

variable {xs ys : List Span}

theorem isNormal_merge (hpos : ∀ s ∈ xs, 0 < s.length) : IsNormal (merge xs) where
  ascending := pairwise_start_of_separated (separated_merge xs)
  positive := fun _ => length_pos_of_mem_merge hpos
  separated := separated_merge xs

/-- Merging gives the only normal form of the positions that spans cover. -/
theorem eq_merge (hpos : ∀ s ∈ xs, 0 < s.length) (hys : IsNormal ys)
    (hcov : ∀ position, IsCovered ys position ↔ IsCovered xs position) : ys = merge xs := by
  have hxs := isNormal_merge hpos
  refine IsRuns.eq_of_isCovered hys.separated hys.positive hxs.separated hxs.positive ?_
  intro position
  rw [hcov, isCovered_merge]

/-- Spans that cover the same positions are merged to the same spans. -/
theorem merge_eq_merge (hxs : ∀ s ∈ xs, 0 < s.length) (hys : ∀ s ∈ ys, 0 < s.length)
    (hcov : ∀ position, IsCovered xs position ↔ IsCovered ys position) : merge xs = merge ys := by
  refine eq_merge hys (isNormal_merge hxs) ?_
  intro position
  rw [isCovered_merge, hcov]

theorem merge_perm (hpos : ∀ s ∈ xs, 0 < s.length) (h : ys.Perm xs) : merge ys = merge xs :=
  merge_eq_merge (fun s hs => hpos s (h.mem_iff.1 hs)) hpos fun _ => isCovered_perm h

/-- Spans that have been merged can be merged with further ones. -/
theorem merge_merge_append (hxs : ∀ s ∈ xs, 0 < s.length) (hys : ∀ s ∈ ys, 0 < s.length) :
    merge (merge xs ++ ys) = merge (xs ++ ys) := by
  refine merge_eq_merge ?_ ?_ ?_
  · exact List.forall_mem_append.2 ⟨(isNormal_merge hxs).positive, hys⟩
  · exact List.forall_mem_append.2 ⟨hxs, hys⟩
  · intro position
    rw [isCovered_append, isCovered_append, isCovered_merge]

end Span

/-! ## Merging in words -/

/-- A span whose start and length are words. -/
structure WordSpan where
  start : UInt64
  length : UInt64
deriving DecidableEq, Repr

namespace WordSpan

/-- The span itself. -/
def toSpan (s : WordSpan) : Span := ⟨s.start.toNat, s.length.toNat⟩

/-- The first position behind a span, if it is a word. -/
def stop? (s : WordSpan) : Option UInt64 := wordSum? s.start s.length

/-- The order of spans: by start, and by length where the starts agree. -/
def atMost (s t : WordSpan) : Bool :=
  s.start < t.start || (s.start == t.start && s.length ≤ t.length)

/-- Whether the first position behind a span is a word. -/
def Fits (s : WordSpan) : Prop := s.toSpan.stop < 2 ^ 64

instance (s : WordSpan) : Decidable s.Fits := inferInstanceAs (Decidable (_ < _))

theorem atMost_toSpan (s t : WordSpan) : s.toSpan.atMost t.toSpan = s.atMost t := by
  have heq : (s.start.toNat == t.start.toNat) = (s.start == t.start) := by
    rw [Bool.eq_iff_iff, beq_iff_eq, beq_iff_eq, UInt64.toNat_inj]
  show (decide (s.start.toNat < t.start.toNat) ||
    (s.start.toNat == t.start.toNat && decide (s.length.toNat ≤ t.length.toNat))) = _
  rw [heq]
  rfl

theorem Fits.exists_stop?_eq {s : WordSpan} (h : s.Fits) :
    ∃ stop, s.stop? = some stop ∧ stop.toNat = s.toSpan.stop :=
  exists_wordSum?_eq h

end WordSpan

/-- Merges one more span, which starts no earlier than those before: the last span merged so far,
which stands first, grows up to the end of the new one, or else the new one comes behind it. -/
def pushSpan? (merged : List WordSpan) (s : WordSpan) : Option (List WordSpan) :=
  match merged with
  | [] => some [s]
  | last :: rest => do
    let stop ← last.stop?
    if s.start ≤ stop then
      let length ← wordDifference? (max stop (← s.stop?)) last.start
      return ⟨last.start, length⟩ :: rest
    else return s :: last :: rest

/-- `Span.merge` computed in words, unless a sum or a difference on the way is no word. -/
def mergeLoop? (spans : List WordSpan) : Option (List WordSpan) :=
  ((spans.mergeSort WordSpan.atMost).foldlM pushSpan? []).map List.reverse

open WordSpan (toSpan)

/-- A span that starts at the end of the last one or before lets it grow. -/
theorem exists_pushSpan?_of_le {last s : WordSpan} (hlast : last.Fits) (hs : s.Fits)
    (hle : s.toSpan.start ≤ last.toSpan.stop) (rest : List WordSpan) :
    ∃ grown : WordSpan, grown.Fits ∧ grown.toSpan = last.toSpan.grown s.toSpan ∧
      pushSpan? (last :: rest) s = some (grown :: rest) := by
  obtain ⟨stop, hstop, htoStop⟩ := hlast.exists_stop?_eq
  obtain ⟨sStop, hsStop, htoSStop⟩ := hs.exists_stop?_eq
  have hreach : s.start ≤ stop := by
    rw [UInt64.le_iff_toNat_le, htoStop]
    exact hle
  have htoMax : (max stop sStop).toNat = max last.toSpan.stop s.toSpan.stop := by
    rw [toNat_maxWord, htoStop, htoSStop]
  have hstart : last.start.toNat ≤ last.toSpan.stop := Nat.le_add_right _ _
  obtain ⟨length, hlength, htoLength⟩ :=
    exists_wordDifference?_eq (a := max stop sStop) (b := last.start) (by omega)
  have hgrown : WordSpan.toSpan ⟨last.start, length⟩ = last.toSpan.grown s.toSpan := by
    rw [toSpan, htoLength, htoMax]
    rfl
  refine ⟨⟨last.start, length⟩, ?_, hgrown, ?_⟩
  · rw [WordSpan.Fits, hgrown, Span.stop_grown]
    exact Nat.max_lt.2 ⟨hlast, hs⟩
  · simp only [pushSpan?, hstop, hsStop, hlength, Option.bind_eq_bind, Option.bind_some,
      if_pos hreach, Option.pure_def]

/-- A span that starts behind the end of the last one comes behind it. -/
theorem pushSpan?_of_lt {last s : WordSpan} (hlast : last.Fits)
    (hlt : last.toSpan.stop < s.toSpan.start) (rest : List WordSpan) :
    pushSpan? (last :: rest) s = some (s :: last :: rest) := by
  obtain ⟨stop, hstop, htoStop⟩ := hlast.exists_stop?_eq
  have hgap : ¬ s.start ≤ stop := by
    rw [UInt64.le_iff_toNat_le, htoStop]
    exact Nat.not_le.2 hlt
  simp only [pushSpan?, hstop, Option.bind_eq_bind, Option.bind_some, if_neg hgap, Option.pure_def]

/-- The loop joins spans like `Span.joinFrom`: it only ever changes the last span merged so far. -/
theorem exists_foldlM_pushSpan?_eq {last : WordSpan} {spans : List WordSpan}
    (h : ∀ s ∈ last :: spans, s.Fits) (rest : List WordSpan) :
    ∃ merged, spans.foldlM pushSpan? (last :: rest) = some (merged ++ rest) ∧
      merged.reverse.map toSpan = Span.joinFrom last.toSpan (spans.map toSpan) := by
  induction spans generalizing last rest with
  | nil => exact ⟨[last], rfl, rfl⟩
  | cons s spans ih =>
    obtain ⟨hlast, hs, hspans⟩ : last.Fits ∧ s.Fits ∧ ∀ t ∈ spans, t.Fits := by simpa using h
    rw [List.foldlM_cons, List.map_cons, Span.joinFrom_cons]
    by_cases hle : s.toSpan.start ≤ last.toSpan.stop
    · obtain ⟨grown, hfits, hgrown, hpush⟩ := exists_pushSpan?_of_le hlast hs hle rest
      obtain ⟨merged, hloop, hjoin⟩ := ih (List.forall_mem_cons.2 ⟨hfits, hspans⟩) rest
      refine ⟨merged, by rw [hpush]; exact hloop, ?_⟩
      rw [if_pos hle, hjoin, hgrown]
    · have hpush := pushSpan?_of_lt hlast (Nat.not_le.1 hle) rest
      obtain ⟨merged, hloop, hjoin⟩ := ih (List.forall_mem_cons.2 ⟨hs, hspans⟩) (last :: rest)
      refine ⟨merged ++ [last], ?_, ?_⟩
      · rw [hpush, List.append_assoc]
        exact hloop
      · rw [if_neg hle, List.reverse_append, List.map_append, hjoin]
        rfl

/-- **Merging in words never fails** for spans that end at words, and gives the merged spans. -/
theorem exists_mergeLoop?_eq {spans : List WordSpan} (h : ∀ s ∈ spans, s.Fits) :
    ∃ merged, mergeLoop? spans = some merged ∧
      merged.map toSpan = Span.merge (spans.map toSpan) := by
  have hsorted : (spans.mergeSort WordSpan.atMost).map toSpan =
      (spans.map toSpan).mergeSort Span.atMost :=
    List.map_mergeSort fun s _ t _ => (WordSpan.atMost_toSpan s t).symm
  have hfits : ∀ s ∈ spans.mergeSort WordSpan.atMost, s.Fits :=
    fun s hs => h s (List.mem_mergeSort.1 hs)
  rw [mergeLoop?, Span.merge, ← hsorted]
  cases hcase : spans.mergeSort WordSpan.atMost with
  | nil => exact ⟨[], rfl, rfl⟩
  | cons first rest =>
    obtain ⟨merged, hloop, hjoin⟩ := exists_foldlM_pushSpan?_eq (hcase ▸ hfits) []
    refine ⟨merged.reverse, ?_, hjoin⟩
    have hfirst : pushSpan? [] first = some [first] := rfl
    rw [List.foldlM_cons, hfirst]
    show Option.map _ (rest.foldlM pushSpan? [first]) = _
    rw [hloop, List.append_nil]
    rfl

/-! ## Merging -/

/-- **Merging normalizes spans.** The merged spans are a normal form of the positions that the spans
cover, whatever the order in which the spans come. Spans can be merged in parts: what has been
merged is merged with the next spans to what all of them together come to. The loop in words of 64
bits gives the same spans, if all of them end at words. -/
theorem merge_normalizes {xs : List Span} (hpos : ∀ s ∈ xs, 0 < s.length) :
    IsNormal (Span.merge xs) ∧
      (∀ position, IsCovered (Span.merge xs) position ↔ IsCovered xs position) ∧
      (∀ ys, ys.Perm xs → Span.merge ys = Span.merge xs) ∧
      (∀ ys, (∀ s ∈ ys, 0 < s.length) →
        Span.merge (Span.merge xs ++ ys) = Span.merge (xs ++ ys)) ∧
      Span.merge (Span.merge xs) = Span.merge xs ∧
      ∀ words : List WordSpan, words.map toSpan = xs → (∀ s ∈ words, s.Fits) →
        ∃ merged, mergeLoop? words = some merged ∧ merged.map toSpan = Span.merge xs := by
  refine ⟨Span.isNormal_merge hpos, fun _ => Span.isCovered_merge, fun _ => Span.merge_perm hpos,
    fun _ => Span.merge_merge_append hpos, ?_, ?_⟩
  · have happend : Span.merge (Span.merge xs ++ []) = Span.merge (xs ++ []) :=
      Span.merge_merge_append hpos (by simp)
    rwa [List.append_nil, List.append_nil] at happend
  · rintro words rfl hfits
    exact exists_mergeLoop?_eq hfits

/-- Four spans, three of which overlap or touch: in any order, in two parts and in words. -/
theorem merge_normalizes_four :
    (∀ s ∈ [Span.mk 6 2, ⟨0, 3⟩], 0 < s.length) ∧ (∀ s ∈ [Span.mk 2 2, ⟨4, 1⟩], 0 < s.length) ∧
      Span.merge (Span.merge [⟨6, 2⟩, ⟨0, 3⟩] ++ [⟨2, 2⟩, ⟨4, 1⟩]) = [⟨0, 5⟩, ⟨6, 2⟩] ∧
      ∃ merged, mergeLoop? [⟨6, 2⟩, ⟨0, 3⟩, ⟨2, 2⟩, ⟨4, 1⟩] = some merged ∧
        merged.map toSpan = [⟨0, 5⟩, ⟨6, 2⟩] := by
  have hfirst : ∀ s ∈ [Span.mk 6 2, ⟨0, 3⟩], 0 < s.length := by decide
  have hsecond : ∀ s ∈ [Span.mk 2 2, ⟨4, 1⟩], 0 < s.length := by decide
  have hsorted : Span.merge [⟨0, 3⟩, ⟨2, 2⟩, ⟨4, 1⟩, ⟨6, 2⟩] = [⟨0, 5⟩, ⟨6, 2⟩] := by
    rw [Span.merge, List.mergeSort_of_pairwise (by decide)]
    rfl
  obtain ⟨-, -, -, hparts, -⟩ := merge_normalizes hfirst
  obtain ⟨-, -, hperm, -, -, hwords⟩ :=
    merge_normalizes (List.forall_mem_append.2 ⟨hfirst, hsecond⟩)
  have hmerge := hperm [⟨0, 3⟩, ⟨2, 2⟩, ⟨4, 1⟩, ⟨6, 2⟩] (by decide)
  rw [hsorted] at hmerge
  refine ⟨hfirst, hsecond, (hparts _ hsecond).trans hmerge.symm, ?_⟩
  rw [hmerge]
  exact hwords [⟨6, 2⟩, ⟨0, 3⟩, ⟨2, 2⟩, ⟨4, 1⟩] rfl (by decide)

end EditorKit.Search
