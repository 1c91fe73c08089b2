import EditorKit.Proofs.Search.Tokens
import Mathlib

/-!
# How far a start is ahead

An outcome with one range at the start of its text has the dispersion of its matched characters
alone, 0.01 for each. Any other outcome pays 1 at least for a later start, or 10 for a second range,
but it may match fewer characters for the same query: tokens may share characters in one text and
stand apart in another one, and a dotted capital I counts once for two characters of a token. With
more than 100 characters to save, the later start comes out ahead.

* `exactDispersion` is the dispersion without the rounding of doubles, and `hundredths` the same in
  whole numbers;
* `matchedCount_le_tokenSize` and `leastCover_le_matchedCount` say how many characters a query can
  match in a text at most and at least;
* `exactDispersion_lt_of_isAtStart` is the main result, and `isAtStart_not_ahead` a start that is
  not ahead.
-/

namespace EditorKit.Search

/-! ## Dispersion without rounding -/

/-- The exact value of the dispersion of some ranges. -/
def exactDispersion (ranges : List Span) : ℚ :=
  if ranges.isEmpty then 0
  else startSum ranges + (ranges.length - 1 : ℕ) * 10 + matchedCount ranges / 100

/-- The dispersion of some ranges in hundredths. -/
def hundredths (ranges : List Span) : ℕ :=
  matchedCount ranges + 100 * startSum ranges + 1000 * (ranges.length - 1)

theorem exactDispersion_eq (ranges : List Span) :
    exactDispersion ranges = hundredths ranges / 100 := by
  cases ranges with
  | nil => simp [exactDispersion, hundredths, matchedCount, startSum]
  | cons range rest =>
    rw [exactDispersion, if_neg (by simp), hundredths]
    push_cast
    ring

theorem exactDispersion_lt_iff {xs ys : List Span} :
    exactDispersion xs < exactDispersion ys ↔ hundredths xs < hundredths ys := by
  rw [exactDispersion_eq, exactDispersion_eq, div_lt_div_iff_of_pos_right (by norm_num),
    Nat.cast_lt]

/-- Whether some ranges are one range at the start of the text. -/
def IsAtStart (ranges : List Span) : Prop := ∃ length, ranges = [⟨0, length⟩]

theorem IsAtStart.hundredths_eq {ranges : List Span} (h : IsAtStart ranges) :
    hundredths ranges = matchedCount ranges := by
  obtain ⟨length, rfl⟩ := h
  simp [hundredths, startSum]

/-- Other ranges start later or are more than one. -/
theorem le_hundredths_of_not_isAtStart {ranges : List Span} (hne : ranges ≠ [])
    (h : ¬ IsAtStart ranges) : matchedCount ranges + 100 ≤ hundredths ranges := by
  match ranges with
  | [] => exact absurd rfl hne
  | [⟨start, length⟩] =>
    have hstart : start ≠ 0 := by
      rintro rfl
      exact h ⟨length, rfl⟩
    simp only [hundredths, startSum]
    omega
  | _ :: _ :: rest =>
    simp only [hundredths, List.length_cons]
    omega

/-! ## Covered positions -/

/-- The positions that some spans cover. -/
def covered : List Span → Finset ℕ
  | [] => ∅
  | s :: rest => Finset.Ico s.start s.stop ∪ covered rest

theorem mem_covered {spans : List Span} {position : ℕ} :
    position ∈ covered spans ↔ IsCovered spans position := by
  induction spans with
  | nil => simp [covered]
  | cons s rest ih =>
    rw [covered, Finset.mem_union, Finset.mem_Ico, ih, isCovered_cons, Span.covers]

/-- Separated spans cover as many positions as they have together. -/
theorem card_covered {spans : List Span} (h : spans.Pairwise fun a b => a.stop < b.start) :
    (covered spans).card = matchedCount spans := by
  induction spans with
  | nil => rfl
  | cons s rest ih =>
    rw [List.pairwise_cons] at h
    have hdisjoint : Disjoint (Finset.Ico s.start s.stop) (covered rest) := by
      rw [Finset.disjoint_left]
      intro position hs hrest
      obtain ⟨r, hr, hcovers⟩ := mem_covered.1 hrest
      have hgap := h.1 r hr
      have hbefore := (Finset.mem_Ico.1 hs).2
      have hbehind := hcovers.1
      omega
    rw [covered, Finset.card_union_of_disjoint hdisjoint, Nat.card_Ico, ih h.2, matchedCount,
      Span.stop, Nat.add_sub_cancel_left]

/-! ## How many characters a query matches -/

/-- The number of characters of the tokens of a query, each token counted once. -/
def tokenSize (query : Text) : ℕ := ∑ token ∈ (tokens query).toFinset, token.length

/-- The least number of characters of a text in which a token can stand: one for each of its own,
but only one for two of them where the text has a dotted capital I. -/
def leastCover (token text : Text) : ℕ :=
  token.length - min (text.count '\u0130') (token.length / 2)

/-- The positions that the first occurrence of a token comes from. -/
def blockCover (token text : Text) : Finset ℕ :=
  match firstBlock token text.lower with
  | some k => (Finset.Ico k (k + token.length)).image (Folded.ofText text).origin
  | none => ∅

theorem card_blockCover_le (token text : Text) : (blockCover token text).card ≤ token.length := by
  unfold blockCover
  split
  · rename_i k _
    refine Finset.card_image_le.trans ?_
    rw [Nat.card_Ico, Nat.add_sub_cancel_left]
  · exact Nat.zero_le _

theorem leastCover_pos {token : Text} (hne : token ≠ []) (text : Text) :
    0 < leastCover token text := by
  have hpos := List.length_pos_iff.2 hne
  unfold leastCover
  omega

theorem leastCover_le_length_span {token text : Text} {k : ℕ} (hne : token ≠ [])
    (hend : k + token.length ≤ (Folded.ofText text).length) :
    leastCover token text ≤ ((Folded.ofText text).span k (k + token.length - 1)).length := by
  have hpos := List.length_pos_iff.2 hne
  have hrun := Folded.length_run_le (by omega : k ≤ k + token.length - 1)
    (by omega : k + token.length - 1 < (Folded.ofText text).length)
  have hlength : k + token.length - 1 + 1 - k = token.length := by omega
  rw [hlength] at hrun
  unfold leastCover
  omega

section Matched

variable {query text : Text}

theorem mem_blockCover {token : Text} {k i : ℕ} {c : Char} {position : ℕ}
    (hfirst : IsFirstBlock token text.lower k) (hlow : k ≤ i) (hhigh : i < k + token.length)
    (hc : (Folded.ofText text)[i]? = some (c, position)) : position ∈ blockCover token text := by
  rw [blockCover, firstBlock_eq_some_iff.2 hfirst]
  have hi : i < (Folded.ofText text).length := (List.getElem?_eq_some_iff.1 hc).1
  exact Finset.mem_image.2 ⟨i, Finset.mem_Ico.2 ⟨hlow, hhigh⟩,
    (Folded.origin_eq_iff hi).2 ⟨c, hc⟩⟩

/-- Without gaps, a range covers what the first occurrence of a token comes from. -/
theorem isCovered_evaluate_iff {position : ℕ} :
    IsCovered (evaluate .substring query text).ranges position ↔
      ∃ token ∈ tokens query, ∃ k, IsFirstBlock token text.lower k ∧
        ∃ i, k ≤ i ∧ i < k + token.length ∧ ∃ c, (Folded.ofText text)[i]? = some (c, position) := by
  have hempty := Cells.bonusAtMost_empty (ownBonus_nonneg text.lower)
  rw [(isRuns_evaluate .substring query text).covered, isHit_iff (by simp) hempty]
  simp only [Uses]
  constructor
  · rintro ⟨token, htoken, _, ⟨k, hfirst, rfl⟩, i, hi, hc⟩
    rw [List.mem_range'_1] at hi
    exact ⟨token, htoken, k, hfirst, i, hi.1, hi.2, hc⟩
  · rintro ⟨token, htoken, k, hfirst, i, hlow, hhigh, hc⟩
    exact ⟨token, htoken, _, ⟨k, hfirst, rfl⟩, i, List.mem_range'_1.2 ⟨hlow, hhigh⟩, hc⟩

theorem card_covered_evaluate (query text : Text) :
    (covered (evaluate .substring query text).ranges).card =
      matchedCount (evaluate .substring query text).ranges :=
  card_covered (isRuns_evaluate .substring query text).separated

/-- No text has more matched characters than the tokens of the query have. -/
theorem matchedCount_le_tokenSize (query text : Text) :
    matchedCount (evaluate .substring query text).ranges ≤ tokenSize query := by
  have hsub : covered (evaluate .substring query text).ranges ⊆
      (tokens query).toFinset.biUnion (blockCover · text) := by
    intro position hposition
    obtain ⟨token, htoken, k, hfirst, i, hlow, hhigh, c, hc⟩ :=
      isCovered_evaluate_iff.1 (mem_covered.1 hposition)
    exact Finset.mem_biUnion.2
      ⟨token, List.mem_toFinset.2 htoken, mem_blockCover hfirst hlow hhigh hc⟩
  calc matchedCount (evaluate .substring query text).ranges
      = (covered (evaluate .substring query text).ranges).card := (card_covered_evaluate ..).symm
    _ ≤ ((tokens query).toFinset.biUnion (blockCover · text)).card := Finset.card_le_card hsub
    _ ≤ ∑ token ∈ (tokens query).toFinset, (blockCover token text).card := Finset.card_biUnion_le
    _ ≤ tokenSize query := Finset.sum_le_sum fun token _ => card_blockCover_le token text

/-- A text that matches in full has at least the characters matched in which one token stands. -/
theorem leastCover_le_matchedCount {token : Text} (htoken : token ∈ tokens query)
    (hfull : (evaluate .substring query text).isFull) :
    leastCover token text ≤ matchedCount (evaluate .substring query text).ranges := by
  have hne := ne_nil_of_mem_tokens htoken
  have hoccurs := evaluateTokens_isFull_iff_tokens.1 hfull token htoken
  obtain ⟨k, hk⟩ := Option.isSome_iff_exists.1 (firstBlock_isSome_iff.2 hoccurs)
  have hfirst := firstBlock_eq_some_iff.1 hk
  have hpos := List.length_pos_iff.2 hne
  have hend := hfirst.add_length_le hne
  rw [← Folded.length_ofText] at hend
  have hleast := leastCover_le_length_span hne hend
  -- the whole span of the occurrence is covered
  have hsub : Finset.Ico ((Folded.ofText text).span k (k + token.length - 1)).start
      ((Folded.ofText text).span k (k + token.length - 1)).stop ⊆
        covered (evaluate .substring query text).ranges := by
    intro position hposition
    obtain ⟨i, hlow, hhigh, horigin⟩ := ((Folded.isSmooth_ofText text).covers_span
      (by omega) (by omega)).1 (Finset.mem_Ico.1 hposition)
    have hc := (Folded.origin_eq_iff (by omega)).1 horigin
    exact mem_covered.2 (isCovered_evaluate_iff.2
      ⟨token, htoken, k, hfirst, i, hlow, by omega, hc⟩)
  have hcard := Finset.card_le_card hsub
  rw [Nat.card_Ico, Span.stop, Nat.add_sub_cancel_left, card_covered_evaluate] at hcard
  exact hleast.trans hcard

end Matched

/-! ## Ahead of other ranges -/

/-- **When one range at the start is ahead.** For one query, one range at the start of `a` has less
dispersion than other ranges of `b` exactly while the matched characters of `a` are fewer than those
of `b` with 100 more for each place in the sum of the starts and 1000 more for each range after the
first. It is so for all texts while the tokens of the query have together fewer characters than 100
and the least that one of them takes in `b`. -/
theorem exactDispersion_lt_of_isAtStart {query a b : Text}
    (hfull : (evaluate .substring query b).isFull)
    (ha : IsAtStart (evaluate .substring query a).ranges)
    (hb : ¬ IsAtStart (evaluate .substring query b).ranges) :
    (exactDispersion (evaluate .substring query a).ranges <
          exactDispersion (evaluate .substring query b).ranges ↔
        matchedCount (evaluate .substring query a).ranges <
          matchedCount (evaluate .substring query b).ranges +
            100 * startSum (evaluate .substring query b).ranges +
            1000 * ((evaluate .substring query b).ranges.length - 1)) ∧
      ∀ token ∈ tokens query, tokenSize query < 100 + leastCover token b →
        exactDispersion (evaluate .substring query a).ranges <
          exactDispersion (evaluate .substring query b).ranges := by
  rw [exactDispersion_lt_iff, ha.hundredths_eq]
  refine ⟨Iff.rfl, fun token htoken hsize => ?_⟩
  have hleast := leastCover_le_matchedCount htoken hfull
  have hmost := matchedCount_le_tokenSize query a
  have hne : (evaluate .substring query b).ranges ≠ [] := by
    intro hnil
    have hpos := leastCover_pos (ne_nil_of_mem_tokens htoken) b
    rw [hnil, matchedCount] at hleast
    omega
  have hother := le_hundredths_of_not_isAtStart hne hb
  omega

/-- A start against a place two characters later, where the start is ahead by its place alone. -/
theorem exactDispersion_lt_of_isAtStart_run :
    (evaluate .substring "run".toList "x run".toList).isFull ∧
      IsAtStart (evaluate .substring "run".toList "run away".toList).ranges ∧
      ¬ IsAtStart (evaluate .substring "run".toList "x run".toList).ranges ∧
      exactDispersion (evaluate .substring "run".toList "run away".toList).ranges <
        exactDispersion (evaluate .substring "run".toList "x run".toList).ranges := by
  have hstart : (evaluate .substring "run".toList "run away".toList).ranges = [⟨0, 3⟩] := by cbv
  have hlater : evaluate .substring "run".toList "x run".toList = ⟨[⟨2, 3⟩], true⟩ := by cbv
  have htokens : tokens "run".toList = ["run".toList] := by cbv
  have hfull : (evaluate .substring "run".toList "x run".toList).isFull := by rw [hlater]
  have ha : IsAtStart (evaluate .substring "run".toList "run away".toList).ranges := ⟨3, hstart⟩
  have hb : ¬ IsAtStart (evaluate .substring "run".toList "x run".toList).ranges := by
    rw [hlater]
    rintro ⟨length, h⟩
    simp at h
  have htoken : "run".toList ∈ tokens "run".toList := by
    rw [htokens]
    exact List.mem_singleton_self _
  exact ⟨hfull, ha, hb, (exactDispersion_lt_of_isAtStart hfull ha hb).2 _ htoken (by cbv)⟩

set_option maxRecDepth 8000 in
/-- Two tokens that stand apart in a first text and share their characters in a second one: the
first text has one range at its start and yet more dispersion. -/
theorem isAtStart_not_ahead :
    let query := List.replicate 101 'a' ++ ' ' :: 'c' :: List.replicate 101 'a'
    let apart := evaluate .substring query (List.replicate 101 'a' ++ 'c' :: List.replicate 101 'a')
    let shared := evaluate .substring query ('x' :: 'c' :: List.replicate 101 'a')
    apart.isFull ∧ shared.isFull ∧ IsAtStart apart.ranges ∧ ¬ IsAtStart shared.ranges ∧
      exactDispersion shared.ranges < exactDispersion apart.ranges := by
  intro query apart shared
  have hapart : apart = ⟨[⟨0, 203⟩], true⟩ := by
    unfold apart query
    cbv
  have hshared : shared = ⟨[⟨1, 102⟩], true⟩ := by
    unfold shared query
    cbv
  rw [hapart, hshared, exactDispersion_lt_iff]
  refine ⟨rfl, rfl, ⟨203, rfl⟩, ?_, by decide⟩
  rintro ⟨length, h⟩
  simp at h

end EditorKit.Search
