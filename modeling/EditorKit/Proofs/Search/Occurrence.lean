import EditorKit.Search.Alignment
import EditorKit.Search.Outcome
import Mathlib.Data.List.Infix

/-!
# Occurrences of a token

A token occurs in a text as a block of it, or with gaps as a subsequence of it (`Occurs`). The two
searches decide exactly that.

* `firstBlock_eq_some_iff`: `firstBlock` finds the leftmost block, if there is one;
* `firstPositions_isSome_iff`: `firstPositions` finds positions exactly for a subsequence, and
  `isPlacement_firstPositions` says that they spell the pattern in order.
-/

namespace EditorKit.Search

/-- Whether a token occurs in a text: without gaps, or in order with gaps allowed. -/
def Occurs (mode : Mode) (token text : Text) : Prop :=
  match mode with
  | .substring => token <:+: text
  | .fuzzy => token.Sublist text

/-- What occurs without gaps occurs with gaps allowed. -/
theorem Occurs.fuzzy_of_substring {token text : Text} (h : Occurs .substring token text) :
    Occurs .fuzzy token text :=
  List.IsInfix.sublist h

/-! ## Blocks -/

/-- Whether a block stands at a position of a text and at none before. -/
def IsFirstBlock (block text : Text) (k : Nat) : Prop :=
  block <+: text.drop k ∧ ∀ j < k, ¬ block <+: text.drop j

theorem isFirstBlock_zero {block text : Text} : IsFirstBlock block text 0 ↔ block <+: text := by
  simp [IsFirstBlock]

theorem isFirstBlock_succ {block text : Text} {c : Char} {k : Nat} :
    IsFirstBlock block (c :: text) (k + 1) ↔
      ¬ block <+: c :: text ∧ IsFirstBlock block text k := by
  simp only [IsFirstBlock, List.drop_succ_cons]
  constructor
  · rintro ⟨hk, hbefore⟩
    exact ⟨hbefore 0 (by omega), hk, fun j hj => hbefore (j + 1) (by omega)⟩
  · rintro ⟨hzero, hk, hbefore⟩
    refine ⟨hk, fun j hj => ?_⟩
    cases j with
    | zero => exact hzero
    | succ j => exact hbefore j (by omega)

/-- `firstBlock` gives the leftmost position of a block. -/
theorem firstBlock_eq_some_iff {block text : Text} {k : Nat} :
    firstBlock block text = some k ↔ IsFirstBlock block text k := by
  induction text generalizing k with
  | nil =>
    cases k with
    | zero => simp [firstBlock, isFirstBlock_zero]
    | succ k =>
      have : ¬ IsFirstBlock block [] (k + 1) := fun ⟨hk, hbefore⟩ => hbefore 0 (by omega) hk
      simp only [this, iff_false, firstBlock]
      split <;> simp
  | cons c text ih =>
    rw [firstBlock]
    cases k with
    | zero => rw [isFirstBlock_zero]; split <;> simp_all
    | succ k => rw [isFirstBlock_succ, ← ih]; split <;> simp_all

/-- `firstBlock` finds a block exactly where there is one. -/
theorem firstBlock_isSome_iff {block text : Text} :
    (firstBlock block text).isSome ↔ block <:+: text := by
  induction text with
  | nil => simp only [firstBlock, List.infix_nil]; split <;> simp_all
  | cons c text ih =>
    rw [firstBlock, List.infix_cons_iff]
    split
    · simp_all
    · simp_all

/-- A block ends inside its text. -/
theorem IsFirstBlock.add_length_le {block text : Text} {k : Nat} (h : IsFirstBlock block text k)
    (hne : block ≠ []) : k + block.length ≤ text.length := by
  have hle := h.1.length_le
  have hpos := List.length_pos_iff.2 hne
  rw [List.length_drop] at hle
  omega

/-! ## Subsequences -/

/-- Whether positions spell a pattern: they ascend, and carry the characters of the pattern. -/
structure IsPlacement (pattern text : Text) (positions : List Nat) : Prop where
  length_eq : positions.length = pattern.length
  ascending : positions.Pairwise (· < ·)
  spelled : ∀ (i k : Nat), positions[i]? = some k → text[k]? = pattern[i]?

/-- `firstPositions` finds an alignment exactly where there is one. -/
theorem firstPositions_isSome_iff {pattern text : Text} {k : Nat} :
    (firstPositions pattern text k).isSome ↔ pattern.Sublist text := by
  induction text generalizing pattern k with
  | nil => cases pattern <;> simp [firstPositions]
  | cons c text ih =>
    cases pattern with
    | nil => simp [firstPositions]
    | cons p pattern =>
      rw [firstPositions]
      split
      · rename_i heq
        rw [Option.isSome_map, ih, heq, List.cons_sublist_cons]
      · rename_i hne
        rw [ih]
        constructor
        · exact fun h => h.cons c
        · intro h
          cases h with
          | cons _ h => exact h
          | cons_cons => exact absurd rfl hne

/-- The positions found from position `k` on are not before it. -/
theorem le_of_mem_firstPositions {pattern text : Text} {k : Nat} {positions : List Nat}
    (h : firstPositions pattern text k = some positions) : ∀ j ∈ positions, k ≤ j := by
  induction text generalizing pattern k positions with
  | nil => cases pattern <;> simp_all [firstPositions]
  | cons c text ih =>
    cases pattern with
    | nil => simp_all [firstPositions]
    | cons p pattern =>
      rw [firstPositions] at h
      split at h
      · obtain ⟨rest, hrest, rfl⟩ := Option.map_eq_some_iff.1 h
        exact List.forall_mem_cons.2
          ⟨Nat.le_refl k, fun j hj => Nat.le_of_succ_le (ih hrest j hj)⟩
      · exact fun j hj => Nat.le_of_succ_le (ih h j hj)

/-- The positions found in the end of a text from position `k` on spell the pattern. -/
theorem isPlacement_firstPositions_drop {pattern text rest : Text} {k : Nat}
    {positions : List Nat} (hrest : text.drop k = rest)
    (h : firstPositions pattern rest k = some positions) : IsPlacement pattern text positions := by
  induction rest generalizing pattern k positions with
  | nil =>
    cases pattern with
    | nil =>
      obtain rfl := Option.some.inj h
      exact ⟨rfl, List.Pairwise.nil, by simp⟩
    | cons p pattern => simp [firstPositions] at h
  | cons c rest ih =>
    have hnext : text.drop (k + 1) = rest := by
      rw [← List.tail_drop, hrest, List.tail_cons]
    cases pattern with
    | nil =>
      obtain rfl := Option.some.inj h
      exact ⟨rfl, List.Pairwise.nil, by simp⟩
    | cons p pattern =>
      rw [firstPositions] at h
      split at h
      · rename_i heq
        obtain ⟨later, hlater, rfl⟩ := Option.map_eq_some_iff.1 h
        obtain ⟨hlen, hasc, hspell⟩ := ih hnext hlater
        refine ⟨by simp [hlen], List.pairwise_cons.2 ⟨?_, hasc⟩, ?_⟩
        · exact fun j hj => le_of_mem_firstPositions hlater j hj
        · intro i j hj
          cases i with
          | zero =>
            obtain rfl : k = j := by simpa using hj
            have hhead : text[k]? = some c := by
              rw [← List.head?_drop, hrest, List.head?_cons]
            rw [hhead, List.getElem?_cons_zero, heq]
          | succ i => exact hspell i j hj
      · exact ih hnext h

/-- The positions of `firstPositions` spell the pattern. -/
theorem isPlacement_firstPositions {pattern text : Text} {positions : List Nat}
    (h : firstPositions pattern text 0 = some positions) : IsPlacement pattern text positions :=
  isPlacement_firstPositions_drop List.drop_zero h

namespace IsPlacement

variable {pattern text : Text} {positions : List Nat}

/-- Every position lies in the text. -/
theorem lt_length (h : IsPlacement pattern text positions) {i k : Nat}
    (hk : positions[i]? = some k) : k < text.length := by
  have hi : i < positions.length := (List.getElem?_eq_some_iff.1 hk).1
  have hpattern : i < pattern.length := by rwa [← h.length_eq]
  have hspell := h.spelled i k hk
  rw [List.getElem?_eq_getElem hpattern] at hspell
  exact (List.getElem?_eq_some_iff.1 hspell).1

/-- Positions ascend. -/
theorem lt_of_lt (h : IsPlacement pattern text positions) {i j k l : Nat} (hij : i < j)
    (hk : positions[i]? = some k) (hl : positions[j]? = some l) : k < l := by
  obtain ⟨hi, rfl⟩ := List.getElem?_eq_some_iff.1 hk
  obtain ⟨hj, rfl⟩ := List.getElem?_eq_some_iff.1 hl
  exact List.pairwise_iff_getElem.1 h.ascending i j hi hj hij

end IsPlacement
end EditorKit.Search
