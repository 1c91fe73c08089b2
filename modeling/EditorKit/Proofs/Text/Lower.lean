import EditorKit.Text.Lower
import Mathlib.Data.List.Basic

/-!
# Folding of letter case

Folding works character by character, so it goes along with appending texts, and no character
vanishes in it: a text folds to the empty text only if it is empty. A text grows in it by one
character for each dotted capital I (`Text.length_lower`).

The lower case of a character is never a capital itself, so a text that is folded stays as it is
when it is folded again. For characters in a run of capitals this is a matter of the runs alone:
where the letters of one run stand among the capitals of another one, these are every second
character, and the letters are those in between.

* `Text.capitals` are all runs, and `Text.lowerSimple_cases` says that folding goes by them;
* `Text.CaseRun.misses` compares two runs by their ends, and `Text.isFolded_capitals` does so for
  all of them;
* `Text.lower_lower` is the main result.
-/

namespace EditorKit.Text

/-! ## Texts -/

theorem lowerChar_ne_nil (c : Char) : lowerChar c ≠ [] := by
  unfold lowerChar
  split <;> simp

@[simp] theorem lower_nil : lower [] = [] := rfl

theorem lower_cons (c : Char) (t : Text) : lower (c :: t) = lowerChar c ++ lower t :=
  List.flatMap_cons

theorem lower_append (s t : Text) : lower (s ++ t) = lower s ++ lower t :=
  List.flatMap_append

@[simp] theorem lower_eq_nil_iff {t : Text} : lower t = [] ↔ t = [] := by
  cases t with
  | nil => simp
  | cons c t => simp [lower_cons, lowerChar_ne_nil]

/-- A piece of a text folds to a piece of the folded text. -/
theorem lower_isInfix {s t : Text} (h : s <:+: t) : lower s <:+: lower t := by
  obtain ⟨before, after, rfl⟩ := h
  exact ⟨lower before, lower after, by rw [lower_append, lower_append]⟩

theorem length_lowerChar (c : Char) :
    (lowerChar c).length = if c = '\u0130' then 2 else 1 := by
  unfold lowerChar
  split <;> rfl

theorem length_lower (t : Text) : t.lower.length = t.length + t.count '\u0130' := by
  induction t with
  | nil => rfl
  | cons c t ih =>
    rw [lower_cons, List.length_append, length_lowerChar, ih, List.length_cons, List.count_cons]
    by_cases h : c = '\u0130'
    · simp only [h, beq_self_eq_true, if_true]
      omega
    · simp only [beq_eq_false_iff_ne.2 h, Bool.false_eq_true, h, if_false]
      omega

/-! ## Runs -/

/-- All runs of capitals, those of ASCII in front. -/
def capitals : List CaseRun := ⟨0x41, 0x5A, 1, 0x61⟩ :: caseRuns

/-- Whether the letters that a run folds to lie outside another run, or between its capitals where
those are every second character. -/
def CaseRun.misses (run other : CaseRun) : Bool :=
  Nat.blt (run.target + (run.last - run.first)) other.first || Nat.blt other.last run.target ||
    (other.step == 2 && (run.step == 2 || run.first == run.last) &&
      (run.target + other.first) % 2 == 1)

/-- Whether a run folds to characters, and to none that folds further. -/
def CaseRun.isFolded (run : CaseRun) : Bool :=
  (Nat.blt (run.target + (run.last - run.first)) 0xD800 ||
      (Nat.blt 0xDFFF run.target && Nat.blt (run.target + (run.last - run.first)) 0x110000)) &&
    run.misses ⟨0x130, 0x130, 1, 0x69⟩ && capitals.all run.misses

theorem isFolded_capitals : capitals.all CaseRun.isFolded := by decide +kernel

theorem CaseRun.covers_iff {run : CaseRun} {n : Nat} :
    run.covers n ↔ run.first ≤ n ∧ n ≤ run.last ∧ (n - run.first) % run.step = 0 := by
  simp [covers, and_assoc]

theorem CaseRun.not_covers_of_misses {run other : CaseRun} {n : Nat} (h : run.misses other)
    (hn : run.covers n) : ¬ other.covers (run.target + (n - run.first)) := by
  rw [covers_iff] at hn ⊢
  simp only [misses, Bool.or_eq_true, Bool.and_eq_true, Nat.blt_eq, beq_iff_eq] at h
  rintro ⟨hfirst, hlast, hstep⟩
  obtain ⟨hn₁, hn₂, hn₃⟩ := hn
  rcases h with (hbefore | hbehind) | ⟨⟨hother, hrun⟩, hodd⟩
  · omega
  · omega
  · rw [hother] at hstep
    rcases hrun with hrun | hrun
    · rw [hrun] at hn₃
      omega
    · omega

/-! ## Characters -/

theorem toLower_ofNat : ∀ n < 0x80, (Char.ofNat n).toLower =
    if 0x41 ≤ n ∧ n ≤ 0x5A then Char.ofNat (0x61 + (n - 0x41)) else Char.ofNat n := by
  decide +kernel

theorem le_first_of_mem_caseRuns : ∀ run ∈ caseRuns, 0x80 ≤ run.first := by
  decide +kernel

/-- A character is a capital of one of the runs and folds to its letter, or it stays as it is. -/
theorem lowerSimple_cases (c : Char) :
    ((∀ run ∈ capitals, ¬ run.covers c.toNat) ∧ lowerSimple c = c) ∨
      ∃ run ∈ capitals, run.covers c.toNat ∧
        lowerSimple c = Char.ofNat (run.target + (c.toNat - run.first)) := by
  rw [lowerSimple, capitals]
  simp only [List.forall_mem_cons, List.exists_mem_cons_iff, CaseRun.covers_iff]
  split
  · rename_i hascii
    have hlower := toLower_ofNat c.toNat hascii
    rw [Char.ofNat_toNat] at hlower
    rw [hlower]
    split
    · exact .inr (.inl ⟨by omega, rfl⟩)
    · refine .inl ⟨⟨by omega, fun run hrun => ?_⟩, rfl⟩
      have hfirst := le_first_of_mem_caseRuns run hrun
      omega
  · rename_i hascii
    split
    · rename_i run hrun
      have hcovers := List.find?_some hrun
      exact .inr (.inr ⟨run, List.mem_of_find?_eq_some hrun, CaseRun.covers_iff.1 hcovers, rfl⟩)
    · rename_i hnone
      refine .inl ⟨⟨by omega, fun run hrun => ?_⟩, rfl⟩
      rw [← CaseRun.covers_iff]
      exact List.find?_eq_none.1 hnone run hrun

/-- A character that is a capital of no run stays as it is. -/
theorem lowerChar_of_not_covers {c : Char} (hdotted : c ≠ '\u0130')
    (h : ∀ run ∈ capitals, ¬ run.covers c.toNat) : lowerChar c = [c] := by
  rw [lowerChar, if_neg hdotted]
  rcases lowerSimple_cases c with ⟨-, heq⟩ | ⟨run, hrun, hcovers, -⟩
  · rw [heq]
  · exact absurd hcovers (h run hrun)

/-- The letters of a run are characters. -/
theorem CaseRun.toNat_letter {run : CaseRun} (hrun : run ∈ capitals) {n : Nat}
    (hn : run.covers n) :
    (Char.ofNat (run.target + (n - run.first))).toNat = run.target + (n - run.first) := by
  have hfolded := List.all_eq_true.1 isFolded_capitals run hrun
  simp only [isFolded, Bool.and_eq_true, Bool.or_eq_true, Nat.blt_eq] at hfolded
  have hbounds := covers_iff.1 hn
  have hletter : Nat.isValidChar (run.target + (n - run.first)) := by
    rw [Nat.isValidChar]
    omega
  rw [Char.ofNat, dif_pos hletter]
  rfl

/-- The letter of a capital stays as it is. -/
theorem CaseRun.lowerChar_letter {run : CaseRun} (hrun : run ∈ capitals) {n : Nat}
    (hn : run.covers n) : lowerChar (Char.ofNat (run.target + (n - run.first))) =
      [Char.ofNat (run.target + (n - run.first))] := by
  have hfolded := List.all_eq_true.1 isFolded_capitals run hrun
  simp only [isFolded, Bool.and_eq_true, List.all_eq_true] at hfolded
  obtain ⟨⟨-, hdotted⟩, hmisses⟩ := hfolded
  refine lowerChar_of_not_covers ?_ ?_
  · intro heq
    refine not_covers_of_misses hdotted hn ?_
    rw [← toNat_letter hrun hn, heq]
    decide
  · intro other hother
    rw [toNat_letter hrun hn]
    exact not_covers_of_misses (hmisses other hother) hn

/-- What a character folds to stays as it is. -/
theorem lowerChar_of_mem_lowerChar {c d : Char} (h : d ∈ lowerChar c) : lowerChar d = [d] := by
  rw [lowerChar] at h
  split at h
  · -- the two characters of the dotted capital I
    rw [List.mem_cons, List.mem_singleton] at h
    rcases h with rfl | rfl
    · decide +kernel
    · decide +kernel
  · rename_i hdotted
    obtain rfl := List.mem_singleton.1 h
    rcases lowerSimple_cases c with ⟨hnone, heq⟩ | ⟨run, hrun, hcovers, heq⟩
    · rw [heq]
      exact lowerChar_of_not_covers hdotted hnone
    · rw [heq]
      exact CaseRun.lowerChar_letter hrun hcovers

theorem le_target_of_mem_capitals : ∀ run ∈ capitals, 0x61 ≤ run.target := by
  decide +kernel

/-- Nothing but itself folds to a character in front of the letter `a`. -/
theorem eq_of_mem_lowerChar {c d : Char} (h : d ∈ lowerChar c) (hd : d.toNat < 0x61) : d = c := by
  rw [lowerChar] at h
  split at h
  · -- neither of the two characters of the dotted capital I is in front of `a`
    rw [List.mem_cons, List.mem_singleton] at h
    rcases h with rfl | rfl
    · exact absurd hd (by decide)
    · exact absurd hd (by decide)
  · obtain rfl := List.mem_singleton.1 h
    rcases lowerSimple_cases c with ⟨-, heq⟩ | ⟨run, hrun, hcovers, heq⟩
    · exact heq
    · have htarget := le_target_of_mem_capitals run hrun
      rw [heq, CaseRun.toNat_letter hrun hcovers] at hd
      omega

/-! ## Texts -/

/-- **Folding twice is folding once.** -/
theorem lower_lower (t : Text) : lower (lower t) = lower t := by
  have hfixed : ∀ s : Text, (∀ d ∈ s, lowerChar d = [d]) → lower s = s := by
    intro s hs
    rw [lower, List.flatMap_congr hs]
    simp
  refine hfixed _ fun d hd => ?_
  obtain ⟨c, -, hc⟩ := List.mem_flatMap.1 hd
  exact lowerChar_of_mem_lowerChar hc

end EditorKit.Text
