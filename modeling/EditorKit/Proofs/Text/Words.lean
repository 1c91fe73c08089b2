import EditorKit.Text.Basic
import Mathlib.Data.List.DropRight

/-!
# Words

The words of a text are its pieces without white space that cannot be made longer: what stands
before a word is empty or ends in white space, and what stands behind it is empty or begins with
white space. `Text.mem_words_iff` says that `Text.words` gives exactly these, and
`Text.exists_isWord_of_isInfix` that every piece without white space lies in one of them.
-/

namespace EditorKit.Text

/-- Whether a text is one of the longest pieces without white space of another one. -/
def IsWord (word t : Text) : Prop :=
  ∃ before after : Text, t = before ++ word ++ after ∧ word ≠ [] ∧ (∀ c ∈ word, ¬ isBlank c) ∧
    (∀ c ∈ before.getLast?, isBlank c) ∧ ∀ c ∈ after.head?, isBlank c

@[simp] theorem words_nil : words [] = [] := rfl

/-- White space parts the words before it from those behind it. -/
theorem words_append_cons {c : Char} (hc : isBlank c) (s t : Text) :
    words (s ++ c :: t) = words s ++ words t := by
  rw [words, List.splitOnP_append_cons s t hc, List.filter_append]
  rfl

theorem words_cons {c : Char} (hc : isBlank c) (t : Text) : words (c :: t) = words t :=
  words_append_cons hc [] t

/-- A text of white space has no words. -/
theorem words_of_isBlankText {t : Text} (h : isBlankText t) : words t = [] := by
  induction t with
  | nil => rfl
  | cons c t ih =>
    rw [isBlankText, List.all_cons, Bool.and_eq_true] at h
    rw [words_cons h.1, ih h.2]

/-- A text without white space is its only word. -/
theorem words_of_forall_not_isBlank {t : Text} (h : ∀ c ∈ t, ¬ isBlank c) :
    words t = if t = [] then [] else [t] := by
  rw [words, List.splitOnP_eq_singleton fun c hc => by simpa using h c hc]
  cases t <;> simp

theorem IsWord.of_append_cons {word t : Text} (h : IsWord word t) (s : Text) {c : Char}
    (hc : isBlank c) : IsWord word (s ++ c :: t) := by
  obtain ⟨before, after, rfl, hne, hword, hbefore, hafter⟩ := h
  refine ⟨s ++ c :: before, after, by simp, hne, hword, fun d hd => ?_, hafter⟩
  cases before with
  | nil =>
    obtain rfl : c = d := by simpa using hd
    exact hc
  | cons b before =>
    refine hbefore d ?_
    rwa [List.getLast?_append_of_ne_nil _ (by simp), List.getLast?_cons_cons] at hd

/-- Behind a piece without white space, the words are words of the whole. -/
theorem isWord_of_mem_words_append {word s t : Text} (hs : ∀ c ∈ s, ¬ isBlank c)
    (h : word ∈ words (s ++ t)) : IsWord word (s ++ t) := by
  induction t generalizing s with
  | nil =>
    rw [List.append_nil, words_of_forall_not_isBlank hs] at h
    split at h
    · simp at h
    · rename_i hne
      obtain rfl := List.mem_singleton.1 h
      exact ⟨[], [], by simp, hne, hs, by simp, by simp⟩
  | cons c t ih =>
    by_cases hc : isBlank c
    · rw [words_append_cons hc, List.mem_append, words_of_forall_not_isBlank hs] at h
      rcases h with h | h
      · split at h
        · simp at h
        · rename_i hne
          obtain rfl := List.mem_singleton.1 h
          exact ⟨[], c :: t, by simp, hne, hs, by simp, by simpa using hc⟩
      · exact (ih (s := []) (by simp) h).of_append_cons s hc
    · have hsnoc : s ++ c :: t = (s ++ [c]) ++ t := by simp
      rw [hsnoc] at h ⊢
      refine ih (fun d hd => ?_) h
      rcases List.mem_append.1 hd with hd | hd
      · exact hs d hd
      · rwa [List.mem_singleton.1 hd]

theorem IsWord.mem_words {word t : Text} (h : IsWord word t) : word ∈ words t := by
  obtain ⟨before, after, rfl, hne, hword, hbefore, hafter⟩ := h
  have hself : word ∈ words word := by
    rw [words_of_forall_not_isBlank hword, if_neg hne]
    exact List.mem_singleton_self word
  -- what stands behind the word leaves it a word
  have hfront : word ∈ words (word ++ after) := by
    cases after with
    | nil => simpa using hself
    | cons c after =>
      rw [words_append_cons (hafter c (by simp))]
      exact List.mem_append_left _ hself
  rcases List.eq_nil_or_concat' before with rfl | ⟨front, c, rfl⟩
  · simpa using hfront
  · have hc : isBlank c := hbefore c (by simp)
    have hcut : front ++ [c] ++ word ++ after = front ++ c :: (word ++ after) := by simp
    rw [hcut, words_append_cons hc]
    exact List.mem_append_right _ hfront

/-- `Text.words` gives the longest pieces without white space. -/
theorem mem_words_iff {word t : Text} : word ∈ words t ↔ IsWord word t :=
  ⟨isWord_of_mem_words_append (s := []) (by simp), IsWord.mem_words⟩

theorem ne_nil_of_mem_words {word t : Text} (h : word ∈ words t) : word ≠ [] := by
  obtain ⟨-, -, -, hne, -⟩ := mem_words_iff.1 h
  exact hne

theorem IsWord.isInfix {word t : Text} (h : IsWord word t) : word <:+: t := by
  obtain ⟨before, after, rfl, -⟩ := h
  exact List.infix_append before word after

/-- A piece without white space lies in a word: that is the piece with what stands around it up to
the next white space. -/
theorem exists_isWord_of_isInfix {piece t : Text} (h : piece <:+: t) (hne : piece ≠ [])
    (hpiece : ∀ c ∈ piece, ¬ isBlank c) : ∃ word, IsWord word t ∧ piece <:+: word := by
  obtain ⟨before, after, rfl⟩ := h
  have hbefore : before.rdropWhile (! isBlank ·) ++ before.rtakeWhile (! isBlank ·) = before :=
    List.rdropWhile_append_rtakeWhile
  have hafter : after.takeWhile (! isBlank ·) ++ after.dropWhile (! isBlank ·) = after :=
    List.takeWhile_append_dropWhile
  refine ⟨before.rtakeWhile (! isBlank ·) ++ piece ++ after.takeWhile (! isBlank ·),
    ⟨before.rdropWhile (! isBlank ·), after.dropWhile (! isBlank ·), ?_, ?_, ?_, ?_, ?_⟩,
    List.infix_append ..⟩
  · conv_lhs => rw [← hbefore, ← hafter]
    simp only [List.append_assoc]
  · simp [hne]
  · intro c hc
    rw [List.mem_append, List.mem_append] at hc
    rcases hc with (hc | hc) | hc
    · simpa using List.mem_rtakeWhile_imp hc
    · exact hpiece c hc
    · simpa using List.mem_takeWhile_imp hc
  · intro c hc
    obtain ⟨hrest, rfl⟩ := List.mem_getLast?_eq_getLast hc
    simpa using List.rdropWhile_last_not _ _ hrest
  · intro c hc
    have hhead := List.head?_dropWhile_not (! isBlank ·) after
    rw [Option.mem_def.1 hc] at hhead
    simpa using hhead

end EditorKit.Text
