import EditorKit.Proofs.Search.Agreement
import EditorKit.Proofs.Search.Outcome

/-!
# Searches that do not depend on the storage

The storage that a search gets may hold bonuses from searches before, all within `bonusLimit`, and
every search leaves it that way. A search that has no double in common with the text
(`IsSteady`) finds the same in all such storage.

* `align_eq_of_isSettled` and `align_eq_of_noCommonDouble` say so of an alignment,
* `evaluateTokens_eq_of_isSteady` of the tokens of a query.
-/

namespace EditorKit.Search

/-! ## Alignments -/

theorem mem_placeBonuses {before : CharClass} {t : Text} {bonus : Int}
    (h : bonus ∈ placeBonuses before t) : 0 ≤ bonus ∧ bonus ≤ 8 := by
  induction t generalizing before with
  | nil => simp [placeBonuses] at h
  | cons c t ih =>
    rw [placeBonuses, List.mem_cons] at h
    rcases h with rfl | h
    · unfold placeBonus
      split <;> decide
    · exact ih h

theorem mem_columnBonuses {t : Text} {bonus : Int} (h : bonus ∈ columnBonuses t) :
    0 ≤ bonus ∧ bonus ≤ 16 := by
  unfold columnBonuses at h
  split at h
  · rw [List.mem_singleton] at h
    omega
  · rename_i first rest hplaces
    have hplace : ∀ b ∈ first :: rest, 0 ≤ b ∧ b ≤ 8 := by
      intro b hb
      rw [← hplaces] at hb
      exact mem_placeBonuses hb
    have hfirst := hplace first (List.mem_cons_self ..)
    rw [List.mem_cons, List.mem_cons] at h
    rcases h with rfl | rfl | h
    · omega
    · omega
    · have hrest := hplace bonus (List.mem_cons_of_mem _ h)
      omega

namespace Layout

theorem isSound_ofFirsts {pattern text : Text} {firsts : List Nat}
    (h : IsPlacement pattern text firsts) : (ofFirsts pattern text firsts).IsSound := by
  have hplace : ∀ column, 0 ≤ (ofFirsts pattern text firsts).placeBonusAt column ∧
      (ofFirsts pattern text firsts).placeBonusAt column ≤ 16 := by
    intro column
    have heq : (ofFirsts pattern text firsts).placeBonusAt column =
        (columnBonuses text)[column + 1]?.getD 0 := by
      simp [placeBonusAt, ofFirsts, Array.getD_eq_getD_getElem?]
    rw [heq]
    cases hbonus : (columnBonuses text)[column + 1]? with
    | none => decide
    | some bonus => exact mem_columnBonuses (List.mem_of_getElem? hbonus)
  exact ⟨h, fun column => (hplace column).1, fun column => (hplace column).2⟩

/-- The limit of all bonuses: twice that of a character behind a hard break. -/
def bonusLimit : Nat → Int := fun _ => 16

theorem IsSound.isLimit {layout : Layout} (h : layout.IsSound) : layout.IsLimit bonusLimit := by
  intro k
  have hplace := h.place_le (k % layout.columns)
  simp only [Score.runEarning, runBonus, bonusLimit]
  omega

end Layout

open Layout

section Alignments

variable {pattern text : Text} {cells cells' : Cells}

/-- No search raises a bonus in its storage above a limit that leaves room for its own. -/
theorem bonusAtMost_align_of_isLimit {limit : Nat → Int}
    (hlimit : ∀ firsts, firstPositions pattern text 0 = some firsts →
      (ofFirsts pattern text firsts).IsLimit limit)
    (h : cells.BonusAtMost limit) : (align cells pattern text).2.BonusAtMost limit := by
  cases hfirsts : firstPositions pattern text 0 with
  | none =>
    rw [align_of_eq_none hfirsts]
    exact h
  | some firsts =>
    have hsound := isSound_ofFirsts (isPlacement_firstPositions hfirsts)
    rw [align_of_eq_some hfirsts]
    exact (isFilled_fill hsound (hlimit firsts hfirsts) h).bounded

theorem bonusAtMost_align (h : cells.BonusAtMost bonusLimit) :
    (align cells pattern text).2.BonusAtMost bonusLimit := by
  refine bonusAtMost_align_of_isLimit ?_ h
  intro firsts hfirsts
  exact (isSound_ofFirsts (isPlacement_firstPositions hfirsts)).isLimit

/-- An alignment does not depend on the storage where no bonus makes a difference. -/
theorem align_eq_of_isSettled {limit : Nat → Int} (hlimit : ∀ k, limit k ≤ 16)
    (hsize : text.length ≤ maxLength) (h : cells.BonusAtMost limit) (h' : cells'.BonusAtMost limit)
    (hsettled : ∀ firsts, firstPositions pattern text 0 = some firsts →
      (ofFirsts pattern text firsts).IsLimit limit ∧
        ∀ table, (ofFirsts pattern text firsts).IsFilled limit table →
          (ofFirsts pattern text firsts).IsSettled limit table) :
    (align cells pattern text).1 = (align cells' pattern text).1 := by
  cases hfirsts : firstPositions pattern text 0 with
  | none => rw [align_of_eq_none hfirsts, align_of_eq_none hfirsts]
  | some firsts =>
    obtain ⟨hroom, hsettled⟩ := hsettled firsts hfirsts
    rw [align_of_eq_some hfirsts, align_of_eq_some hfirsts]
    have hsound := isSound_ofFirsts (isPlacement_firstPositions hfirsts)
    generalize hlayout : ofFirsts pattern text firsts = layout at hsound hroom hsettled
    have hpattern : layout.pattern = pattern := by rw [← hlayout]; rfl
    have hsize' : layout.text.size ≤ maxLength := by rw [← hlayout]; exact hsize
    have hfilled := isFilled_fill hsound hroom h
    have hfilled' := isFilled_fill hsound hroom h'
    have hscores : ∀ r c, layout.IsReached r c → c < layout.columns →
        layout.scoreAt (layout.fill cells) r c = layout.scoreAt (layout.fill cells') r c := by
      intro r c hreached hc
      exact scoreAt_eq_of_isSettled hsound hfilled hfilled' (hsettled _ hfilled) hreached hc
    have hstart := isOnPath_bestColumn hfilled hsound hsize'
    simp only [← hpattern, ← bestColumn_eq hsound hscores]
    rw [traceBack_eq hsound hlimit hsize' hfilled hscores hstart]

/-- Without a double in common an alignment does not depend on the storage. -/
theorem align_eq_of_noCommonDouble (hsize : text.length ≤ maxLength)
    (hdouble : NoCommonDouble pattern text) (h : cells.BonusAtMost bonusLimit)
    (h' : cells'.BonusAtMost bonusLimit) :
    (align cells pattern text).1 = (align cells' pattern text).1 := by
  have hlimit : ∀ k, bonusLimit k ≤ 16 := fun _ => Int.le_refl 16
  refine align_eq_of_isSettled hlimit hsize h h' ?_
  intro firsts hfirsts
  have hsound := isSound_ofFirsts (isPlacement_firstPositions hfirsts)
  exact ⟨hsound.isLimit, fun _ hfilled =>
    isSettled_of_noCommonDouble hsound hlimit hsize hfilled hdouble⟩

end Alignments

/-! ## Queries -/

/-- Whether a search for tokens in a text is certain not to depend on the storage: it is one without
gaps, or the text is not too long and has no double in common with a token. -/
def IsSteady (mode : Mode) (tokens : List Text) (text : Text) : Prop :=
  match mode with
  | .substring => True
  | .fuzzy => text.lower.length ≤ maxLength ∧ ∀ token ∈ tokens, NoCommonDouble token text.lower

section Queries

variable {mode : Mode} {cells cells' : Cells}

theorem bonusAtMost_findToken (h : cells.BonusAtMost bonusLimit) (mode : Mode) (folded : Folded)
    (token : Text) : (findToken mode cells folded token).2.BonusAtMost bonusLimit := by
  by_cases hne : token = []
  · rw [hne, findToken_nil]
    exact h
  · cases mode with
    | substring =>
      rw [findToken_substring _ _ hne]
      exact h
    | fuzzy =>
      rw [findToken_fuzzy _ _ hne]
      exact bonusAtMost_align h

theorem bonusAtMost_findTokens {folded : Folded} {tokens : List Text}
    (h : cells.BonusAtMost bonusLimit) :
    (findTokens mode folded cells tokens).2.BonusAtMost bonusLimit := by
  induction tokens generalizing cells with
  | nil => exact h
  | cons token tokens ih =>
    rw [findTokens_cons]
    exact ih (bonusAtMost_findToken h mode folded token)

theorem bonusAtMost_evaluateTokens {tokens : List Text} {text : Text}
    (h : cells.BonusAtMost bonusLimit) :
    (evaluateTokens mode cells tokens text).2.BonusAtMost bonusLimit := by
  unfold evaluateTokens
  split
  · exact h
  · exact bonusAtMost_findTokens h

theorem findToken_eq_of_isSteady {token : Text} {text : Text}
    (hsteady : IsSteady mode [token] text) (h : cells.BonusAtMost bonusLimit)
    (h' : cells'.BonusAtMost bonusLimit) :
    (findToken mode cells (.ofText text) token).1 =
      (findToken mode cells' (.ofText text) token).1 := by
  by_cases hne : token = []
  · rw [hne, findToken_nil, findToken_nil]
  · cases mode with
    | substring => rw [findToken_substring _ _ hne, findToken_substring _ _ hne]
    | fuzzy =>
      obtain ⟨hsize, hdouble⟩ := hsteady
      rw [findToken_fuzzy _ _ hne, findToken_fuzzy _ _ hne, Folded.chars_ofText,
        align_eq_of_noCommonDouble hsize (hdouble token (List.mem_singleton_self token)) h h']

theorem isSteady_cons {token : Text} {tokens : List Text} {text : Text} :
    IsSteady mode (token :: tokens) text ↔
      IsSteady mode [token] text ∧ IsSteady mode tokens text := by
  cases mode with
  | substring => simp [IsSteady]
  | fuzzy =>
    simp only [IsSteady, List.forall_mem_cons, List.not_mem_nil, false_implies, implies_true,
      and_true]
    exact and_and_left

/-- Every token is found in the same places. -/
theorem findTokens_eq_of_isSteady {tokens : List Text} {text : Text}
    (hsteady : IsSteady mode tokens text) (h : cells.BonusAtMost bonusLimit)
    (h' : cells'.BonusAtMost bonusLimit) :
    (findTokens mode (.ofText text) cells tokens).1 =
      (findTokens mode (.ofText text) cells' tokens).1 := by
  induction tokens generalizing cells cells' with
  | nil => rfl
  | cons token tokens ih =>
    rw [isSteady_cons] at hsteady
    have hfound := findToken_eq_of_isSteady hsteady.1 h h'
    have hlater := ih hsteady.2 (bonusAtMost_findToken h mode (.ofText text) token)
      (bonusAtMost_findToken h' mode (.ofText text) token)
    rw [findTokens_cons, findTokens_cons]
    simp only [hfound, hlater]

/-- **A steady search does not depend on the storage.** -/
theorem evaluateTokens_eq_of_isSteady {tokens : List Text} {text : Text}
    (hsteady : IsSteady mode tokens text) (h : cells.BonusAtMost bonusLimit)
    (h' : cells'.BonusAtMost bonusLimit) :
    (evaluateTokens mode cells tokens text).1 = (evaluateTokens mode cells' tokens text).1 := by
  unfold evaluateTokens
  split
  · rfl
  · have hfound := findTokens_eq_of_isSteady hsteady h h'
    simp only [hfound]

end Queries
end EditorKit.Search
