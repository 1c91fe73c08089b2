import EditorKit.Proofs.Search.Alignment
import EditorKit.Proofs.Search.Folded
import EditorKit.Proofs.Text.Words
import EditorKit.Search.Outcome

/-!
# The ranges of an outcome

The ranges of an outcome are the maximal runs of the positions that its tokens hit, whatever the
storage held before, and no position is looked up outside the folded text on the way.

* `Uses` says which folded positions a search uses, and `IsHit` which positions of the text they
  come from;
* `findToken?`, `findTokens?` and `evaluateTokens?` are the searches with checked access;
* `evaluate_isRuns` is the main result.
-/

namespace EditorKit.Search

/-! ## Positions that a search uses -/

/-- The folded positions that the search for a token uses: the leftmost block, or the alignment that
is found with some storage. -/
def Uses (mode : Mode) (cells : Cells) (chars token : Text) (positions : List Nat) : Prop :=
  match mode with
  | .substring => ∃ k, IsFirstBlock token chars k ∧ positions = List.range' k token.length
  | .fuzzy => (align cells token chars).1 = some positions

/-- Whether a position of a text is hit: one of the tokens is found, with the storage that the
tokens before it leave, and uses a folded position that comes from it. -/
def IsHit (mode : Mode) (cells : Cells) (tokens : List Text) (text : Text) (position : Nat) :
    Prop :=
  ∃ before token after positions, tokens = before ++ token :: after ∧
    Uses mode (findTokens mode (.ofText text) cells before).2 text.lower token positions ∧
    ∃ k ∈ positions, ∃ c, (Folded.ofText text)[k]? = some (c, position)

/-- The positions that a search uses lie in the folded text. -/
theorem Uses.lt_length {mode : Mode} {cells : Cells} {chars token : Text} {positions : List Nat}
    (hne : token ≠ []) (h : Uses mode cells chars token positions) :
    ∀ k ∈ positions, k < chars.length := by
  intro k hk
  cases mode with
  | substring =>
    obtain ⟨first, hfirst, rfl⟩ := h
    have hend := hfirst.add_length_le hne
    rw [List.mem_range'_1] at hk
    omega
  | fuzzy => exact lt_length_of_mem_align h k hk

theorem spansFrom_range' (folded : Folded) (first last n : Nat) :
    folded.spansFrom first last (List.range' (last + 1) n) = [folded.span first (last + n)] := by
  induction n generalizing last with
  | zero => rfl
  | succ n ih =>
    rw [List.range'_succ, Folded.spansFrom, if_pos rfl, ih, Nat.add_assoc, Nat.add_comm 1 n]

/-- Consecutive positions have one span. -/
theorem spans_range' (folded : Folded) (k : Nat) {n : Nat} (hn : 0 < n) :
    folded.spans (List.range' k n) = [folded.span k (k + n - 1)] := by
  obtain ⟨n, rfl⟩ : ∃ m, n = m + 1 := ⟨n - 1, by omega⟩
  rw [List.range'_succ, Folded.spans, spansFrom_range']
  congr 2

theorem findToken_nil (mode : Mode) (cells : Cells) (folded : Folded) :
    findToken mode cells folded [] = (some [], cells) := rfl

theorem findToken_substring (cells : Cells) (folded : Folded) {token : Text} (hne : token ≠ []) :
    findToken .substring cells folded token =
      ((firstBlock token folded.chars).map fun k => [folded.span k (k + token.length - 1)],
        cells) := by
  simp [findToken, hne]

theorem findToken_fuzzy (cells : Cells) (folded : Folded) {token : Text} (hne : token ≠ []) :
    findToken .fuzzy cells folded token =
      ((align cells token folded.chars).1.map folded.spans,
        (align cells token folded.chars).2) := by
  simp [findToken, hne]

/-- A token is found with the spans of the positions that its search uses. -/
theorem findToken_eq_some_iff {mode : Mode} {cells : Cells} {folded : Folded} {token : Text}
    (hne : token ≠ []) {spans : List Span} :
    (findToken mode cells folded token).1 = some spans ↔
      ∃ positions, Uses mode cells folded.chars token positions ∧
        folded.spans positions = spans := by
  cases mode with
  | substring =>
    have hpos := List.length_pos_iff.2 hne
    rw [findToken_substring cells folded hne]
    simp only [Option.map_eq_some_iff, firstBlock_eq_some_iff, Uses]
    constructor
    · rintro ⟨k, hk, rfl⟩
      exact ⟨_, ⟨k, hk, rfl⟩, spans_range' folded k hpos⟩
    · rintro ⟨_, ⟨k, hk, rfl⟩, rfl⟩
      exact ⟨k, hk, (spans_range' folded k hpos).symm⟩
  | fuzzy =>
    rw [findToken_fuzzy cells folded hne]
    simp only [Option.map_eq_some_iff, Uses]

/-- A token is found exactly where it occurs, whatever the storage held before. -/
theorem findToken_isSome_iff {mode : Mode} {cells : Cells} {folded : Folded} {token : Text} :
    (findToken mode cells folded token).1.isSome ↔ Occurs mode token folded.chars := by
  by_cases hne : token = []
  · subst hne
    cases mode <;> simp [findToken_nil, Occurs]
  · cases mode with
    | substring =>
      rw [findToken_substring cells folded hne, Option.isSome_map, firstBlock_isSome_iff, Occurs]
    | fuzzy =>
      rw [findToken_fuzzy cells folded hne, Option.isSome_map, align_isSome_iff, Occurs]

/-! ## Several tokens -/

theorem findTokens_cons (mode : Mode) (folded : Folded) (cells : Cells) (token : Text)
    (rest : List Text) :
    findTokens mode folded cells (token :: rest) =
      let found := findToken mode cells folded token
      let later := findTokens mode folded found.2 rest
      ((found.1.getD [] ++ later.1.1, found.1.isSome && later.1.2), later.2) := by
  rw [findTokens]
  cases h : (findToken mode cells folded token).1 <;> simp [h]

/-- All tokens are found exactly where all of them occur. -/
theorem findTokens_isFull_iff {mode : Mode} {folded : Folded} {cells : Cells}
    {tokens : List Text} :
    (findTokens mode folded cells tokens).1.2 ↔
      ∀ token ∈ tokens, Occurs mode token folded.chars := by
  induction tokens generalizing cells with
  | nil => simp [findTokens]
  | cons token rest ih =>
    rw [findTokens_cons, List.forall_mem_cons]
    simp only [Bool.and_eq_true, findToken_isSome_iff, ih]

section Hits

variable {mode : Mode} {text : Text}

theorem isCovered_findToken {cells : Cells} {token : Text} (hne : token ≠ []) {position : Nat} :
    IsCovered ((findToken mode cells (.ofText text) token).1.getD []) position ↔
      ∃ positions, Uses mode cells text.lower token positions ∧
        ∃ k ∈ positions, ∃ c, (Folded.ofText text)[k]? = some (c, position) := by
  -- what a list of used positions covers
  have hcovered : ∀ {positions}, Uses mode cells text.lower token positions →
      (IsCovered ((Folded.ofText text).spans positions) position ↔
        ∃ k ∈ positions, ∃ c, (Folded.ofText text)[k]? = some (c, position)) := by
    intro positions h
    have hlt : ∀ k ∈ positions, k < (Folded.ofText text).length := by
      rw [Folded.length_ofText]
      exact h.lt_length hne
    rw [Folded.isCovered_spans (Folded.isSmooth_ofText text) hlt]
    refine exists_congr fun k => and_congr_right fun hk => ?_
    exact Folded.origin_eq_iff (hlt k hk)
  constructor
  · intro h
    cases hfound : (findToken mode cells (.ofText text) token).1 with
    | none => simp [hfound] at h
    | some spans =>
      rw [hfound, Option.getD_some] at h
      obtain ⟨positions, huses, rfl⟩ := (findToken_eq_some_iff hne).1 hfound
      rw [Folded.chars_ofText] at huses
      exact ⟨positions, huses, (hcovered huses).1 h⟩
  · rintro ⟨positions, huses, hk⟩
    have hfound : (findToken mode cells (.ofText text) token).1 =
        some ((Folded.ofText text).spans positions) :=
      (findToken_eq_some_iff hne).2 ⟨positions, by rwa [Folded.chars_ofText], rfl⟩
    rw [hfound, Option.getD_some]
    exact (hcovered huses).2 hk

/-- A position is hit by the first token or, with the storage that the first token leaves, by a
later one. -/
theorem isHit_cons {cells : Cells} {token : Text} {rest : List Text} {position : Nat} :
    IsHit mode cells (token :: rest) text position ↔
      (∃ positions, Uses mode cells text.lower token positions ∧
        ∃ k ∈ positions, ∃ c, (Folded.ofText text)[k]? = some (c, position)) ∨
      IsHit mode (findToken mode cells (.ofText text) token).2 rest text position := by
  constructor
  · rintro ⟨before, wanted, after, positions, hsplit, huses, hk⟩
    cases before with
    | nil =>
      obtain ⟨rfl, rfl⟩ := List.cons.inj hsplit
      exact .inl ⟨positions, huses, hk⟩
    | cons first before =>
      obtain ⟨rfl, rfl⟩ := List.cons.inj hsplit
      rw [findTokens_cons] at huses
      exact .inr ⟨before, wanted, after, positions, rfl, huses, hk⟩
  · rintro (⟨positions, huses, hk⟩ | ⟨before, wanted, after, positions, rfl, huses, hk⟩)
    · exact ⟨[], token, rest, positions, rfl, huses, hk⟩
    · refine ⟨token :: before, wanted, after, positions, rfl, ?_, hk⟩
      rwa [findTokens_cons]

/-- The spans of several tokens cover exactly the positions that are hit. -/
theorem isCovered_findTokens {cells : Cells} {tokens : List Text} (hne : ∀ t ∈ tokens, t ≠ [])
    {position : Nat} :
    IsCovered (findTokens mode (.ofText text) cells tokens).1.1 position ↔
      IsHit mode cells tokens text position := by
  induction tokens generalizing cells with
  | nil => simp [findTokens, IsHit]
  | cons token rest ih =>
    rw [List.forall_mem_cons] at hne
    rw [findTokens_cons, isHit_cons]
    simp only [isCovered_append, isCovered_findToken hne.1, ih hne.2]

theorem length_pos_of_mem_findTokens {cells : Cells} {tokens : List Text}
    (hne : ∀ t ∈ tokens, t ≠ []) :
    ∀ s ∈ (findTokens mode (.ofText text) cells tokens).1.1, 0 < s.length := by
  induction tokens generalizing cells with
  | nil => simp [findTokens]
  | cons token rest ih =>
    rw [List.forall_mem_cons] at hne
    rw [findTokens_cons]
    intro s hs
    rcases List.mem_append.1 hs with hs | hs
    · cases hfound : (findToken mode cells (.ofText text) token).1 with
      | none => simp [hfound] at hs
      | some spans =>
        rw [hfound, Option.getD_some] at hs
        obtain ⟨positions, huses, rfl⟩ := (findToken_eq_some_iff hne.1).1 hfound
        refine Folded.length_pos_of_mem_spans (Folded.isSmooth_ofText text) ?_ s hs
        intro k hk
        rw [Folded.length_ofText]
        exact (Folded.chars_ofText text ▸ huses).lt_length hne.1 k hk
    · exact ih hne.2 s hs

theorem lt_length_of_isHit {cells : Cells} {tokens : List Text} {position : Nat}
    (h : IsHit mode cells tokens text position) : position < text.length := by
  obtain ⟨_, _, _, _, _, _, k, _, c, hc⟩ := h
  exact Folded.lt_length_of_getElem? hc

end Hits

/-! ## Checked access -/

/-- `findToken` with checked access to the folded text. -/
def findToken? (mode : Mode) (cells : Cells) (folded : Folded) (token : Text) :
    Option (Option (List Span) × Cells) :=
  if token.isEmpty then some (some [], cells)
  else
    match mode with
    | .substring =>
      match firstBlock token folded.chars with
      | none => some (none, cells)
      | some k => (folded.span? k (k + token.length - 1)).map fun span => (some [span], cells)
    | .fuzzy =>
      match align cells token folded.chars with
      | (none, cells) => some (none, cells)
      | (some positions, cells) => (folded.spans? positions).map fun spans => (some spans, cells)

/-- `findTokens` with checked access to the folded text. -/
def findTokens? (mode : Mode) (folded : Folded) :
    (cells : Cells) → List Text → Option ((List Span × Bool) × Cells)
  | cells, [] => some (([], true), cells)
  | cells, token :: rest => do
    let (found, cells) ← findToken? mode cells folded token
    let ((spans, isFull), cells) ← findTokens? mode folded cells rest
    match found with
    | some more => some ((more ++ spans, isFull), cells)
    | none => some ((spans, false), cells)

/-- `evaluateTokens` with checked access to the folded text. -/
def evaluateTokens? (mode : Mode) (cells : Cells) (tokens : List Text) (text : Text) :
    Option (Outcome × Cells) :=
  if tokens.isEmpty then some (.everything, cells)
  else do
    let ((spans, isFull), cells) ← findTokens? mode (.ofText text) cells tokens
    some (⟨Span.merge spans, isFull⟩, cells)

theorem findToken?_eq (mode : Mode) (cells : Cells) (text token : Text) :
    findToken? mode cells (.ofText text) token =
      some (findToken mode cells (.ofText text) token) := by
  by_cases hne : token = []
  · subst hne
    rfl
  have hsmooth := Folded.isSmooth_ofText text
  have hempty : ¬ token.isEmpty := by simpa using hne
  cases mode with
  | substring =>
    rw [findToken_substring _ _ hne]
    simp only [findToken?, if_neg hempty]
    cases hblock : firstBlock token (Folded.ofText text).chars with
    | none => rfl
    | some k =>
      have hend := (firstBlock_eq_some_iff.1 hblock).add_length_le hne
      have hpos := List.length_pos_iff.2 hne
      rw [Folded.chars_ofText, ← Folded.length_ofText] at hend
      simp only [Folded.span?_eq hsmooth (by omega : k ≤ k + token.length - 1) (by omega)]
      rfl
  | fuzzy =>
    rw [findToken_fuzzy _ _ hne]
    simp only [findToken?, if_neg hempty]
    rcases halign : align cells token (Folded.ofText text).chars with ⟨_ | positions, table⟩
    · rfl
    · have hlt := lt_length_of_mem_align (congrArg Prod.fst halign)
      rw [Folded.chars_ofText, ← Folded.length_ofText] at hlt
      simp only [Folded.spans?_eq hsmooth hlt]
      rfl

theorem findTokens?_eq (mode : Mode) (cells : Cells) (text : Text) (tokens : List Text) :
    findTokens? mode (.ofText text) cells tokens =
      some (findTokens mode (.ofText text) cells tokens) := by
  induction tokens generalizing cells with
  | nil => rfl
  | cons token rest ih =>
    rw [findTokens?, findToken?_eq, findTokens_cons]
    simp only [Option.bind_eq_bind, Option.bind_some, ih]
    cases (findToken mode cells (.ofText text) token).1 <;> simp

/-- No search looks up a position outside the folded text. -/
theorem evaluateTokens?_eq (mode : Mode) (cells : Cells) (tokens : List Text) (text : Text) :
    evaluateTokens? mode cells tokens text = some (evaluateTokens mode cells tokens text) := by
  rw [evaluateTokens?, evaluateTokens, findTokens?_eq]
  split <;> rfl

/-! ## Outcomes -/

/-- No token of a query is empty. -/
theorem ne_nil_of_mem_tokens {query token : Text} (h : token ∈ tokens query) : token ≠ [] := by
  obtain ⟨word, hword, rfl⟩ := List.mem_map.1 h
  exact mt Text.lower_eq_nil_iff.1 (Text.ne_nil_of_mem_words hword)

/-- With any storage, the ranges are the maximal runs of the positions that are hit. -/
theorem evaluateTokens_isRuns (mode : Mode) (cells : Cells) {tokens : List Text} (text : Text)
    (hne : ∀ t ∈ tokens, t ≠ []) :
    IsRuns text.length (IsHit mode cells tokens text)
      (evaluateTokens mode cells tokens text).1.ranges := by
  have hcovered : ∀ position,
      IsCovered (findTokens mode (.ofText text) cells tokens).1.1 position ↔
        IsHit mode cells tokens text position := fun _ => isCovered_findTokens hne
  rw [evaluateTokens]
  split
  · rename_i hempty
    obtain rfl : tokens = [] := by simpa using hempty
    exact .of_separated List.Pairwise.nil (by simp [Outcome.everything]) hcovered
      fun _ => lt_length_of_isHit
  · exact .of_separated (Span.separated_merge _)
      (fun _ => Span.length_pos_of_mem_merge (length_pos_of_mem_findTokens hne))
      (fun _ => Span.isCovered_merge.trans (hcovered _)) fun _ => lt_length_of_isHit

/-- A search of its own starts with empty storage. -/
theorem isRuns_evaluate (mode : Mode) (query text : Text) :
    IsRuns text.length (IsHit mode #[] (tokens query) text) (evaluate mode query text).ranges :=
  evaluateTokens_isRuns mode #[] text fun _ => ne_nil_of_mem_tokens

/-- **The ranges of an outcome are the maximal runs of the positions that the query hits**, and no
other list is. It is so for a search of its own and in storage that earlier searches have used, and
no position is looked up outside the folded text on the way. -/
theorem evaluate_isRuns (mode : Mode) (cells : Cells) (query text : Text) :
    IsRuns text.length (IsHit mode #[] (tokens query) text) (evaluate mode query text).ranges ∧
      (∀ ranges, IsRuns text.length (IsHit mode cells (tokens query) text) ranges ↔
        ranges = (evaluateTokens mode cells (tokens query) text).1.ranges) ∧
      evaluateTokens? mode cells (tokens query) text =
        some (evaluateTokens mode cells (tokens query) text) := by
  have hruns := evaluateTokens_isRuns mode cells text
    fun t (ht : t ∈ tokens query) => ne_nil_of_mem_tokens ht
  refine ⟨isRuns_evaluate mode query text, ?_, evaluateTokens?_eq ..⟩
  intro ranges
  constructor
  · intro h
    exact h.eq hruns
  · rintro rfl
    exact hruns

end EditorKit.Search
