import EditorKit.Proofs.Search.Span
import EditorKit.Proofs.Text.Lower
import EditorKit.Search.Folded
import Mathlib.Data.List.Chain

/-!
# Folded positions and their origins

Every character of a text folds to at least one character, so the origins of the folded positions
go through the positions of the text without a gap (`Folded.IsSmooth`). That makes the span of a
run of folded positions cover exactly the origins of the run.

* `Folded.isCovered_spans`: the spans of some folded positions cover exactly their origins;
* `Folded.length_run_le`: how many folded positions a span can come from;
* `Folded.span?` and `Folded.spans?` look up origins with a check, and `Folded.spans?_eq` says that
  no check fails.
-/

namespace EditorKit.Search.Folded

/-! ## The origins of a folded text -/

/-- The origins start at no position in particular, but from one folded position to the next they
stay or go on by one. -/
def IsSmooth (folded : Folded) : Prop :=
  ∀ k, k + 1 < folded.length →
    folded.origin (k + 1) = folded.origin k ∨ folded.origin (k + 1) = folded.origin k + 1

theorem origin_eq_getElem {folded : Folded} {k : Nat} (h : k < folded.length) :
    folded.origin k = folded[k].2 := by
  simp [origin, h]

theorem origin_eq_iff {folded : Folded} {k position : Nat} (h : k < folded.length) :
    folded.origin k = position ↔ ∃ c, folded[k]? = some (c, position) := by
  rw [origin_eq_getElem h, List.getElem?_eq_getElem h]
  constructor
  · rintro rfl
    exact ⟨_, rfl⟩
  · rintro ⟨c, hc⟩
    rw [Option.some.inj hc]

/-- The folding of a text whose first character stands at position `first`. -/
def ofTextFrom (first : Nat) (t : Text) : Folded :=
  (t.zipIdx first).flatMap fun (c, position) => (Text.lowerChar c).map (·, position)

theorem ofTextFrom_cons (first : Nat) (c : Char) (t : Text) :
    ofTextFrom first (c :: t) = (Text.lowerChar c).map (·, first) ++ ofTextFrom (first + 1) t := by
  simp [ofTextFrom]

theorem ofText_eq (t : Text) : ofText t = ofTextFrom 0 t := rfl

theorem map_fst_ofTextFrom (first : Nat) (t : Text) :
    (ofTextFrom first t).map Prod.fst = t.lower := by
  induction t generalizing first with
  | nil => rfl
  | cons c t ih =>
    rw [ofTextFrom_cons, List.map_append, ih, Text.lower_cons, List.map_map]
    simp [Function.comp_def]

/-- The characters of a folded text are the text in lower case. -/
@[simp] theorem chars_ofText (t : Text) : (ofText t).chars = t.lower :=
  map_fst_ofTextFrom 0 t

theorem length_ofText (t : Text) : (ofText t).length = t.lower.length := by
  rw [← chars_ofText, chars, List.length_map]

theorem snd_lt_of_mem_ofTextFrom {first : Nat} {t : Text} {p : Char × Nat}
    (h : p ∈ ofTextFrom first t) : p.2 < first + t.length := by
  induction t generalizing first with
  | nil => simp [ofTextFrom] at h
  | cons c t ih =>
    rw [ofTextFrom_cons, List.mem_append, List.mem_map] at h
    rcases h with ⟨d, -, rfl⟩ | h
    · simp
    · have := ih h
      simp only [List.length_cons]
      omega

/-- Every folded position comes from a position of the text. -/
theorem lt_length_of_getElem? {t : Text} {k : Nat} {c : Char} {position : Nat}
    (h : (ofText t)[k]? = some (c, position)) : position < t.length := by
  have := snd_lt_of_mem_ofTextFrom (List.mem_of_getElem? (ofText_eq t ▸ h))
  simpa using this

/-- The first folded position comes from the first position of the text. -/
theorem head?_ofTextFrom (first : Nat) (t : Text) :
    ∀ p ∈ (ofTextFrom first t).head?, p.2 = first := by
  intro p hp
  cases t with
  | nil => simp [ofTextFrom] at hp
  | cons c t =>
    rw [ofTextFrom_cons, List.head?_append_of_ne_nil _ (by simp [Text.lowerChar_ne_nil])] at hp
    obtain ⟨d, -, rfl⟩ := List.mem_map.1 (List.mem_of_mem_head? hp)
    rfl

theorem isChain_ofTextFrom (first : Nat) (t : Text) :
    (ofTextFrom first t).IsChain fun a b => b.2 = a.2 ∨ b.2 = a.2 + 1 := by
  induction t generalizing first with
  | nil => exact List.IsChain.nil
  | cons c t ih =>
    rw [ofTextFrom_cons]
    refine List.IsChain.append ?_ (ih (first + 1)) fun a ha b hb => ?_
    · rw [List.isChain_iff_getElem]
      intro i hi
      simp
    · obtain ⟨d, -, rfl⟩ := List.mem_map.1 (List.mem_of_getLast? ha)
      exact .inr (head?_ofTextFrom (first + 1) t b hb)

theorem isSmooth_ofText (t : Text) : (ofText t).IsSmooth := by
  intro k hk
  rw [origin_eq_getElem hk, origin_eq_getElem (Nat.lt_of_succ_lt hk)]
  exact (isChain_ofTextFrom 0 t).getElem k hk

/-- The characters before the one that a folded position comes from fold to what stands before the
position, and with that character itself they fold to more. -/
theorem length_lower_take_of_getElem? {first : Nat} {t : Text} {k position : Nat} {c : Char}
    (h : (ofTextFrom first t)[k]? = some (c, position)) :
    ∃ n, position = first + n ∧ (Text.lower (t.take n)).length ≤ k ∧
      k < (Text.lower (t.take (n + 1))).length := by
  induction t generalizing first k with
  | nil => simp [ofTextFrom] at h
  | cons d t ih =>
    rw [ofTextFrom_cons, List.getElem?_append, List.length_map] at h
    split at h
    · rename_i hlt
      obtain ⟨e, -, he⟩ := List.mem_map.1 (List.mem_of_getElem? h)
      refine ⟨0, (congrArg Prod.snd he).symm, Nat.zero_le k, ?_⟩
      simpa [Text.lower_cons] using hlt
    · obtain ⟨n, rfl, hle, hlt⟩ := ih h
      refine ⟨n + 1, by omega, ?_, ?_⟩
      · rw [List.take_succ_cons, Text.lower_cons, List.length_append]
        omega
      · rw [List.take_succ_cons, Text.lower_cons, List.length_append]
        omega

/-! ## Runs of folded positions -/

theorem IsSmooth.origin_mono {folded : Folded} (h : folded.IsSmooth) {i j : Nat} (hij : i ≤ j)
    (hj : j < folded.length) : folded.origin i ≤ folded.origin j := by
  induction j, hij using Nat.le_induction with
  | base => exact Nat.le_refl _
  | succ j _ ih =>
    have := ih (by omega)
    rcases h j hj with hstep | hstep <;> omega

/-- A position between two origins is itself the origin of a folded position in between. -/
theorem IsSmooth.exists_origin_eq {folded : Folded} (h : folded.IsSmooth) {i j position : Nat}
    (hij : i ≤ j) (hj : j < folded.length) (h₁ : folded.origin i ≤ position)
    (h₂ : position ≤ folded.origin j) : ∃ k, i ≤ k ∧ k ≤ j ∧ folded.origin k = position := by
  induction j, hij using Nat.le_induction with
  | base => exact ⟨i, Nat.le_refl _, Nat.le_refl _, by omega⟩
  | succ j hij ih =>
    by_cases hlast : folded.origin (j + 1) = position
    · exact ⟨j + 1, by omega, Nat.le_refl _, hlast⟩
    · have hle : position ≤ folded.origin j := by
        rcases h j hj with hstep | hstep <;> omega
      obtain ⟨k, hik, hkj, hk⟩ := ih (by omega) hle
      exact ⟨k, hik, by omega, hk⟩

/-- The span of a run covers the origins of the run. -/
theorem IsSmooth.covers_span {folded : Folded} (h : folded.IsSmooth) {first last position : Nat}
    (hle : first ≤ last) (hlast : last < folded.length) :
    (folded.span first last).covers position ↔
      ∃ k, first ≤ k ∧ k ≤ last ∧ folded.origin k = position := by
  have hmono := h.origin_mono hle hlast
  simp only [Span.covers, Span.stop, span]
  constructor
  · rintro ⟨h₁, h₂⟩
    exact h.exists_origin_eq hle hlast h₁ (by omega)
  · rintro ⟨k, hk₁, hk₂, rfl⟩
    have hlow := h.origin_mono hk₁ (by omega)
    have hhigh := h.origin_mono hk₂ hlast
    omega

theorem IsSmooth.length_span_pos {folded : Folded} (h : folded.IsSmooth) {first last : Nat}
    (hle : first ≤ last) (hlast : last < folded.length) : 0 < (folded.span first last).length := by
  have := h.origin_mono hle hlast
  show 0 < folded.origin last + 1 - folded.origin first
  omega

/-- What a folded position comes from, in terms of the text before it. -/
theorem length_lower_take_origin {t : Text} {k : Nat} (hk : k < (ofText t).length) :
    (Text.lower (t.take ((ofText t).origin k))).length ≤ k ∧
      k < (Text.lower (t.take ((ofText t).origin k + 1))).length := by
  obtain ⟨c, hc⟩ := (origin_eq_iff hk).1 rfl
  obtain ⟨n, hn, hbound⟩ := length_lower_take_of_getElem? hc
  rwa [hn, Nat.zero_add]

/-- A run has at most two folded positions for each position that its span covers, and the second
one only where a dotted capital I stands. -/
theorem length_run_le {t : Text} {first last : Nat} (hle : first ≤ last)
    (hlast : last < (ofText t).length) :
    last + 1 - first ≤ ((ofText t).span first last).length +
      min ((ofText t).span first last).length (t.count '\u0130') := by
  have hmono := (isSmooth_ofText t).origin_mono hle hlast
  have hlow := (length_lower_take_origin (Nat.lt_of_le_of_lt hle hlast)).1
  have hhigh := (length_lower_take_origin hlast).2
  rw [span]
  generalize (ofText t).origin first = p at *
  generalize (ofText t).origin last = q at *
  -- the characters from `p` to `q` fold to the whole run
  have hsplit : t.take (q + 1) = t.take p ++ (t.drop p).take (q + 1 - p) := by
    rw [← List.take_add]
    congr 1
    omega
  rw [hsplit, Text.lower_append, List.length_append,
    Text.length_lower (List.take (q + 1 - p) _)] at hhigh
  have hcount : ((t.drop p).take (q + 1 - p)).count '\u0130' ≤ t.count '\u0130' :=
    ((List.take_sublist _ _).trans (List.drop_sublist _ _)).count_le _
  have hcount_length : ((t.drop p).take (q + 1 - p)).count '\u0130' ≤
      ((t.drop p).take (q + 1 - p)).length := List.count_le_length
  have hlength := List.length_take_le (q + 1 - p) (t.drop p)
  dsimp only
  omega

/-! ## The spans of folded positions -/

section Spans

variable {folded : Folded} (h : folded.IsSmooth)

include h

/-- While the run from `first` to `last` is open, the spans cover its origins and those of the
positions that are still to come. -/
theorem isCovered_spansFrom {first last : Nat} {ks : List Nat} (hle : first ≤ last)
    (hlast : last < folded.length) (hks : ∀ k ∈ ks, k < folded.length) {position : Nat} :
    IsCovered (folded.spansFrom first last ks) position ↔
      (∃ k, first ≤ k ∧ k ≤ last ∧ folded.origin k = position) ∨
        ∃ k ∈ ks, folded.origin k = position := by
  induction ks generalizing first last with
  | nil => simp [spansFrom, h.covers_span hle hlast]
  | cons k rest ih =>
    rw [List.forall_mem_cons] at hks
    obtain ⟨hk, hrest⟩ := hks
    rw [spansFrom]
    split
    · -- the run grows by one position
      rename_i hnext
      subst hnext
      rw [ih (by omega) hk hrest, List.exists_mem_cons_iff, ← or_assoc]
      refine or_congr_left ⟨?_, ?_⟩
      · rintro ⟨j, h₁, h₂, hj⟩
        rcases Nat.lt_or_ge j (last + 1) with hlt | hge
        · exact .inl ⟨j, h₁, by omega, hj⟩
        · obtain rfl : j = last + 1 := by omega
          exact .inr hj
      · rintro (⟨j, h₁, h₂, hj⟩ | hj)
        · exact ⟨j, h₁, by omega, hj⟩
        · exact ⟨last + 1, by omega, Nat.le_refl _, hj⟩
    · -- the run ends, and a run of the next position alone begins
      rw [isCovered_cons, h.covers_span hle hlast, ih (Nat.le_refl k) hk hrest,
        List.exists_mem_cons_iff]
      refine or_congr_right (or_congr_left ⟨?_, fun hj => ⟨k, Nat.le_refl _, Nat.le_refl _, hj⟩⟩)
      rintro ⟨j, h₁, h₂, hj⟩
      obtain rfl : j = k := by omega
      exact hj

/-- The spans of folded positions cover exactly the origins of the positions. -/
theorem isCovered_spans {ks : List Nat} (hks : ∀ k ∈ ks, k < folded.length) {position : Nat} :
    IsCovered (folded.spans ks) position ↔ ∃ k ∈ ks, folded.origin k = position := by
  cases ks with
  | nil => simp [spans]
  | cons k rest =>
    rw [List.forall_mem_cons] at hks
    rw [spans, isCovered_spansFrom h (Nat.le_refl k) hks.1 hks.2, List.exists_mem_cons_iff]
    refine or_congr_left ⟨?_, fun hj => ⟨k, Nat.le_refl _, Nat.le_refl _, hj⟩⟩
    rintro ⟨j, h₁, h₂, hj⟩
    obtain rfl : j = k := by omega
    exact hj

theorem length_pos_of_mem_spansFrom {first last : Nat} {ks : List Nat} (hle : first ≤ last)
    (hlast : last < folded.length) (hks : ∀ k ∈ ks, k < folded.length) :
    ∀ s ∈ folded.spansFrom first last ks, 0 < s.length := by
  induction ks generalizing first last with
  | nil => simpa [spansFrom] using h.length_span_pos hle hlast
  | cons k rest ih =>
    rw [List.forall_mem_cons] at hks
    rw [spansFrom]
    split
    · exact ih (by omega) hks.1 hks.2
    · exact List.forall_mem_cons.2
        ⟨h.length_span_pos hle hlast, ih (Nat.le_refl k) hks.1 hks.2⟩

/-- No span of folded positions is empty. -/
theorem length_pos_of_mem_spans {ks : List Nat} (hks : ∀ k ∈ ks, k < folded.length) :
    ∀ s ∈ folded.spans ks, 0 < s.length := by
  cases ks with
  | nil => simp [spans]
  | cons k rest =>
    rw [List.forall_mem_cons] at hks
    exact length_pos_of_mem_spansFrom h (Nat.le_refl k) hks.1 hks.2

end Spans

/-! ## Checked access -/

/-- The span of a run, unless one of its ends is no folded position or its end lies before its
start. -/
def span? (folded : Folded) (first last : Nat) : Option Span := do
  let (_, start) ← folded[first]?
  let (_, stop) ← folded[last]?
  if start ≤ stop + 1 then some ⟨start, stop + 1 - start⟩ else none

/-- `spansFrom` with `span?` in the place of `span`. -/
def spansFrom? (folded : Folded) (first last : Nat) : List Nat → Option (List Span)
  | [] => (folded.span? first last).map ([·])
  | k :: rest =>
    if k = last + 1 then folded.spansFrom? first k rest
    else do
      let span ← folded.span? first last
      let spans ← folded.spansFrom? k k rest
      some (span :: spans)

/-- `spans` with `span?` in the place of `span`. -/
def spans? (folded : Folded) : List Nat → Option (List Span)
  | [] => some []
  | k :: rest => folded.spansFrom? k k rest

section Checked

variable {folded : Folded} (h : folded.IsSmooth)

include h

theorem span?_eq {first last : Nat} (hle : first ≤ last) (hlast : last < folded.length) :
    folded.span? first last = some (folded.span first last) := by
  have hmono := h.origin_mono hle hlast
  have hfirst : first < folded.length := by omega
  rw [origin_eq_getElem hfirst, origin_eq_getElem hlast] at hmono
  rw [span?, span, origin_eq_getElem hfirst, origin_eq_getElem hlast,
    List.getElem?_eq_getElem hfirst, List.getElem?_eq_getElem hlast]
  simp only [Option.bind_eq_bind, Option.bind_some]
  rw [if_pos (by omega)]

theorem spansFrom?_eq {first last : Nat} {ks : List Nat} (hle : first ≤ last)
    (hlast : last < folded.length) (hks : ∀ k ∈ ks, k < folded.length) :
    folded.spansFrom? first last ks = some (folded.spansFrom first last ks) := by
  induction ks generalizing first last with
  | nil => rw [spansFrom?, span?_eq h hle hlast]; rfl
  | cons k rest ih =>
    rw [List.forall_mem_cons] at hks
    rw [spansFrom?, spansFrom]
    split
    · exact ih (by omega) hks.1 hks.2
    · rw [span?_eq h hle hlast, ih (Nat.le_refl k) hks.1 hks.2]
      rfl

/-- Spans of folded positions are looked up without leaving the folded text. -/
theorem spans?_eq {ks : List Nat} (hks : ∀ k ∈ ks, k < folded.length) :
    folded.spans? ks = some (folded.spans ks) := by
  cases ks with
  | nil => rfl
  | cons k rest =>
    rw [List.forall_mem_cons] at hks
    exact spansFrom?_eq h (Nat.le_refl k) hks.1 hks.2

end Checked
end EditorKit.Search.Folded
