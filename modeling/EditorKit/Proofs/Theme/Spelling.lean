import EditorKit.Proofs.Text.Bytes
import EditorKit.Proofs.Theme.Field

/-!
# Spellings of colors

What is read as a color, and as which one.

* `Spells` is the grammar: nothing, a word for an unset color, six or three hexadecimal digits, or a
  name;
* `bisect_eq_lookup`: halving finds a name in a sorted table exactly if looking at every row does;
* `ofText?` reads a color on bytes and words, and fails where a slice would be cut inside a
  character, a product would be too large for a byte, or a row would be looked up outside the table.
  It never does fail (`ofText?_eq`);
* `ofText_accepts` is the main result.
-/

namespace EditorKit.Theme.Color

open Text (IsHexDigit isHexByte)

/-! ## The grammar -/

/-- The texts without white space around that stand for a color. Letter case does not count. -/
inductive Spells : Text → Color → Prop where
  | nothing : Spells [] .unset
  | word {s w : Text} (hw : w ∈ unsetWords) (h : Text.sameIgnoringCase s w) : Spells s .unset
  | sixDigits {r₁ r₀ g₁ g₀ b₁ b₀ : Char} {v₁ v₀ w₁ w₀ x₁ x₀ : Nat}
      (hr₁ : IsHexDigit r₁ v₁) (hr₀ : IsHexDigit r₀ v₀) (hg₁ : IsHexDigit g₁ w₁)
      (hg₀ : IsHexDigit g₀ w₀) (hb₁ : IsHexDigit b₁ x₁) (hb₀ : IsHexDigit b₀ x₀) :
      Spells ['#', r₁, r₀, g₁, g₀, b₁, b₀]
        (.rgb (.ofNat (16 * v₁ + v₀)) (.ofNat (16 * w₁ + w₀)) (.ofNat (16 * x₁ + x₀)))
  | threeDigits {r g b : Char} {v w x : Nat}
      (hr : IsHexDigit r v) (hg : IsHexDigit g w) (hb : IsHexDigit b x) :
      Spells ['#', r, g, b] (.rgb (.ofNat (16 * v + v)) (.ofNat (16 * w + w)) (.ofNat (16 * x + x)))
  | name {s n : Text} {color : Color} (hn : (n, color) ∈ named) (h : Text.sameIgnoringCase s n) :
      Spells s color

/-! ## Looking names up -/

section Tables

variable {table : Array (Text × Color)} {name : Text} {color : Color} {low high : Nat}

/-- Rows of a sorted table have ascending names. -/
theorem lt_of_getElem? (hsorted : table.toList.Pairwise fun a b => a.1 < b.1) {i j : Nat}
    {a b : Text × Color} (ha : table[i]? = some a) (hb : table[j]? = some b) (hij : i < j) :
    a.1 < b.1 := by
  obtain ⟨hi, rfl⟩ := Array.getElem?_eq_some_iff.1 ha
  obtain ⟨hj, rfl⟩ := Array.getElem?_eq_some_iff.1 hb
  exact List.pairwise_iff_getElem.1 hsorted i j hi hj hij

/-- Only one row of a sorted table can have a given name. -/
theorem eq_of_getElem? (hsorted : table.toList.Pairwise fun a b => a.1 < b.1) {i j : Nat}
    {a b : Text × Color} (ha : table[i]? = some a) (hb : table[j]? = some b) (hname : a.1 = b.1) :
    i = j := by
  rcases Nat.lt_trichotomy i j with hlt | heq | hgt
  · exact absurd (hname ▸ lt_of_getElem? hsorted ha hb hlt) (List.lt_irrefl _)
  · exact heq
  · exact absurd (hname ▸ lt_of_getElem? hsorted hb ha hgt) (List.lt_irrefl _)

/-- Halving finds a name between two places exactly if a row there has it. -/
theorem bisect_eq_some_iff (hsorted : table.toList.Pairwise fun a b => a.1 < b.1)
    (hhigh : high ≤ table.size) :
    bisect table name low high = some color ↔
      ∃ i, low ≤ i ∧ i < high ∧ table[i]? = some (name, color) := by
  fun_induction bisect table name low high with
  | case1 low high hlt middle hnone =>
    have hmiddle : middle < table.size := by omega
    simp [hmiddle] at hnone
  | case2 low high hlt middle found hfound =>
    constructor
    · rintro ⟨⟩
      exact ⟨middle, by omega, by omega, hfound⟩
    · rintro ⟨i, -, -, hi⟩
      obtain rfl := eq_of_getElem? hsorted hi hfound rfl
      rw [hfound] at hi
      rw [(Prod.mk.inj (Option.some.inj hi)).2]
  | case3 low high hlt middle known found hfound hne hless ih =>
    rw [ih (by omega)]
    constructor
    · rintro ⟨i, hlow, hi, hget⟩
      exact ⟨i, hlow, by omega, hget⟩
    · rintro ⟨i, hlow, hi, hget⟩
      refine ⟨i, hlow, ?_, hget⟩
      by_contra hge
      rcases Nat.eq_or_lt_of_le (Nat.le_of_not_lt hge) with rfl | hgt
      · rw [hfound] at hget
        exact hne (Prod.mk.inj (Option.some.inj hget)).1.symm
      · exact List.lt_asymm hless (lt_of_getElem? hsorted hfound hget hgt)
  | case4 low high hlt middle known found hfound hne hmore ih =>
    rw [ih hhigh]
    constructor
    · rintro ⟨i, hlow, hi, hget⟩
      exact ⟨i, by omega, hi, hget⟩
    · rintro ⟨i, hlow, hi, hget⟩
      refine ⟨i, ?_, hi, hget⟩
      by_contra hge
      rcases Nat.eq_or_lt_of_le (show i ≤ middle by omega) with rfl | hlt'
      · rw [hfound] at hget
        exact hne (Prod.mk.inj (Option.some.inj hget)).1.symm
      · exact hmore (lt_of_getElem? hsorted hget hfound hlt')
  | case5 low high hnot =>
    constructor
    · rintro ⟨⟩
    · rintro ⟨i, hlow, hi, -⟩
      exact absurd (Nat.lt_of_le_of_lt hlow hi) hnot

/-- In a sorted table the first row with a name is the only one. -/
theorem lookup_eq_some_iff_mem {rows : List (Text × Color)}
    (hsorted : rows.Pairwise fun a b => a.1 < b.1) :
    rows.lookup name = some color ↔ (name, color) ∈ rows := by
  induction rows with
  | nil => simp
  | cons row rows ih =>
    obtain ⟨known, found⟩ := row
    obtain ⟨hfirst, hrest⟩ := List.pairwise_cons.1 hsorted
    rw [List.mem_cons, Prod.mk.injEq]
    by_cases hname : name = known
    · subst hname
      have hno : (name, color) ∉ rows := fun hmem =>
        List.lt_irrefl name (hfirst (name, color) hmem)
      simp [hno, eq_comm]
    · have hne : (name == known) = false := by simpa using hname
      rw [List.lookup_cons, hne, ih hrest]
      simp [hname]

/-- **Halving agrees with looking at every row** of a sorted table. -/
theorem bisect_eq_lookup (hsorted : table.toList.Pairwise fun a b => a.1 < b.1) (name : Text) :
    bisect table name 0 table.size = table.toList.lookup name := by
  ext color
  rw [bisect_eq_some_iff hsorted (Nat.le_refl _), lookup_eq_some_iff_mem hsorted,
    Array.mem_toList_iff, Array.mem_iff_getElem?]
  constructor
  · rintro ⟨i, -, -, hget⟩
    exact ⟨i, hget⟩
  · rintro ⟨i, hget⟩
    obtain ⟨hi, -⟩ := Array.getElem?_eq_some_iff.1 hget
    exact ⟨i, Nat.zero_le i, hi, hget⟩

end Tables

/-- The table of names, evaluated once for all that is said about it: it is in order, neither a name
nor a word for an unset color has a capital, is empty or starts with a number sign, and no name is
such a word. -/
theorem named_checked :
    (named.map Prod.fst).IsChain (· < ·) ∧
      (∀ w ∈ unsetWords ++ named.map Prod.fst,
        Text.asciiLower w = w ∧ w ≠ [] ∧ w.head? ≠ some '#') ∧
      ∀ row ∈ named, row.1 ∉ unsetWords ∧ row.2 ≠ unset := by
  decide +kernel

theorem pairwise_named : named.Pairwise fun a b => a.1 < b.1 := by
  have htrans : Trans (· < · : Text → Text → Prop) (· < ·) (· < ·) := ⟨List.lt_trans⟩
  exact List.pairwise_map.1 (List.isChain_iff_pairwise.1 named_checked.1)

/-- A name stands for a color exactly if the table says so. -/
theorem bisect_namedTable (name : Text) :
    bisect namedTable name 0 namedTable.size = named.lookup name :=
  bisect_eq_lookup pairwise_named name

/-! ## Words and names -/

theorem lower_of_mem {w : Text} (h : w ∈ unsetWords ++ named.map Prod.fst) :
    Text.asciiLower w = w ∧ w ≠ [] ∧ w.head? ≠ some '#' :=
  named_checked.2.1 w h

theorem lower_of_mem_unsetWords {w : Text} (h : w ∈ unsetWords) :
    Text.asciiLower w = w ∧ w ≠ [] ∧ w.head? ≠ some '#' :=
  lower_of_mem (List.mem_append_left _ h)

theorem lower_of_mem_named {n : Text} {color : Color} (h : (n, color) ∈ named) :
    Text.asciiLower n = n ∧ n ≠ [] ∧ n.head? ≠ some '#' :=
  lower_of_mem (List.mem_append_right _ (List.mem_map_of_mem h))

theorem not_mem_unsetWords_of_mem_named {n : Text} {color : Color} (h : (n, color) ∈ named) :
    n ∉ unsetWords :=
  (named_checked.2.2 _ h).1

theorem sameIgnoringCase_iff {s w : Text} (h : Text.asciiLower w = w) :
    Text.sameIgnoringCase s w ↔ Text.asciiLower s = w := by
  rw [Text.sameIgnoringCase, beq_iff_eq, h]

/-- Whether a text is a word for an unset color or a name, letter case aside. -/
def IsNamed (s : Text) (color : Color) : Prop :=
  (color = .unset ∧ ∃ w ∈ unsetWords, Text.sameIgnoringCase s w) ∨
    ∃ n, (n, color) ∈ named ∧ Text.sameIgnoringCase s n

theorem ofName_eq_some_iff {s : Text} {color : Color} :
    ofName (Text.asciiLower s) = some color ↔ IsNamed s color := by
  rw [ofName, IsNamed]
  split
  · rename_i hword
    constructor
    · rintro ⟨⟩
      have hsame := (sameIgnoringCase_iff (lower_of_mem_unsetWords hword).1).2 rfl
      exact .inl ⟨rfl, _, hword, hsame⟩
    · rintro (⟨rfl, -⟩ | ⟨n, hn, hsame⟩)
      · rfl
      · rw [(sameIgnoringCase_iff (lower_of_mem_named hn).1).1 hsame] at hword
        exact absurd hword (not_mem_unsetWords_of_mem_named hn)
  · rename_i hword
    rw [bisect_namedTable, lookup_eq_some_iff_mem pairwise_named]
    constructor
    · intro hmem
      exact .inr ⟨_, hmem, (sameIgnoringCase_iff (lower_of_mem_named hmem).1).2 rfl⟩
    · rintro (⟨-, w, hw, hsame⟩ | ⟨n, hn, hsame⟩)
      · rw [(sameIgnoringCase_iff (lower_of_mem_unsetWords hw).1).1 hsame] at hword
        exact absurd hw hword
      · rw [(sameIgnoringCase_iff (lower_of_mem_named hn).1).1 hsame]
        exact hn

section Unnamed

variable {s w : Text} {color : Color} (h : s = [] ∨ s.head? = some '#')
include h

/-- Neither nothing nor a text behind a number sign is a word or a name. -/
theorem not_sameIgnoringCase (hw : w ∈ unsetWords ++ named.map Prod.fst) :
    ¬ Text.sameIgnoringCase s w := by
  intro hsame
  obtain ⟨hlower, hne, hhead⟩ := lower_of_mem hw
  rw [sameIgnoringCase_iff hlower] at hsame
  subst hsame
  rcases h with rfl | hsign
  · exact hne rfl
  · rw [Text.asciiLower, List.head?_map, hsign] at hhead
    exact hhead rfl

theorem not_same_word (hw : w ∈ unsetWords) : ¬ Text.sameIgnoringCase s w :=
  not_sameIgnoringCase h (List.mem_append_left _ hw)

theorem not_same_name (hw : (w, color) ∈ named) : ¬ Text.sameIgnoringCase s w :=
  not_sameIgnoringCase h (List.mem_append_right _ (List.mem_map_of_mem hw))

end Unnamed

/-! ## Digits -/

theorem channel_eq_some_iff {high low : Char} {b : UInt8} :
    channel high low = some b ↔
      ∃ v w, IsHexDigit high v ∧ IsHexDigit low w ∧ UInt8.ofNat (16 * v + w) = b := by
  simp only [← Text.hexDigitValue_eq_some_iff]
  simp [channel, Option.bind_eq_some_iff]

/-- A digit that stands for both halves of a byte. -/
theorem channel_self_eq_some_iff {c : Char} {b : UInt8} :
    channel c c = some b ↔ ∃ v, IsHexDigit c v ∧ UInt8.ofNat (16 * v + v) = b := by
  rw [channel_eq_some_iff]
  constructor
  · rintro ⟨v, w, hv, hw, rfl⟩
    obtain rfl : v = w := by
      rw [← Text.hexDigitValue_eq_some_iff] at hv hw
      exact Option.some.inj (hv.symm.trans hw)
    exact ⟨v, hv, rfl⟩
  · rintro ⟨v, hv, rfl⟩
    exact ⟨v, v, hv, hv, rfl⟩

theorem ofDigits_eq_some_iff {digits : Text} {color : Color} :
    ofDigits digits = some color ↔ Spells ('#' :: digits) color := by
  constructor
  · intro h
    unfold ofDigits at h
    split at h
    · simp only [Option.bind_eq_bind, Option.bind_eq_some_iff, channel_eq_some_iff] at h
      obtain ⟨-, ⟨v₁, v₀, hr₁, hr₀, rfl⟩, -, ⟨w₁, w₀, hg₁, hg₀, rfl⟩, -,
        ⟨x₁, x₀, hb₁, hb₀, rfl⟩, ⟨⟩⟩ := h
      exact .sixDigits hr₁ hr₀ hg₁ hg₀ hb₁ hb₀
    · simp only [Option.bind_eq_bind, Option.bind_eq_some_iff, channel_self_eq_some_iff] at h
      obtain ⟨-, ⟨v, hr, rfl⟩, -, ⟨w, hg, rfl⟩, -, ⟨x, hb, rfl⟩, ⟨⟩⟩ := h
      exact .threeDigits hr hg hb
    · cases h
  · intro h
    cases h with
    | word hw hsame => exact absurd hsame (not_same_word (.inr rfl) hw)
    | name hn hsame => exact absurd hsame (not_same_name (.inr rfl) hn)
    | sixDigits hr₁ hr₀ hg₁ hg₀ hb₁ hb₀ =>
      have hr := channel_eq_some_iff.2 ⟨_, _, hr₁, hr₀, rfl⟩
      have hg := channel_eq_some_iff.2 ⟨_, _, hg₁, hg₀, rfl⟩
      have hb := channel_eq_some_iff.2 ⟨_, _, hb₁, hb₀, rfl⟩
      simp [ofDigits, hr, hg, hb]
    | threeDigits hr hg hb =>
      have hr' := channel_self_eq_some_iff.2 ⟨_, hr, rfl⟩
      have hg' := channel_self_eq_some_iff.2 ⟨_, hg, rfl⟩
      have hb' := channel_self_eq_some_iff.2 ⟨_, hb, rfl⟩
      simp [ofDigits, hr', hg', hb']

/-! ## Whole texts -/

theorem ofTrimmed_eq_some_iff {s : Text} {color : Color} :
    ofTrimmed s = some color ↔ Spells s color := by
  unfold ofTrimmed
  split
  · constructor
    · rintro ⟨⟩
      exact .nothing
    · intro h
      cases h with
      | nothing => rfl
      | word hw hsame => exact absurd hsame (not_same_word (.inl rfl) hw)
      | name hn hsame => exact absurd hsame (not_same_name (.inl rfl) hn)
  · exact ofDigits_eq_some_iff
  · rename_i hnothing hsign
    rw [ofName_eq_some_iff]
    constructor
    · rintro (⟨rfl, w, hw, hsame⟩ | ⟨n, hn, hsame⟩)
      · exact .word hw hsame
      · exact .name hn hsame
    · intro h
      cases h with
      | nothing => exact absurd rfl hnothing
      | word hw hsame => exact .inl ⟨rfl, _, hw, hsame⟩
      | name hn hsame => exact .inr ⟨_, hn, hsame⟩
      | sixDigits => exact absurd rfl (hsign _)
      | threeDigits => exact absurd rfl (hsign _)

/-- No name stands for an unset color. -/
theorem not_mem_named_unset (n : Text) : (n, unset) ∉ named :=
  fun hmem => (named_checked.2.2 _ hmem).2 rfl

theorem spells_unset_iff {s : Text} :
    Spells s unset ↔ s = [] ∨ ∃ w ∈ unsetWords, Text.sameIgnoringCase s w := by
  constructor
  · intro h
    cases h with
    | nothing => exact .inl rfl
    | word hw hsame => exact .inr ⟨_, hw, hsame⟩
    | name hn => exact absurd hn (not_mem_named_unset _)
  · rintro (rfl | ⟨w, hw, hsame⟩)
    · exact .nothing
    · exact .word hw hsame

theorem ofText_eq_ok_iff {t : Text} {color : Color} :
    ofText t = .ok color ↔ Spells t.trim color := by
  rw [← ofTrimmed_eq_some_iff, ofText]
  cases ofTrimmed t.trim <;> simp

theorem ofText_eq_error_iff {t e : Text} :
    ofText t = .error e ↔ e = t.trim ∧ ∀ color, ¬ Spells t.trim color := by
  simp only [← ofTrimmed_eq_some_iff, ofText]
  cases ofTrimmed t.trim <;> simp [eq_comm]

/-! ## Reading on bytes and words -/

/-- The product of two bytes, unless it is too large for a byte. -/
def timesByte? (a b : UInt8) : Option UInt8 :=
  if a.toNat * b.toNat < 256 then some (a * b) else none

/-- The channel that the bytes of a text from one place up to another spell. Of the two layers the
outer one fails where the reader would stop with a fault, the inner one where there is no
channel. -/
def channel? (digits : Text) (first stop : Nat) : OptionT Option UInt8 :=
  .mk ((digits.sliceBytes? first stop).map Text.readHexByte)

/-- The channel whose two halves are the digit between two places. -/
def shortChannel? (digits : Text) (first stop : Nat) : OptionT Option UInt8 := do
  let half ← channel? digits first stop
  .lift (timesByte? half 0x11)

/-- The color with given hexadecimal digits, cut at bytes. -/
def ofDigits? (digits : Text) : OptionT Option Color :=
  if digits.encode.all isHexByte then
    match digits.byteSize with
    | 6 => do return rgb (← channel? digits 0 2) (← channel? digits 2 4) (← channel? digits 4 6)
    | 3 => do
      return rgb (← shortChannel? digits 0 1) (← shortChannel? digits 1 2)
        (← shortChannel? digits 2 3)
    | _ => failure
  else failure

/-- The color that a text without white space around stands for, cut at bytes. -/
def ofTrimmed? : Text → OptionT Option Color
  | [] => pure unset
  | '#' :: digits => ofDigits? digits
  | name => .mk (some (ofName (Text.asciiLower name)))

/-- Reads a color as `ofText` does, unless a text is cut inside a character or a product is too
large for a byte on the way. -/
def ofText? (t : Text) : Option (Except Text Color) :=
  (ofTrimmed? t.trim).run.map fun
    | some color => .ok color
    | none => .error t.trim

section Digits

variable {digits : Text} (h : ∀ c ∈ digits, (Text.hexDigitValue c).isSome)
include h

theorem utf8Size_of_mem_digits : ∀ c ∈ digits, c.utf8Size = 1 :=
  fun c hc => Text.utf8Size_eq_one (Text.toNat_lt_of_hexDigitValue (h c hc))

theorem isSome_of_mem_extract {first stop : Nat} {c : Char} (hc : c ∈ digits.extract first stop) :
    (Text.hexDigitValue c).isSome := by
  rw [List.extract_eq_take_drop] at hc
  exact h c (List.mem_of_mem_drop (List.mem_of_mem_take hc))

/-- Two digits are cut out and read without a fault. -/
theorem channel?_of_pair {first stop : Nat} {a b : Char} (hle : first ≤ stop)
    (hstop : stop ≤ digits.length) (hcut : digits.extract first stop = [a, b]) :
    channel? digits first stop = .mk (some (channel a b)) := by
  have ha : (Text.hexDigitValue a).isSome := isSome_of_mem_extract h (by rw [hcut]; simp)
  have hb : (Text.hexDigitValue b).isSome := isSome_of_mem_extract h (by rw [hcut]; simp)
  obtain ⟨v, hv⟩ := Option.isSome_iff_exists.1 ha
  obtain ⟨w, hw⟩ := Option.isSome_iff_exists.1 hb
  have hread := Text.readHexByte_pair hv hw
  rw [channel?, Text.sliceBytes?_of_single (utf8Size_of_mem_digits h) hle hstop, hcut]
  simp [channel, hv, hw, hread]

/-- One digit is cut out and read without a fault, and so is its double. -/
theorem shortChannel?_of_single {first stop : Nat} {c : Char} (hle : first ≤ stop)
    (hstop : stop ≤ digits.length) (hcut : digits.extract first stop = [c]) :
    shortChannel? digits first stop = .mk (some (channel c c)) := by
  have hc : (Text.hexDigitValue c).isSome := isSome_of_mem_extract h (by rw [hcut]; simp)
  obtain ⟨v, hv⟩ := Option.isSome_iff_exists.1 hc
  have hread := Text.readHexByte_single hv
  have hdouble : ∀ v : Fin 16, timesByte? (.ofNat v) 0x11 = some (.ofNat (16 * v + v)) := by
    decide
  rw [shortChannel?, channel?, Text.sliceBytes?_of_single (utf8Size_of_mem_digits h) hle hstop,
    hcut, Option.map_some, hread]
  show OptionT.lift (timesByte? _ _) = _
  rw [hdouble ⟨v, (Text.hexDigitValue_eq_some_iff.1 hv).lt⟩]
  simp [channel, hv]
  rfl

end Digits

theorem isSome_of_mem_of_ofDigits {digits : Text} {color : Color}
    (h : ofDigits digits = some color) : ∀ c ∈ digits, (Text.hexDigitValue c).isSome := by
  have hdigit {c : Char} {v : Nat} (hc : IsHexDigit c v) : (Text.hexDigitValue c).isSome :=
    Option.isSome_of_mem (Text.hexDigitValue_eq_some_iff.2 hc)
  cases ofDigits_eq_some_iff.1 h with
  | word hw hsame => exact absurd hsame (not_same_word (.inr rfl) hw)
  | name hn hsame => exact absurd hsame (not_same_name (.inr rfl) hn)
  | sixDigits hr₁ hr₀ hg₁ hg₀ hb₁ hb₀ =>
    simp [hdigit hr₁, hdigit hr₀, hdigit hg₁, hdigit hg₀, hdigit hb₁, hdigit hb₀]
  | threeDigits hr hg hb => simp [hdigit hr, hdigit hg, hdigit hb]

theorem ofDigits?_eq (digits : Text) : ofDigits? digits = .mk (some (ofDigits digits)) := by
  rw [ofDigits?]
  split
  · rename_i hall
    have h := (Text.all_isHexByte_encode digits).1 hall
    rw [Text.byteSize_of_single (utf8Size_of_mem_digits h)]
    match digits, h with
    | [r₁, r₀, g₁, g₀, b₁, b₀], h =>
      have hr : channel? [r₁, r₀, g₁, g₀, b₁, b₀] 0 2 = .mk (some (channel r₁ r₀)) :=
        channel?_of_pair h (by decide) (by simp) rfl
      have hg : channel? [r₁, r₀, g₁, g₀, b₁, b₀] 2 4 = .mk (some (channel g₁ g₀)) :=
        channel?_of_pair h (by decide) (by simp) rfl
      have hb : channel? [r₁, r₀, g₁, g₀, b₁, b₀] 4 6 = .mk (some (channel b₁ b₀)) :=
        channel?_of_pair h (by decide) (by simp) rfl
      simp only [List.length_cons, List.length_nil, hr, hg, hb, ofDigits]
      cases channel r₁ r₀ <;> cases channel g₁ g₀ <;> cases channel b₁ b₀ <;> rfl
    | [r, g, b], h =>
      have hr : shortChannel? [r, g, b] 0 1 = .mk (some (channel r r)) :=
        shortChannel?_of_single h (by decide) (by simp) rfl
      have hg : shortChannel? [r, g, b] 1 2 = .mk (some (channel g g)) :=
        shortChannel?_of_single h (by decide) (by simp) rfl
      have hb : shortChannel? [r, g, b] 2 3 = .mk (some (channel b b)) :=
        shortChannel?_of_single h (by decide) (by simp) rfl
      simp only [List.length_cons, List.length_nil, hr, hg, hb, ofDigits]
      cases channel r r <;> cases channel g g <;> cases channel b b <;> rfl
    | [], h => rfl
    | [_], h => rfl
    | [_, _], h => rfl
    | [_, _, _, _], h => rfl
    | [_, _, _, _, _], h => rfl
    | _ :: _ :: _ :: _ :: _ :: _ :: _ :: _, h => rfl
  · rename_i hall
    have hnone : ofDigits digits = none := by
      rw [Option.eq_none_iff_forall_ne_some]
      intro color hcolor
      exact hall ((Text.all_isHexByte_encode digits).2 (isSome_of_mem_of_ofDigits hcolor))
    rw [hnone]
    rfl

theorem ofTrimmed?_eq (s : Text) : ofTrimmed? s = .mk (some (ofTrimmed s)) := by
  cases s with
  | nil => rfl
  | cons c s =>
    by_cases hc : c = '#'
    · subst hc
      exact ofDigits?_eq s
    · simp [ofTrimmed?, ofTrimmed, hc]

/-- Reading a color never stops with a fault. -/
theorem ofText?_eq (t : Text) : ofText? t = some (ofText t) := by
  rw [ofText?, ofTrimmed?_eq, ofText]
  show some _ = some _
  cases ofTrimmed t.trim <;> rfl

/-- **A color is read from the texts of the grammar and from no others.** Without the white space
around, an unset color is nothing or a word for it, whatever letter case; any other text is an error
that holds it. Names are looked up by halving as they are by looking at every row, nothing on the
way stops with a fault, and every color reads back from its own text. -/
theorem ofText_accepts (t : Text) :
    (∀ color, ofText t = .ok color ↔ Spells t.trim color) ∧
      (ofText t = .ok unset ↔
        t.trim = [] ∨ ∃ w ∈ unsetWords, Text.sameIgnoringCase t.trim w) ∧
      (∀ e, ofText t = .error e ↔ e = t.trim ∧ ∀ color, ¬ Spells t.trim color) ∧
      ofText? t = some (ofText t) ∧
      (∀ name, bisect namedTable name 0 namedTable.size = named.lookup name) ∧
      ∀ color, ofText color.toText = .ok color := by
  refine ⟨fun _ => ofText_eq_ok_iff, ?_, fun _ => ofText_eq_error_iff, ofText?_eq t,
    bisect_namedTable, ofText_toText⟩
  rw [ofText_eq_ok_iff, spells_unset_iff]

end EditorKit.Theme.Color
