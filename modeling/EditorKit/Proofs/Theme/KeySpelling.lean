import EditorKit.Proofs.Text.Lower
import EditorKit.Proofs.Theme.Field
import EditorKit.Theme.Basic

/-!
# Spellings of style keys

Which names stand for a style key, and for which one. A key is looked up after the first
`keywordclass` in a name has become `keyword`, wherever that is, and still no name stands for a key
but those that should: the only keys with `keyword` in their names are the keyword classes, and
these start with it.

* `Spells` says which names stand for a key, and `Respells` which changes of a name do not count;
* `replaceFirst_cases` says what a replacement does, and `keyword_of_eq_append` which replacements
  give the name of a key;
* `ofName_spelling` is the main result.
-/

namespace EditorKit.Theme.StyleKey

/-- The names that stand for a key, without a look at separators and letter case: its own name, and
`keywordclass` with a number from one to eight. -/
inductive Spells (s : Text) : StyleKey → Prop where
  | name {key : StyleKey} (h : plainName s = Text.lower key.name) : Spells s key
  | keywordClass {n : Fin 8}
    (h : plainName s = "keywordclass".toList ++ Text.decimal (n + 1)) : Spells s (keyword n)

/-- Whether a name becomes another one when separators are put in and characters are replaced by
others with the same lower case. -/
inductive Respells : Text → Text → Prop where
  | nil : Respells [] []
  | insert {c : Char} {s t : Text} (hc : isSeparator c) (h : Respells s t) : Respells s (c :: t)
  | replace {c d : Char} {s t : Text} (hcd : Text.lowerChar c = Text.lowerChar d)
    (h : Respells s t) : Respells (c :: s) (d :: t)

/-! ## Plain names -/

theorem eq_of_isSeparator {c d : Char} (hd : isSeparator d) (h : d ∈ Text.lowerChar c) : d = c := by
  refine Text.eq_of_mem_lowerChar h ?_
  simp only [isSeparator, Bool.or_eq_true, beq_iff_eq] at hd
  rcases hd with (rfl | rfl) | rfl <;> decide

theorem filter_lowerChar (c : Char) : (Text.lowerChar c).filter (! isSeparator ·) =
    if isSeparator c then [] else Text.lowerChar c := by
  split
  · rename_i hc
    have hlower : Text.lowerChar c = [c] := by
      simp only [isSeparator, Bool.or_eq_true, beq_iff_eq] at hc
      rcases hc with (rfl | rfl) | rfl <;> decide
    simp [hlower, hc]
  · rename_i hc
    refine List.filter_eq_self.2 fun d hd => ?_
    by_contra hsep
    simp only [Bool.not_eq_true', Bool.not_eq_false] at hsep
    exact hc (eq_of_isSeparator hsep hd ▸ hsep)

/-- It does not matter whether separators are taken out before folding or after it. -/
theorem plainName_eq (s : Text) : plainName s = (Text.lower s).filter (! isSeparator ·) := by
  induction s with
  | nil => rfl
  | cons c s ih =>
    rw [Text.lower_cons, List.filter_append, ← ih, filter_lowerChar, plainName, List.filter_cons]
    by_cases hc : isSeparator c
    · simp [hc, plainName]
    · simp [hc, plainName, Text.lower_cons]

theorem Respells.plainName_eq {s t : Text} (h : Respells s t) : plainName s = plainName t := by
  rw [StyleKey.plainName_eq, StyleKey.plainName_eq]
  induction h with
  | nil => rfl
  | insert hc h ih =>
    rw [ih, Text.lower_cons, List.filter_append, filter_lowerChar, if_pos hc, List.nil_append]
  | replace hcd h ih =>
    rw [Text.lower_cons, Text.lower_cons, List.filter_append, List.filter_append, ih, hcd]

/-- A name is looked up by what is left of it. -/
theorem ofName_congr {s t : Text} (h : plainName s = plainName t) : ofName s = ofName t := by
  rw [ofName, ofName, h]

theorem plainName_name (key : StyleKey) : plainName key.name = Text.lower key.name := by
  have hall : ∀ key ∈ all, plainName key.name = Text.lower key.name := by decide +kernel
  exact hall key key.mem_all

/-! ## Replacing -/

/-- Either a text has no occurrence of another one, and stays as it is, or one occurrence is
replaced, and what stands before and behind it stays. -/
theorem replaceFirst_cases (old new t : Text) :
    ¬ old <:+: t ∧ replaceFirst old new t = t ∨
      ∃ before after, t = before ++ old ++ after ∧
        replaceFirst old new t = before ++ new ++ after := by
  induction t with
  | nil =>
    cases old with
    | nil => exact .inr ⟨[], [], rfl, by simp [replaceFirst]⟩
    | cons c old => exact .inl ⟨by simp, rfl⟩
  | cons c rest ih =>
    rw [replaceFirst]
    cases hbehind : old.isPrefixOf? (c :: rest) with
    | some behind =>
      have hcut := List.isPrefixOf?_eq_some_iff_append_eq.1 hbehind
      exact .inr ⟨[], behind, by simp [hcut], rfl⟩
    | none =>
      have hfront : ¬ old <+: c :: rest := by
        rintro ⟨behind, hcut⟩
        rw [List.isPrefixOf?_eq_some_iff_append_eq.2 hcut] at hbehind
        cases hbehind
      rcases ih with ⟨hno, hsame⟩ | ⟨before, after, hcut, hreplaced⟩
      · refine .inl ⟨?_, congrArg _ hsame⟩
        rw [List.infix_cons_iff, not_or]
        exact ⟨hfront, hno⟩
      · exact .inr ⟨c :: before, after, by simp [hcut], by simp [hreplaced]⟩

/-- A key with `keyword` anywhere in its name is a keyword class, and `keyword` stands in front of
its number. -/
theorem keyword_of_eq_append {key : StyleKey} {before after : Text}
    (h : Text.lower key.name = before ++ "keyword".toList ++ after) :
    before = [] ∧ ∃ n, key = keyword n ∧ after = Text.decimal (n + 1) := by
  -- Where `keyword` can stand is decided for each key and each place in its name.
  have hall : ∀ key ∈ all, ∀ i ≤ (Text.lower key.name).length,
      "keyword".toList.isPrefixOf ((Text.lower key.name).drop i) → i = 0 ∧ ∃ n, key = keyword n ∧
        (Text.lower key.name).drop 7 = Text.decimal (n + 1) := by
    decide +kernel
  have hfront : "keyword".toList.isPrefixOf ((Text.lower key.name).drop before.length) := by
    rw [h, List.append_assoc, List.drop_left, List.isPrefixOf_iff_prefix]
    exact List.prefix_append ..
  obtain ⟨hlength, n, hkey, hnumber⟩ :=
    hall key key.mem_all before.length (by simp [h, Nat.add_assoc]) hfront
  obtain rfl := List.eq_nil_of_length_eq_zero hlength
  refine ⟨rfl, n, hkey, ?_⟩
  rw [← hnumber, h]
  rfl

/-- Nothing is replaced in the name of a key. -/
theorem replaceFirst_name (key : StyleKey) :
    replaceFirst "keywordclass".toList "keyword".toList (plainName key.name) =
      Text.lower key.name := by
  have hall : ∀ key ∈ all, replaceFirst "keywordclass".toList "keyword".toList
      (plainName key.name) = Text.lower key.name := by
    decide +kernel
  exact hall key key.mem_all

/-- The names of keyword classes are what is looked up for their second names. -/
theorem replaceFirst_keywordClass (n : Fin 8) :
    replaceFirst "keywordclass".toList "keyword".toList
      ("keywordclass".toList ++ Text.decimal (n + 1)) = Text.lower (keyword n).name := by
  revert n
  decide +kernel

/-! ## Looking names up -/

theorem spells_of_ofName {s : Text} {key : StyleKey} (h : ofName s = some key) : Spells s key := by
  have hfound := List.find?_some h
  rw [beq_iff_eq, plainName_name] at hfound
  rcases replaceFirst_cases "keywordclass".toList "keyword".toList (plainName s) with
    ⟨-, hsame⟩ | ⟨before, after, hcut, hreplaced⟩
  · rw [hsame] at hfound
    exact .name hfound.symm
  · -- The name of the key has `keyword` where the replacement was, so this was in front.
    rw [hreplaced] at hfound
    obtain ⟨rfl, n, rfl, rfl⟩ := keyword_of_eq_append hfound
    exact .keywordClass hcut

/-- A name is read as a key exactly if it stands for it. -/
theorem ofName_eq_some_iff {s : Text} {key : StyleKey} : ofName s = some key ↔ Spells s key := by
  refine ⟨spells_of_ofName, fun h => ?_⟩
  cases h with
  | name hname =>
    rw [← plainName_name] at hname
    rw [ofName_congr hname, ofName_name]
  | @keywordClass n hclass =>
    have hself := ofName_name (keyword n)
    rw [ofName, replaceFirst_name] at hself
    rw [ofName, hclass, replaceFirst_keywordClass, hself]

/-- A name stands for one key at most. -/
theorem Spells.eq {s : Text} {key key' : StyleKey} (h : Spells s key) (h' : Spells s key') :
    key = key' := by
  rw [← ofName_eq_some_iff] at h h'
  exact Option.some.inj (h.symm.trans h')

theorem ofName_eq_none_iff {s : Text} : ofName s = none ↔ ∀ key, ¬ Spells s key := by
  rw [Option.eq_none_iff_forall_ne_some]
  exact forall_congr' fun _ => not_congr ofName_eq_some_iff

/-- **The spellings of style keys.** A name is read as a key exactly if, without separators and in
lower case, it is the name of the key or the second name of a keyword class, so it stands for one
key at most. Separators that are put in and characters that are replaced by others with the same
lower case never change what a name is read as. An entry that is set by a name becomes the one of
the key that the name stands for, and nothing else of the theme changes; a name that stands for no
key is refused. -/
theorem ofName_spelling (s : Text) :
    (∀ key, ofName s = some key ↔ Spells s key) ∧
      (∀ key key', Spells s key → Spells s key' → key = key') ∧
      (∀ t, Respells s t → ofName t = ofName s) ∧
      ∀ (theme : Theme) (entry : Entry),
        (∃ key changed, Spells s key ∧ theme.setByName s entry = some changed ∧
          changed.name = theme.name ∧ changed.entry? key = some entry ∧
          ∀ other, other ≠ key → changed.entry? other = theme.entry? other) ∨
        (∀ key, ¬ Spells s key) ∧ theme.setByName s entry = none := by
  refine ⟨fun key => ofName_eq_some_iff, fun key key' => Spells.eq,
    fun t h => ofName_congr h.plainName_eq.symm, fun theme entry => ?_⟩
  cases hname : ofName s with
  | none =>
    refine .inr ⟨ofName_eq_none_iff.1 hname, ?_⟩
    rw [setByName, hname, Option.map_none]
  | some key =>
    refine .inl ⟨key, theme.set key entry, ofName_eq_some_iff.1 hname, ?_, rfl, if_pos rfl,
      fun other hother => if_neg hother⟩
    rw [setByName, hname, Option.map_some]

/-- A keyword class with a hyphen, capitals and the Kelvin sign, and a class that is named twice. -/
theorem ofName_spelling_kelvin :
    Respells "keywordclass3".toList "\u212AEYWORD-Class3".toList ∧
      ofName "\u212AEYWORD-Class3".toList = some (keyword 2) ∧
      ∀ key, ¬ Spells "keywordclassclass3".toList key := by
  have hrespells : Respells "keywordclass3".toList "\u212AEYWORD-Class3".toList := by
    repeat' first
      | exact .nil
      | refine .insert (by decide) ?_
      | refine .replace (by decide) ?_
  obtain ⟨hread, -, hsame, -⟩ := ofName_spelling "keywordclass3".toList
  obtain ⟨hnone, -⟩ := ofName_spelling "keywordclassclass3".toList
  refine ⟨hrespells, ?_, fun key hkey => ?_⟩
  · rw [hsame _ hrespells]
    exact (hread (keyword 2)).2 (.keywordClass (by decide))
  · have hfound := (hnone key).2 hkey
    have hmissing : ofName "keywordclassclass3".toList = none := by decide +kernel
    rw [hmissing] at hfound
    cases hfound

end EditorKit.Theme.StyleKey
