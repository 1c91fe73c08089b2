import EditorKit.Outline.Item
import EditorKit.Proofs.Text.Lines
import EditorKit.Proofs.Text.Numeral
import EditorKit.Proofs.Text.Trim

/-!
# Dumps of outlines

What is read of a dump. A line declares an item or is malformed, and a dump is read line by line, so
a malformed line makes no difference wherever it stands. What is written for items is read back.

* `Declares` says which item a line declares, and `Malformed` what can be wrong with a line: a line
  is malformed exactly if it declares nothing (`malformed_iff`);
* `readDump_intercalate` reads a dump from its lines, `readDump_writeDump` reads what is written;
* `readDump_format` is the main result.
-/

namespace EditorKit.Outline

/-! ## Lines -/

/-- Whether four texts are the fields of an item. The white space around them does not count, nor
does the letter case of the kind. -/
structure IsFields (kind name line level : Text) (item : Item) : Prop where
  kind : Text.sameIgnoringCase kind.trim item.kind.name
  name : name.trim = item.name
  name_ne_nil : item.name ≠ []
  line : Text.IsUnsigned line.trim item.line.toNat
  level : Text.IsUnsigned level.trim item.level.toNat
  hasChildren : item.hasChildren = false

/-- Whether a line declares an item: it has four fields, or a fifth one that may mark the item as
disabled. -/
inductive Declares (text : Text) (item : Item) : Prop where
  | unmarked {kind name line level : Text} (hcut : text.splitOn '\t' = [kind, name, line, level])
    (h : IsFields kind name line level item) (hmark : item.isDisabled = false)
  | marked {kind name line level mark : Text}
    (hcut : text.splitOn '\t' = [kind, name, line, level, mark])
    (h : IsFields kind name line level item)
    (hmark : item.isDisabled ↔ ∃ word ∈ disabledWords, Text.sameIgnoringCase mark.trim word)

/-- What can be wrong with a line. -/
inductive Malformed (text : Text) : Prop where
  | blank (h : text.isBlankText)
  | fieldCount (hfour : (text.splitOn '\t').length ≠ 4) (hfive : (text.splitOn '\t').length ≠ 5)
  | kind {field : Text} (h : (text.splitOn '\t')[0]? = some field)
    (hno : ∀ kind : Kind, ¬ Text.sameIgnoringCase field.trim kind.name)
  | name {field : Text} (h : (text.splitOn '\t')[1]? = some field) (hempty : field.trim = [])
  | line {field : Text} (h : (text.splitOn '\t')[2]? = some field)
    (hno : ∀ n : UInt32, ¬ Text.IsUnsigned field.trim n.toNat)
  | level {field : Text} (h : (text.splitOn '\t')[3]? = some field)
    (hno : ∀ n : UInt8, ¬ Text.IsUnsigned field.trim n.toNat)

/-! ## Dumps -/

/-- An item without the mark for others inside, which no dump has. -/
def Item.unmarked (item : Item) : Item := { item with hasChildren := false }

/-- The fields that are written for an item. -/
def dumpFields (item : Item) : List Text :=
  [item.kind.name, item.name, Text.decimal item.line.toNat, Text.decimal item.level.toNat] ++
    if item.isDisabled then ["disabled".toList] else []

/-- The line that is written for an item. -/
def dumpLine (item : Item) : Text := ['\t'].intercalate (dumpFields item)

/-- The dump that is written for items, one line for each. -/
def writeDump (items : List Item) : Text := Text.ofLines (items.map dumpLine)

/-- Whether a name can stand between tabs on a line. -/
structure IsDumpName (name : Text) : Prop where
  ne_nil : name ≠ []
  trim_eq : name.trim = name
  tab_not_mem : '\t' ∉ name
  newline_not_mem : '\n' ∉ name

/-- A text with a line put in before its line number `i`, or at the end. -/
def insertLine (text : Text) (i : Nat) (line : Text) : Text :=
  ['\n'].intercalate ((text.splitOn '\n').take i ++ line :: (text.splitOn '\n').drop i)

/-- A text without its line number `i`. -/
def eraseLine (text : Text) (i : Nat) : Text :=
  ['\n'].intercalate ((text.splitOn '\n').eraseIdx i)

/-! ## Fields -/

theorem Kind.ofExactName_eq_some_iff {t : Text} {kind : Kind} :
    ofExactName t = some kind ↔ t = kind.name := by
  constructor
  · intro h
    have hfound := List.find?_some h
    exact (beq_iff_eq.1 hfound).symm
  · rintro rfl
    cases kind <;> decide

theorem Kind.asciiLower_name (kind : Kind) : Text.asciiLower kind.name = kind.name := by
  cases kind <;> decide

theorem Kind.ofText_eq_ok_iff {t : Text} {kind : Kind} :
    ofText t = .ok kind ↔ Text.sameIgnoringCase t.trim kind.name := by
  rw [Text.sameIgnoringCase, beq_iff_eq, asciiLower_name, ← ofExactName_eq_some_iff, ofText]
  cases ofExactName (Text.asciiLower t.trim) <;> simp

theorem Kind.toOption_ofText_eq_some_iff {t : Text} {kind : Kind} :
    (ofText t).toOption = some kind ↔ Text.sameIgnoringCase t.trim kind.name := by
  rw [← ofText_eq_ok_iff]
  cases ofText t <;> simp [Except.toOption]

theorem isDisabledMark_iff {field : Text} : isDisabledMark field ↔
    ∃ word ∈ disabledWords, Text.sameIgnoringCase field word := by
  have hlower : ∀ word ∈ disabledWords, Text.asciiLower word = word := by decide
  rw [isDisabledMark, List.contains_iff_mem]
  constructor
  · intro h
    exact ⟨_, h, by rw [Text.sameIgnoringCase, beq_iff_eq, hlower _ h]⟩
  · rintro ⟨word, hword, hsame⟩
    rw [Text.sameIgnoringCase, beq_iff_eq, hlower word hword] at hsame
    rwa [hsame]

/-- Four fields are read as an item exactly if they are the fields of it. -/
theorem Item.ofFields_eq_some_iff {kind name line level : Text} {isDisabled : Bool} {item : Item} :
    Item.ofFields kind.trim name.trim line.trim level.trim isDisabled = some item ↔
      IsFields kind name line level item ∧ item.isDisabled = isDisabled := by
  simp only [Item.ofFields, Option.bind_eq_bind, Option.bind_eq_some_iff,
    Kind.toOption_ofText_eq_some_iff, Text.readWord_eq_some_iff, Text.readByte_eq_some_iff,
    Text.trim_trim, guard]
  constructor
  · rintro ⟨⟨⟩, hname, kind', hkind, line', hline, level', hlevel, ⟨⟩⟩
    refine ⟨⟨hkind, rfl, fun hnil => ?_, hline, hlevel, rfl⟩, rfl⟩
    have hnil' : name.trim = [] := hnil
    simp [hnil'] at hname
  · rintro ⟨h, rfl⟩
    refine ⟨(), ?_, item.kind, h.kind, item.line, h.line, item.level, h.level, ?_⟩
    · have hname := h.name_ne_nil
      simp [h.name, hname]
    · rw [h.name, ← h.hasChildren]
      rfl

theorem ofLine_eq_of_four {text kind name line level : Text}
    (h : text.splitOn '\t' = [kind, name, line, level]) :
    Item.ofLine text = Item.ofFields kind.trim name.trim line.trim level.trim false := by
  rw [Item.ofLine, h]
  rfl

theorem ofLine_eq_of_five {text kind name line level mark : Text}
    (h : text.splitOn '\t' = [kind, name, line, level, mark]) :
    Item.ofLine text = Item.ofFields kind.trim name.trim line.trim level.trim
      (isDisabledMark mark.trim) := by
  rw [Item.ofLine, h]
  rfl

/-- A line is read as the item that it declares, and as nothing if it declares none. -/
theorem ofLine_eq_some_iff {text : Text} {item : Item} :
    Item.ofLine text = some item ↔ Declares text item := by
  constructor
  · intro h
    match hcut : text.splitOn '\t' with
    | [kind, name, line, level] =>
      rw [ofLine_eq_of_four hcut, Item.ofFields_eq_some_iff] at h
      exact .unmarked hcut h.1 h.2
    | [kind, name, line, level, mark] =>
      rw [ofLine_eq_of_five hcut, Item.ofFields_eq_some_iff] at h
      exact .marked hcut h.1 (by rw [h.2, isDisabledMark_iff])
    | [] | [_] | [_, _] | [_, _, _] | _ :: _ :: _ :: _ :: _ :: _ :: _ =>
      rw [Item.ofLine, hcut] at h
      cases h
  · intro h
    cases h with
    | unmarked hcut h hmark =>
      rw [ofLine_eq_of_four hcut, Item.ofFields_eq_some_iff]
      exact ⟨h, hmark⟩
    | marked hcut h hmark =>
      rw [ofLine_eq_of_five hcut, Item.ofFields_eq_some_iff]
      exact ⟨h, by rw [Bool.eq_iff_iff, hmark, isDisabledMark_iff]⟩

/-! ## Malformed lines -/

theorem Declares.exists_fields {text : Text} {item : Item} (h : Declares text item) :
    ∃ kind name line level rest, text.splitOn '\t' = kind :: name :: line :: level :: rest ∧
      rest.length ≤ 1 ∧ IsFields kind name line level item := by
  cases h with
  | unmarked hcut h => exact ⟨_, _, _, _, [], hcut, by simp, h⟩
  | marked hcut h => exact ⟨_, _, _, _, [_], hcut, by simp, h⟩

/-- A declared item is not marked for others inside. -/
theorem Declares.hasChildren_eq {text : Text} {item : Item} (h : Declares text item) :
    item.hasChildren = false := by
  obtain ⟨_, _, _, _, _, _, _, hfields⟩ := h.exists_fields
  exact hfields.hasChildren

theorem exists_declares_of_mem_filterMap {lines : List Text} {item : Item}
    (h : item ∈ lines.filterMap Item.ofLine) : ∃ line ∈ lines, Declares line item := by
  obtain ⟨line, hline, hread⟩ := List.mem_filterMap.1 h
  exact ⟨line, hline, ofLine_eq_some_iff.1 hread⟩

/-- A malformed line declares nothing. -/
theorem Malformed.not_declares {text : Text} (h : Malformed text) (item : Item) :
    ¬ Declares text item := by
  intro hdeclares
  obtain ⟨kind, name, line, level, rest, hcut, hrest, hfields⟩ := hdeclares.exists_fields
  cases h with
  | blank hblank =>
    have hname : Text.isBlankText name :=
      Text.isBlankText_of_mem_splitOn hblank (by rw [hcut]; simp)
    exact hfields.name_ne_nil (hfields.name ▸ Text.trim_of_isBlankText hname)
  | fieldCount hfour hfive =>
    rw [hcut] at hfour hfive
    simp only [List.length_cons] at hfour hfive
    omega
  | kind hget hno =>
    rw [hcut] at hget
    cases hget
    exact hno _ hfields.kind
  | name hget hempty =>
    rw [hcut] at hget
    cases hget
    exact hfields.name_ne_nil (hfields.name ▸ hempty)
  | line hget hno =>
    rw [hcut] at hget
    cases hget
    exact hno _ hfields.line
  | level hget hno =>
    rw [hcut] at hget
    cases hget
    exact hno _ hfields.level

/-- The first four fields of a line that is not malformed are those of an item. -/
theorem exists_isFields {text kind name line level : Text} {rest : List Text}
    (hcut : text.splitOn '\t' = kind :: name :: line :: level :: rest) (h : ¬ Malformed text)
    (isDisabled : Bool) :
    ∃ item, IsFields kind name line level item ∧ item.isDisabled = isDisabled := by
  have hkind : ∃ kind' : Kind, Text.sameIgnoringCase kind.trim kind'.name := by
    by_contra hno
    exact h (.kind (by rw [hcut]; rfl) (not_exists.1 hno))
  have hname : name.trim ≠ [] := fun hempty => h (.name (by rw [hcut]; rfl) hempty)
  have hline : ∃ n : UInt32, Text.IsUnsigned line.trim n.toNat := by
    by_contra hno
    exact h (.line (by rw [hcut]; rfl) (not_exists.1 hno))
  have hlevel : ∃ n : UInt8, Text.IsUnsigned level.trim n.toNat := by
    by_contra hno
    exact h (.level (by rw [hcut]; rfl) (not_exists.1 hno))
  obtain ⟨kind', hkind⟩ := hkind
  obtain ⟨line', hline⟩ := hline
  obtain ⟨level', hlevel⟩ := hlevel
  exact ⟨⟨name.trim, kind', line', level', isDisabled, false⟩,
    ⟨hkind, rfl, hname, hline, hlevel, rfl⟩, rfl⟩

/-- A line declares an item or is malformed. -/
theorem exists_declares {text : Text} (h : ¬ Malformed text) : ∃ item, Declares text item := by
  match hcut : text.splitOn '\t' with
  | [kind, name, line, level] =>
    obtain ⟨item, hfields, hmark⟩ := exists_isFields hcut h false
    exact ⟨item, .unmarked hcut hfields hmark⟩
  | [kind, name, line, level, mark] =>
    obtain ⟨item, hfields, hmark⟩ := exists_isFields hcut h (isDisabledMark (Text.trim mark))
    exact ⟨item, .marked hcut hfields (by rw [hmark, isDisabledMark_iff])⟩
  | [] | [_] | [_, _] | [_, _, _] | _ :: _ :: _ :: _ :: _ :: _ :: _ =>
    exact absurd (.fieldCount (by simp [hcut]) (by simp [hcut])) h

theorem malformed_iff {text : Text} : Malformed text ↔ ∀ item, ¬ Declares text item := by
  refine ⟨Malformed.not_declares, fun h => ?_⟩
  by_contra hwell
  obtain ⟨item, hitem⟩ := exists_declares hwell
  exact h item hitem

theorem ofLine_eq_none_iff {text : Text} : Item.ofLine text = none ↔ Malformed text := by
  rw [malformed_iff, Option.eq_none_iff_forall_ne_some]
  exact forall_congr' fun _ => not_congr ofLine_eq_some_iff

/-! ## Marking parents -/

@[simp] theorem length_markParents (items : List Item) :
    (markParents items).length = items.length := by
  fun_induction markParents items with
  | case1 item next rest ih => rw [List.length_cons, ih]; rfl
  | case2 => rfl

/-- Marking parents changes nothing but the marks. -/
theorem map_unmarked_markParents (items : List Item) :
    (markParents items).map Item.unmarked = items.map Item.unmarked := by
  fun_induction markParents items with
  | case1 item next rest ih =>
    rw [List.map_cons, ih]
    rfl
  | case2 => rfl

/-! ## Reading line by line -/

/-- A carriage return at the end of a line belongs to the white space around its last field. -/
theorem ofLine_dropReturn (text : Text) :
    Item.ofLine (Text.dropReturn text) = Item.ofLine text := by
  rw [Text.dropReturn]
  split
  · rename_i hlast
    obtain ⟨front, rfl⟩ := List.getLast?_eq_some_iff.1 hlast
    obtain ⟨pieces, last, hcut, hmore⟩ :=
      Text.exists_splitOn_concat (show '\r' ≠ '\t' by decide) front
    have htrim : Text.trim (last ++ ['\r']) = Text.trim last := Text.trim_concat (by decide) last
    rw [List.dropLast_concat, Item.ofLine, Item.ofLine, hcut, hmore]
    simp only [List.map_append, List.map_cons, List.map_nil, htrim]
  · rfl

/-- A dump is read from the pieces between its line feeds. -/
theorem readDump_eq (dump : Text) :
    readDump dump = markParents ((dump.splitOn '\n').filterMap Item.ofLine) := by
  rw [readDump, Text.filterMap_lines (by decide) ofLine_dropReturn]

theorem readDump_intercalate {lines : List Text} (h : ∀ line ∈ lines, '\n' ∉ line) :
    readDump (['\n'].intercalate lines) = markParents (lines.filterMap Item.ofLine) := by
  cases lines with
  | nil => rfl
  | cons line rest => rw [readDump_eq, List.splitOn_intercalate '\n' h (List.cons_ne_nil _ _)]

/-- Reading a single line. -/
theorem readDump_of_newline_not_mem {line : Text} (h : '\n' ∉ line) :
    readDump line = (Item.ofLine line).toList := by
  rw [readDump_eq, List.splitOn_eq_singleton h, List.filterMap_cons]
  cases Item.ofLine line <;> rfl

/-- Of two rows of lines, one with a line more, the same is read exactly if that is malformed. -/
theorem markParents_filterMap_eq_iff (before after : List Text) (line : Text) :
    markParents ((before ++ line :: after).filterMap Item.ofLine) =
      markParents ((before ++ after).filterMap Item.ofLine) ↔ Malformed line := by
  rw [← ofLine_eq_none_iff, List.filterMap_append, List.filterMap_append]
  cases hline : Item.ofLine line with
  | none => simp [hline]
  | some item =>
    rw [List.filterMap_cons_some hline]
    -- With one item more the list is longer, whatever gets marked.
    refine iff_of_false (fun heq => ?_) (by simp)
    have hlength := congrArg List.length heq
    simp only [length_markParents, List.length_append, List.length_cons] at hlength
    omega

/-- A line that is put in makes no difference exactly if it is malformed. -/
theorem readDump_insertLine_eq_iff {text line : Text} (hline : '\n' ∉ line) (i : Nat) :
    readDump (insertLine text i line) = readDump text ↔ Malformed line := by
  have hlines : ∀ other ∈ (text.splitOn '\n').take i ++ line :: (text.splitOn '\n').drop i,
      '\n' ∉ other := by
    intro other hother
    rw [List.mem_append, List.mem_cons] at hother
    rcases hother with hother | rfl | hother
    · exact Text.not_mem_of_mem_splitOn (List.mem_of_mem_take hother)
    · exact hline
    · exact Text.not_mem_of_mem_splitOn (List.mem_of_mem_drop hother)
  have hiff := markParents_filterMap_eq_iff ((text.splitOn '\n').take i)
    ((text.splitOn '\n').drop i) line
  rw [List.take_append_drop] at hiff
  rw [insertLine, readDump_intercalate hlines, readDump_eq, hiff]

/-- A line that is taken out makes no difference exactly if it is malformed. -/
theorem readDump_eraseLine_eq_iff {text line : Text} {i : Nat}
    (hline : (text.splitOn '\n')[i]? = some line) :
    readDump (eraseLine text i) = readDump text ↔ Malformed line := by
  have hlines : ∀ other ∈ (text.splitOn '\n').eraseIdx i, '\n' ∉ other :=
    fun _ hother => Text.not_mem_of_mem_splitOn (List.mem_of_mem_eraseIdx hother)
  have hiff := markParents_filterMap_eq_iff ((text.splitOn '\n').take i)
    ((text.splitOn '\n').drop (i + 1)) line
  obtain ⟨hlt, rfl⟩ := List.getElem?_eq_some_iff.1 hline
  rw [← List.drop_eq_getElem_cons hlt, List.take_append_drop, ← List.eraseIdx_eq_take_drop_succ]
    at hiff
  rw [eraseLine, readDump_intercalate hlines, readDump_eq, eq_comm, hiff]

/-! ## Written dumps -/

theorem Kind.not_isBlank_of_mem_name {kind : Kind} {c : Char} (h : c ∈ kind.name) :
    ¬ Text.isBlank c := by
  have hall : ∀ kind ∈ all, kind.name.all (! Text.isBlank ·) := by decide +kernel
  have hmem : kind ∈ all := by cases kind <;> decide
  simpa using List.all_eq_true.1 (hall kind hmem) c h

section Written

variable {item : Item} (h : IsDumpName item.name)
include h

/-- Neither tabs nor line feeds are in the fields that are written. -/
theorem not_mem_of_mem_dumpFields {field : Text} (hfield : field ∈ dumpFields item) {sep : Char}
    (hsep : sep = '\t' ∨ sep = '\n') : sep ∉ field := by
  have hblank : Text.isBlank sep := by
    rcases hsep with rfl | rfl <;> decide
  rw [dumpFields, List.mem_append] at hfield
  simp only [List.mem_cons, List.not_mem_nil, or_false] at hfield
  rcases hfield with (rfl | rfl | rfl | rfl) | hfield
  · exact fun hmem => Kind.not_isBlank_of_mem_name hmem hblank
  · rcases hsep with rfl | rfl
    · exact h.tab_not_mem
    · exact h.newline_not_mem
  · exact fun hmem => Text.not_isBlank_of_mem_decimal hmem hblank
  · exact fun hmem => Text.not_isBlank_of_mem_decimal hmem hblank
  · split at hfield
    · rw [List.mem_singleton.1 hfield]
      rcases hsep with rfl | rfl <;> decide
    · exact absurd hfield List.not_mem_nil

theorem splitOn_dumpLine : (dumpLine item).splitOn '\t' = dumpFields item :=
  List.splitOn_intercalate '\t' (fun _ hfield => not_mem_of_mem_dumpFields h hfield (.inl rfl))
    (List.append_ne_nil_of_left_ne_nil (List.cons_ne_nil _ _) _)

theorem newline_not_mem_dumpLine : '\n' ∉ dumpLine item := by
  intro hmem
  rcases Text.mem_intercalate hmem with hsep | ⟨field, hfield, hmem⟩
  · exact absurd hsep (by decide)
  · exact not_mem_of_mem_dumpFields h hfield (.inr rfl) hmem

/-- The fields that are written for an item are fields of it. -/
theorem isFields_dumpFields : IsFields item.kind.name item.name (Text.decimal item.line.toNat)
    (Text.decimal item.level.toNat) item.unmarked where
  kind := by
    rw [Text.trim_of_forall_not_isBlank fun _ => Kind.not_isBlank_of_mem_name]
    exact beq_self_eq_true _
  name := h.trim_eq
  name_ne_nil := h.ne_nil
  line := by
    rw [Text.trim_of_forall_not_isBlank fun _ => Text.not_isBlank_of_mem_decimal]
    exact Text.readWord_eq_some_iff.1 (Text.readWord_decimal item.line)
  level := by
    rw [Text.trim_of_forall_not_isBlank fun _ => Text.not_isBlank_of_mem_decimal]
    exact Text.readByte_eq_some_iff.1 (Text.readByte_decimal item.level)
  hasChildren := rfl

/-- The line that is written for an item declares it. -/
theorem declares_dumpLine : Declares (dumpLine item) item.unmarked := by
  have hcut := splitOn_dumpLine h
  rw [dumpFields] at hcut
  cases hmark : item.isDisabled with
  | false =>
    rw [hmark] at hcut
    exact .unmarked hcut (isFields_dumpFields h) hmark
  | true =>
    rw [hmark] at hcut
    exact .marked hcut (isFields_dumpFields h) (iff_of_true hmark (by decide))

end Written

/-- The lines that are written for items are read back. -/
theorem readDump_writeDump {items : List Item} (h : ∀ item ∈ items, IsDumpName item.name) :
    readDump (writeDump items) = markParents (items.map Item.unmarked) := by
  have hlines : ∀ line ∈ items.map dumpLine, '\n' ∉ line := by
    intro line hline
    obtain ⟨item, hitem, rfl⟩ := List.mem_map.1 hline
    exact newline_not_mem_dumpLine (h item hitem)
  have hread : (items.map dumpLine).filterMap Item.ofLine = items.map Item.unmarked := by
    rw [List.filterMap_map, ← List.filterMap_eq_map]
    refine List.filterMap_congr fun item hitem => ?_
    exact ofLine_eq_some_iff.2 (declares_dumpLine (h item hitem))
  rw [readDump_eq, writeDump, Text.splitOn_ofLines hlines, List.filterMap_append, hread]
  congr 1
  exact List.append_nil _

theorem map_unmarked_readDump_writeDump {items : List Item}
    (h : ∀ item ∈ items, IsDumpName item.name) :
    (readDump (writeDump items)).map Item.unmarked = items.map Item.unmarked := by
  rw [readDump_writeDump h, map_unmarked_markParents, List.map_map]
  rfl

/-- The names that are read can be written. -/
theorem Declares.isDumpName {text : Text} {item : Item} (h : Declares text item)
    (hline : '\n' ∉ text) : IsDumpName item.name := by
  obtain ⟨kind, name, line, level, rest, hcut, -, hfields⟩ := h.exists_fields
  have hname : name ∈ text.splitOn '\t' := by
    rw [hcut]
    simp
  refine ⟨hfields.name_ne_nil, ?_, fun htab => ?_, fun hnewline => ?_⟩
  · rw [← hfields.name, Text.trim_trim]
  · rw [← hfields.name] at htab
    exact Text.not_mem_of_mem_splitOn hname (Text.mem_of_mem_trim htab)
  · rw [← hfields.name] at hnewline
    exact hline (Text.mem_of_mem_splitOn hname (Text.mem_of_mem_trim hnewline))

/-- Reading what is written for the items of a dump gives the same items. -/
theorem readDump_writeDump_readDump (text : Text) :
    readDump (writeDump (readDump text)) = readDump text := by
  rw [readDump_eq text]
  set items := (text.splitOn '\n').filterMap Item.ofLine with hitems
  have hunmarked : items.map Item.unmarked = items := by
    conv_rhs => rw [← List.map_id items]
    refine List.map_congr_left fun item hitem => ?_
    obtain ⟨line, -, hdeclares⟩ := exists_declares_of_mem_filterMap hitem
    rw [Item.unmarked, ← hdeclares.hasChildren_eq, id]
  have hnames : ∀ item ∈ markParents items, IsDumpName item.name := by
    intro item hitem
    have hmem := List.mem_map_of_mem (f := Item.unmarked) hitem
    rw [map_unmarked_markParents, hunmarked] at hmem
    obtain ⟨line, hline, hdeclares⟩ := exists_declares_of_mem_filterMap hmem
    exact hdeclares.isDumpName (Text.not_mem_of_mem_splitOn hline)
  rw [readDump_writeDump hnames, map_unmarked_markParents, hunmarked]

/-! ## The format -/

/-- Dumps are exactly what the format says. What is written for items is read as these items in
order, and writing what was read changes nothing; a line that is put in anywhere, or taken out,
changes nothing if it is malformed and only then; and a line that is not malformed is one item. -/
theorem readDump_format :
    (∀ items : List Item, (∀ item ∈ items, IsDumpName item.name) →
      (readDump (writeDump items)).map Item.unmarked = items.map Item.unmarked) ∧
    (∀ text, readDump (writeDump (readDump text)) = readDump text) ∧
    (∀ text line i, '\n' ∉ line →
      (readDump (insertLine text i line) = readDump text ↔ Malformed line)) ∧
    (∀ text line i, (text.splitOn '\n')[i]? = some line →
      (readDump (eraseLine text i) = readDump text ↔ Malformed line)) ∧
    (∀ line, Malformed line ↔ ∀ item, ¬ Declares line item) ∧
    ∀ line item, '\n' ∉ line → (readDump line = [item] ↔ Declares line item) := by
  refine ⟨fun _ => map_unmarked_readDump_writeDump, readDump_writeDump_readDump,
    fun _ _ i hline => readDump_insertLine_eq_iff hline i, fun _ _ _ => readDump_eraseLine_eq_iff,
    fun _ => malformed_iff, fun line item hline => ?_⟩
  rw [readDump_of_newline_not_mem hline, ← ofLine_eq_some_iff, Option.toList_eq_singleton_iff]

/-- A class, which is no kind, is put in between a procedure and the disabled block inside it. -/
theorem readDump_format_unknown_kind :
    (readDump (insertLine (writeDump [⟨"load".toList, .procedure, 7, 0, false, false⟩,
        ⟨"retry".toList, .block, 4294967295, 2, true, false⟩]) 1
        "class\tStore\t8\t1".toList)).map Item.unmarked =
      [⟨"load".toList, .procedure, 7, 0, false, false⟩,
        ⟨"retry".toList, .block, 4294967295, 2, true, false⟩] := by
  have hclass : Malformed "class\tStore\t8\t1".toList := by
    have hfield : ("class\tStore\t8\t1".toList.splitOn '\t')[0]? = some "class".toList := by
      decide +kernel
    exact .kind hfield fun kind => by cases kind <;> decide
  obtain ⟨hwritten, -, hinsert, -⟩ := readDump_format
  rw [(hinsert _ _ 1 (by decide)).2 hclass]
  refine hwritten _ fun item hitem => ?_
  simp only [List.mem_cons, List.not_mem_nil, or_false] at hitem
  rcases hitem with rfl | rfl <;>
    exact ⟨by decide, by decide, by decide, by decide⟩

end EditorKit.Outline
