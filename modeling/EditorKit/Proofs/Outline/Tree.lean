import EditorKit.Proofs.Outline.Dump

/-!
# The tree of an outline

The levels of items form a tree: the parent of an item is the nearest one before it that is
shallower. Marking parents compares neighbours only. That is enough, since of the items between a
parent and its child the first one is already deeper than the parent.

* `IsParent` is the tree, and `exists_isParent_iff` says who has children in it;
* `markParents_getElem?` says what marking does to each item;
* `hasChildren_readDump` is the main result.
-/

namespace EditorKit.Outline

/-- Whether item number `i` is the parent of item number `j`: the nearest one before it that is
shallower. -/
structure IsParent (items : List Item) (i j : Nat) : Prop where
  before : i < j
  within : j < items.length
  shallower : items[i].level < items[j].level
  nearest : ∀ k (_ : i < k) (_ : k < j), items[j].level ≤ items[k].level

/-! ## The tree -/

section Tree

variable {items : List Item} {i i' j : Nat}

theorem IsParent.eq (h : IsParent items i j) (h' : IsParent items i' j) : i = i' := by
  rcases Nat.lt_trichotomy i i' with hlt | heq | hgt
  · exact absurd h'.shallower (UInt8.not_lt.2 (h.nearest i' hlt h'.before))
  · exact heq
  · exact absurd h.shallower (UInt8.not_lt.2 (h'.nearest i hgt h.before))

/-- An item with a shallower one before it has a parent, which is not before that one. -/
theorem exists_isParent (hbefore : i < j) (hwithin : j < items.length)
    (hshallower : items[i].level < items[j].level) : ∃ i', i ≤ i' ∧ IsParent items i' j := by
  induction hgap : j - i using Nat.strong_induction_on generalizing i with
  | _ gap ih =>
    -- If `i` is not the nearest one, a shallower one in between is closer to `j`.
    by_cases hnearest : ∀ k (_ : i < k) (_ : k < j), items[j].level ≤ items[k].level
    · exact ⟨i, Nat.le_refl i, hbefore, hwithin, hshallower, hnearest⟩
    · push Not at hnearest
      obtain ⟨k, hik, hkj, hlevel⟩ := hnearest
      obtain ⟨i', hle, hparent⟩ := ih (j - k) (by omega) hkj (UInt8.not_le.1 hlevel) rfl
      exact ⟨i', by omega, hparent⟩

/-- An item has children exactly if the next one is deeper. -/
theorem exists_isParent_iff : (∃ j, IsParent items i j) ↔
    ∃ h : i + 1 < items.length, items[i].level < items[i + 1].level := by
  constructor
  · rintro ⟨j, h⟩
    have hbefore := h.before
    have hwithin := h.within
    refine ⟨by omega, ?_⟩
    -- The next item is the child, or stands before it and then is not shallower than it.
    rcases Nat.lt_or_eq_of_le (Nat.succ_le_of_lt hbefore) with hlt | rfl
    · exact UInt8.lt_of_lt_of_le h.shallower (h.nearest (i + 1) (Nat.lt_succ_self i) hlt)
    · exact h.shallower
  · rintro ⟨hwithin, hdeeper⟩
    exact ⟨i + 1, Nat.lt_succ_self i, hwithin, hdeeper, fun k hik hkj => by omega⟩

end Tree

/-! ## Marks -/

theorem markParents_getElem? (items : List Item) (i : Nat) :
    (markParents items)[i]? = items[i]?.map fun item =>
      { item with hasChildren := item.hasChildren ||
          items[i + 1]?.any fun next => item.level < next.level } := by
  fun_induction markParents items generalizing i with
  | case1 item next rest ih =>
    cases i with
    | zero => simp
    | succ i => simp only [List.getElem?_cons_succ, ih]
  | case2 items hshort =>
    cases items with
    | nil => simp
    | cons item rest =>
      cases rest with
      | nil => cases i <;> simp
      | cons next rest => exact absurd rfl (hshort item next rest)

theorem markParents_getElem {items : List Item} {i : Nat} (h : i < items.length)
    (hmarked : i < (markParents items).length) :
    (markParents items)[i] = { items[i] with hasChildren :=
      (items[i].hasChildren || items[i + 1]?.any (items[i].level < ·.level)) } := by
  have hget := markParents_getElem? items i
  rw [List.getElem?_eq_getElem hmarked, List.getElem?_eq_getElem h, Option.map_some] at hget
  exact Option.some.inj hget

/-- Of items without marks, the ones with children get marked. -/
theorem hasChildren_markParents {items : List Item} (h : ∀ item ∈ items, item.hasChildren = false)
    {i : Nat} (hi : i < (markParents items).length) :
    (markParents items)[i].hasChildren ↔ ∃ j, IsParent (markParents items) i j := by
  have hitems := length_markParents items
  have hlt : i < items.length := hitems ▸ hi
  rw [exists_isParent_iff]
  by_cases hnext : i + 1 < items.length
  · have hnextMarked : i + 1 < (markParents items).length := hitems ▸ hnext
    simp [markParents_getElem hlt hi, markParents_getElem hnext hnextMarked, hnext,
      h _ (List.getElem_mem hlt)]
  · simp [markParents_getElem hlt hi, hnext, h _ (List.getElem_mem hlt)]

/-- Every row of levels is the one of some dump. -/
theorem exists_map_level_readDump (levels : List UInt8) :
    ∃ dump, (readDump dump).map Item.level = levels := by
  set items : List Item := levels.map fun level =>
    ⟨"item".toList, .root, 1, level, false, false⟩ with hitems
  have hname : IsDumpName "item".toList := ⟨by decide, by decide, by decide, by decide⟩
  have hnames : ∀ item ∈ items, IsDumpName item.name := by
    intro item hitem
    obtain ⟨level, -, rfl⟩ := List.mem_map.1 hitem
    exact hname
  have hwritten := congrArg (List.map Item.level) (map_unmarked_readDump_writeDump hnames)
  rw [List.map_map, List.map_map] at hwritten
  refine ⟨writeDump items, hwritten.trans ?_⟩
  rw [hitems, List.map_map]
  exact List.map_id levels

/-- **The tree of an outline.** Of the items that are read of a dump, whatever their levels, exactly
those are marked that are the parent of another one. No item has two parents, and an item with a
shallower one before it has a parent. -/
theorem hasChildren_readDump :
    (∀ (dump : Text) (i : Nat) (_ : i < (readDump dump).length),
      (readDump dump)[i].hasChildren ↔ ∃ j, IsParent (readDump dump) i j) ∧
    (∀ (items : List Item) (i i' j : Nat), IsParent items i j → IsParent items i' j → i = i') ∧
    (∀ (items : List Item) (i j : Nat) (_ : i < j) (_ : j < items.length),
      items[i].level < items[j].level → ∃ i', i ≤ i' ∧ IsParent items i' j) ∧
    ∀ levels : List UInt8, ∃ dump, (readDump dump).map Item.level = levels := by
  refine ⟨fun dump i hi => ?_, fun _ _ _ _ => IsParent.eq, fun _ _ _ => exists_isParent,
    exists_map_level_readDump⟩
  rw [readDump_eq] at hi
  simp only [readDump_eq]
  refine hasChildren_markParents (fun item hitem => ?_) hi
  obtain ⟨line, -, hdeclares⟩ := exists_declares_of_mem_filterMap hitem
  exact hdeclares.hasChildren_eq

/-- A procedure with two blocks of different levels inside. The first one is deeper, but it is not
the parent of the second one, which is shallower still. -/
theorem hasChildren_readDump_two_blocks :
    let items := readDump "procedure\tload\t1\t0\nblock\tretry\t2\t7\nblock\tfail\t3\t2".toList
    IsParent items 0 2 ∧ (∀ i, IsParent items i 2 → i = 0) ∧
      ∃ h : 0 < items.length, items[0].hasChildren := by
  intro items
  have hread : items = [⟨"load".toList, .procedure, 1, 0, false, true⟩,
      ⟨"retry".toList, .block, 2, 7, false, false⟩,
      ⟨"fail".toList, .block, 3, 2, false, false⟩] := by
    decide +kernel
  have hparent : IsParent items 0 2 := by
    rw [hread]
    refine ⟨by decide, by decide, by decide, fun k hbefore hbehind => ?_⟩
    obtain rfl : k = 1 := by omega
    exact show (2 : UInt8) ≤ 7 by decide
  obtain ⟨hmarked, hunique, -⟩ := hasChildren_readDump
  have hsome : 0 < items.length := Nat.zero_lt_of_lt hparent.within
  exact ⟨hparent, fun i h => hunique items i 0 2 h hparent,
    hsome, (hmarked _ 0 hsome).2 ⟨2, hparent⟩⟩

end EditorKit.Outline
