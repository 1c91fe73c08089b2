import EditorKit.Proofs.Search.Rank

/-!
# The order of the rows

The rows of `apply` are the full rows of `rank`, each once, sorted by dispersion and then by index.

* `pairwise_mergeSort_of_ascending` says what a stable sort does to elements with ascending indices;
* `apply_isSorted` is the main result.
-/

namespace EditorKit.Search

/-- A stable sort puts elements in order, and those that tie in the order of their indices, if they
were in the order of their indices before. -/
theorem pairwise_mergeSort_of_ascending {β : Type} {le : β → β → Bool} {index : β → Nat}
    (htrans : ∀ a b c, le a b → le b c → le a c) (htotal : ∀ a b, le a b || le b a) {xs : List β}
    (hascending : xs.Pairwise fun a b => index a < index b) :
    (xs.mergeSort le).Pairwise fun a b => le a b ∧ (le b a → index a < index b) := by
  -- a stable sort of the elements is a sort of the elements with their places
  rw [← List.mergeSort_zipIdx, List.pairwise_map]
  have hsorted := List.pairwise_mergeSort (List.zipIdxLE_trans htrans)
    (List.zipIdxLE_total htotal) xs.zipIdx
  have hplaces : (xs.zipIdx.mergeSort (List.zipIdxLE le)).Pairwise fun x y => x.2 ≠ y.2 := by
    rw [(List.mergeSort_perm _ _).pairwise_iff fun h => Ne.symm h, ← List.pairwise_map]
    rw [List.zipIdx_map_snd]
    exact List.nodup_range'
  refine (hsorted.and hplaces).imp_of_mem ?_
  rintro ⟨a, i⟩ ⟨b, j⟩ ha hb ⟨hle, hne⟩
  rw [List.mem_mergeSort, List.mem_zipIdx_iff_getElem?] at ha hb
  dsimp only at ha hb hne ⊢
  have hab : le a b := by
    by_contra hab
    simp [List.zipIdxLE, hab] at hle
  refine ⟨hab, fun hba => ?_⟩
  have hij : i ≤ j := by simpa [List.zipIdxLE, hab, hba] using hle
  obtain ⟨hi, rfl⟩ := List.getElem?_eq_some_iff.1 ha
  obtain ⟨hj, rfl⟩ := List.getElem?_eq_some_iff.1 hb
  exact List.pairwise_iff_getElem.1 hascending i j hi hj (Nat.lt_of_le_of_ne hij hne)

namespace Row

variable {α : Type} {a b c : Row α}

/-- Whether a row stands strictly before another one: by dispersion, and by index where the
dispersions agree. -/
def Precedes (a b : Row α) : Prop :=
  Number.totalOrderKey a.outcome.dispersion < Number.totalOrderKey b.outcome.dispersion ∨
    Number.totalOrderKey a.outcome.dispersion = Number.totalOrderKey b.outcome.dispersion ∧
      a.index < b.index

theorem atMost_iff : a.atMost b ↔
    Number.totalOrderKey a.outcome.dispersion ≤ Number.totalOrderKey b.outcome.dispersion :=
  decide_eq_true_iff

theorem atMost_trans (hab : a.atMost b) (hbc : b.atMost c) : a.atMost c := by
  rw [atMost_iff] at hab hbc ⊢
  exact Int.le_trans hab hbc

theorem atMost_total (a b : Row α) : a.atMost b || b.atMost a := by
  rw [Bool.or_eq_true, atMost_iff, atMost_iff]
  exact Int.le_total _ _

theorem precedes_of_atMost (hle : a.atMost b) (htie : b.atMost a → a.index < b.index) :
    a.Precedes b := by
  rw [atMost_iff] at hle htie
  rcases Int.lt_or_eq_of_le hle with hlt | heq
  · exact .inl hlt
  · exact .inr ⟨heq, htie (Int.le_of_eq heq.symm)⟩

theorem Precedes.atMost (h : a.Precedes b) : a.atMost b := by
  rw [atMost_iff]
  rcases h with hlt | ⟨heq, -⟩
  · exact Int.le_of_lt hlt
  · exact Int.le_of_eq heq

theorem Precedes.asymm (h : a.Precedes b) : ¬ b.Precedes a := by
  rintro (hlt | ⟨heq, hlt⟩)
  · rcases h with hlt' | ⟨heq', -⟩
    · omega
    · omega
  · rcases h with hlt' | ⟨-, hlt'⟩
    · omega
    · omega

/-- There is only one way to put rows in order. -/
theorem eq_of_perm_of_pairwise {rows rows' : List (Row α)} (hperm : rows.Perm rows')
    (h : rows.Pairwise Precedes) (h' : rows'.Pairwise Precedes) : rows = rows' := by
  refine List.Perm.eq_of_pairwise ?_ h h' hperm
  intro a b _ _ hab hba
  exact absurd hba hab.asymm

end Row

variable {α : Type} [Listable α] {mode : Mode} {query : Option Text} {items : List α}

/-- The rows of a ranking are in the order of their indices. -/
theorem rank_ascending : (rank mode query items).Pairwise fun a b => a.index < b.index := by
  rw [List.pairwise_iff_getElem]
  intro i j hi hj hij
  have hrow {k : Nat} (hk : k < (rank mode query items).length) :
      ((rank mode query items)[k]).index = k := by
    have hget := List.getElem?_eq_getElem hk
    rw [rank_getElem?, Option.map_eq_some_iff] at hget
    obtain ⟨item, -, hitem⟩ := hget
    rw [← hitem, rowAt]
  rw [hrow hi, hrow hj]
  exact hij

/-- A row of a ranking shows the item at its index. -/
theorem item_of_mem_rank {row : Row α} (h : row ∈ rank mode query items) :
    items[row.index]? = some row.item ∧ row.isDisabled = Listable.isDisabled row.item := by
  obtain ⟨i, item, hitem, rfl⟩ := mem_rank_iff.1 h
  exact ⟨hitem, rfl⟩

theorem apply_eq : apply mode query items = (fullRows mode query items).mergeSort Row.atMost := by
  unfold apply applyWith
  simp

/-- Nothing is lost and nothing comes twice. -/
theorem perm_apply : (apply mode query items).Perm (fullRows mode query items) := by
  rw [apply_eq]
  exact List.mergeSort_perm ..

theorem perm_applyWith (condition : α → Bool) : (applyWith mode query items condition).Perm
    ((fullRows mode query items).filter fun row => condition row.item) :=
  List.mergeSort_perm ..

theorem applyWith_pairwise (condition : α → Bool) :
    (applyWith mode query items condition).Pairwise Row.Precedes := by
  have hascending : ((fullRows mode query items).filter fun row => condition row.item).Pairwise
      fun a b => a.index < b.index := (rank_ascending.filter _).filter _
  have hsorted : (applyWith mode query items condition).Pairwise fun a b =>
      a.atMost b ∧ (b.atMost a → a.index < b.index) := by
    refine pairwise_mergeSort_of_ascending ?_ ?_ hascending
    · intro a b c hab hbc
      exact Row.atMost_trans hab hbc
    · exact Row.atMost_total
  refine hsorted.imp ?_
  rintro a b ⟨hle, htie⟩
  exact Row.precedes_of_atMost hle htie

theorem apply_pairwise : (apply mode query items).Pairwise Row.Precedes :=
  applyWith_pairwise fun _ => true

/-! ## A blank query -/

theorem evaluateTokens_nil (mode : Mode) (cells : Cells) (text : Text) :
    evaluateTokens mode cells [] text = (.everything, cells) := rfl

theorem rankFrom_nil (mode : Mode) (cells : Cells) (index : Nat) (items : List α) :
    rankFrom mode [] cells index items = (items.zipIdx index).map fun (item, i) =>
      ⟨item, i, Listable.isDisabled item, .everything⟩ := by
  induction items generalizing index with
  | nil => rfl
  | cons item items ih =>
    rw [rankFrom, evaluateTokens_nil, List.zipIdx_cons, List.map_cons]
    simp only [ih]

/-- A blank query keeps all items in their order, with no ranges. -/
theorem apply_of_isBlankText (h : (query.getD []).isBlankText) :
    apply mode query items = items.zipIdx.map fun (item, i) =>
      ⟨item, i, Listable.isDisabled item, .everything⟩ := by
  have hrank : rank mode query items = items.zipIdx.map fun (item, i) =>
      ⟨item, i, Listable.isDisabled item, .everything⟩ := by
    rw [rank, tokens, Text.words_of_isBlankText h]
    exact rankFrom_nil ..
  have hall : ∀ row ∈ rank mode query items, row.outcome = .everything := by
    rw [hrank, List.forall_mem_map]
    intro _ _
    rfl
  have hfull : fullRows mode query items = rank mode query items := by
    refine List.filter_eq_self.2 ?_
    intro row hrow
    rw [hall row hrow]
    rfl
  rw [apply_eq, hfull, ← hrank]
  refine List.mergeSort_of_pairwise ?_
  refine List.pairwise_of_forall_mem_list ?_
  intro a ha b hb
  have heq : a.outcome.dispersion = b.outcome.dispersion := by rw [hall a ha, hall b hb]
  exact Row.atMost_iff.2 (Int.le_of_eq (congrArg Number.totalOrderKey heq))

/-! ## The whole list -/

/-- **The result is the list of the full rows of the ranking, each once, in strictly ascending order
of dispersion and index**, and no other list is. No index comes twice, every row shows the item at
its index, and a blank query keeps all items in their order. -/
theorem apply_isSorted (mode : Mode) (query : Option Text) (items : List α) :
    (∀ rows, rows = apply mode query items ↔
      rows.Perm ((rank mode query items).filter (·.outcome.isFull)) ∧
        rows.Pairwise Row.Precedes) ∧
    ((apply mode query items).map Row.index).Nodup ∧
    (∀ row ∈ apply mode query items,
      items[row.index]? = some row.item ∧ row.isDisabled = Listable.isDisabled row.item) ∧
    ((query.getD []).isBlankText → apply mode query items = items.zipIdx.map fun (item, i) =>
      ⟨item, i, Listable.isDisabled item, .everything⟩) := by
  refine ⟨?_, ?_, ?_, apply_of_isBlankText⟩
  · intro rows
    constructor
    · rintro rfl
      exact ⟨perm_apply, apply_pairwise⟩
    · rintro ⟨hperm, hsorted⟩
      exact Row.eq_of_perm_of_pairwise (hperm.trans perm_apply.symm) hsorted apply_pairwise
  · have hascending : (fullRows mode query items).Pairwise fun a b => a.index < b.index :=
      rank_ascending.filter _
    rw [(perm_apply.map Row.index).nodup_iff, List.Nodup, List.pairwise_map]
    exact hascending.imp Nat.ne_of_lt
  · intro row hrow
    exact item_of_mem_rank (mem_apply_iff.1 hrow).1

/-- Two items and a query of white space. -/
theorem apply_isSorted_blank :
    Text.isBlankText ((some " \t".toList).getD []) ∧
      apply .fuzzy (some " \t".toList) ["b".toList, "a".toList] =
        [⟨"b".toList, 0, false, .everything⟩, ⟨"a".toList, 1, false, .everything⟩] ∧
      ⟨"a".toList, 1, false, .everything⟩ ∈
        apply .fuzzy (some " \t".toList) ["b".toList, "a".toList] ∧
      ["b".toList, "a".toList][1]? = some "a".toList := by
  obtain ⟨-, -, hitem, hall⟩ :=
    apply_isSorted .fuzzy (some " \t".toList) ["b".toList, "a".toList]
  have hblank : Text.isBlankText ((some " \t".toList).getD []) := by decide +kernel
  have hrows := hall hblank
  have hmem : ⟨"a".toList, 1, false, .everything⟩ ∈
      apply .fuzzy (some " \t".toList) ["b".toList, "a".toList] := by
    rw [hrows]
    exact List.mem_of_getElem? (i := 1) rfl
  exact ⟨hblank, hrows, hmem, (hitem _ hmem).1⟩

end EditorKit.Search
