import EditorKit.Proofs.Search.Kept

/-!
# Refining a result

The rows of a result can be filtered again, by another query or by the same one. Without gaps the
rows of the second result are those of the items that match both queries, so the order of the
queries makes no difference to what is kept, and filtering by the same query again changes nothing
but the indices.

* `rank_substring_eq` gives every row of a ranking without gaps from its item alone;
* `perm_source_apply_apply` says which items the rows of a refined result come from;
* `apply_apply_self`: a result is a fixed point of the sort that made it, because its dispersions
  ascend and so do the new indices of its rows;
* `apply_apply_substring` is the main result.
-/

namespace EditorKit.Search

variable {α : Type} [Listable α]

/-- What a query finds in the label of an item, without gaps. -/
def found (query : Option Text) (item : α) : Outcome :=
  evaluate .substring (query.getD []) (Listable.label item)

variable {query query' : Option Text} {items : List α}

/-! ## One query -/

/-- Without gaps every row of a ranking is that of its item alone. -/
theorem rank_substring_eq (query : Option Text) (items : List α) :
    rank .substring query items = items.zipIdx.map fun (item, i) =>
      ⟨item, i, Listable.isDisabled item, found query item⟩ := by
  apply List.ext_getElem?
  intro i
  have hrow : rowAt .substring query items i = fun item =>
      ⟨item, i, Listable.isDisabled item, found query item⟩ := by
    funext item
    have houtcome : (rowAt .substring query items i item).outcome = found query item :=
      outcome_rowAt_eq (.inr trivial)
    rw [← houtcome]
    rfl
  simp only [rank_getElem?, hrow, List.getElem?_map, List.getElem?_zipIdx, Option.map_map,
    Function.comp_def, Nat.zero_add]

/-- Without gaps a row of a result is that of its item alone. -/
theorem of_mem_apply_substring {row : Row α} (h : row ∈ apply .substring query items) :
    items[row.index]? = some row.item ∧ row.isDisabled = Listable.isDisabled row.item ∧
      row.outcome = found query row.item ∧ row.outcome.isFull := by
  obtain ⟨hrank, hfull⟩ := mem_apply_iff.1 h
  obtain ⟨hitem, hdisabled⟩ := item_of_mem_rank hrank
  exact ⟨hitem, hdisabled, eq_evaluate_of_mem_rank hrank trivial, hfull⟩

/-- The rows of a result show exactly the items that match, each as often as it comes. -/
theorem perm_item_apply (query : Option Text) (items : List α) :
    ((apply .substring query items).map Row.item).Perm
      (items.filter fun item => (found query item).isFull) := by
  have hitem : (fullRows .substring query items).map Row.item =
      items.filter fun item => (found query item).isFull := item_fullRows ..
  rw [← hitem]
  exact perm_apply.map Row.item

/-! ## Two queries -/

/-- The rows of a refined result come from exactly the items that match both queries. -/
theorem perm_source_apply_apply (query query' : Option Text) (items : List α) :
    ((apply .substring query' (apply .substring query items)).map fun row => row.item.source).Perm
      (items.zipIdx.filter fun (item, _) =>
        (found query item).isFull && (found query' item).isFull) := by
  have hsecond := (perm_item_apply query' (apply .substring query items)).map Row.source
  have hkept : ((apply .substring query items).map Row.source).Perm
      (items.zipIdx.filter fun (item, _) => (found query item).isFull) := perm_source ..
  have hfirst := hkept.filter fun (item, _) => (found query' item).isFull
  rw [List.map_map] at hsecond
  rw [List.filter_map, List.filter_filter] at hfirst
  simp only [Bool.and_comm] at hfirst ⊢
  exact hsecond.trans hfirst

/-- Filtering by the same query again gives every row of the result its new index and nothing else.
-/
theorem apply_apply_self (query : Option Text) (items : List α) :
    apply .substring query (apply .substring query items) =
      (apply .substring query items).zipIdx.map fun (row, i) =>
        ⟨row, i, row.isDisabled, row.outcome⟩ := by
  have hrank : rank .substring query (apply .substring query items) =
      (apply .substring query items).zipIdx.map fun (row, i) =>
        ⟨row, i, row.isDisabled, row.outcome⟩ := by
    rw [rank_substring_eq]
    refine List.map_congr_left ?_
    rintro ⟨row, i⟩ hmem
    have hrow := of_mem_apply_substring (List.fst_mem_of_mem_zipIdx hmem)
    have houtcome : found query row = row.outcome := hrow.2.2.1.symm
    dsimp only
    rw [houtcome]
    rfl
  have hfull : fullRows .substring query (apply .substring query items) =
      rank .substring query (apply .substring query items) := by
    refine List.filter_eq_self.2 ?_
    rw [hrank, List.forall_mem_map]
    rintro ⟨row, i⟩ hmem
    exact (of_mem_apply_substring (List.fst_mem_of_mem_zipIdx hmem)).2.2.2
  rw [apply_eq, hfull, hrank]
  -- the sort looks at the dispersions alone, and these are in order
  have hsorted : ((apply .substring query items).zipIdx.map Prod.fst).Pairwise
      fun a b => a.atMost b := by
    rw [List.zipIdx_map_fst]
    exact apply_pairwise.imp Row.Precedes.atMost
  rw [List.pairwise_map] at hsorted
  refine List.mergeSort_of_pairwise ?_
  rw [List.pairwise_map]
  exact hsorted

/-- **Refining a result by a second query** keeps exactly the items that match both queries, each
once, with what the second query finds in them, at indices in the first result, and in the order of
dispersion and index. The order of the two queries makes no difference to what is kept, and the same
query again keeps everything where it is. -/
theorem apply_apply_substring (query query' : Option Text) (items : List α) :
    let first := apply .substring query items
    let second := apply .substring query' first
    (second.map fun row => row.item.source).Perm (items.zipIdx.filter fun (item, _) =>
        (found query item).isFull && (found query' item).isFull) ∧
      (second.map fun row => row.item.index).Nodup ∧
      (∀ row ∈ second, first[row.index]? = some row.item ∧
        row.isDisabled = Listable.isDisabled row.item.item ∧
        row.outcome = found query' row.item.item) ∧
      second.Pairwise Row.Precedes ∧
      (second.map fun row => row.item.source).Perm
        ((apply .substring query (apply .substring query' items)).map fun row => row.item.source) ∧
      apply .substring query first = first.zipIdx.map fun (row, i) =>
        ⟨row, i, row.isDisabled, row.outcome⟩ := by
  intro first second
  have hsource := perm_source_apply_apply query query' items
  refine ⟨hsource, ?_, ?_, apply_pairwise, ?_, apply_apply_self query items⟩
  · have hplaces : (items.zipIdx.map Prod.snd).Nodup := by
      rw [List.zipIdx_map_snd]
      exact List.nodup_range'
    have hindex := (hsource.map Prod.snd).nodup_iff.2
      (hplaces.sublist (List.filter_sublist.map Prod.snd))
    rwa [List.map_map] at hindex
  · intro row hrow
    obtain ⟨hitem, hdisabled, houtcome, -⟩ := of_mem_apply_substring hrow
    have hfirst := of_mem_apply_substring (List.mem_of_getElem? hitem)
    exact ⟨hitem, hdisabled.trans hfirst.2.1, houtcome⟩
  · have hother := perm_source_apply_apply query' query items
    simp only [Bool.and_comm] at hsource hother
    exact hsource.trans hother.symm

/-- Of three items the second one matches both queries, and the refined result has a row for it. -/
theorem apply_apply_substring_second :
    let first := apply .substring (some "a".toList) ["xab".toList, "b A".toList, "a".toList]
    ∃ row ∈ apply .substring (some "B".toList) first,
      row.item.source = ("b A".toList, 1) ∧ first[row.index]? = some row.item ∧
        row.outcome = ⟨[⟨0, 1⟩], true⟩ := by
  intro first
  obtain ⟨hsource, -, hrows, -⟩ := apply_apply_substring (some "a".toList) (some "B".toList)
    ["xab".toList, "b A".toList, "a".toList]
  have hmem : ("b A".toList, 1) ∈ ["xab".toList, "b A".toList, "a".toList].zipIdx.filter
      fun (item, _) => (found (some "a".toList) item).isFull &&
        (found (some "B".toList) item).isFull := by
    refine List.mem_filter.2 ⟨List.mem_of_getElem? (i := 1) rfl, ?_⟩
    cbv
  obtain ⟨row, hrow, hplace⟩ := List.mem_map.1 (hsource.mem_iff.2 hmem)
  obtain ⟨hitem, -, houtcome⟩ := hrows row hrow
  have hfound : found (some "B".toList) "b A".toList = ⟨[⟨0, 1⟩], true⟩ := by cbv
  have hlabel : row.item.item = "b A".toList := congrArg Prod.fst hplace
  rw [hlabel, hfound] at houtcome
  exact ⟨row, hrow, hplace, hitem, houtcome⟩

end EditorKit.Search
