import EditorKit.Proofs.Search.Kept

/-!
# A further condition

A condition is asked about the items that match the query, before the rows are sorted. Filtering the
sorted rows afterwards gives the same list, because the order of rows is strict, so there is only
one way to sort those that are left.

* `applyWithM_eq`: a condition that does something when it is asked is asked about the items of the
  full rows, one after another, and about nothing else;
* `run_applyWithM_noting`: so a condition that notes down what it is asked notes exactly these;
* `applyWith_eq`: filtering and sorting may change places;
* `applyWith_eq_filter` is the main result.
-/

namespace EditorKit.Search

/-! ## Asking -/

section Asking

variable {β : Type} {m : Type → Type} [Monad m] [LawfulMonad m]

theorem filterAuxM_guarded {p : β → Bool} {f : β → m Bool} (xs found : List β) :
    xs.filterAuxM (fun x => if p x then f x else pure false) found =
      (xs.filter p).filterAuxM f found := by
  induction xs generalizing found with
  | nil => rfl
  | cons x xs ih =>
    rw [List.filterAuxM, List.filter_cons]
    cases hp : p x with
    | true => simp only [if_true, List.filterAuxM, ih]
    | false => simp only [Bool.false_eq_true, if_false, pure_bind, cond_false, ih]

variable {α : Type} [Listable α] {mode : Mode} {query : Option Text} {items : List α}

/-- The condition is asked about the items of the full rows, one after another. -/
theorem applyWithM_eq (condition : α → m Bool) :
    applyWithM mode query items condition = do
      let rows ← (fullRows mode query items).filterM fun row => condition row.item
      return rows.mergeSort Row.atMost := by
  rw [applyWithM, fullRows, List.filterM, List.filterM, filterAuxM_guarded]

end Asking

section Noting

variable {α : Type} (condition : α → Bool)

theorem run_filterAuxM_noting (rows found : List (Row α)) (noted : List α) :
    (rows.filterAuxM (fun row => noting condition row.item) found).run noted =
      ((rows.filter fun row => condition row.item).reverse ++ found,
        noted ++ rows.map Row.item) := by
  induction rows generalizing found noted with
  | nil =>
    rw [List.filter_nil, List.map_nil, List.append_nil]
    rfl
  | cons row rows ih =>
    have hstep : ((row :: rows).filterAuxM (fun row => noting condition row.item) found).run noted =
        (rows.filterAuxM (fun row => noting condition row.item)
          (cond (condition row.item) (row :: found) found)).run (noted ++ [row.item]) := rfl
    rw [hstep, ih, List.filter_cons, List.map_cons, List.append_assoc, List.singleton_append]
    cases condition row.item with
    | true => simp
    | false => simp

theorem run_filterM_noting (rows : List (Row α)) :
    (rows.filterM fun row => noting condition row.item).run [] =
      (rows.filter fun row => condition row.item, rows.map Row.item) := by
  rw [List.filterM, StateT.run_bind, run_filterAuxM_noting, List.append_nil, List.nil_append]
  exact congrArg (·, rows.map Row.item) (List.reverse_reverse _)

variable [Listable α] (mode : Mode) (query : Option Text) (items : List α)

/-- A condition that notes down what it is asked about gives the rows of one that does not, and
notes the items of the full rows, one after another. -/
theorem run_applyWithM_noting : (applyWithM mode query items (noting condition)).run [] =
    (applyWith mode query items condition, (fullRows mode query items).map Row.item) := by
  rw [applyWithM_eq, StateT.run_bind, run_filterM_noting]
  rfl

end Noting

/-! ## Asking before and after the sort -/

section Order

variable {α : Type} [Listable α]

/-- There is only one way to sort the rows that are left, so it makes no difference whether the
others go before or after the sort. -/
theorem applyWith_eq (mode : Mode) (query : Option Text) (items : List α) (condition : α → Bool) :
    applyWith mode query items condition =
      (apply mode query items).filter fun row => condition row.item := by
  have hafter : ((apply mode query items).filter fun row => condition row.item).Perm
      ((fullRows mode query items).filter fun row => condition row.item) := perm_apply.filter _
  exact Row.eq_of_perm_of_pairwise ((perm_applyWith condition).trans hafter.symm)
    (applyWith_pairwise condition) (apply_pairwise.filter _)

/-- **A result under a further condition is the part of the whole result whose items satisfy it**,
in the same order. The condition is asked about the items that match the query, about each once and
in the order of the items, whatever it answers, and about no others. -/
theorem applyWith_eq_filter (mode : Mode) (query : Option Text) (items : List α)
    (condition : α → Bool) :
    applyWith mode query items condition =
      ((apply mode query items).filter fun row => condition row.item) ∧
    (applyWithM mode query items (noting condition)).run [] =
      (applyWith mode query items condition, items.filter fun item =>
        (evaluate mode (query.getD []) (Listable.label item)).isFull) ∧
    asked mode query items = items.filter fun item =>
      (evaluate mode (query.getD []) (Listable.label item)).isFull := by
  refine ⟨applyWith_eq mode query items condition, ?_, ?_⟩
  · rw [run_applyWithM_noting, item_fullRows]
  · rw [asked, run_applyWithM_noting, item_fullRows]

end Order
end EditorKit.Search
