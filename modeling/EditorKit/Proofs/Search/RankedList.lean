import EditorKit.Proofs.Search.Order
import EditorKit.Search.RankedList
import Mathlib.Logic.Function.Iterate

/-!
# The state of a ranked list

After any changes the results of a ranked list are those of its present items, query and condition,
and the selection stands on one of them.

* `Criteria` is what a list is filtered by, and `Change` what can be done to a list;
* `RankedList.IsCoherent` is the invariant, and `IsCoherent.change` says that a change keeps it;
* `moveDown_iterate`, `moveUp_moveDown` and `moveDown_moveUp` are the laws of the selection;
* `RankedList.changes_ofItems` is the main result;
* `IsCoherent.render_length` says that on enough lines every result is shown once.
-/

namespace EditorKit.Search

/-- What a list is filtered by. -/
structure Criteria (α : Type) where
  items : List α
  query : Text
  condition : Option (α → Bool)

/-- What can be done to a list. -/
inductive Change (α : Type) where
  | setItems (items : List α)
  | setQuery (query : Text)
  | setCondition (condition : α → Bool)
  | clearCondition
  | moveDown
  | moveUp

variable {α : Type}

/-- Whether a change moves the selection and leaves the results as they are. -/
def Change.isMove : Change α → Bool
  | moveDown | moveUp => true
  | _ => false

namespace Criteria

/-- The criteria after a change. -/
def change (criteria : Criteria α) : Change α → Criteria α
  | .setItems items => { criteria with items }
  | .setQuery query => { criteria with query }
  | .setCondition condition => { criteria with condition := some condition }
  | .clearCondition => { criteria with condition := none }
  | .moveDown | .moveUp => criteria

/-- The rows that satisfy the criteria. -/
def rows [Listable α] (mode : Mode) (criteria : Criteria α) : List (Row α) :=
  match criteria.condition with
  | some condition => applyWith mode (some criteria.query) criteria.items condition
  | none => apply mode (some criteria.query) criteria.items

end Criteria

namespace RankedList

/-- What a list is filtered by. -/
def criteria (list : RankedList α) : Criteria α := ⟨list.items, list.query, list.condition⟩

/-- A list with another row selected. -/
def selecting (list : RankedList α) (index : Nat) : RankedList α :=
  { list with selectedIndex := index }

variable [Listable α]

/-- A list after a change. -/
def change (list : RankedList α) : Change α → RankedList α
  | .setItems items => list.setItems items
  | .setQuery query => list.setQuery query
  | .setCondition condition => list.setCondition condition
  | .clearCondition => list.clearCondition
  | .moveDown => list.moveDown
  | .moveUp => list.moveUp

/-- A list after several changes. -/
def changes (list : RankedList α) (changes : List (Change α)) : RankedList α :=
  changes.foldl change list

/-- Whether the results of a list are the rows of its criteria, and its selection is one of them. -/
structure IsCoherent (list : RankedList α) : Prop where
  results_eq : list.results = list.criteria.rows list.mode
  selected : list.selectedIndex < list.results.length ∨
    list.results = [] ∧ list.selectedIndex = 0

/-! ## Computing the results again -/

section Refresh

variable (list : RankedList α)

theorem selectedIndex_refresh : list.refresh.selectedIndex =
    if list.refresh.results = [] then 0
    else min list.selectedIndex (list.refresh.results.length - 1) := by
  have hmin : list.refresh.selectedIndex =
      min list.selectedIndex (list.refresh.results.length - 1) := rfl
  split
  · rename_i hnil
    rw [hmin, hnil, List.length_nil, Nat.zero_sub, Nat.min_zero]
  · exact hmin

theorem isCoherent_refresh : list.refresh.IsCoherent where
  results_eq := rfl
  selected := by
    rw [selectedIndex_refresh]
    by_cases hnil : list.refresh.results = []
    · exact .inr ⟨hnil, if_pos hnil⟩
    · have hpos := List.length_pos_iff.2 hnil
      rw [if_neg hnil]
      exact .inl (by omega)

end Refresh

/-! ## Moving the selection -/

section Moves

omit [Listable α]

variable {list : RankedList α}

@[simp] theorem results_selecting (list : RankedList α) (index : Nat) :
    (list.selecting index).results = list.results := rfl

@[simp] theorem selectedIndex_selecting (list : RankedList α) (index : Nat) :
    (list.selecting index).selectedIndex = index := rfl

@[simp] theorem selecting_selecting (list : RankedList α) (i j : Nat) :
    (list.selecting i).selecting j = list.selecting j := rfl

theorem selecting_self (list : RankedList α) : list.selecting list.selectedIndex = list := rfl

theorem moveDown_of_nil (h : list.results = []) : list.moveDown = list := by
  simp [moveDown, h]

theorem moveUp_of_nil (h : list.results = []) : list.moveUp = list := by
  simp [moveUp, h]

theorem moveDown_of_ne_nil (h : list.results ≠ []) :
    list.moveDown = list.selecting ((list.selectedIndex + 1) % list.results.length) := by
  simp [moveDown, h, selecting]

theorem moveUp_of_ne_nil (h : list.results ≠ []) :
    list.moveUp = list.selecting
      (if list.selectedIndex = 0 then list.results.length - 1 else list.selectedIndex - 1) := by
  by_cases hzero : list.selectedIndex = 0 <;> simp [moveUp, h, hzero, selecting]

/-- **Several steps down** go round the list. -/
theorem moveDown_iterate (hne : list.results ≠ [])
    (hlt : list.selectedIndex < list.results.length) (k : Nat) :
    moveDown^[k] list = list.selecting ((list.selectedIndex + k) % list.results.length) := by
  induction k with
  | zero =>
    rw [Function.iterate_zero, id, Nat.add_zero, Nat.mod_eq_of_lt hlt, selecting_self]
  | succ k ih =>
    rw [Function.iterate_succ_apply', ih, moveDown_of_ne_nil (by simpa using hne)]
    simp [Nat.add_assoc]

theorem moveUp_moveDown (hlt : list.selectedIndex < list.results.length) :
    list.moveDown.moveUp = list := by
  have hne : list.results ≠ [] := List.length_pos_iff.1 (by omega)
  have hindex : (if (list.selectedIndex + 1) % list.results.length = 0 then
      list.results.length - 1 else (list.selectedIndex + 1) % list.results.length - 1) =
      list.selectedIndex := by
    by_cases hlast : list.selectedIndex + 1 = list.results.length
    · rw [hlast, Nat.mod_self, if_pos rfl, ← hlast, Nat.add_sub_cancel]
    · rw [Nat.mod_eq_of_lt (by omega), if_neg (by omega), Nat.add_sub_cancel]
  rw [moveDown_of_ne_nil hne, moveUp_of_ne_nil (by simpa using hne)]
  exact congrArg list.selecting hindex

theorem moveDown_moveUp (hlt : list.selectedIndex < list.results.length) :
    list.moveUp.moveDown = list := by
  have hne : list.results ≠ [] := List.length_pos_iff.1 (by omega)
  have hindex : ((if list.selectedIndex = 0 then list.results.length - 1
      else list.selectedIndex - 1) + 1) % list.results.length = list.selectedIndex := by
    by_cases hzero : list.selectedIndex = 0
    · rw [if_pos hzero, Nat.sub_add_cancel (by omega), Nat.mod_self, hzero]
    · rw [if_neg hzero, Nat.sub_add_cancel (by omega), Nat.mod_eq_of_lt hlt]
  rw [moveUp_of_ne_nil hne, moveDown_of_ne_nil (by simpa using hne)]
  exact congrArg list.selecting hindex

/-- Moving only changes what is selected. -/
theorem exists_selecting_moveDown (list : RankedList α) :
    ∃ index, list.moveDown = list.selecting index := by
  by_cases hnil : list.results = []
  · exact ⟨_, moveDown_of_nil hnil⟩
  · exact ⟨_, moveDown_of_ne_nil hnil⟩

theorem exists_selecting_moveUp (list : RankedList α) :
    ∃ index, list.moveUp = list.selecting index := by
  by_cases hnil : list.results = []
  · exact ⟨_, moveUp_of_nil hnil⟩
  · exact ⟨_, moveUp_of_ne_nil hnil⟩

end Moves

/-! ## Changes -/

variable {list : RankedList α}

theorem IsCoherent.moveDown (h : list.IsCoherent) : list.moveDown.IsCoherent := by
  by_cases hnil : list.results = []
  · rwa [moveDown_of_nil hnil]
  · rw [moveDown_of_ne_nil hnil]
    exact ⟨h.results_eq, .inl (Nat.mod_lt _ (List.length_pos_iff.2 hnil))⟩

theorem IsCoherent.moveUp (h : list.IsCoherent) : list.moveUp.IsCoherent := by
  rcases h.selected with hlt | ⟨hnil, -⟩
  · have hne : list.results ≠ [] := List.length_pos_iff.1 (by omega)
    rw [moveUp_of_ne_nil hne]
    refine ⟨h.results_eq, .inl ?_⟩
    rw [selectedIndex_selecting, results_selecting]
    split <;> omega
  · rwa [moveUp_of_nil hnil]

/-- **A change keeps a list coherent.** -/
theorem IsCoherent.change (h : list.IsCoherent) (change : Change α) :
    (list.change change).IsCoherent := by
  cases change with
  | setItems | setQuery | setCondition | clearCondition => exact isCoherent_refresh _
  | moveDown => exact h.moveDown
  | moveUp => exact h.moveUp

/-- A change changes the criteria of a list and leaves its mode. -/
theorem criteria_change (list : RankedList α) (change : Change α) :
    (list.change change).criteria = list.criteria.change change ∧
      (list.change change).mode = list.mode := by
  cases change with
  | setItems | setQuery | setCondition | clearCondition => exact ⟨rfl, rfl⟩
  | moveDown =>
    obtain ⟨index, hindex⟩ := list.exists_selecting_moveDown
    rw [RankedList.change, hindex]
    exact ⟨rfl, rfl⟩
  | moveUp =>
    obtain ⟨index, hindex⟩ := list.exists_selecting_moveUp
    rw [RankedList.change, hindex]
    exact ⟨rfl, rfl⟩

/-- What computing the results again does to the selection. -/
theorem selectedIndex_change (list : RankedList α) {change : Change α} (h : ¬ change.isMove) :
    (list.change change).selectedIndex =
      if (list.change change).results = [] then 0
      else min list.selectedIndex ((list.change change).results.length - 1) := by
  cases change with
  | setItems items => exact selectedIndex_refresh { list with items }
  | setQuery query => exact selectedIndex_refresh { list with query }
  | setCondition condition => exact selectedIndex_refresh { list with condition := some condition }
  | clearCondition => exact selectedIndex_refresh { list with condition := none }
  | moveDown | moveUp => simp [Change.isMove] at h

theorem IsCoherent.changes (h : list.IsCoherent) (changes : List (Change α)) :
    (list.changes changes).IsCoherent := by
  induction changes generalizing list with
  | nil => exact h
  | cons change rest ih => exact ih (h.change change)

theorem criteria_changes (list : RankedList α) (changes : List (Change α)) :
    (list.changes changes).criteria = changes.foldl Criteria.change list.criteria ∧
      (list.changes changes).mode = list.mode := by
  induction changes generalizing list with
  | nil => exact ⟨rfl, rfl⟩
  | cons change rest ih =>
    obtain ⟨hcriteria, hmode⟩ := list.criteria_change change
    rw [List.foldl_cons, ← hcriteria, ← hmode]
    exact ih (list.change change)

theorem selected_eq_none_iff (h : list.IsCoherent) : list.selected = none ↔ list.results = [] := by
  rw [selected, List.getElem?_eq_none_iff]
  constructor
  · intro hle
    rcases h.selected with hlt | ⟨hnil, -⟩
    · omega
    · exact hnil
  · intro hnil
    simp [hnil]

/-- **After any changes** the results are the rows of the criteria that the changes leave, whatever
came before; the selection stands on a result if there is one, computing the results again keeps it
where it is as far as there are results, and steps go round the list, down and up being inverse. -/
theorem changes_ofItems (mode : Mode) (items : List α) (changes : List (Change α)) :
    let list := (ofItems mode items).changes changes
    list.mode = mode ∧ list.criteria = changes.foldl Criteria.change ⟨items, [], none⟩ ∧
      list.results = list.criteria.rows mode ∧
      (list.selectedIndex < list.results.length ∨ list.results = [] ∧ list.selectedIndex = 0) ∧
      (list.selected = none ↔ list.results = []) ∧
      (∀ change : Change α, ¬ change.isMove → (list.change change).selectedIndex =
        if (list.change change).results = [] then 0
        else min list.selectedIndex ((list.change change).results.length - 1)) ∧
      (list.results ≠ [] → ∀ k, moveDown^[k] list =
        { list with selectedIndex := (list.selectedIndex + k) % list.results.length }) ∧
      list.moveDown.moveUp = list ∧ list.moveUp.moveDown = list ∧
      (list.results = [] → list.moveDown = list ∧ list.moveUp = list) := by
  intro list
  have hcoherent : list.IsCoherent := (isCoherent_refresh _).changes changes
  obtain ⟨hcriteria, hmode⟩ := (ofItems mode items).criteria_changes changes
  refine ⟨hmode, hcriteria, ?_, hcoherent.selected, selected_eq_none_iff hcoherent,
    fun _ => selectedIndex_change list, ?_, ?_, ?_, ?_⟩
  · rw [hcoherent.results_eq, hmode]
    rfl
  · intro hne
    rcases hcoherent.selected with hlt | ⟨hnil, -⟩
    · exact moveDown_iterate hne hlt
    · exact absurd hnil hne
  · rcases hcoherent.selected with hlt | ⟨hnil, -⟩
    · exact moveUp_moveDown hlt
    · rw [moveDown_of_nil hnil, moveUp_of_nil hnil]
  · rcases hcoherent.selected with hlt | ⟨hnil, -⟩
    · exact moveDown_moveUp hlt
    · rw [moveUp_of_nil hnil, moveDown_of_nil hnil]
  · intro hnil
    exact ⟨moveDown_of_nil hnil, moveUp_of_nil hnil⟩

/-- Three steps in a list of two items, and the list without items. -/
theorem changes_ofItems_two_items :
    let list := (ofItems .fuzzy ["b".toList, "a".toList]).changes [.moveUp, .setQuery " ".toList]
    let empty := list.change (.setItems [])
    list.results ≠ [] ∧
      list.results = [⟨"b".toList, 0, false, .everything⟩, ⟨"a".toList, 1, false, .everything⟩] ∧
      moveDown^[3] list = { list with selectedIndex := (list.selectedIndex + 3) % 2 } ∧
      ¬ (Change.setItems (α := Text) []).isMove ∧ empty.selectedIndex = 0 ∧
      empty.results = [] ∧ empty.moveUp = empty := by
  intro list empty
  obtain ⟨-, hcriteria, hrows, -, -, hindex, hdown, -⟩ :=
    changes_ofItems .fuzzy ["b".toList, "a".toList] [.moveUp, .setQuery " ".toList]
  obtain ⟨-, hcriteria', hrows', -, -, -, -, -, -, hstay⟩ :=
    changes_ofItems .fuzzy ["b".toList, "a".toList] [.moveUp, .setQuery " ".toList, .setItems []]
  have hblank : Text.isBlankText ((some " ".toList).getD []) := by decide +kernel
  have hresults : list.results =
      [⟨"b".toList, 0, false, .everything⟩, ⟨"a".toList, 1, false, .everything⟩] := by
    rw [hrows, hcriteria]
    exact apply_of_isBlankText hblank
  have hempty : empty.results = [] := by
    refine hrows'.trans ?_
    rw [hcriteria']
    exact apply_of_isBlankText hblank
  have hne : list.results ≠ [] := by simp [hresults]
  have hlength : list.results.length = 2 := by rw [hresults]; rfl
  have hround : moveDown^[3] list =
      { list with selectedIndex := (list.selectedIndex + 3) % list.results.length } := hdown hne 3
  have hmove : ¬ (Change.setItems (α := Text) []).isMove := by decide
  refine ⟨hne, hresults, ?_, hmove, ?_, hempty, (hstay hempty).2⟩
  · rwa [hlength] at hround
  · rw [hindex _ hmove, if_pos hempty]

/-! ## Showing all results -/

/-- As many lines as there are results show all of them, wherever the selection stands. -/
theorem IsCoherent.window_length (h : list.IsCoherent) :
    list.window list.results.length = (0, list.results.length) := by
  have hempty : list.results.length = 0 → list.selectedIndex = 0 := by
    intro hzero
    rcases h.selected with hlt | ⟨-, hselected⟩
    · omega
    · exact hselected
  simp only [window]
  split <;> ext <;> dsimp only <;> omega

/-- **Every result is shown once**, in order, and the selected one as such. -/
theorem IsCoherent.render_length (h : list.IsCoherent) :
    list.render list.results.length = list.results.zipIdx.map fun (row, position) =>
      ⟨row, position, position == list.selectedIndex, row.drawsHighlights⟩ := by
  have hall : list.results.zipIdx.take list.results.length = list.results.zipIdx := by
    rw [List.take_of_length_le]
    simp
  rw [render, h.window_length]
  dsimp only
  rw [List.drop_zero, Nat.sub_zero, hall]

/-- A list whose query is replaced before anything is selected shows the rows of the new query, and
the first one is selected. -/
theorem render_setQuery (mode : Mode) (query : Text) (items : List α) :
    let list := (ofItems mode items).setQuery query
    list.results = apply mode (some query) items ∧
      list.render list.results.length =
        (apply mode (some query) items).zipIdx.map fun (row, position) =>
          ⟨row, position, position == 0, row.drawsHighlights⟩ := by
  intro list
  have hcoherent : list.IsCoherent := isCoherent_refresh _
  have hresults : list.results = apply mode (some query) items := rfl
  have hselected : list.selectedIndex = 0 := by
    simp [list, setQuery, ofItems, refresh]
  refine ⟨hresults, ?_⟩
  rw [hcoherent.render_length, hselected, hresults]

end RankedList
end EditorKit.Search
