import EditorKit.Files.Folder
import Mathlib.Data.List.Basic

/-!
# Folders after a change

What is found in a folder after one of its names is changed, and in a tree of folders after one of
them is changed.

* `find?_put`, `find?_keepNames` and the lemmas on `names` are about one folder;
* `nodeAt?_modifyAt` and `modifyAt_modifyAt` are about a folder inside others;
* `locate_eq_ok_of_keepsFolders`: a path leads to the same place as long as no folder goes away.
-/

namespace EditorKit.Folder

variable {folder top : Folder} {name : Text} {node : Node}

/-! ## One folder -/

theorem find?_cons (entry : Text × Node) (rest : Folder) (name : Text) :
    find? (entry :: rest) name = if name = entry.1 then some entry.2 else find? rest name := by
  rw [find?, List.lookup_cons]
  by_cases heq : name = entry.1
  · simp [heq]
  · have hbeq : (name == entry.1) = false := by simpa using heq
    rw [hbeq, if_neg heq]
    rfl

theorem names_cons (entry : Text × Node) (rest : Folder) :
    names (entry :: rest) = entry.1 :: names rest := rfl

theorem find?_eq_none_iff : folder.find? name = none ↔ name ∉ folder.names := by
  induction folder with
  | nil => simp [find?, names]
  | cons entry rest ih =>
    rw [find?_cons, names_cons, List.mem_cons, not_or]
    by_cases heq : name = entry.1
    · simp [heq]
    · simp [heq, ih]

theorem mem_names_of_find?_eq (h : folder.find? name = some node) : name ∈ folder.names := by
  by_contra hmem
  rw [find?_eq_none_iff.2 hmem] at h
  cases h

theorem find?_put (name : Text) (node : Node) (folder : Folder) (n : Text) :
    (folder.put name node).find? n = if n = name then some node else folder.find? n := by
  induction folder with
  | nil => rw [put, find?_cons]
  | cons entry rest ih =>
    obtain ⟨first, old⟩ := entry
    rw [put]
    split
    · rename_i heq
      rw [find?_cons, find?_cons, heq]
      split <;> rfl
    · rename_i hne
      rw [find?_cons, find?_cons, ih]
      by_cases hfirst : n = first
      · rw [if_pos hfirst, if_pos hfirst, if_neg (hfirst ▸ hne)]
      · rw [if_neg hfirst, if_neg hfirst]

theorem put_put (name : Text) (old node : Node) (folder : Folder) :
    (folder.put name old).put name node = folder.put name node := by
  induction folder with
  | nil => simp [put]
  | cons entry rest ih =>
    by_cases heq : entry.1 = name
    · simp [put, heq]
    · simp [put, heq, ih]

theorem put_of_find?_eq (h : folder.find? name = some node) : folder.put name node = folder := by
  induction folder with
  | nil => simp [find?] at h
  | cons entry rest ih =>
    rw [find?_cons] at h
    rw [put]
    by_cases heq : name = entry.1
    · rw [if_pos heq, Option.some.injEq] at h
      rw [if_pos heq.symm, heq, ← h]
    · rw [if_neg heq] at h
      rw [if_neg (Ne.symm heq), ih h]

/-- A name that is there keeps its place among the names. -/
theorem names_put_of_mem (h : name ∈ folder.names) :
    (folder.put name node).names = folder.names := by
  induction folder with
  | nil => simp [names] at h
  | cons entry rest ih =>
    rw [put]
    split
    · rename_i heq
      rw [names_cons, names_cons, heq]
    · rename_i hne
      rw [names_cons, List.mem_cons] at h
      rw [names_cons, names_cons, ih (h.resolve_left (Ne.symm hne))]

/-- A new name becomes the last one. -/
theorem names_put_of_not_mem (h : name ∉ folder.names) :
    (folder.put name node).names = folder.names ++ [name] := by
  induction folder with
  | nil => rfl
  | cons entry rest ih =>
    rw [names_cons, List.mem_cons, not_or] at h
    rw [put, if_neg (Ne.symm h.1), names_cons, names_cons, ih h.2, List.cons_append]

/-- A folder with only the names that satisfy a condition. -/
def keepNames (keep : Text → Bool) (folder : Folder) : Folder := folder.filter fun (n, _) => keep n

theorem find?_keepNames (keep : Text → Bool) (folder : Folder) (name : Text) :
    (folder.keepNames keep).find? name = if keep name then folder.find? name else none := by
  induction folder with
  | nil => split <;> rfl
  | cons entry rest ih =>
    by_cases hkeep : keep entry.1
    · have hcons : keepNames keep (entry :: rest) = entry :: keepNames keep rest := by
        simp [keepNames, hkeep]
      rw [hcons, find?_cons, find?_cons, ih]
      by_cases heq : name = entry.1
      · rw [if_pos heq, if_pos heq, heq, if_pos hkeep]
      · rw [if_neg heq, if_neg heq]
    · have hcons : keepNames keep (entry :: rest) = keepNames keep rest := by
        simp [keepNames, hkeep]
      rw [hcons, ih, find?_cons]
      by_cases heq : name = entry.1
      · rw [heq, if_neg hkeep, if_neg hkeep]
      · rw [if_neg heq]

theorem names_keepNames (keep : Text → Bool) (folder : Folder) :
    (folder.keepNames keep).names = folder.names.filter keep := by
  rw [names, names, keepNames, List.filter_map]
  rfl

theorem keepNames_keepNames (keep keep' : Text → Bool) (folder : Folder) :
    (folder.keepNames keep).keepNames keep' = folder.keepNames fun n => keep n && keep' n := by
  simp only [keepNames, List.filter_filter, Bool.and_comm]

/-! ## Folders inside folders -/

theorem nodeAt?_cons (top : Folder) (name : Text) (rest : List Text) :
    top.nodeAt? (name :: rest) =
      match top.find? name with
      | some (.folder inner) => nodeAt? inner rest
      | some (.file content) => if rest.isEmpty then some (.file content) else none
      | none => none := rfl

theorem nodeAt?_cons_of_folder {inner : List (Text × Node)} {rest : List Text}
    (h : top.find? name = some (.folder inner)) :
    top.nodeAt? (name :: rest) = nodeAt? inner rest := by
  rw [nodeAt?_cons, h]

theorem nodeAt?_singleton (folder : Folder) (name : Text) :
    folder.nodeAt? [name] = folder.find? name := by
  rw [nodeAt?_cons]
  match folder.find? name with
  | some (.folder inner) => dsimp only; rw [nodeAt?]
  | some (.file content) => rfl
  | none => rfl

/-- What leads to a folder first leads to one of the folders in the top one. -/
theorem exists_inner_of_nodeAt?_cons {inner : List (Text × Node)} {rest : List Text}
    (h : top.nodeAt? (name :: rest) = some (.folder inner)) :
    ∃ below, top.find? name = some (.folder below) ∧
      nodeAt? below rest = some (.folder inner) := by
  rw [nodeAt?_cons] at h
  split at h
  · exact ⟨_, ‹_›, h⟩
  · split at h <;> simp at h
  · simp at h

theorem nodeAt?_append {names rest : List Text} (h : top.nodeAt? names = some (.folder folder)) :
    top.nodeAt? (names ++ rest) = folder.nodeAt? rest := by
  induction names generalizing top with
  | nil =>
    rw [nodeAt?] at h
    cases h
    rfl
  | cons name names ih =>
    obtain ⟨below, hbelow, hfolder⟩ := exists_inner_of_nodeAt?_cons h
    rw [List.cons_append, nodeAt?_cons_of_folder hbelow, ih hfolder]

theorem modifyAt_cons_of_folder {inner : List (Text × Node)} {change : Folder → Folder}
    {rest : List Text} (h : top.find? name = some (.folder inner)) :
    top.modifyAt change (name :: rest) = top.put name (.folder (modifyAt change inner rest)) := by
  rw [modifyAt, h]

theorem modifyAt_cons_of_forall_ne {change : Folder → Folder} {rest : List Text}
    (h : ∀ inner, top.find? name ≠ some (.folder inner)) :
    top.modifyAt change (name :: rest) = top := by
  rw [modifyAt]
  split
  · exact absurd ‹_› (h _)
  · rfl

/-- Changing a folder changes what leads to it. -/
theorem nodeAt?_modifyAt {change : Folder → Folder} {dir : List Text}
    (h : top.nodeAt? dir = some (.folder folder)) :
    (top.modifyAt change dir).nodeAt? dir = some (.folder (change folder)) := by
  induction dir generalizing top with
  | nil =>
    rw [nodeAt?] at h
    cases h
    rw [modifyAt, nodeAt?]
  | cons name dir ih =>
    obtain ⟨below, hbelow, hfolder⟩ := exists_inner_of_nodeAt?_cons h
    have hput : (top.put name (.folder (modifyAt change below dir))).find? name =
        some (.folder (modifyAt change below dir)) := by
      rw [find?_put, if_pos rfl]
    rw [modifyAt_cons_of_folder hbelow, nodeAt?_cons_of_folder hput, ih hfolder]

theorem modifyAt_eq_self {dir : List Text} (h : top.nodeAt? dir = some (.folder folder)) :
    top.modifyAt (fun _ => folder) dir = top := by
  induction dir generalizing top with
  | nil =>
    rw [nodeAt?] at h
    cases h
    rfl
  | cons name dir ih =>
    obtain ⟨below, hbelow, hfolder⟩ := exists_inner_of_nodeAt?_cons h
    rw [modifyAt_cons_of_folder hbelow, ih hfolder, put_of_find?_eq hbelow]

/-- What a change does to other folders does not matter. -/
theorem modifyAt_congr {change change' : Folder → Folder} {dir : List Text}
    (h : top.nodeAt? dir = some (.folder folder)) (hchange : change folder = change' folder) :
    top.modifyAt change dir = top.modifyAt change' dir := by
  induction dir generalizing top with
  | nil =>
    rw [nodeAt?] at h
    cases h
    exact hchange
  | cons name dir ih =>
    obtain ⟨below, hbelow, hfolder⟩ := exists_inner_of_nodeAt?_cons h
    rw [modifyAt_cons_of_folder hbelow, modifyAt_cons_of_folder hbelow, ih hfolder]

/-- Two changes of one folder are one change. -/
theorem modifyAt_modifyAt (change change' : Folder → Folder) (top : Folder) (dir : List Text) :
    (top.modifyAt change dir).modifyAt change' dir = top.modifyAt (change' ∘ change) dir := by
  induction dir generalizing top with
  | nil => rfl
  | cons name dir ih =>
    by_cases hfolder : ∃ inner, top.find? name = some (.folder inner)
    · obtain ⟨inner, hinner⟩ := hfolder
      have hput : (top.put name (.folder (modifyAt change inner dir))).find? name =
          some (.folder (modifyAt change inner dir)) := by
        rw [find?_put, if_pos rfl]
      rw [modifyAt_cons_of_folder hinner, modifyAt_cons_of_folder hput, put_put, ih,
        modifyAt_cons_of_folder hinner]
    · have hnone : ∀ inner, top.find? name ≠ some (.folder inner) := by simpa using hfolder
      rw [modifyAt_cons_of_forall_ne hnone, modifyAt_cons_of_forall_ne hnone,
        modifyAt_cons_of_forall_ne hnone]

/-! ## Paths -/

/-- Whether every row of names that leads to a folder still does so. -/
def KeepsFolders (top top' : Folder) : Prop :=
  ∀ names inner, top.nodeAt? names = some (.folder inner) →
    ∃ inner', top'.nodeAt? names = some (.folder inner')

/-- A change of one folder keeps all folders if it keeps the ones in that folder. -/
theorem keepsFolders_modifyAt {change : Folder → Folder} {dir : List Text}
    (h : top.nodeAt? dir = some (.folder folder))
    (hkeep : ∀ n inner, folder.find? n = some (.folder inner) →
      (change folder).find? n = some (.folder inner)) :
    top.KeepsFolders (top.modifyAt change dir) := by
  intro names inner hnames
  induction dir generalizing top names with
  | nil =>
    rw [nodeAt?] at h
    cases h
    rw [modifyAt]
    cases names with
    | nil => exact ⟨_, by rw [nodeAt?]⟩
    | cons n names =>
      obtain ⟨below, hbelow, hinner⟩ := exists_inner_of_nodeAt?_cons hnames
      exact ⟨inner, by rw [nodeAt?_cons_of_folder (hkeep n below hbelow), hinner]⟩
  | cons name dir ih =>
    obtain ⟨below, hbelow, hfolder⟩ := exists_inner_of_nodeAt?_cons h
    rw [modifyAt_cons_of_folder hbelow]
    cases names with
    | nil => exact ⟨_, by rw [nodeAt?]⟩
    | cons n names =>
      obtain ⟨below', hbelow', hinner⟩ := exists_inner_of_nodeAt?_cons hnames
      by_cases heq : n = name
      · subst heq
        obtain rfl : below = below' := by simpa [hbelow] using hbelow'
        obtain ⟨inner', hinner'⟩ := ih hfolder names hinner
        refine ⟨inner', ?_⟩
        rw [nodeAt?_cons_of_folder (by rw [find?_put, if_pos rfl]), hinner']
      · refine ⟨inner, ?_⟩
        rw [nodeAt?_cons_of_folder (by rw [find?_put, if_neg heq, hbelow']), hinner]

theorem follow_eq_ok_of_keepsFolders {top' : Folder} (hkeep : top.KeepsFolders top')
    {isTrusting : Bool} {spot spot' : Spot} {steps : List Text}
    (h : top.follow isTrusting spot steps = .ok spot') :
    top'.follow isTrusting spot steps = .ok spot' := by
  induction steps generalizing spot with
  | nil => exact h
  | cons step rest ih =>
    have hfolder : ∀ inner, top.at? isTrusting spot = some (.folder inner) →
        ∃ inner', top'.at? isTrusting spot = some (.folder inner') := by
      intro inner hinner
      cases spot with
      | inside names => exact hkeep names inner hinner
      | above | unknown | root => exact ⟨inner, hinner⟩
    rw [follow] at h
    split at h
    · contradiction
    · contradiction
    · rename_i inner hinner
      obtain ⟨inner', hinner'⟩ := hfolder inner hinner
      rw [follow, hinner']
      dsimp only
      split at h
      · contradiction
      · rename_i hshort
        rw [if_neg hshort]
        exact ih h

theorem locate_eq_ok_iff {path : Path} {spot : Spot} {node? : Option Node} :
    top.locate path = .ok (spot, node?) ↔
      top.follow false (if path.isAbsolute then .root [] else .inside []) path.steps = .ok spot ∧
        top.at? false spot = node? := by
  rw [locate, reach]
  cases top.follow false (if path.isAbsolute then .root [] else .inside []) path.steps with
  | error fault => simp [bind, Except.bind]
  | ok found =>
    simp only [bind, Except.bind, pure, Except.pure, Except.ok.injEq, Prod.mk.injEq]
    constructor
    · rintro ⟨rfl, hnode⟩
      exact ⟨rfl, hnode⟩
    · rintro ⟨rfl, hnode⟩
      exact ⟨rfl, hnode⟩

/-- A path leads to the same place as long as no folder goes away. -/
theorem locate_eq_ok_of_keepsFolders {top' : Folder} (hkeep : top.KeepsFolders top') {path : Path}
    {spot : Spot} {node? : Option Node} (h : top.locate path = .ok (spot, node?)) :
    top'.locate path = .ok (spot, top'.at? false spot) :=
  locate_eq_ok_iff.2 ⟨follow_eq_ok_of_keepsFolders hkeep (locate_eq_ok_iff.1 h).1, rfl⟩

end EditorKit.Folder
