import EditorKit.Log.Rotating
import EditorKit.Proofs.Files.Folder
import Mathlib.Data.Char
import Mathlib.Data.List.DropRight
import Mathlib.Data.List.Lex

/-!
# What a rotating log keeps

A log that was never cut off would be a journal: the parts that went to backups, each with the time
of its rotation, and what has been written since. The folder of a log shows the latest parts of that
journal as backups, and the rest of it as the file.

* `Journal` is the log that is never cut off, and `Journal.write` what writing does to it;
* `Shows` relates a folder to a journal: `Shows.rotate` and `Shows.append` say that the changes of
  the folder keep this;
* `outdated_eq` says that the backups to remove are the oldest ones.
-/

namespace EditorKit.Log

/-! ## Names of backups -/

theorem sortsBehind_iff {a b : Text} : sortsBehind a b ↔ ¬ a < b := by
  induction a generalizing b with
  | nil =>
    cases b with
    | nil => simp [sortsBehind]
    | cons y ys => simp [sortsBehind]
  | cons x xs ih =>
    cases b with
    | nil => simp [sortsBehind]
    | cons y ys =>
      have hchar : x < y ↔ x.toNat < y.toNat := Char.lt_def
      rw [sortsBehind, List.cons_lt_cons_iff, hchar]
      by_cases heq : x = y
      · subst heq
        simp [ih]
      · have hne : x.toNat ≠ y.toNat := fun h => heq (Char.toNat_inj.1 h)
        rw [if_neg heq, decide_eq_true_eq]
        simp only [heq, false_and, or_false]
        omega

theorem sortsBehind_trans (a b c : Text) (hab : sortsBehind a b) (hbc : sortsBehind b c) :
    sortsBehind a c := by
  rw [sortsBehind_iff, not_lt] at hab hbc ⊢
  exact hbc.trans hab

theorem sortsBehind_total (a b : Text) : sortsBehind a b || sortsBehind b a := by
  rw [Bool.or_eq_true, sortsBehind_iff, sortsBehind_iff, not_lt, not_lt]
  exact le_total b a

/-- Sorting names that all differ gives descending order. -/
theorem pairwise_mergeSort_sortsBehind {names : List Text} (h : names.Nodup) :
    (names.mergeSort sortsBehind).Pairwise (· > ·) := by
  have hsorted : (names.mergeSort sortsBehind).Pairwise fun a b => sortsBehind a b :=
    List.pairwise_mergeSort sortsBehind_trans sortsBehind_total names
  have hnodup := (List.mergeSort_perm names sortsBehind).nodup_iff.2 h
  refine hsorted.imp₂ (fun a b hbehind (hne : a ≠ b) => ?_) hnodup
  rw [sortsBehind_iff, not_lt] at hbehind
  exact lt_of_le_of_ne hbehind hne.symm

/-- Sorting names in ascending order puts the last one first. -/
theorem mergeSort_sortsBehind {names : List Text} (h : names.Pairwise (· < ·)) :
    names.mergeSort sortsBehind = names.reverse := by
  have hsorted := pairwise_mergeSort_sortsBehind (h.imp ne_of_lt)
  refine List.Perm.eq_of_pairwise (fun a b _ _ hab hba => absurd hab hba.asymm) hsorted
    (List.pairwise_reverse.2 h) ?_
  exact (List.mergeSort_perm ..).trans (List.reverse_perm names).symm

section Names

variable {name : Text}

theorem isBackupOf_backupName (name stamp : Text) : isBackupOf name (backupName name stamp) := by
  rw [isBackupOf, List.isPrefixOf_iff_prefix]
  exact ⟨stamp, by simp [backupName]⟩

theorem not_isBackupOf_self (name : Text) : ¬ isBackupOf name name := by
  rw [isBackupOf, List.isPrefixOf_iff_prefix]
  intro h
  have hlength := h.length_le
  rw [List.length_append, List.length_singleton] at hlength
  exact Nat.not_succ_le_self _ hlength

theorem ne_of_isBackupOf {other : Text} (h : isBackupOf name other) : other ≠ name := by
  rintro rfl
  exact not_isBackupOf_self other h

theorem backupName_injective : Function.Injective (backupName name) :=
  fun _ _ h => (List.cons.inj (List.append_cancel_left h)).2

/-- The file itself is no backup. -/
theorem filter_isBackupOf_filter_ne (name : Text) (names : List Text) :
    (names.filter (· != name)).filter (isBackupOf name) = names.filter (isBackupOf name) := by
  rw [List.filter_filter]
  refine List.filter_congr fun n _ => ?_
  by_cases hn : isBackupOf name n
  · simpa [hn] using ne_of_isBackupOf hn
  · simp [hn]

theorem backupName_lt {s t : Text} (h : s < t) : backupName name s < backupName name t :=
  List.append_left_lt (List.cons_lt_cons_iff.2 (.inr ⟨rfl, h⟩))

end Names

/-- Of backups in the order of their names the oldest ones are removed, the last of them first. -/
theorem outdated_eq {keep : Nat} {name : Text} {names : List Text}
    (h : (names.filter (isBackupOf name)).Pairwise (· < ·)) :
    outdated keep name names = ((names.filter (isBackupOf name)).rdrop keep).reverse := by
  rw [outdated, mergeSort_sortsBehind h, List.drop_reverse, List.rdrop]

/-! ## Renaming and removing files -/

theorem moveToBackup_eq {folder : Folder} {name stamp : Text} {content : Bytes}
    (hfile : folder.find? name = some (.file content)) :
    moveToBackup name stamp folder =
      (folder.keepNames (· != name)).put (backupName name stamp) (.file content) := by
  rw [moveToBackup, hfile]
  rfl

/-- Nothing stands in the way of a backup whose name is new. -/
theorem renameFault?_of_not_mem {folder : Folder} {name stamp : Text}
    (hnew : backupName name stamp ∉ folder.names) : renameFault? name stamp folder = none := by
  rw [renameFault?, Folder.find?_eq_none_iff.2 hnew]
  cases folder.find? name with
  | none => rfl
  | some node => cases node <;> rfl

theorem removeFile_eq {folder : Folder} {name : Text}
    (h : ∀ inner, folder.find? name ≠ some (.folder inner)) :
    removeFile folder name = folder.keepNames (· != name) := by
  rw [removeFile]
  split
  · rfl
  · rename_i hfile
    have hnone : folder.find? name = none := by
      cases hfound : folder.find? name with
      | none => rfl
      | some node =>
        cases node with
        | file content => exact absurd hfound (hfile content)
        | folder inner => exact absurd hfound (h inner)
    rw [Folder.find?_eq_none_iff] at hnone
    refine (List.filter_eq_self.2 ?_).symm
    rintro ⟨n, node⟩ hmem
    have hne : n ≠ name := by
      rintro rfl
      exact hnone (List.mem_map_of_mem hmem)
    simpa using hne

/-- Removing files removes their names. -/
theorem foldl_removeFile {folder : Folder} {names : List Text}
    (h : ∀ n ∈ names, ∀ inner, folder.find? n ≠ some (.folder inner)) :
    names.foldl removeFile folder = folder.keepNames fun n => !names.contains n := by
  induction names generalizing folder with
  | nil => exact (List.filter_eq_self.2 fun _ _ => rfl).symm
  | cons name names ih =>
    rw [List.forall_mem_cons] at h
    have hrest : ∀ n ∈ names, ∀ inner,
        (folder.keepNames (· != name)).find? n ≠ some (.folder inner) := by
      intro n hn inner
      rw [Folder.find?_keepNames]
      split
      · exact h.2 n hn inner
      · simp
    rw [List.foldl_cons, removeFile_eq h.1, ih hrest, Folder.keepNames_keepNames]
    congr 1
    funext n
    rw [List.contains_cons, Bool.not_or]
    rfl

/-! ## Journals -/

/-- What has been written to a log, cut at its rotations: the parts before them, each with the time
of the rotation, and what came after the last one. -/
structure Journal where
  parts : List (Text × Bytes)
  current : Bytes

namespace Journal

/-- All that has been written. -/
def bytes (journal : Journal) : Bytes := (journal.parts.map Prod.snd).flatten ++ journal.current

/-- The times of the rotations. -/
def stamps (journal : Journal) : List Text := journal.parts.map Prod.fst

/-- What the log has if only the latest parts are kept. -/
def latest (keep : Nat) (journal : Journal) : Journal :=
  { journal with parts := journal.parts.rtake keep }

/-- A journal after a rotation. -/
def rotate (stamp : Text) (journal : Journal) : Journal :=
  ⟨journal.parts ++ [(stamp, journal.current)], []⟩

/-- A journal with something more at the end. -/
def append (bytes : Bytes) (journal : Journal) : Journal :=
  { journal with current := journal.current ++ bytes }

/-- A journal after something is written, with a rotation before if the last part is too long. -/
def write (maxBytes : Nat) (journal : Journal) (entry : Text × Bytes) : Journal :=
  (if maxBytes < journal.current.length then journal.rotate entry.1 else journal).append entry.2

theorem bytes_write (maxBytes : Nat) (journal : Journal) (entry : Text × Bytes) :
    (journal.write maxBytes entry).bytes = journal.bytes ++ entry.2 := by
  rw [write]
  split
  · simp [bytes, rotate, append]
  · simp [bytes, append]

/-- Writing ends the last part with what is written. -/
theorem suffix_current_write (maxBytes : Nat) (journal : Journal) (entry : Text × Bytes) :
    entry.2 <:+ (journal.write maxBytes entry).current :=
  List.suffix_append ..

/-- No part is cut off before it is too long. -/
theorem lt_length_of_mem_write {maxBytes : Nat} {journal : Journal} {entry : Text × Bytes}
    (h : ∀ part ∈ journal.parts, maxBytes < part.2.length) :
    ∀ part ∈ (journal.write maxBytes entry).parts, maxBytes < part.2.length := by
  rw [write]
  split
  · rename_i hlong
    intro part hpart
    rcases List.mem_append.1 hpart with hpart | hpart
    · exact h part hpart
    · obtain rfl := List.mem_singleton.1 hpart
      exact hlong
  · exact h

theorem stamps_write (maxBytes : Nat) (journal : Journal) (entry : Text × Bytes) :
    (journal.write maxBytes entry).stamps =
      journal.stamps ++ if maxBytes < journal.current.length then [entry.1] else [] := by
  rw [write]
  split
  · simp [stamps, rotate, append]
  · simp [stamps, append]

/-- A journal after several things are written. -/
def writes (maxBytes : Nat) (journal : Journal) (entries : List (Text × Bytes)) : Journal :=
  entries.foldl (write maxBytes) journal

theorem writes_concat (maxBytes : Nat) (journal : Journal) (entries : List (Text × Bytes))
    (entry : Text × Bytes) :
    journal.writes maxBytes (entries ++ [entry]) =
      (journal.writes maxBytes entries).write maxBytes entry :=
  List.foldl_concat ..

theorem bytes_writes (maxBytes : Nat) (journal : Journal) (entries : List (Text × Bytes)) :
    (journal.writes maxBytes entries).bytes =
      journal.bytes ++ (entries.map Prod.snd).flatten := by
  induction entries using List.reverseRecOn with
  | nil => simp [writes]
  | append_singleton entries entry ih => simp [writes_concat, bytes_write, ih]

theorem lt_length_of_mem_writes {maxBytes : Nat} {journal : Journal}
    (h : ∀ part ∈ journal.parts, maxBytes < part.2.length) (entries : List (Text × Bytes)) :
    ∀ part ∈ (journal.writes maxBytes entries).parts, maxBytes < part.2.length := by
  induction entries using List.reverseRecOn with
  | nil => exact h
  | append_singleton entries entry ih =>
    rw [writes_concat]
    exact lt_length_of_mem_write ih

theorem suffix_current_writes (maxBytes : Nat) (journal : Journal)
    {entries : List (Text × Bytes)} {entry : Text × Bytes} (h : entries.getLast? = some entry) :
    entry.2 <:+ (journal.writes maxBytes entries).current := by
  obtain ⟨before, rfl⟩ := List.getLast?_eq_some_iff.1 h
  rw [writes_concat]
  exact suffix_current_write ..

/-- The times of the rotations are some of the times of writing. -/
theorem stamps_writes_sublist (maxBytes : Nat) (journal : Journal)
    (entries : List (Text × Bytes)) :
    (journal.writes maxBytes entries).stamps.Sublist
      (journal.stamps ++ entries.map Prod.fst) := by
  induction entries using List.reverseRecOn with
  | nil => simp [writes]
  | append_singleton entries entry ih =>
    rw [writes_concat, stamps_write, List.map_append, ← List.append_assoc]
    refine ih.append ?_
    split <;> simp

/-- The latest parts end with what the whole journal ends with. -/
theorem bytes_latest_suffix (keep : Nat) (journal : Journal) :
    (journal.latest keep).bytes <:+ journal.bytes := by
  refine ⟨((journal.parts.rdrop keep).map Prod.snd).flatten, ?_⟩
  rw [bytes, bytes, latest, ← List.append_assoc, ← List.flatten_append, ← List.map_append]
  rw [List.rdrop, List.rtake, List.take_append_drop]

theorem stamps_latest (keep : Nat) (journal : Journal) :
    (journal.latest keep).stamps = journal.stamps.rtake keep := by
  rw [stamps, stamps, latest, List.rtake, List.rtake, List.map_drop, List.length_map]

/-- A time that is later than those of all rotations is a new one for the latest parts. -/
theorem ne_of_mem_stamps_latest (keep : Nat) {journal : Journal} {stamp : Text}
    (hstamps : (journal.rotate stamp).stamps.Pairwise (· < ·)) :
    ∀ s ∈ (journal.latest keep).stamps, s ≠ stamp := by
  intro s hs
  rw [stamps, rotate, List.map_append, List.pairwise_append] at hstamps
  rw [stamps_latest] at hs
  exact ne_of_lt (hstamps.2.2 s (List.mem_of_mem_drop hs) stamp (List.mem_singleton_self _))

theorem latest_of_length_le {keep : Nat} {journal : Journal} (h : journal.parts.length ≤ keep) :
    journal.latest keep = journal := by
  rw [latest, List.rtake, Nat.sub_eq_zero_of_le h, List.drop_zero]

end Journal

/-- Removing the oldest of some names leaves the latest ones. -/
theorem filter_not_contains_rdrop {names : List Text} (h : names.Nodup) (keep : Nat) :
    names.filter (fun n => !(names.rdrop keep).reverse.contains n) = names.rtake keep := by
  have hsplit : names.rdrop keep ++ names.rtake keep = names := List.take_append_drop ..
  have hdisjoint : (names.rdrop keep).Disjoint (names.rtake keep) :=
    List.disjoint_take_drop h (Nat.le_refl _)
  conv_lhs => rw [← hsplit, List.filter_append, hsplit]
  have hold : (names.rdrop keep).filter
      (fun n => !(names.rdrop keep).reverse.contains n) = [] := by
    refine List.filter_eq_nil_iff.2 fun n hn => ?_
    simpa using hn
  have hlatest : (names.rtake keep).filter
      (fun n => !(names.rdrop keep).reverse.contains n) = names.rtake keep := by
    refine List.filter_eq_self.2 fun n hn => ?_
    simpa using fun hold => hdisjoint hold hn
  rw [hold, hlatest, List.nil_append]

/-- Of the latest of some elements and one more, the latest are the latest of all. -/
theorem rtake_rtake_concat {β : Type} (xs : List β) (keep : Nat) (x : β) :
    (xs.rtake keep ++ [x]).rtake keep = (xs ++ [x]).rtake keep := by
  cases keep with
  | zero => rw [List.rtake_zero, List.rtake_zero]
  | succ keep =>
    rw [List.rtake_concat_succ, List.rtake_concat_succ, List.rtake_eq_reverse_take_reverse xs,
      List.rtake_eq_reverse_take_reverse, List.reverse_reverse, List.take_take,
      Nat.min_eq_left (Nat.le_succ keep), List.rtake_eq_reverse_take_reverse]

/-! ## The folder of a log -/

/-- Whether a folder that was `before` shows a journal: it has the journal's parts as backups, in
order, and its last part as the file, and all else is as before. The file need not be there while it
is empty. -/
structure Shows (name : Text) (before : Folder) (journal : Journal) (folder : Folder) : Prop where
  backups : folder.names.filter (isBackupOf name) = journal.stamps.map (backupName name)
  contents : ∀ part ∈ journal.parts,
    folder.find? (backupName name part.1) = some (.file part.2)
  file : folder.find? name = some (.file journal.current) ∨
    folder.find? name = none ∧ journal.current = []
  others : ∀ n, n ≠ name → ¬ isBackupOf name n → folder.find? n = before.find? n

namespace Shows

variable {name : Text} {before folder : Folder} {journal : Journal}

/-- A folder without backups shows a journal that has not been cut yet. -/
theorem of_forall_not_isBackupOf {content : Bytes}
    (hfile : folder.find? name = some (.file content) ∨
      folder.find? name = none ∧ content = [])
    (hnew : ∀ n ∈ folder.names, ¬ isBackupOf name n) :
    Shows name folder ⟨[], content⟩ folder where
  backups := List.filter_eq_nil_iff.2 hnew
  contents := fun _ hpart => absurd hpart List.not_mem_nil
  file := hfile
  others := fun _ _ _ => rfl

/-- Changing the file changes nothing else. -/
theorem put (h : Shows name before journal folder) (content : Bytes) :
    Shows name before { journal with current := content } (folder.put name (.file content)) where
  backups := by
    refine Eq.trans ?_ h.backups
    by_cases hmem : name ∈ folder.names
    · rw [Folder.names_put_of_mem hmem]
    · rw [Folder.names_put_of_not_mem hmem, List.filter_append,
        List.filter_cons_of_neg (not_isBackupOf_self name), List.filter_nil, List.append_nil]
  contents := by
    intro part hpart
    rw [Folder.find?_put, if_neg (ne_of_isBackupOf (isBackupOf_backupName ..))]
    exact h.contents part hpart
  file := .inl (by rw [Folder.find?_put, if_pos rfl])
  others := by
    intro n hne hbackup
    rw [Folder.find?_put, if_neg hne]
    exact h.others n hne hbackup

theorem append_ensure_eq (h : Shows name before journal folder) (bytes : Bytes) :
    Log.append name bytes (ensure name folder) =
      folder.put name (.file (journal.current ++ bytes)) := by
  rcases h.file with hfile | ⟨hnone, hempty⟩
  · simp [ensure, Log.append, hfile]
  · simp [ensure, Log.append, hnone, hempty, Folder.find?_put, Folder.put_put]

/-- Writing at the end of the file, which is made if it is not there. -/
theorem append (h : Shows name before journal folder) (bytes : Bytes) :
    Shows name before (journal.append bytes) (Log.append name bytes (ensure name folder)) := by
  rw [h.append_ensure_eq]
  exact h.put _

/-- Every backup is a file. -/
theorem exists_part (h : Shows name before journal folder) {n : Text}
    (hn : n ∈ folder.names.filter (isBackupOf name)) :
    ∃ part ∈ journal.parts, backupName name part.1 = n ∧ folder.find? n = some (.file part.2) := by
  rw [h.backups, Journal.stamps, List.map_map] at hn
  obtain ⟨part, hpart, rfl⟩ := List.mem_map.1 hn
  exact ⟨part, hpart, rfl, h.contents part hpart⟩

/-- Without its file, a folder has only what was cut off. -/
theorem erase (h : Shows name before journal folder) :
    Shows name before { journal with current := [] } (folder.keepNames (· != name)) where
  backups := by
    rw [Folder.names_keepNames, filter_isBackupOf_filter_ne, h.backups]
    rfl
  contents := by
    intro part hpart
    have hne : (backupName name part.1 != name) = true := by
      simpa using ne_of_isBackupOf (isBackupOf_backupName name part.1)
    rw [Folder.find?_keepNames, if_pos hne]
    exact h.contents part hpart
  file := .inr ⟨by simp [Folder.find?_keepNames], rfl⟩
  others := by
    intro n hne hbackup
    rw [Folder.find?_keepNames, if_pos (by simpa using hne)]
    exact h.others n hne hbackup

/-- There is no backup with a new time. -/
theorem backupName_not_mem (h : Shows name before journal folder) {stamp : Text}
    (hnew : ∀ s ∈ journal.stamps, s ≠ stamp) : backupName name stamp ∉ folder.names := by
  intro hmem
  have hbackup := List.mem_filter.2 ⟨hmem, isBackupOf_backupName name stamp⟩
  rw [h.backups] at hbackup
  obtain ⟨s, hs, heq⟩ := List.mem_map.1 hbackup
  exact hnew s hs (backupName_injective heq)

/-- One more backup is the latest part, if its time is a new one. -/
theorem putBackup (h : Shows name before journal folder) {stamp : Text}
    (hnew : ∀ s ∈ journal.stamps, s ≠ stamp) (content : Bytes) :
    Shows name before { journal with parts := journal.parts ++ [(stamp, content)] }
      (folder.put (backupName name stamp) (.file content)) where
  backups := by
    rw [Folder.names_put_of_not_mem (h.backupName_not_mem hnew), List.filter_append, h.backups,
      List.filter_cons_of_pos (isBackupOf_backupName name stamp), List.filter_nil]
    simp [Journal.stamps]
  contents := by
    intro part hpart
    rw [Folder.find?_put]
    rcases List.mem_append.1 hpart with hpart | hpart
    · have hne : backupName name part.1 ≠ backupName name stamp :=
        fun heq => hnew part.1 (List.mem_map_of_mem hpart) (backupName_injective heq)
      rw [if_neg hne]
      exact h.contents part hpart
    · obtain rfl := List.mem_singleton.1 hpart
      rw [if_pos rfl]
  file := by
    rw [Folder.find?_put, if_neg (ne_of_isBackupOf (isBackupOf_backupName name stamp)).symm]
    exact h.file
  others := by
    intro n hne hbackup
    have hn : n ≠ backupName name stamp := by
      rintro rfl
      exact hbackup (isBackupOf_backupName name stamp)
    rw [Folder.find?_put, if_neg hn]
    exact h.others n hne hbackup

/-- Renaming the file makes it the latest backup, if its time is a new one. -/
theorem moveToBackup (h : Shows name before journal folder)
    (hfile : folder.find? name = some (.file journal.current)) {stamp : Text}
    (hnew : ∀ s ∈ journal.stamps, s ≠ stamp) :
    Shows name before (journal.rotate stamp) (Log.moveToBackup name stamp folder) := by
  rw [moveToBackup_eq hfile]
  exact h.erase.putBackup hnew journal.current

/-- Removing the oldest backups leaves the latest parts. -/
theorem prune (h : Shows name before journal folder)
    (hstamps : journal.stamps.Pairwise (· < ·)) (keep : Nat) :
    Shows name before (journal.latest keep)
      ((outdated keep name folder.names).foldl removeFile folder) := by
  have hsorted : (folder.names.filter (isBackupOf name)).Pairwise (· < ·) := by
    rw [h.backups, List.pairwise_map]
    exact hstamps.imp backupName_lt
  have hnodup : (folder.names.filter (isBackupOf name)).Nodup := hsorted.imp ne_of_lt
  have hlatest : (folder.names.filter (isBackupOf name)).rtake keep =
      (journal.latest keep).stamps.map (backupName name) := by
    rw [h.backups, Journal.stamps_latest, List.rtake, List.rtake, List.map_drop, List.length_map]
  have hold {n : Text} (hn : n ∈ outdated keep name folder.names) :
      n ∈ folder.names.filter (isBackupOf name) := by
    rw [outdated_eq hsorted, List.mem_reverse] at hn
    exact List.mem_of_mem_take hn
  have hpruned : (outdated keep name folder.names).foldl removeFile folder =
      folder.keepNames fun n => !(outdated keep name folder.names).contains n := by
    refine foldl_removeFile fun n hn inner => ?_
    obtain ⟨part, -, -, hfile⟩ := h.exists_part (hold hn)
    rw [hfile]
    simp
  have hkept {n : Text} (hn : n ∉ outdated keep name folder.names) :
      ((outdated keep name folder.names).foldl removeFile folder).find? n = folder.find? n := by
    rw [hpruned, Folder.find?_keepNames, if_pos (by simpa using hn)]
  have hnot {n : Text} (hn : ¬ isBackupOf name n) : n ∉ outdated keep name folder.names :=
    fun hmem => hn (List.mem_filter.1 (hold hmem)).2
  refine ⟨?_, ?_, ?_, ?_⟩
  · rw [hpruned, Folder.names_keepNames, List.filter_comm, outdated_eq hsorted,
      filter_not_contains_rdrop hnodup, hlatest]
  · intro part hpart
    have hmem : backupName name part.1 ∈ (journal.latest keep).stamps.map (backupName name) :=
      List.mem_map_of_mem (List.mem_map_of_mem hpart)
    have hnew : backupName name part.1 ∉ outdated keep name folder.names := by
      rw [outdated_eq hsorted, List.mem_reverse]
      rw [← hlatest] at hmem
      exact fun hmem' => List.disjoint_take_drop hnodup (Nat.le_refl _) hmem' hmem
    rw [hkept hnew]
    exact h.contents part (List.mem_of_mem_drop hpart)
  · rw [hkept (hnot (not_isBackupOf_self name))]
    exact h.file
  · intro n hne hbackup
    rw [hkept (hnot hbackup)]
    exact h.others n hne hbackup

/-- A rotation makes the file the latest backup and leaves only the latest ones. -/
theorem rotate {keep : Nat} (h : Shows name before (journal.latest keep) folder)
    (hfile : folder.find? name = some (.file journal.current)) {stamp : Text}
    (hstamps : (journal.rotate stamp).stamps.Pairwise (· < ·)) :
    Shows name before ((journal.rotate stamp).latest keep)
      (Log.rotate keep name stamp folder) := by
  have hsublist : ((journal.latest keep).rotate stamp).stamps.Sublist
      (journal.rotate stamp).stamps :=
    (((List.drop_sublist ..).append_right _).map _)
  have hlater := Journal.ne_of_mem_stamps_latest keep hstamps
  have hmoved := (h.moveToBackup hfile hlater).prune (hstamps.sublist hsublist) keep
  have hlatest : ((journal.latest keep).rotate stamp).latest keep =
      (journal.rotate stamp).latest keep := by
    simp only [Journal.latest, Journal.rotate, rtake_rtake_concat]
  rw [← hlatest]
  exact hmoved

/-- The name of the file is not that of a folder. -/
theorem find?_ne_folder (h : Shows name before journal folder) (inner : List (Text × Node)) :
    folder.find? name ≠ some (.folder inner) := by
  rcases h.file with hfile | ⟨hnone, -⟩
  · simp [hfile]
  · simp [hnone]

/-- The file is there unless it is empty. -/
theorem find?_eq_file (h : Shows name before journal folder) {n : Nat}
    (hlong : n < journal.current.length) :
    folder.find? name = some (.file journal.current) := by
  refine h.file.resolve_right ?_
  rintro ⟨-, hempty⟩
  rw [hempty] at hlong
  exact absurd hlong (Nat.not_lt_zero n)

/-- The folders inside are the same while the journal goes on. -/
theorem find?_eq_folder {folder' : Folder} {journal' : Journal}
    (h : Shows name before journal folder) (h' : Shows name before journal' folder') {n : Text}
    {inner : List (Text × Node)} (hn : folder.find? n = some (.folder inner)) :
    folder'.find? n = some (.folder inner) := by
  have hne : n ≠ name := by
    rintro rfl
    exact h.find?_ne_folder inner hn
  have hbackup : ¬ isBackupOf name n := by
    intro hbackup
    have hmem := Folder.mem_names_of_find?_eq hn
    obtain ⟨part, -, -, hpart⟩ := h.exists_part (List.mem_filter.2 ⟨hmem, hbackup⟩)
    rw [hn] at hpart
    cases hpart
  rw [h'.others n hne hbackup, ← h.others n hne hbackup, hn]

end Shows

/-! ## What a folder has of a log -/

/-- The backups of a file in a folder, the oldest first. -/
def backups (name : Text) (folder : Folder) : List Text :=
  (folder.names.filter (isBackupOf name)).mergeSort fun a b => sortsBehind b a

/-- The content of a file, which is empty if the file is not there. -/
def contentIn (folder : Folder) (name : Text) : Bytes :=
  match folder.find? name with
  | some (.file content) => content
  | _ => []

/-- The content of all backups of a file, the oldest first, and of the file itself. -/
def recorded (name : Text) (folder : Folder) : Bytes :=
  ((backups name folder).map (contentIn folder)).flatten ++ contentIn folder name

namespace Shows

variable {name : Text} {before folder : Folder} {journal : Journal}

theorem backups_eq (h : Shows name before journal folder)
    (hstamps : journal.stamps.Pairwise (· < ·)) :
    Log.backups name folder = journal.stamps.map (backupName name) := by
  rw [Log.backups, h.backups]
  refine List.mergeSort_of_pairwise ?_
  rw [List.pairwise_map]
  exact hstamps.imp fun hlt => sortsBehind_iff.2 (backupName_lt hlt).asymm

theorem contentIn_eq (h : Shows name before journal folder) :
    contentIn folder name = journal.current := by
  rcases h.file with hfile | ⟨hnone, hempty⟩
  · rw [contentIn, hfile]
  · rw [contentIn, hnone, hempty]

/-- A folder has all that is in the journal that it shows. -/
theorem recorded_eq (h : Shows name before journal folder)
    (hstamps : journal.stamps.Pairwise (· < ·)) :
    recorded name folder = journal.bytes := by
  have hparts : journal.parts.map (fun part => contentIn folder (backupName name part.1)) =
      journal.parts.map Prod.snd := by
    refine List.map_congr_left fun part hpart => ?_
    rw [contentIn, h.contents part hpart]
  rw [recorded, h.backups_eq hstamps, h.contentIn_eq, Journal.stamps, List.map_map, List.map_map,
    Journal.bytes, ← hparts]
  rfl

end Shows

end EditorKit.Log
