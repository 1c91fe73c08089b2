import EditorKit.Proofs.Log.Writing

/-!
# What a rotation removes

A rotation removes what sorts before the latest backups. It takes every name for that of a backup
that starts like one, whatever follows, so other files in the folder of a log can be removed, or be
kept in place of the backup that has just been made.

* `mem_outdated_iff` says which names are too old, and `find?_rotate` what a rotation leaves;
* `PrunesBackups` is what a rotation is for;
* `rotateFile_prunes` says when it does that, and what else it removes if it does not.
-/

namespace EditorKit

/-- Whether something is a folder. -/
def Node.isFolder : Node → Bool
  | .file _ => false
  | .folder _ => true

namespace Log

/-! ## Times -/

/-- A time as it stands in the name of a backup: year, month, day, hour, minute, second and
millisecond in digits. -/
structure IsStamp (stamp : Text) : Prop where
  length_eq : stamp.length = 17
  isDigits : stamp.all Char.isDigit

/-- Whether a name is that of a backup with its time. -/
def IsStamped (name other : Text) : Prop := ∃ stamp, IsStamp stamp ∧ other = backupName name stamp

/-- The number of names that look like backups of a file and sort behind `other`. -/
def countLater (name : Text) (names : List Text) (other : Text) : Nat :=
  names.countP fun n => isBackupOf name n && other < n

/-! ## Names that are too old -/

/-- In descending order, the elements from a place on have at least so many before them. -/
theorem mem_drop_iff_of_pairwise {names : List Text} (h : names.Pairwise (· > ·)) {keep : Nat}
    {n : Text} : n ∈ names.drop keep ↔ n ∈ names ∧ keep ≤ names.countP (n < ·) := by
  induction names generalizing keep with
  | nil => simp
  | cons first names ih =>
    obtain ⟨hfirst, hnames⟩ := List.pairwise_cons.1 h
    cases keep with
    | zero => simp
    | succ keep =>
      rw [List.drop_succ_cons, ih hnames, List.mem_cons, List.countP_cons]
      by_cases hn : n ∈ names
      · simp [hn, hfirst n hn]
      · -- The first one has nothing before it, so no place beyond the start is its own.
        have hnone : names.countP (first < ·) = 0 := by
          rw [List.countP_eq_zero]
          exact fun m hm => by simpa using (hfirst m hm).le
        simp only [hn, false_and, or_false, false_iff, not_and, not_le]
        rintro rfl
        simp [hnone]

theorem mem_outdated_iff {keep : Nat} {name : Text} {names : List Text} (h : names.Nodup)
    {n : Text} : n ∈ outdated keep name names ↔
      n ∈ names ∧ isBackupOf name n ∧ keep ≤ countLater name names n := by
  have hperm := List.mergeSort_perm (names.filter (isBackupOf name)) sortsBehind
  rw [outdated, mem_drop_iff_of_pairwise (pairwise_mergeSort_sortsBehind (h.filter _)),
    hperm.mem_iff, hperm.countP_eq, List.mem_filter, and_assoc, List.countP_filter, countLater]
  simp only [Bool.and_comm]

/-! ## One folder -/

section Folder

variable {folder : Folder} {name stamp : Text} {content : Bytes} {keep : Nat}

theorem find?_removeFile (folder : Folder) (name n : Text) :
    (removeFile folder name).find? n =
      if n = name then (folder.find? n).filter Node.isFolder else folder.find? n := by
  have herase := Folder.find?_keepNames (· != name) folder n
  rw [removeFile]
  by_cases heq : n = name
  · subst heq
    rw [if_pos rfl]
    cases hfound : folder.find? n with
    | none => exact hfound
    | some node =>
      cases node with
      | file content => exact herase.trans (if_neg (by simp))
      | folder inner => exact hfound
  · rw [if_neg heq]
    split
    · exact herase.trans (if_pos (by simpa using heq))
    · rfl

/-- Of the names that are removed only folders stay. -/
theorem find?_foldl_removeFile (folder : Folder) (names : List Text) (n : Text) :
    (names.foldl removeFile folder).find? n =
      if n ∈ names then (folder.find? n).filter Node.isFolder else folder.find? n := by
  induction names generalizing folder with
  | nil => simp
  | cons name names ih =>
    rw [List.foldl_cons, ih, find?_removeFile]
    by_cases heq : n = name <;> by_cases hmem : n ∈ names <;> simp [heq, hmem]

theorem find?_moveToBackup (hfile : folder.find? name = some (.file content)) (n : Text) :
    (moveToBackup name stamp folder).find? n =
      if n = backupName name stamp then some (.file content)
      else if n = name then none else folder.find? n := by
  rw [moveToBackup_eq hfile, Folder.find?_put, Folder.find?_keepNames]
  by_cases heq : n = name <;> simp [heq]

/-- Renaming the file takes its name away and adds that of the backup. -/
theorem names_moveToBackup_perm (hfile : folder.find? name = some (.file content))
    (hnew : backupName name stamp ∉ folder.names) :
    (moveToBackup name stamp folder).names.Perm
      (backupName name stamp :: folder.names.filter (· != name)) := by
  have hmissing : backupName name stamp ∉ (folder.keepNames (· != name)).names := by
    rw [Folder.names_keepNames]
    exact fun hmem => hnew (List.mem_of_mem_filter hmem)
  rw [moveToBackup_eq hfile, Folder.names_put_of_not_mem hmissing, Folder.names_keepNames]
  exact List.perm_append_singleton ..

/-- The name of the file itself does not count. -/
theorem countLater_filter_ne (name : Text) (names : List Text) (n : Text) :
    countLater name (names.filter (· != name)) n = countLater name names n := by
  rw [countLater, countLater, List.countP_filter]
  refine List.countP_congr fun m _ => ?_
  simp only [Bool.and_eq_true, bne_iff_ne, and_iff_left_iff_imp]
  exact fun h => ne_of_isBackupOf h.1

/-- What a rotation leaves. Of the files that look like backups only those with few enough such
names behind them stay. -/
theorem find?_rotate (hnodup : folder.names.Nodup)
    (hfile : folder.find? name = some (.file content))
    (hnew : backupName name stamp ∉ folder.names) (n : Text) :
    (rotate keep name stamp folder).find? n =
      if isBackupOf name n ∧ keep ≤ countLater name (backupName name stamp :: folder.names) n then
        ((moveToBackup name stamp folder).find? n).filter Node.isFolder
      else (moveToBackup name stamp folder).find? n := by
  have hperm := names_moveToBackup_perm hfile hnew
  have hlater : countLater name (moveToBackup name stamp folder).names n =
      countLater name (backupName name stamp :: folder.names) n := by
    have hrest := countLater_filter_ne name folder.names n
    rw [countLater] at hrest ⊢
    rw [hperm.countP_eq, List.countP_cons, hrest]
    exact (List.countP_cons ..).symm
  have hdistinct : (moveToBackup name stamp folder).names.Nodup :=
    hperm.nodup_iff.2 (List.nodup_cons.2
      ⟨fun hmem => hnew (List.mem_of_mem_filter hmem), hnodup.filter _⟩)
  rw [rotate, find?_foldl_removeFile]
  -- A name that is not there is not outdated either, and nothing is found by it.
  by_cases hmem : n ∈ (moveToBackup name stamp folder).names
  · simp only [mem_outdated_iff hdistinct, hlater, hmem, true_and]
  · rw [Folder.find?_eq_none_iff.2 hmem]
    simp

end Folder

/-! ## What a rotation is for -/

/-- Whether a rotation has done to a folder what it is for: the file is there as a backup, and of
the other files none has gone but backups with their times. -/
structure PrunesBackups (name stamp : Text) (content : Bytes) (before after : Folder) : Prop where
  latest : after.find? (backupName name stamp) = some (.file content)
  stamped : ∀ n bytes, n ≠ name → before.find? n = some (.file bytes) → after.find? n = none →
    IsStamped name n

/-- In a folder where all that looks like a backup has a time, nothing sorts behind the latest
time. -/
theorem countLater_eq_zero {name stamp : Text} {names : List Text}
    (hlater : ∀ s, IsStamp s → backupName name s ∈ names → s < stamp)
    (h : ∀ n ∈ names, isBackupOf name n → IsStamped name n) :
    countLater name names (backupName name stamp) = 0 := by
  rw [countLater, List.countP_eq_zero]
  intro n hn
  rw [Bool.and_eq_true, decide_eq_true_eq, not_and, not_lt]
  intro hbackup
  obtain ⟨s, hs, rfl⟩ := h n hn hbackup
  exact (backupName_lt (hlater s hs hn)).le

section Rotate

variable {folder : Folder} {name stamp : Text} {content : Bytes} {keep : Nat}
  (hnodup : folder.names.Nodup) (hfile : folder.find? name = some (.file content))
  (hnew : backupName name stamp ∉ folder.names)

include hnodup hfile hnew

/-- The new backup stays exactly if few enough names sort behind it. -/
theorem find?_rotate_backupName :
    (rotate keep name stamp folder).find? (backupName name stamp) =
      if keep ≤ countLater name folder.names (backupName name stamp) then none
      else some (.file content) := by
  have hself : countLater name (backupName name stamp :: folder.names) (backupName name stamp) =
      countLater name folder.names (backupName name stamp) := by
    rw [countLater, countLater, List.countP_cons_of_neg (by simp)]
  rw [find?_rotate hnodup hfile hnew, find?_moveToBackup hfile, if_pos rfl, hself]
  simp only [isBackupOf_backupName, true_and]
  rfl

theorem find?_rotate_of_ne {n : Text} (hname : n ≠ name) (hbackup : n ≠ backupName name stamp) :
    (rotate keep name stamp folder).find? n =
      if isBackupOf name n ∧ keep ≤ countLater name (backupName name stamp :: folder.names) n then
        (folder.find? n).filter Node.isFolder
      else folder.find? n := by
  rw [find?_rotate hnodup hfile hnew, find?_moveToBackup hfile, if_neg hbackup, if_neg hname]

/-- Another file goes exactly if its name looks like that of a backup and is not among the last of
these. -/
theorem find?_rotate_eq_none_iff {n : Text} {bytes : Bytes} (hname : n ≠ name)
    (hbytes : folder.find? n = some (.file bytes)) :
    (rotate keep name stamp folder).find? n = none ↔ isBackupOf name n ∧
      keep ≤ countLater name (backupName name stamp :: folder.names) n := by
  have hbackup : n ≠ backupName name stamp := by
    rintro rfl
    exact hnew (Folder.mem_names_of_find?_eq hbytes)
  rw [find?_rotate_of_ne hnodup hfile hnew hname hbackup, hbytes]
  split
  · exact iff_of_true rfl ‹_›
  · exact iff_of_false (Option.some_ne_none _) ‹_›

theorem prunesBackups_rotate_iff (keep : Nat) :
    PrunesBackups name stamp content folder (rotate keep name stamp folder) ↔
      countLater name folder.names (backupName name stamp) < keep ∧
      ∀ n bytes, folder.find? n = some (.file bytes) → isBackupOf name n → ¬ IsStamped name n →
        countLater name (backupName name stamp :: folder.names) n < keep := by
  constructor
  · intro h
    refine ⟨?_, fun n bytes hbytes hbackup hstamped => ?_⟩
    · by_contra hmany
      have hlatest := h.latest
      rw [find?_rotate_backupName hnodup hfile hnew, if_pos (not_lt.1 hmany)] at hlatest
      cases hlatest
    · by_contra hmany
      have hne := ne_of_isBackupOf hbackup
      have hgone := (find?_rotate_eq_none_iff hnodup hfile hnew hne hbytes).2
        ⟨hbackup, not_lt.1 hmany⟩
      exact hstamped (h.stamped n bytes hne hbytes hgone)
  · rintro ⟨hfew, hothers⟩
    refine ⟨?_, fun n bytes hne hbytes hgone => ?_⟩
    · rw [find?_rotate_backupName hnodup hfile hnew, if_neg (not_le.2 hfew)]
    · obtain ⟨hbackup, hmany⟩ := (find?_rotate_eq_none_iff hnodup hfile hnew hne hbytes).1 hgone
      by_contra hstamped
      exact absurd (hothers n bytes hbytes hbackup hstamped) (not_lt.2 hmany)

end Rotate

/-- **What a rotation removes.** In a folder that has no name twice, the file becomes a backup with
the time of the rotation, which is later than those of the other backups. Another file goes exactly
if its name looks like that of a backup and at least as many such names sort behind it as backups
are kept, and everything else stays as it was. So the rotation does what it is for exactly if
neither the new backup has so many names behind it nor any file that looks like a backup but has no
time. That is always so if all names that look like backups have their times. -/
theorem rotateFile_prunes (log : RotatingLog) {top folder : Folder} {dir : List Text}
    {name stamp : Text} {content : Bytes} (hplace : LeadsTo top log.path dir name folder)
    (hnodup : folder.names.Nodup) (hfile : folder.find? name = some (.file content))
    (hlimit : (backupName name stamp).byteSize ≤ Path.nameLimit) (hstamp : IsStamp stamp)
    (hlater : ∀ s, IsStamp s → backupName name s ∈ folder.names → s < stamp) :
    ∃ after, log.rotateFile top stamp =
        (.ok (), { log with isOpen := false }, top.modifyAt (fun _ => after) dir) ∧
      (∀ n bytes, n ≠ name → folder.find? n = some (.file bytes) →
        (after.find? n = none ↔ isBackupOf name n ∧
          log.maxBackups ≤ countLater name (backupName name stamp :: folder.names) n)) ∧
      (∀ n, n ≠ name → n ≠ backupName name stamp → after.find? n = folder.find? n ∨
        after.find? n = none ∧ ∃ bytes, folder.find? n = some (.file bytes)) ∧
      (PrunesBackups name stamp content folder after ↔
        countLater name folder.names (backupName name stamp) < log.maxBackups ∧
        ∀ n bytes, folder.find? n = some (.file bytes) → isBackupOf name n →
          ¬ IsStamped name n →
          countLater name (backupName name stamp :: folder.names) n < log.maxBackups) ∧
      (1 ≤ log.maxBackups → (∀ n ∈ folder.names, isBackupOf name n → IsStamped name n) →
        PrunesBackups name stamp content folder after) := by
  have hnew : backupName name stamp ∉ folder.names :=
    fun hmem => lt_irrefl _ (hlater stamp hstamp hmem)
  have hiff := prunesBackups_rotate_iff hnodup hfile hnew log.maxBackups
  refine ⟨rotate log.maxBackups name stamp folder, ?_, fun n bytes hname =>
    find?_rotate_eq_none_iff hnodup hfile hnew hname, fun n hname hbackup => ?_, hiff,
    fun hkeep hstamped => hiff.2 ⟨?_, fun n bytes hbytes hbackup hnot => ?_⟩⟩
  · rw [hplace.rotateFile_eq rfl (renameFault?_of_not_mem hnew), if_neg (not_lt.2 hlimit)]
  · rw [find?_rotate_of_ne hnodup hfile hnew hname hbackup]
    cases folder.find? n with
    | none => exact .inl (by split <;> rfl)
    | some node =>
      cases node with
      | folder inner => exact .inl (by split <;> rfl)
      | file bytes =>
        split
        · exact .inr ⟨rfl, bytes, rfl⟩
        · exact .inl rfl
  · rw [countLater_eq_zero hlater hstamped]
    exact hkeep
  · exact absurd (hstamped n (Folder.mem_names_of_find?_eq hbytes) hbackup) hnot

/-- The new backup is the only one that is kept of two, and other files do not matter. -/
theorem rotateFile_prunes_old_backup :
    ∃ after, (RotatingLog.ofPath "logs/app.log".toList 1 1).rotateFile
        [("logs".toList, .folder [("app.log".toList, .file [1, 2]),
          ("app.log.20230101000000000".toList, .file [3]), ("notes".toList, .file [4])])]
        "20240101000000000".toList =
      (.ok (), .ofPath "logs/app.log".toList 1 1, [("logs".toList, .folder after)]) ∧
      Folder.find? after "app.log.20240101000000000".toList = some (.file [1, 2]) ∧
      Folder.find? after "app.log.20230101000000000".toList = none ∧
      Folder.find? after "notes".toList = some (.file [4]) := by
  set folder : Folder := [("app.log".toList, .file [1, 2]),
    ("app.log.20230101000000000".toList, .file [3]), ("notes".toList, .file [4])] with hfolder
  have hplace : LeadsTo [("logs".toList, .folder folder)] "logs/app.log".toList ["logs".toList]
      "app.log".toList folder :=
    ⟨by decide, by decide, by decide, by decide, ⟨_, rfl⟩, rfl⟩
  have hbackups : ∀ n ∈ folder.names, isBackupOf "app.log".toList n →
      n = backupName "app.log".toList "20230101000000000".toList := by
    decide
  have hlater (s : Text) (_ : IsStamp s) (hs : backupName "app.log".toList s ∈ folder.names) :
      s < "20240101000000000".toList := by
    rw [backupName_injective (hbackups _ hs (isBackupOf_backupName ..))]
    decide
  have hold : IsStamp "20230101000000000".toList := ⟨by decide, by decide⟩
  obtain ⟨after, hrotate, hgone, hkept, -, hprunes⟩ :=
    rotateFile_prunes (.ofPath "logs/app.log".toList 1 1) hplace (by decide) rfl (by decide)
      ⟨by decide, by decide⟩ hlater
  have hlatest := (hprunes (Nat.le_refl 1) fun n hn hbackup =>
    ⟨_, hold, hbackups n hn hbackup⟩).latest
  have hnotes : Folder.find? after "notes".toList ≠ none := by
    rw [Ne, hgone "notes".toList [4] (by decide) rfl]
    exact fun h => absurd h.1 (by decide)
  refine ⟨after, hrotate, hlatest, ?_, ?_⟩
  · exact (hgone "app.log.20230101000000000".toList [3] (by decide) rfl).2
      ⟨by decide, by decide +kernel⟩
  · exact (hkept "notes".toList (by decide) (by decide)).resolve_right fun h => hnotes h.1

/-- Of other names, one behind the new backup takes its place, and one before it is removed. -/
theorem rotateFile_prunes_other_names :
    ∃ before after : Folder,
      LeadsTo before "app.log".toList [] "app.log".toList before ∧
      before.names.Nodup ∧
      before.find? "app.log".toList = some (.file [1, 2]) ∧
      IsStamp "20240101000000000".toList ∧
      (∀ s, IsStamp s → backupName "app.log".toList s ∈ before.names →
        s < "20240101000000000".toList) ∧
      (RotatingLog.ofPath "app.log".toList 1 1).rotateFile before "20240101000000000".toList =
        (.ok (), .ofPath "app.log".toList 1 1, after) ∧
      after.find? "app.log.20240101000000000".toList = none ∧
      before.find? "app.log.1".toList = some (.file [3]) ∧
      after.find? "app.log.1".toList = none ∧
      ¬ IsStamped "app.log".toList "app.log.1".toList ∧
      ¬ PrunesBackups "app.log".toList "20240101000000000".toList [1, 2] before after := by
  set before : Folder := [("app.log".toList, .file [1, 2]), ("app.log.1".toList, .file [3]),
    ("app.log.zzz".toList, .file [4])] with hbefore
  have hrotate : (RotatingLog.ofPath "app.log".toList 1 1).rotateFile before
        "20240101000000000".toList =
      (.ok (), .ofPath "app.log".toList 1 1, [("app.log.zzz".toList, .file [4])]) := by
    cbv
  have hstamped : ∀ n ∈ before.names, ¬ IsStamped "app.log".toList n := by
    rintro n hn ⟨stamp, hstamp, rfl⟩
    have hlengths : ∀ n ∈ before.names, n.length ≠ 25 := by decide
    refine hlengths _ hn ?_
    rw [backupName, List.length_append, List.length_cons, hstamp.length_eq]
    rfl
  have hone := hstamped "app.log.1".toList (by decide)
  refine ⟨before, _, ⟨by decide, by decide, by decide, by decide, ⟨_, rfl⟩, rfl⟩, by decide, rfl,
    ⟨by decide, by decide⟩, fun stamp hstamp hmem => ?_, hrotate, rfl, rfl, rfl, hone,
    fun h => ?_⟩
  · exact absurd ⟨stamp, hstamp, rfl⟩ (hstamped _ hmem)
  · cases h.latest

end Log
end EditorKit
