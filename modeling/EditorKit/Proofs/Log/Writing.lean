import EditorKit.Proofs.Log.Rotating
import Mathlib

/-!
# Writing to a rotating log

A log is written to again and again, and rotates in between. Its folder then has the end of all that
was written, and nothing is lost before more rotations have taken place than backups are kept.

* `LeadsTo` says which name in which folder the path of a log is for; the lemmas on it say what the
  operations of a log do to this folder;
* `Session` is a log that is written to, with the times of its rotations. `Session.Follows` relates
  it to the journal of all that is written: `Session.Follows.write` is one step, and
  `Session.Follows.writes` a whole run;
* `Session.kept_of_writes` says what the folder has after any run;
* `Session.exists_writes` says that writing works as long as the names of the backups are possible.
-/

namespace EditorKit.Log

/-- Whether a path is for a name in a folder, which `dir` leads to from the top. -/
structure LeadsTo (top : Folder) (path : Text) (dir : List Text) (name : Text) (folder : Folder) :
    Prop where
  read : Path.read path = .ok (.ofText path)
  fileName : (Path.ofText path).fileName = some name
  endsInName : (Path.ofText path).endsInName
  endsInSlash : (Path.ofText path).endsInSlash = false
  place : ∃ node?, top.locate (.ofText path) = .ok (.inside (dir ++ [name]), node?)
  folder : top.nodeAt? dir = some (.folder folder)

namespace LeadsTo

variable {top folder folder' : Folder} {path name : Text} {dir : List Text} {log : RotatingLog}

/-- A path stays for the same name as long as the folders in its folder do. -/
theorem replace (h : LeadsTo top path dir name folder)
    (hkeep : ∀ n inner, folder.find? n = some (.folder inner) →
      folder'.find? n = some (.folder inner)) :
    LeadsTo (top.modifyAt (fun _ => folder') dir) path dir name folder' where
  read := h.read
  fileName := h.fileName
  endsInName := h.endsInName
  endsInSlash := h.endsInSlash
  place := by
    obtain ⟨node?, hplace⟩ := h.place
    exact ⟨_, Folder.locate_eq_ok_of_keepsFolders
      (Folder.keepsFolders_modifyAt h.folder hkeep) hplace⟩
  folder := Folder.nodeAt?_modifyAt h.folder

theorem locate_eq (h : LeadsTo top path dir name folder) :
    top.locate (.ofText path) = .ok (.inside (dir ++ [name]), folder.find? name) := by
  obtain ⟨node?, hplace⟩ := h.place
  have hnode : top.at? false (.inside (dir ++ [name])) = folder.find? name := by
    rw [Folder.at?, Folder.nodeAt?_append h.folder, Folder.nodeAt?_singleton]
  rw [hplace, ← hnode, (Folder.locate_eq_ok_iff.1 hplace).2]

theorem changeAt_eq (h : LeadsTo top path dir name folder) (change : Text → Folder → Folder) :
    RotatingLog.changeAt (.inside (dir ++ [name])) top change =
      top.modifyAt (fun _ => change name folder) dir := by
  rw [RotatingLog.changeAt, List.getLastD_concat, List.dropLast_concat]
  exact Folder.modifyAt_congr h.folder rfl

theorem holderAt_eq (h : LeadsTo top path dir name folder) :
    RotatingLog.holderAt (.inside (dir ++ [name])) top = folder := by
  rw [RotatingLog.holderAt, List.dropLast_concat, h.folder]

/-! ### The operations of a log -/

theorem isFull_eq_of_file (h : LeadsTo top path dir name folder) (hpath : log.path = path)
    {content : Bytes} (hfile : folder.find? name = some (.file content)) :
    log.isFull top = decide (log.maxBytes < content.length) := by
  have hstat : top.stat path = .ok (.file content) := by
    simp [Folder.stat, h.read, bind, Except.bind, h.locate_eq, hfile, h.endsInSlash, pure,
      Except.pure]
  rw [RotatingLog.isFull, hpath, hstat]
  rfl

theorem isFull_eq_of_none (h : LeadsTo top path dir name folder) (hpath : log.path = path)
    (hfile : folder.find? name = none) : log.isFull top = false := by
  have hstat : top.stat path = .error .notFound := by
    simp [Folder.stat, h.read, bind, Except.bind, h.locate_eq, hfile, throw, throwThe,
      MonadExceptOf.throw]
  rw [RotatingLog.isFull, hpath, hstat]

/-- Only a name that is too long stops a rotation to a backup whose name is free. -/
theorem rotateFile_eq (h : LeadsTo top path dir name folder) (hpath : log.path = path)
    {stamp : Text} (hfree : renameFault? name stamp folder = none) :
    log.rotateFile top stamp =
      if Path.nameLimit < (backupName name stamp).byteSize then
        (.error .nameTooLong, { log with isOpen := false }, top)
      else
        (.ok (), { log with isOpen := false },
          top.modifyAt (fun _ => rotate log.maxBackups name stamp folder) dir) := by
  rw [RotatingLog.rotateFile]
  simp only [hpath, h.fileName, h.locate_eq, h.endsInName, h.changeAt_eq, h.holderAt_eq, hfree]
  rfl

theorem openPlace_eq (h : LeadsTo top path dir name folder)
    (hfile : ∀ inner, folder.find? name ≠ some (.folder inner)) :
    top.openPlace path = .ok (.inside (dir ++ [name])) := by
  simp only [Folder.openPlace, h.read, bind, Except.bind, h.endsInSlash, Bool.and_false,
    h.locate_eq]
  match hfound : folder.find? name with
  | none => rfl
  | some (.file content) => rfl
  | some (.folder inner) => exact absurd hfound (hfile inner)

theorem appendFile_eq (h : LeadsTo top path dir name folder) (hpath : log.path = path)
    (bytes : Bytes) :
    log.appendFile top bytes = top.modifyAt (fun _ => append name bytes folder) dir := by
  rw [RotatingLog.appendFile, hpath, h.locate_eq]
  exact h.changeAt_eq _

/-- Opening the file of a log makes it if it is not there. -/
theorem openFile_eq (h : LeadsTo top path dir name folder) (hpath : log.path = path)
    (hfile : ∀ inner, folder.find? name ≠ some (.folder inner))
    (hopen : log.isOpen → (folder.find? name).isSome) :
    log.openFile top =
      .ok ({ log with isOpen := true }, top.modifyAt (fun _ => ensure name folder) dir) := by
  rw [RotatingLog.openFile]
  by_cases hlog : log.isOpen
  · have hsame : top.modifyAt (fun _ => ensure name folder) dir = top := by
      rw [ensure, if_pos (hopen hlog), Folder.modifyAt_eq_self h.folder]
    have hlog' : { log with isOpen := true } = log := by rw [← hlog]
    rw [if_pos hlog, hsame, hlog']
    rfl
  · rw [if_neg hlog, hpath, h.openPlace_eq hfile]
    simp only [bind, Except.bind, h.changeAt_eq]
    rfl

/-- Writing at the end of the file that has just been opened. -/
theorem appendFile_ensure_eq (h : LeadsTo top path dir name folder) (hpath : log.path = path)
    (bytes : Bytes) :
    log.appendFile (top.modifyAt (fun _ => ensure name folder) dir) bytes =
      top.modifyAt (fun _ => append name bytes (ensure name folder)) dir := by
  have hkeep (n : Text) (inner : List (Text × Node)) (hn : folder.find? n = some (.folder inner)) :
      (ensure name folder).find? n = some (.folder inner) := by
    rw [ensure]
    split
    · exact hn
    · rename_i hnone
      have hne : n ≠ name := by
        rintro rfl
        rw [hn] at hnone
        exact hnone rfl
      rw [Folder.find?_put, if_neg hne, hn]
  rw [(h.replace hkeep).appendFile_eq hpath, Folder.modifyAt_modifyAt]
  rfl

theorem write_eq_of_not_isFull (h : LeadsTo top path dir name folder) (hpath : log.path = path)
    (hfile : ∀ inner, folder.find? name ≠ some (.folder inner))
    (hopen : log.isOpen → (folder.find? name).isSome) (hfull : log.isFull top = false)
    (stamp : Text) (bytes : Bytes) :
    log.write top stamp bytes = (.ok bytes.length, { log with isOpen := true },
      top.modifyAt (fun _ => append name bytes (ensure name folder)) dir) := by
  have hpath' : ({ log with isOpen := true } : RotatingLog).path = path := hpath
  simp only [RotatingLog.write, hfull, Bool.false_eq_true, if_false,
    h.openFile_eq hpath hfile hopen, h.appendFile_ensure_eq hpath']

theorem write_eq_of_isFull (h : LeadsTo top path dir name folder) (hpath : log.path = path)
    {stamp : Text} (hfree : renameFault? name stamp folder = none)
    {rotated : Folder} (hrotated : rotate log.maxBackups name stamp folder = rotated)
    (hkeep : ∀ n inner, folder.find? n = some (.folder inner) →
      rotated.find? n = some (.folder inner))
    (hfile : ∀ inner, rotated.find? name ≠ some (.folder inner)) (hfull : log.isFull top)
    (bytes : Bytes) :
    log.write top stamp bytes =
      if Path.nameLimit < (backupName name stamp).byteSize then
        (.error .nameTooLong, { log with isOpen := false }, top)
      else
        (.ok bytes.length, { log with isOpen := true },
          top.modifyAt (fun _ => append name bytes (ensure name rotated)) dir) := by
  have hplace := h.replace hkeep
  have hclosed : ({ log with isOpen := false } : RotatingLog).path = path := hpath
  have hopened : ({ log with isOpen := true } : RotatingLog).path = path := hpath
  rw [RotatingLog.write, if_pos hfull, h.rotateFile_eq hpath hfree, hrotated]
  by_cases hlong : Path.nameLimit < (backupName name stamp).byteSize
  · rw [if_pos hlong, if_pos hlong]
  · rw [if_neg hlong, if_neg hlong]
    simp only [hplace.openFile_eq hclosed hfile (by simp)]
    rw [hplace.appendFile_ensure_eq hopened, Folder.modifyAt_modifyAt]
    rfl

end LeadsTo

/-- A rotation that fails leaves all folders as they were. -/
theorem RotatingLog.eq_of_rotateFile_eq_error {log log' : RotatingLog} {top top' : Folder}
    {stamp : Text} {fault : Fault} (h : log.rotateFile top stamp = (.error fault, log', top')) :
    top' = top := by
  unfold rotateFile at h
  dsimp only at h
  split at h
  · cases h
    rfl
  · cases h
    rfl
  · split at h
    · cases h
      rfl
    · split at h
      · cases h
        rfl
      · split at h
        · cases h
          rfl
        · cases h

theorem RotatingLog.isOpen_of_openFile {log log' : RotatingLog} {top top' : Folder}
    (h : log.openFile top = .ok (log', top')) : log'.isOpen := by
  rw [openFile] at h
  split at h
  · cases h
    assumption
  · cases hplace : top.openPlace log.path with
    | error fault =>
      rw [hplace] at h
      cases h
    | ok spot =>
      rw [hplace] at h
      cases h
      rfl

/-! ## Sessions -/

/-- A log that is written to, the folders, and the times of the rotations. -/
structure Session where
  log : RotatingLog
  top : Folder
  rotations : List Text

namespace Session

/-- A session in which nothing has been written yet. -/
def start (log : RotatingLog) (top : Folder) : Session := ⟨log, top, []⟩

/-- Writes bytes to the log, at a time. -/
def write (session : Session) (entry : Text × Bytes) : Except Fault Session :=
  match session.log.write session.top entry.1 entry.2 with
  | (.error fault, _) => .error fault
  | (.ok _, log, top) =>
    .ok ⟨log, top, session.rotations ++ if session.log.isFull session.top then [entry.1] else []⟩

/-- Writes one thing after the other, up to the first fault. -/
def writes (session : Session) (entries : List (Text × Bytes)) : Except Fault Session :=
  entries.foldlM write session

theorem rotations_write {session session' : Session} {entry : Text × Bytes}
    (h : session.write entry = .ok session') :
    session'.rotations =
      session.rotations ++ if session.log.isFull session.top then [entry.1] else [] := by
  rw [write] at h
  split at h
  · cases h
  · cases h
    rfl

theorem isOpen_of_write {session session' : Session} {entry : Text × Bytes}
    (h : session.write entry = .ok session') : session'.log.isOpen := by
  rw [write] at h
  split at h
  · cases h
  · rename_i hwrite
    cases h
    rw [RotatingLog.write] at hwrite
    split at hwrite
    · cases hwrite
    · split at hwrite
      · cases hwrite
      · rename_i hopen
        cases hwrite
        exact RotatingLog.isOpen_of_openFile hopen

theorem writes_concat_eq_ok_iff {session session' : Session} {entries : List (Text × Bytes)}
    {entry : Text × Bytes} :
    session.writes (entries ++ [entry]) = .ok session' ↔
      ∃ middle, session.writes entries = .ok middle ∧ middle.write entry = .ok session' := by
  simp only [writes, List.foldlM_append, List.foldlM_cons, List.foldlM_nil, bind_pure]
  cases entries.foldlM write session with
  | error fault => simp [bind, Except.bind]
  | ok middle => simp [bind, Except.bind]

/-- Whether a session with a log shows a journal of which only the latest parts are kept. What was
in the folder `before` is there still, and an open file has not gone away. -/
structure Follows (log : RotatingLog) (top : Folder) (dir : List Text) (name : Text)
    (before : Folder) (journal : Journal) (session : Session) : Prop where
  path : session.log.path = log.path
  maxBytes : session.log.maxBytes = log.maxBytes
  maxBackups : session.log.maxBackups = log.maxBackups
  rotations : session.rotations = journal.stamps
  folder : ∃ folder, session.top = top.modifyAt (fun _ => folder) dir ∧
    Shows name before (journal.latest log.maxBackups) folder ∧
    (session.log.isOpen → (folder.find? name).isSome)

namespace Follows

variable {log : RotatingLog} {top before : Folder} {dir : List Text} {name : Text}
  {first journal : Journal} {session session' : Session} {entry : Text × Bytes}
  (hplace : LeadsTo top log.path dir name before) (hfirst : Shows name before first before)

include hplace hfirst

/-- The path of the log is still for the same name. -/
theorem exists_leadsTo (h : Follows log top dir name before journal session) :
    ∃ folder, LeadsTo session.top log.path dir name folder ∧
      Shows name before (journal.latest log.maxBackups) folder ∧
      (session.log.isOpen → (folder.find? name).isSome) := by
  obtain ⟨folder, htop, hshows, hopen⟩ := h.folder
  refine ⟨folder, ?_, hshows, hopen⟩
  rw [htop]
  exact hplace.replace fun n inner => hfirst.find?_eq_folder hshows

/-- A rotation takes place if the last part of the journal is too long. -/
theorem isFull_eq (h : Follows log top dir name before journal session) :
    session.log.isFull session.top = decide (log.maxBytes < journal.current.length) := by
  obtain ⟨folder, hcurrent, hshows, -⟩ := h.exists_leadsTo hplace hfirst
  rcases hshows.file with hfile | ⟨hnone, hempty⟩
  · rw [hcurrent.isFull_eq_of_file h.path hfile, h.maxBytes]
    rfl
  · rw [hcurrent.isFull_eq_of_none h.path hnone]
    rw [show journal.current = [] from hempty]
    rfl

/-- The times of the rotations are those in the journal. -/
theorem rotations_eq_of_write (h : Follows log top dir name before journal session)
    (hwrite : session.write entry = .ok session') :
    session'.rotations = (journal.write log.maxBytes entry).stamps := by
  rw [rotations_write hwrite, h.rotations, h.isFull_eq hplace hfirst, Journal.stamps_write]
  simp

/-- Writing to a folder that shows a journal, rotated or not. -/
theorem of_write_eq (h : Follows log top dir name before journal session) {journal' : Journal}
    {folder : Folder} (hjournal : journal.write log.maxBytes entry = journal'.append entry.2)
    (hshows : Shows name before (journal'.latest log.maxBackups) folder)
    (hwrite : session.log.write session.top entry.1 entry.2 =
      (.ok entry.2.length, { session.log with isOpen := true },
        session.top.modifyAt (fun _ => append name entry.2 (ensure name folder)) dir)) :
    ∃ session', session.write entry = .ok session' ∧
      Follows log top dir name before (journal.write log.maxBytes entry) session' := by
  obtain ⟨session', hsession', hlog, htop⟩ : ∃ session', session.write entry = .ok session' ∧
      session'.log = { session.log with isOpen := true } ∧
      session'.top =
        session.top.modifyAt (fun _ => append name entry.2 (ensure name folder)) dir :=
    ⟨_, by rw [Session.write, hwrite], rfl, rfl⟩
  obtain ⟨folder₀, htop₀, -⟩ := h.folder
  refine ⟨session', hsession', ?_, ?_, ?_, h.rotations_eq_of_write hplace hfirst hsession',
    append name entry.2 (ensure name folder), ?_, ?_, fun _ => ?_⟩
  · rw [hlog, ← h.path]
  · rw [hlog, ← h.maxBytes]
  · rw [hlog, ← h.maxBackups]
  · rw [htop, htop₀, Folder.modifyAt_modifyAt]
    rfl
  · rw [hjournal]
    exact hshows.append entry.2
  · rw [hshows.append_ensure_eq, Folder.find?_put, if_pos rfl]
    rfl

/-- What is written to a log goes to the journal; only a name that is too long stops it. -/
theorem write (h : Follows log top dir name before journal session)
    (hstamps : (journal.write log.maxBytes entry).stamps.Pairwise (· < ·)) :
    (∃ session', session.write entry = .ok session' ∧
      Follows log top dir name before (journal.write log.maxBytes entry) session') ∨
    session.write entry = .error .nameTooLong ∧
      Path.nameLimit < (backupName name entry.1).byteSize := by
  obtain ⟨folder, hcurrent, hshows, hopen⟩ := h.exists_leadsTo hplace hfirst
  have hfull := h.isFull_eq hplace hfirst
  by_cases hlong : log.maxBytes < journal.current.length
  · rw [decide_eq_true hlong] at hfull
    have hjournal : journal.write log.maxBytes entry = (journal.rotate entry.1).append entry.2 := by
      rw [Journal.write, if_pos hlong]
    have hfree : renameFault? name entry.1 folder = none := by
      rw [hjournal] at hstamps
      exact renameFault?_of_not_mem
        (hshows.backupName_not_mem (Journal.ne_of_mem_stamps_latest _ hstamps))
    have hrotated : Shows name before ((journal.rotate entry.1).latest log.maxBackups)
        (rotate session.log.maxBackups name entry.1 folder) := by
      rw [hjournal] at hstamps
      rw [h.maxBackups]
      exact hshows.rotate (hshows.find?_eq_file hlong) hstamps
    have hwrite := hcurrent.write_eq_of_isFull h.path hfree rfl
      (fun n inner => hshows.find?_eq_folder hrotated) hrotated.find?_ne_folder hfull entry.2
    by_cases hname : Path.nameLimit < (backupName name entry.1).byteSize
    · rw [if_pos hname] at hwrite
      exact .inr ⟨by rw [Session.write, hwrite], hname⟩
    · rw [if_neg hname] at hwrite
      exact .inl (h.of_write_eq hplace hfirst hjournal hrotated hwrite)
  · rw [decide_eq_false hlong] at hfull
    have hjournal : journal.write log.maxBytes entry = journal.append entry.2 := by
      rw [Journal.write, if_neg hlong]
    have hwrite := hcurrent.write_eq_of_not_isFull h.path hshows.find?_ne_folder hopen hfull
      entry.1 entry.2
    exact .inl (h.of_write_eq hplace hfirst hjournal hshows hwrite)

/-- A run without faults goes to the journal as a whole. -/
theorem writes (h : Follows log top dir name before journal session)
    {entries : List (Text × Bytes)} (hwrites : session.writes entries = .ok session')
    (hstamps : session'.rotations.Pairwise (· < ·)) :
    Follows log top dir name before (journal.writes log.maxBytes entries) session' := by
  -- From the last write back: the rotations up to any write are a prefix of all of them.
  induction entries using List.reverseRecOn generalizing session' with
  | nil =>
    cases hwrites
    exact h
  | append_singleton entries entry ih =>
    obtain ⟨middle, hmiddle, hwrite⟩ := writes_concat_eq_ok_iff.1 hwrites
    have hprefix : middle.rotations <+: session'.rotations := by
      rw [rotations_write hwrite]
      exact List.prefix_append ..
    have hfollows := ih hmiddle (hstamps.sublist hprefix.sublist)
    rw [hfollows.rotations_eq_of_write hplace hfirst hwrite] at hstamps
    rw [Journal.writes_concat]
    rcases hfollows.write hplace hfirst hstamps with ⟨session'', hwrite', hnext⟩ | ⟨hwrite', -⟩
    · rw [hwrite, Except.ok.injEq] at hwrite'
      rw [hwrite']
      exact hnext
    · rw [hwrite] at hwrite'
      cases hwrite'

/-- A run without names that are too long has no faults. -/
theorem exists_writes (h : Follows log top dir name before journal session)
    {entries : List (Text × Bytes)}
    (hstamps : (journal.writes log.maxBytes entries).stamps.Pairwise (· < ·))
    (hnames : ∀ entry ∈ entries, (backupName name entry.1).byteSize ≤ Path.nameLimit) :
    ∃ session', session.writes entries = .ok session' ∧
      Follows log top dir name before (journal.writes log.maxBytes entries) session' := by
  induction entries using List.reverseRecOn with
  | nil => exact ⟨session, rfl, h⟩
  | append_singleton entries entry ih =>
    rw [Journal.writes_concat] at hstamps ⊢
    have hprefix : (journal.writes log.maxBytes entries).stamps <+:
        ((journal.writes log.maxBytes entries).write log.maxBytes entry).stamps := by
      rw [Journal.stamps_write]
      exact List.prefix_append ..
    obtain ⟨middle, hmiddle, hfollows⟩ := ih (hstamps.sublist hprefix.sublist)
      fun e he => hnames e (List.mem_append_left _ he)
    have hname := hnames entry (List.mem_append_right _ (List.mem_singleton_self _))
    obtain ⟨session', hwrite, hnext⟩ :=
      (hfollows.write hplace hfirst hstamps).resolve_right fun hlong => by omega
    exact ⟨session', writes_concat_eq_ok_iff.2 ⟨middle, hmiddle, hwrite⟩, hnext⟩

end Follows

section Runs

variable {top before : Folder} {path name : Text} {dir : List Text} {maxBytes keep : Nat}
  {content : Bytes} {entries : List (Text × Bytes)}

theorem follows_start (hplace : LeadsTo top path dir name before)
    (hfirst : Shows name before ⟨[], content⟩ before) :
    Follows (.ofPath path maxBytes keep) top dir name before ⟨[], content⟩
      (start (.ofPath path maxBytes keep) top) where
  path := rfl
  maxBytes := rfl
  maxBackups := rfl
  rotations := rfl
  folder := by
    refine ⟨before, (Folder.modifyAt_eq_self hplace.folder).symm, ?_, ?_⟩
    · rw [Journal.latest_of_length_le (Nat.zero_le _)]
      exact hfirst
    · simp [start, RotatingLog.ofPath]

/-- **A rotating log keeps the end of what is written to it.** At most `keep` backups are there, for
the latest rotations, and each is longer than `maxBytes`. The backups from the oldest on, and the
file after them, have the end of what was in the file at first and has been written since, and all
of it as long as there were no more than `keep` rotations. What was written last is at the end of
the file as a whole, and nothing else in the folder, or in any other folder, changes. -/
theorem kept_of_writes {session : Session} (hplace : LeadsTo top path dir name before)
    (hfile : before.find? name = some (.file content) ∨ before.find? name = none ∧ content = [])
    (hnew : ∀ n ∈ before.names, ¬ isBackupOf name n)
    (hwrites : (start (.ofPath path maxBytes keep) top).writes entries = .ok session)
    (htimes : session.rotations.Pairwise (· < ·)) :
    ∃ folder, session.top = top.modifyAt (fun _ => folder) dir ∧
      backups name folder = (session.rotations.rtake keep).map (backupName name) ∧
      (backups name folder).length ≤ keep ∧
      (∀ n ∈ backups name folder, ∃ bytes,
        folder.find? n = some (.file bytes) ∧ maxBytes < bytes.length) ∧
      recorded name folder <:+ content ++ (entries.map Prod.snd).flatten ∧
      (session.rotations.length ≤ keep →
        recorded name folder = content ++ (entries.map Prod.snd).flatten) ∧
      (∀ entry, entries.getLast? = some entry → ∃ bytes,
        folder.find? name = some (.file bytes) ∧ entry.2 <:+ bytes) ∧
      ∀ n, n ≠ name → ¬ isBackupOf name n → folder.find? n = before.find? n := by
  have hfirst := Shows.of_forall_not_isBackupOf hfile hnew
  have hfollows := (follows_start hplace hfirst).writes hplace hfirst hwrites htimes
  generalize hjournal : Journal.writes _ _ entries = journal at hfollows
  obtain ⟨folder, htop, hshows, hopen⟩ := hfollows.folder
  have hstamps : (journal.latest keep).stamps.Pairwise (· < ·) := by
    rw [Journal.stamps_latest, ← hfollows.rotations]
    exact htimes.sublist (List.drop_sublist ..)
  have hbackups : backups name folder = (session.rotations.rtake keep).map (backupName name) := by
    rw [hshows.backups_eq hstamps, RotatingLog.ofPath, Journal.stamps_latest, hfollows.rotations]
  have hrecorded : recorded name folder = (journal.latest keep).bytes := hshows.recorded_eq hstamps
  have hbytes : journal.bytes = content ++ (entries.map Prod.snd).flatten := by
    rw [← hjournal, Journal.bytes_writes]
    rfl
  refine ⟨folder, htop, hbackups, ?_, ?_, ?_, ?_, ?_, hshows.others⟩
  · rw [hbackups, List.length_map, List.rtake, List.length_drop]
    omega
  · intro n hn
    rw [hshows.backups_eq hstamps] at hn
    obtain ⟨stamp, hstamp, rfl⟩ := List.mem_map.1 hn
    obtain ⟨part, hpart, rfl⟩ := List.mem_map.1 hstamp
    refine ⟨part.2, hshows.contents part hpart, ?_⟩
    have hlong : ∀ part ∈ journal.parts, maxBytes < part.2.length := by
      rw [← hjournal]
      exact Journal.lt_length_of_mem_writes (fun _ hpart => absurd hpart List.not_mem_nil) entries
    exact hlong part (List.mem_of_mem_drop hpart)
  · rw [hrecorded, ← hbytes]
    exact Journal.bytes_latest_suffix keep journal
  · intro hfew
    rw [hfollows.rotations, Journal.stamps, List.length_map] at hfew
    rw [hrecorded, Journal.latest_of_length_le hfew, hbytes]
  · intro entry hlast
    have hsuffix := Journal.suffix_current_writes maxBytes ⟨[], content⟩ hlast
    obtain ⟨init, rfl⟩ := List.getLast?_eq_some_iff.1 hlast
    obtain ⟨middle, -, hwrite⟩ := writes_concat_eq_ok_iff.1 hwrites
    have hsome := hopen (isOpen_of_write hwrite)
    refine ⟨journal.current, hshows.file.resolve_right fun hnone => ?_, hjournal ▸ hsuffix⟩
    rw [hnone.1] at hsome
    cases hsome

/-- With one backup and a limit of two bytes, the first of two parts that are cut off is gone. -/
theorem kept_of_writes_one_backup :
    ∃ (session : Session) (folder : Folder),
      (start (.ofPath "logs/app.log".toList 2 1)
          [("logs".toList, .folder
            [("app.log".toList, .file [1, 2, 3]), ("notes".toList, .file [9])])]).writes
        [("20240101000000000".toList, [4, 5, 6]), ("20240101000000001".toList, [7]),
          ("20240101000000002".toList, [8])] = .ok session ∧
      session.top = [("logs".toList, .folder folder)] ∧
      backups "app.log".toList folder = ["app.log.20240101000000001".toList] ∧
      recorded "app.log".toList folder <:+ [1, 2, 3, 4, 5, 6, 7, 8] ∧
      folder.find? "notes".toList = some (.file [9]) := by
  have hplace : LeadsTo
      [("logs".toList, .folder
        [("app.log".toList, .file [1, 2, 3]), ("notes".toList, .file [9])])]
      "logs/app.log".toList ["logs".toList] "app.log".toList
      [("app.log".toList, .file [1, 2, 3]), ("notes".toList, .file [9])] :=
    ⟨by decide, by decide, by decide, by decide, ⟨_, rfl⟩, rfl⟩
  have hwrites : (start (.ofPath "logs/app.log".toList 2 1)
        [("logs".toList, .folder
          [("app.log".toList, .file [1, 2, 3]), ("notes".toList, .file [9])])]).writes
      [("20240101000000000".toList, [4, 5, 6]), ("20240101000000001".toList, [7]),
        ("20240101000000002".toList, [8])] =
      .ok ⟨⟨"logs/app.log".toList, 2, 1, true⟩,
        [("logs".toList, .folder [("notes".toList, .file [9]),
          ("app.log.20240101000000001".toList, .file [4, 5, 6]),
          ("app.log".toList, .file [7, 8])])],
        ["20240101000000000".toList, "20240101000000001".toList]⟩ := by
    cbv
  obtain ⟨folder, htop, hbackups, -, -, hrecorded, -, -, hothers⟩ :=
    kept_of_writes hplace (.inl rfl) (by decide) hwrites (by decide)
  exact ⟨_, folder, hwrites, htop, hbackups, hrecorded, hothers _ (by decide) (by decide)⟩

/-- Writing has no faults as long as the times go on and no name of a backup is too long. -/
theorem exists_writes (hplace : LeadsTo top path dir name before)
    (hfile : before.find? name = some (.file content) ∨ before.find? name = none ∧ content = [])
    (hnew : ∀ n ∈ before.names, ¬ isBackupOf name n)
    (htimes : (entries.map Prod.fst).Pairwise (· < ·))
    (hnames : ∀ entry ∈ entries, (backupName name entry.1).byteSize ≤ Path.nameLimit) :
    ∃ session, (start (.ofPath path maxBytes keep) top).writes entries = .ok session ∧
      session.rotations.Pairwise (· < ·) := by
  have hfirst := Shows.of_forall_not_isBackupOf hfile hnew
  have hsublist := Journal.stamps_writes_sublist maxBytes ⟨[], content⟩ entries
  have hstamps := htimes.sublist hsublist
  obtain ⟨session, hwrites, hfollows⟩ :=
    (follows_start hplace hfirst).exists_writes hplace hfirst hstamps hnames
  refine ⟨session, hwrites, ?_⟩
  rw [hfollows.rotations]
  exact hstamps

end Runs

end Session

end EditorKit.Log
