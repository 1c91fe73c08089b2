import EditorKit.Proofs.Text.LineEnds
import EditorKit.Proofs.Theme.Resource

/-!
# What becomes of the lines of a resource

Every line of a resource has one fate: it opens a theme, shows nothing, is skipped for its first
fault, names no key, or sets an entry of the open theme. Only the markers before a line matter for
its fate, so a line that is left out can be taken away without a trace.

* `IsFate` says which fate a line has, and `fatesFrom` gives the fates of lines in a row;
* `assemble` puts the themes together from the fates alone, and `readReport_eq` says that reading
  does so;
* `cleaned` is a resource without the lines that are left out;
* `readReport_accounts` is the main result.
-/

namespace EditorKit.Theme

/-! ## Fates -/

/-- What becomes of a line of a resource. -/
inductive Fate where
  | marker (name : Text)
  | blank
  | skipped (fault : LineFault)
  | unknown (name : Text)
  | applied (key : StyleKey) (entry : Entry)

/-- Whether a line opens a theme. -/
def IsMarker (line : Text) : Prop := line.head? = some '>'

instance (line : Text) : Decidable (IsMarker line) := inferInstanceAs (Decidable (_ = _))

/-- Whether a line has the four fields of an entry. -/
def HasFields (line name : Text) (entry : Entry) : Prop :=
  ∃ key fore back font : Text, line.splitOn '\t' = [key, fore, back, font] ∧ key.trim = name ∧
    Color.ofText fore = .ok entry.fore ∧ Color.ofText back = .ok entry.back ∧
    Text.readByte font.trim = some entry.font.bits

/-- Whether a fault is the first one of a line: the number of the fields, the color of the text, the
color of the ground and the font are looked at in this order. -/
inductive FirstFault (line : Text) : LineFault → Prop
  | fieldCount (h : (line.splitOn '\t').length ≠ 4) :
    FirstFault line (.fieldCount (line.splitOn '\t').length)
  | foreColor {key fore back font token : Text}
    (hfields : line.splitOn '\t' = [key, fore, back, font])
    (hfore : Color.ofText fore = .error token) : FirstFault line (.foreColor token)
  | backColor {key fore back font token : Text} {foreColor : Color}
    (hfields : line.splitOn '\t' = [key, fore, back, font])
    (hfore : Color.ofText fore = .ok foreColor) (hback : Color.ofText back = .error token) :
    FirstFault line (.backColor token)
  | fontBits {key fore back font : Text} {foreColor backColor : Color}
    (hfields : line.splitOn '\t' = [key, fore, back, font])
    (hfore : Color.ofText fore = .ok foreColor) (hback : Color.ofText back = .ok backColor)
    (hfont : Text.readByte font.trim = none) : FirstFault line (.fontBits font.trim)

/-- Whether a line has a fate, depending on whether a theme is open. -/
inductive IsFate (opened : Prop) (line : Text) : Fate → Prop
  | marker {heading : Text} (h : line = '>' :: heading) : IsFate opened line (.marker heading.trim)
  | blank (hmarker : ¬ IsMarker line) (hblank : line.isBlankText) : IsFate opened line .blank
  | outside (hmarker : ¬ IsMarker line) (hblank : ¬ line.isBlankText) (hopened : ¬ opened) :
    IsFate opened line (.skipped .outsideTheme)
  | faulty {fault : LineFault} (hmarker : ¬ IsMarker line) (hblank : ¬ line.isBlankText)
    (hopened : opened) (hfault : FirstFault line fault) : IsFate opened line (.skipped fault)
  | unknown {name : Text} {entry : Entry} (hmarker : ¬ IsMarker line)
    (hblank : ¬ line.isBlankText) (hopened : opened) (hfields : HasFields line name entry)
    (hname : StyleKey.ofName name = none) : IsFate opened line (.unknown name)
  | applied {name : Text} {key : StyleKey} {entry : Entry} (hmarker : ¬ IsMarker line)
    (hblank : ¬ line.isBlankText) (hopened : opened) (hfields : HasFields line name entry)
    (hname : StyleKey.ofName name = some key) : IsFate opened line (.applied key entry)

namespace Fate

/-- The fault that a line is skipped for. -/
def fault? : Fate → Option LineFault
  | skipped fault => some fault
  | _ => none

/-- The name that is no key. -/
def unknown? : Fate → Option Text
  | unknown name => some name
  | _ => none

/-- Whether a line with this fate opens a theme. -/
def isMarker : Fate → Bool
  | marker _ => true
  | _ => false

/-- Whether a line with this fate is not left out. -/
def isKept : Fate → Bool
  | skipped _ | unknown _ => false
  | _ => true

/-- The open theme after a line with this fate that does not open another one. -/
def applyTo (theme : Theme) : Fate → Theme
  | applied key entry => theme.set key entry
  | _ => theme

end Fate

/-- The themes that lines with given fates make, from the open one on. -/
def assemble (opened : Option Theme) : List Fate → List Theme
  | [] => opened.toList
  | .marker name :: rest => opened.toList ++ assemble (some (bare name)) rest
  | fate :: rest => assemble (opened.map fate.applyTo) rest

/-- The faults among fates, the first of which has a given number. -/
def faultsFrom (number : Nat) (fates : List Fate) : List (Nat × LineFault) :=
  (fates.zipIdx number).filterMap fun (fate, n) => fate.fault?.map (n, ·)

/-- The fate of a line, where `opened` says whether a theme is open. -/
def fateOf (opened : Bool) (line : Text) : Fate :=
  match Line.ofText line with
  | .marker name => .marker name
  | .blank => .blank
  | .faulty fault => .skipped (if opened then fault else .outsideTheme)
  | .style name entry =>
    if opened then
      match StyleKey.ofName name with
      | some key => .applied key entry
      | none => .unknown name
    else .skipped .outsideTheme

/-- The fates of lines in a row. -/
def fatesFrom (opened : Bool) : List Text → List Fate
  | [] => []
  | line :: rest => fateOf opened line :: fatesFrom (opened || decide (IsMarker line)) rest

/-- The fates of the lines of a resource. -/
def fates (resource : Text) : List Fate := fatesFrom false resource.lines

/-- A resource without the lines that are skipped and those that name no key. These are taken out
with their line ends, and all else stays. -/
def cleaned (resource : Text) : Text :=
  (((resource.endedLines.zip (fates resource)).filter (·.2.isKept)).map Prod.fst).flatten

/-! ## The fate of a line -/

theorem HasFields.readEntry_eq {line name : Text} {entry : Entry}
    (h : HasFields line name entry) : readEntry line = .ok (name, entry) := by
  obtain ⟨key, fore, back, font, hfields, rfl, hfore, hback, hfont⟩ := h
  rw [readEntry, hfields]
  simp only [hfore, hback, hfont]
  rfl

theorem FirstFault.readEntry_eq {line : Text} {fault : LineFault} (h : FirstFault line fault) :
    readEntry line = .error fault := by
  cases h with
  | fieldCount hcount =>
    rw [readEntry]
    split
    · rename_i hfields
      exact absurd (congrArg List.length hfields) hcount
    · rfl
  | foreColor hfields hfore =>
    rw [readEntry, hfields]
    simp only [hfore]
    rfl
  | backColor hfields hfore hback =>
    rw [readEntry, hfields]
    simp only [hfore, hback]
    rfl
  | fontBits hfields hfore hback hfont =>
    rw [readEntry, hfields]
    simp only [hfore, hback, hfont]
    rfl

/-- A line has the fields of an entry or a first fault. -/
theorem hasFields_or_firstFault (line : Text) :
    (∃ name entry, HasFields line name entry) ∨ ∃ fault, FirstFault line fault := by
  by_cases hcount : (line.splitOn '\t').length = 4
  · obtain ⟨key, fore, back, font, hfields⟩ := List.length_eq_four.1 hcount
    cases hfore : Color.ofText fore with
    | error token => exact .inr ⟨_, .foreColor hfields hfore⟩
    | ok foreColor =>
      cases hback : Color.ofText back with
      | error token => exact .inr ⟨_, .backColor hfields hfore hback⟩
      | ok backColor =>
        cases hfont : Text.readByte (Text.trim font) with
        | none => exact .inr ⟨_, .fontBits hfields hfore hback hfont⟩
        | some bits =>
          exact .inl ⟨_, ⟨foreColor, backColor, ⟨bits⟩⟩, key, fore, back, font, hfields, rfl, hfore,
            hback, hfont⟩
  · exact .inr ⟨_, .fieldCount hcount⟩

/-- A blank line has no fields of an entry, since its last field would be no number. -/
theorem HasFields.not_isBlankText {line name : Text} {entry : Entry}
    (h : HasFields line name entry) : ¬ line.isBlankText := by
  obtain ⟨key, fore, back, font, hfields, -, -, -, hfont⟩ := h
  intro hblank
  have hblankFont : font.isBlankText :=
    Text.isBlankText_of_mem_splitOn hblank (by rw [hfields]; simp)
  have hnone : Text.readByte [] = none := rfl
  rw [Text.trim_of_isBlankText hblankFont, hnone] at hfont
  simp at hfont

theorem not_isMarker_iff {line : Text} : ¬ IsMarker line ↔ ∀ heading, line ≠ '>' :: heading := by
  cases line with
  | nil => simp [IsMarker]
  | cons c rest => simp [IsMarker]

theorem lineOfText_of_isBlankText {line : Text} (hmarker : ¬ IsMarker line)
    (hblank : line.isBlankText) : Line.ofText line = .blank := by
  unfold Line.ofText
  split
  · exact absurd rfl (not_isMarker_iff.1 hmarker _)
  · exact if_pos hblank

theorem lineOfText_of_readEntry {line : Text} (hmarker : ¬ IsMarker line)
    (hblank : ¬ line.isBlankText) : Line.ofText line =
      match readEntry line with
      | .ok (name, entry) => .style name entry
      | .error fault => .faulty fault := by
  unfold Line.ofText
  split
  · exact absurd rfl (not_isMarker_iff.1 hmarker _)
  · exact if_neg hblank

/-- `fateOf` gives the fate of a line. -/
theorem IsFate.fateOf_eq {opened : Bool} {line : Text} {fate : Fate}
    (h : IsFate (opened = true) line fate) : fateOf opened line = fate := by
  cases h with
  | marker h => rw [h, fateOf, Line.ofText]
  | blank hmarker hblank => rw [fateOf, lineOfText_of_isBlankText hmarker hblank]
  | outside hmarker hblank hopened =>
    rw [fateOf, lineOfText_of_readEntry hmarker hblank]
    cases readEntry line with
    | ok fields => simp [hopened]
    | error fault => simp [hopened]
  | faulty hmarker hblank hopened hfault =>
    rw [fateOf, lineOfText_of_readEntry hmarker hblank, hfault.readEntry_eq]
    simp [hopened]
  | unknown hmarker hblank hopened hfields hname =>
    rw [fateOf, lineOfText_of_readEntry hmarker hblank, hfields.readEntry_eq]
    simp [hopened, hname]
  | applied hmarker hblank hopened hfields hname =>
    rw [fateOf, lineOfText_of_readEntry hmarker hblank, hfields.readEntry_eq]
    simp [hopened, hname]

/-- Every line has a fate. -/
theorem exists_isFate (opened : Prop) (line : Text) : ∃ fate, IsFate opened line fate := by
  by_cases hmarker : IsMarker line
  · obtain ⟨heading, rfl⟩ : ∃ heading, line = '>' :: heading := by
      by_contra hne
      exact not_isMarker_iff.2 (fun heading heq => hne ⟨heading, heq⟩) hmarker
    exact ⟨_, .marker rfl⟩
  by_cases hblank : line.isBlankText
  · exact ⟨_, .blank hmarker hblank⟩
  by_cases hopened : opened
  · rcases hasFields_or_firstFault line with ⟨name, entry, hfields⟩ | ⟨fault, hfault⟩
    · cases hname : StyleKey.ofName name with
      | none => exact ⟨_, .unknown hmarker hblank hopened hfields hname⟩
      | some key => exact ⟨_, .applied hmarker hblank hopened hfields hname⟩
    · exact ⟨_, .faulty hmarker hblank hopened hfault⟩
  · exact ⟨_, .outside hmarker hblank hopened⟩

/-- A line has exactly one fate. -/
theorem isFate_iff {opened : Bool} {line : Text} {fate : Fate} :
    IsFate (opened = true) line fate ↔ fateOf opened line = fate := by
  constructor
  · exact IsFate.fateOf_eq
  · rintro rfl
    obtain ⟨fate, hfate⟩ := exists_isFate (opened = true) line
    rwa [hfate.fateOf_eq]

theorem isMarker_fateOf (opened : Bool) (line : Text) :
    (fateOf opened line).isMarker = decide (IsMarker line) := by
  obtain ⟨fate, hfate⟩ := exists_isFate (opened = true) line
  rw [hfate.fateOf_eq]
  cases hfate with
  | marker h => simp [h, IsMarker, Fate.isMarker]
  | blank hmarker | outside hmarker | faulty hmarker | unknown hmarker | applied hmarker =>
    simp [hmarker, Fate.isMarker]

/-! ## Fates in a row -/

/-- The fate of a line depends on the lines before it, but only on whether one is a marker. -/
theorem fatesFrom_getElem? (opened : Bool) (lines : List Text) (i : Nat) :
    (fatesFrom opened lines)[i]? = lines[i]?.map
      (fateOf (opened || (lines.take i).any fun line => decide (IsMarker line))) := by
  induction lines generalizing opened i with
  | nil => rfl
  | cons line rest ih =>
    cases i with
    | zero => simp [fatesFrom]
    | succ i =>
      rw [fatesFrom, List.getElem?_cons_succ, ih, List.getElem?_cons_succ, List.take_succ_cons,
        List.any_cons, Bool.or_assoc]

/-- The lines of a resource have the fates that their text and the markers before them give. -/
theorem fates_getElem?_eq_some_iff {resource : Text} {i : Nat} {fate : Fate} :
    (fates resource)[i]? = some fate ↔ ∃ line, resource.lines[i]? = some line ∧
      IsFate (∃ earlier ∈ resource.lines.take i, IsMarker earlier) line fate := by
  have hopened : (∃ earlier ∈ resource.lines.take i, IsMarker earlier) =
      ((false || (resource.lines.take i).any fun line => decide (IsMarker line)) = true) := by
    simp
  rw [fates, fatesFrom_getElem?, Option.map_eq_some_iff, hopened]
  simp only [isFate_iff]

theorem length_fatesFrom (opened : Bool) (lines : List Text) :
    (fatesFrom opened lines).length = lines.length := by
  induction lines generalizing opened with
  | nil => rfl
  | cons line rest ih => rw [fatesFrom, List.length_cons, ih, List.length_cons]

theorem assemble_cons_of_not_isMarker {fate : Fate} (h : ¬ fate.isMarker) (opened : Option Theme)
    (rest : List Fate) :
    assemble opened (fate :: rest) = assemble (opened.map fate.applyTo) rest := by
  cases fate with
  | marker name => exact absurd rfl h
  | blank | skipped | unknown | applied => rfl

/-- A line that sets nothing makes no difference to the themes. -/
theorem assemble_cons_of_applyTo_eq {fate : Fate} (hmarker : ¬ fate.isMarker)
    (h : ∀ theme, fate.applyTo theme = theme) (opened : Option Theme) (rest : List Fate) :
    assemble opened (fate :: rest) = assemble opened rest := by
  have hmap : opened.map fate.applyTo = opened := by simp [h]
  rw [assemble_cons_of_not_isMarker hmarker, hmap]

/-- Lines that are left out make no difference to the themes. -/
theorem assemble_filter_isKept (opened : Option Theme) (fates : List Fate) :
    assemble opened (fates.filter (·.isKept)) = assemble opened fates := by
  induction fates generalizing opened with
  | nil => rfl
  | cons fate rest ih =>
    cases fate with
    | marker name => exact congrArg (opened.toList ++ ·) (ih (some (bare name)))
    | blank | applied => exact ih _
    | skipped | unknown =>
      rw [assemble_cons_of_applyTo_eq (by simp [Fate.isMarker]) (by simp [Fate.applyTo])]
      exact ih opened

/-! ## Reading by fates -/

theorem faultsFrom_cons (number : Nat) (fate : Fate) (rest : List Fate) :
    faultsFrom number (fate :: rest) =
      (fate.fault?.map (number, ·)).toList ++ faultsFrom (number + 1) rest := by
  unfold faultsFrom
  cases h : fate.fault? <;> simp [h]

namespace Reader

/-- Takes in a line with a given number and fate. -/
def receive (reader : Reader) (number : Nat) : Fate → Reader
  | .marker name => { reader with finished := reader.themes, opened := some (bare name) }
  | .blank => reader
  | .skipped fault => { reader with skipped := (number, fault) :: reader.skipped }
  | .unknown name => { reader with unknownKeys := name :: reader.unknownKeys }
  | .applied key entry => { reader with opened := reader.opened.map (·.set key entry) }

/-- Reading a line takes in its fate. -/
theorem step_eq (reader : Reader) (number : Nat) (line : Text) :
    reader.step number (Line.ofText line) =
      reader.receive number (fateOf reader.opened.isSome line) := by
  rw [fateOf]
  cases hopened : reader.opened with
  | none => cases Line.ofText line <;> simp [step, hopened, receive]
  | some theme =>
    cases Line.ofText line with
    | marker | blank | faulty => simp [step, hopened, receive]
    | style name entry =>
      cases hname : StyleKey.ofName name <;> simp [step, hopened, receive, setByName, hname]

theorem isSome_opened_receive (reader : Reader) (number : Nat) (fate : Fate) :
    (reader.receive number fate).opened.isSome = (reader.opened.isSome || fate.isMarker) := by
  cases fate <;> simp [receive, Fate.isMarker]

/-- The themes that come of a line and the lines behind it. -/
theorem assemble_receive (reader : Reader) (number : Nat) (fate : Fate) (rest : List Fate) :
    let after := reader.receive number fate
    after.finished.reverse ++ assemble after.opened rest =
      reader.finished.reverse ++ assemble reader.opened (fate :: rest) := by
  cases fate with
  | marker name => cases h : reader.opened <;> simp [receive, assemble, themes, h]
  | applied key entry => rfl
  | blank | skipped | unknown =>
    rw [assemble_cons_of_applyTo_eq (by simp [Fate.isMarker]) (by simp [Fate.applyTo])]
    rfl

theorem reverse_skipped_receive (reader : Reader) (number : Nat) (fate : Fate) :
    (reader.receive number fate).skipped.reverse =
      reader.skipped.reverse ++ (fate.fault?.map (number, ·)).toList := by
  cases fate <;> simp [receive, Fate.fault?]

theorem reverse_unknownKeys_receive (reader : Reader) (number : Nat) (fate : Fate) :
    (reader.receive number fate).unknownKeys.reverse =
      reader.unknownKeys.reverse ++ fate.unknown?.toList := by
  cases fate <;> simp [receive, Fate.unknown?]

/-- **Reading lines** puts the themes together from the fates of the lines, and lists the faults
and the unknown names among them. -/
theorem run_assembles (reader : Reader) (number : Nat) (lines : List Text) :
    let fates := fatesFrom reader.opened.isSome lines
    let after := reader.run number lines
    after.themes.reverse = reader.finished.reverse ++ assemble reader.opened fates ∧
      after.skipped.reverse = reader.skipped.reverse ++ faultsFrom number fates ∧
      after.unknownKeys.reverse = reader.unknownKeys.reverse ++ fates.filterMap (·.unknown?) := by
  induction lines generalizing reader number with
  | nil => cases h : reader.opened <;> simp [run, fatesFrom, assemble, faultsFrom, themes, h]
  | cons line rest ih =>
    obtain ⟨hthemes, hskipped, hunknown⟩ :=
      ih (reader.receive number (fateOf reader.opened.isSome line)) (number + 1)
    rw [isSome_opened_receive, isMarker_fateOf] at hthemes hskipped hunknown
    simp only [run, step_eq, fatesFrom]
    refine ⟨?_, ?_, ?_⟩
    · rw [hthemes, assemble_receive]
    · rw [hskipped, faultsFrom_cons, reverse_skipped_receive, List.append_assoc]
    · rw [hunknown, reverse_unknownKeys_receive, List.append_assoc, List.filterMap_cons]
      cases (fateOf reader.opened.isSome line).unknown? <;> rfl

end Reader

/-- What is read of a resource comes from the fates of its lines. -/
theorem readReport_eq (resource : Text) : readReport resource =
    ⟨assemble none (fates resource), faultsFrom 1 (fates resource),
      (fates resource).filterMap (·.unknown?)⟩ := by
  obtain ⟨hthemes, hskipped, hunknown⟩ := Reader.start.run_assembles 1 resource.lines
  rw [readReport]
  simp only [hthemes, hskipped, hunknown]
  rfl

/-! ## Cleaning -/

theorem not_isMarker_of_not_isKept {opened : Bool} {line : Text}
    (h : ¬ (fateOf opened line).isKept) : ¬ IsMarker line := by
  rw [← decide_eq_true_iff (p := IsMarker line), ← isMarker_fateOf opened line]
  cases hfate : fateOf opened line <;> simp_all [Fate.isKept, Fate.isMarker]

/-- Lines keep their fates when those are taken out that are left out. -/
theorem fatesFrom_filter_isKept (opened : Bool) (lines : List Text) :
    fatesFrom opened (((lines.zip (fatesFrom opened lines)).filter (·.2.isKept)).map Prod.fst) =
      (fatesFrom opened lines).filter (·.isKept) := by
  induction lines generalizing opened with
  | nil => rfl
  | cons line rest ih =>
    rw [fatesFrom, List.zip_cons_cons, List.filter_cons, List.filter_cons]
    dsimp only
    split
    · rw [List.map_cons, fatesFrom, ih]
    · rename_i hkept
      -- what is left out is no marker, so the lines behind it keep theirs
      rw [decide_eq_false (not_isMarker_of_not_isKept hkept), Bool.or_false, ih]

/-- The lines of a cleaned resource. -/
theorem lines_cleaned (resource : Text) : (cleaned resource).lines =
    ((resource.lines.zip (fates resource)).filter (·.2.isKept)).map Prod.fst := by
  have hlength : resource.endedLines.length = (fates resource).length := by
    rw [fates, length_fatesFrom, ← Text.map_dropEnd_endedLines, List.length_map]
  have hsub := (List.filter_sublist (p := fun pair : Text × Fate => pair.2.isKept)
    (l := resource.endedLines.zip (fates resource))).map Prod.fst
  rw [List.map_fst_zip (Nat.le_of_eq hlength)] at hsub
  rw [cleaned, Text.lines_flatten ((Text.isCut_endedLines resource).sublist hsub),
    ← Text.map_dropEnd_endedLines resource, List.zip_map_left, List.filter_map, List.map_map,
    List.map_map]
  rfl

theorem fates_cleaned (resource : Text) :
    fates (cleaned resource) = (fates resource).filter (·.isKept) := by
  rw [fates, lines_cleaned, fates, fatesFrom_filter_isKept]

theorem filterMap_unknown?_filter_isKept (fates : List Fate) :
    (fates.filter (·.isKept)).filterMap (·.unknown?) = [] := by
  refine List.filterMap_eq_nil_iff.2 fun fate hfate => ?_
  have hkept := List.of_mem_filter hfate
  cases fate <;> simp_all [Fate.isKept, Fate.unknown?]

theorem faultsFrom_filter_isKept (number : Nat) (fates : List Fate) :
    faultsFrom number (fates.filter (·.isKept)) = [] := by
  refine List.filterMap_eq_nil_iff.2 fun (fate, n) hmem => ?_
  have hkept := List.of_mem_filter (List.fst_mem_of_mem_zipIdx hmem)
  cases fate <;> simp_all [Fate.isKept, Fate.fault?]

/-- Nothing is left out of a cleaned resource, and it has the same themes. -/
theorem readReport_cleaned (resource : Text) :
    readReport (cleaned resource) = ⟨read resource, [], []⟩ := by
  rw [readReport_eq, fates_cleaned, assemble_filter_isKept, faultsFrom_filter_isKept,
    filterMap_unknown?_filter_isKept, read, readReport_eq]

/-- Faults come with ascending numbers. -/
theorem pairwise_faultsFrom (number : Nat) (fates : List Fate) :
    ((faultsFrom number fates).map Prod.fst).Pairwise (· < ·) := by
  have hnumbers : (fates.zipIdx number).Pairwise fun a b => a.2 < b.2 := by
    rw [← List.pairwise_map (f := Prod.snd), List.zipIdx_map_snd]
    exact List.pairwise_lt_range'
  rw [List.pairwise_map]
  refine hnumbers.filterMap _ fun a b hlt x hx y hy => ?_
  obtain ⟨_, -, rfl⟩ := Option.map_eq_some_iff.1 hx
  obtain ⟨_, -, rfl⟩ := Option.map_eq_some_iff.1 hy
  exact hlt

/-- **Every line of a resource is accounted for once.** Its fate is the only one that its text and
the markers before it allow; the faults are reported with the number of their line, counted from
one, in ascending order, the names that are no keys in the order of their lines, and the themes are
made of the markers and the entries alone. Without the lines that are skipped and those that name no
key, taken out together with their line ends, the same themes are read, and nothing is reported. -/
theorem readReport_accounts (resource : Text) :
    let report := readReport resource
    (∀ i fate, (fates resource)[i]? = some fate ↔ ∃ line, resource.lines[i]? = some line ∧
        IsFate (∃ earlier ∈ resource.lines.take i, IsMarker earlier) line fate) ∧
      report.skipped = faultsFrom 1 (fates resource) ∧
      (report.skipped.map Prod.fst).Pairwise (· < ·) ∧
      report.unknownKeys = (fates resource).filterMap (·.unknown?) ∧
      report.themes = assemble none (fates resource) ∧
      Text.IsCut resource.endedLines ∧ resource.endedLines.flatten = resource ∧
      resource.endedLines.map Text.dropEnd = resource.lines ∧
      readReport (cleaned resource) = ⟨report.themes, [], []⟩ := by
  intro report
  have hreport : report = _ := readReport_eq resource
  refine ⟨fun _ _ => fates_getElem?_eq_some_iff, ?_, ?_, ?_, ?_, Text.isCut_endedLines resource,
    Text.flatten_endedLines resource, Text.map_dropEnd_endedLines resource,
    readReport_cleaned resource⟩
  all_goals rw [hreport]
  exact pairwise_faultsFrom 1 _

end EditorKit.Theme
