import EditorKit.Command.Run
import EditorKit.Proofs.Command.Options
import EditorKit.Proofs.Command.Report
import EditorKit.Proofs.Settings.Opening

/-!
# Runs that filter lines

A run that filters the lines of standard input prints the rows of `Search.apply`, one line each.

* `FiltersLines` says what such a run is: what its arguments ask for (`AsksForLines`), and that
  everything that it has to read can be read;
* `FiltersLines.run_eq` is the main result.
-/

namespace EditorKit.Command

open Search (Listable RankedList)

/-- Arguments that ask for the lines of standard input: all of them are assignments, and none asks
for something else. -/
structure AsksForLines (arguments : List Text) : Prop where
  assignments : ∀ argument ∈ arguments, '=' ∈ argument
  noThemes : (Options.given arguments).flag "themes" = false
  noKey : (Options.given arguments).value? "resolve" = none
  noOutline : (Options.given arguments).flag "outline" = false

/-- A run that filters the lines of standard input: its arguments ask for them, its settings are in
order, the log and the theme resource can be opened, and standard input is text. -/
structure FiltersLines (world : World) (arguments : List Text) (settings : Settings)
    (threshold : Log.Threshold) (input : Text) : Prop extends AsksForLines arguments where
  settings_eq : (Options.given arguments).settings world.read = .ok settings
  threshold_eq : world.threshold? settings = some threshold
  opens : ∃ read, startLog world settings
      (logged threshold (Options.given arguments) settings.startNotices) = .ok read ∧
    ∃ theme, settings.resource read = .ok theme
  input_eq : world.input.decode = some input

/-- A theme store opens if its resource can be read, whatever theme is to be active. -/
theorem exists_openStore {read : FileReader} {settings : Settings} {theme : Text}
    (h : settings.resource read = .ok theme) : ∃ store, settings.openStore read = .ok store := by
  rw [Settings.openStore_eq, h]
  exact ⟨_, rfl⟩

namespace FiltersLines

variable {world : World} {arguments : List Text} {settings : Settings}
  {threshold : Log.Threshold} {input : Text}

theorem readSettings_eq (h : FiltersLines world arguments settings threshold input) :
    readSettings world.read arguments = .ok (Options.given arguments, settings) := by
  rw [readSettings, Options.ofArguments_of_forall h.assignments]
  show (Options.given arguments).settings world.read >>= _ = _
  rw [h.settings_eq]
  rfl

/-- What is to be done is to filter the lines. -/
theorem work_eq (h : FiltersLines world arguments settings threshold input)
    (store : Theme.Store) :
    (work world (Options.given arguments) settings store).1 =
      .ok (filterItems ((Options.given arguments).flag "json") Json.Value.text
        settings.modeInForce (((Options.given arguments).value? "query").getD []) input.lines) := by
  have hinput : inputText world = .ok input := by rw [inputText, h.input_eq]
  simp [work, h.noThemes, h.noKey, h.noOutline, hinput]

/-- A run prints what it has to do. -/
theorem ending_run (h : FiltersLines world arguments settings threshold input) :
    (run world arguments).ending =
      .printed (filterItems ((Options.given arguments).flag "json") Json.Value.text
        settings.modeInForce (((Options.given arguments).value? "query").getD []) input.lines) := by
  obtain ⟨read, hlog, theme, htheme⟩ := h.opens
  obtain ⟨store, hstore⟩ := exists_openStore htheme
  simp only [run, h.readSettings_eq, h.threshold_eq, hlog, openAndWork, hstore, h.work_eq store]

/-- Lines are never disabled, so all their ranges are marked. -/
theorem rowLine_of_mem_apply {mode : Search.Mode} {query : Option Text} {lines : List Text}
    {row : Search.Row Text} (h : row ∈ Search.apply mode query lines) (isFirst : Bool) :
    rowLine row isFirst =
      (if isFirst then '>' else ' ') :: ' ' :: marked row.item row.outcome.ranges ++
        '\t' :: Number.fixedText 2 row.outcome.dispersion := by
  have hrank := (Search.mem_apply_iff.1 h).1
  have hdisabled : row.isDisabled = false := (Search.item_of_mem_rank hrank).2
  rw [rowLine, hdisabled]
  rfl

/-- A run on one line, without any file. -/
theorem ofFolder_one_line :
    FiltersLines (.ofFolder [] [97, 10]) ["query=A".toList] .bare
      ⟨[⟨[], none, none, Log.Level.info.rank⟩]⟩ "a\n".toList where
  assignments := by decide +kernel
  noThemes := by decide +kernel
  noKey := by decide +kernel
  noOutline := by decide +kernel
  settings_eq := by decide +kernel
  threshold_eq := by decide +kernel
  opens := ⟨_, rfl, _, rfl⟩
  input_eq := by decide +kernel

/-- **A run that filters the lines of standard input prints one line for each row of
`Search.apply`**, in order, and no other line: a mark if it is the first one, the line with all its
ranges between brackets, and the dispersion with two places, or else the row as JSON. The list that
is printed leaves out no row and repeats none. -/
theorem run_eq (h : FiltersLines world arguments settings threshold input) :
    let options := Options.given arguments
    let mode := settings.modeInForce
    let query := (options.value? "query").getD []
    let rows := Search.apply mode (some query) input.lines
    let list := (RankedList.ofItems mode input.lines).setQuery query
    (list.render list.results.length = rows.zipIdx.map fun (row, position) =>
      ⟨row, position, position == 0, row.drawsHighlights⟩) ∧
    ∃ output, (run world arguments).ending = .printed output ∧
      output = Text.ofLines output.lines ∧
      output.lines =
        if options.flag "json" then rows.map fun row => (row.toValue Json.Value.text).write
        else rows.zipIdx.map fun (row, position) =>
          (if position = 0 then '>' else ' ') :: ' ' :: marked row.item row.outcome.ranges ++
            '\t' :: Number.fixedText 2 row.outcome.dispersion := by
  intro options mode query rows list
  have hprinted := h.ending_run
  have honeline : ∀ line ∈ input.lines, '\n' ∉ Listable.label line :=
    fun _ hline => Text.newline_not_mem_of_mem_lines hline
  have hlines := lines_filterItems (options.flag "json") Json.Value.text mode query honeline
  refine ⟨(RankedList.render_setQuery mode query input.lines).2, _, hprinted, ?_, ?_⟩
  · rw [hlines]
    exact filterItems_eq ..
  · rw [hlines, rowLines]
    split
    · rfl
    · refine List.map_congr_left ?_
      rintro ⟨row, position⟩ hrow
      have hmem := List.fst_mem_of_mem_zipIdx hrow
      dsimp only
      rw [rowLine_of_mem_apply hmem]
      simp

/-- The run on one line prints it. -/
theorem run_eq_one_line :
    FiltersLines (.ofFolder [] [97, 10]) ["query=A".toList] .bare
      ⟨[⟨[], none, none, Log.Level.info.rank⟩]⟩ "a\n".toList ∧
    ∃ output, (run (.ofFolder [] [97, 10]) ["query=A".toList]).ending = .printed output ∧
      output.lines = ["> [a]\t".toList ++ Number.fixedText 2 (Search.dispersion [⟨0, 1⟩])] := by
  have hfilters := ofFolder_one_line
  obtain ⟨-, output, hprinted, -, hlines⟩ := run_eq hfilters
  have hrank : Search.rank .substring (some "A".toList) ["a".toList] =
      [⟨"a".toList, 0, false, ⟨[⟨0, 1⟩], true⟩⟩] := by
    decide +kernel
  have hrows : Search.apply .substring (some "A".toList) ["a".toList] =
      [⟨"a".toList, 0, false, ⟨[⟨0, 1⟩], true⟩⟩] := by
    rw [Search.apply_eq, Search.fullRows, hrank]
    exact List.mergeSort_singleton _
  have hquery : ((Options.given ["query=A".toList]).value? "query").getD [] = "A".toList := by
    decide +kernel
  have hinput : Text.lines "a\n".toList = ["a".toList] := by decide +kernel
  rw [hquery, hinput, if_neg (by decide +kernel)] at hlines
  rw [show Settings.bare.modeInForce = .substring from rfl, hrows] at hlines
  exact ⟨hfilters, output, hprinted, hlines⟩

end FiltersLines

/-- Two runs on a line that print nothing although every file can be opened: the settings file has
an unknown setting, or a directive of the log threshold would be cut inside a character. -/
theorem run_not_printed :
    let world := World.ofFolder [("c.toml".toList, .file (Text.encode "query = 'x'".toList))]
      [97, 10]
    world.input.decode = some "a\n".toList ∧
      world.read.text "c.toml".toList = .ok "query = 'x'".toList ∧
      AsksForLines ["query=a".toList, "config=c.toml".toList] ∧
      (run world ["query=a".toList, "config=c.toml".toList]).ending = .failed .badToml ∧
      AsksForLines ["query=a".toList, "trace_level=info,\u3000a=info".toList] ∧
      (run world ["query=a".toList, "trace_level=info,\u3000a=info".toList]).ending =
        .aborted := by
  intro world
  have hrefused : readSettings world.read ["query=a".toList, "config=c.toml".toList] =
      .error .badToml := by
    decide +kernel
  have hread : readSettings world.read ["query=a".toList, "trace_level=info,\u3000a=info".toList] =
      .ok (Options.given ["query=a".toList, "trace_level=info,\u3000a=info".toList],
        { Settings.bare with traceLevel := some "info,\u3000a=info".toList }) := by
    decide +kernel
  have hnone : world.threshold?
      { Settings.bare with traceLevel := some "info,\u3000a=info".toList } = none := by
    decide +kernel
  refine ⟨by decide +kernel, by decide +kernel, ⟨?_, ?_, ?_, ?_⟩, ?_, ⟨?_, ?_, ?_, ?_⟩, ?_⟩
  any_goals decide +kernel
  · simp only [run, hrefused]
  · simp only [run, hread, hnone]

end EditorKit.Command
