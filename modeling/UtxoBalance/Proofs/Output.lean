import UtxoBalance.CommandLine.Run
import UtxoBalance.Proofs.CommandText

/-!
# What a run prints

A run that reduces a block prints each command that its reducers give on a line of its own,
as long as the commands can be written. A run that ends well has printed all of them: split
at its line feeds, the output is one line for each command, and each line is read back as
the command, with numerals in place of integers.

## Main definitions

- `Command.lineChars`, `Command.IsReadFrom` — the line of a command, and what it is read as
- `Composition.commandsFor` — the commands that a run is to print
- `Composition.IsFound` — the composition and the block of a request

## Main statements

- `writeCommands_eq` — the lines of commands, up to the first that cannot be written
- `Request.run_reduce_cases` — what a run prints, by the commands it is to print
- `Request.lines_of_run` — a run that ends well prints one readable line for each command
-/

namespace UtxoBalance

/-! ## Lines of commands -/

namespace Command

/-- The line of a command, without the line feed that ends it. -/
def lineChars (command : Command) : List Char := Json.writeChars command.written

theorem line_eq {command : Command} (h : command.IsPlain) :
    command.line = if command.canWrite then .ok (Json.write command.written ++ "\n")
      else .error (.shape (.numeral .tooLarge)) := by
  rw [line, toDocument_eq h]
  cases command.canWrite with
  | false => rfl
  | true => rfl

theorem newline_notMem_lineChars {command : Command} (h : command.IsPlain) :
    '\n' ∉ command.lineChars := by
  intro hmem
  exact absurd (Json.writeChars_printable (isTextual_written h) _ hmem) (by decide)

end Command

theorem writeCommands_eq {commands : List Command} (h : ∀ command ∈ commands, command.IsPlain) :
    (writeCommands commands).1.toList =
        (commands.takeWhile Command.canWrite).flatMap (fun command => command.lineChars ++ ['\n']) ∧
      (writeCommands commands).2 =
        if commands.all Command.canWrite then .done
        else .broken (.shape (.numeral .tooLarge)) := by
  induction commands with
  | nil => exact ⟨rfl, rfl⟩
  | cons command rest ih =>
    obtain ⟨hcommand, hrest⟩ := List.forall_mem_cons.1 h
    obtain ⟨houtput, hending⟩ := ih hrest
    rw [writeCommands, Command.line_eq hcommand]
    cases hwrite : command.canWrite with
    | false =>
      -- the run breaks here, so that nothing is written of `rest`
      simp only [List.takeWhile_cons, hwrite, List.all_cons]
      exact ⟨rfl, rfl⟩
    | true =>
      simp only [List.takeWhile_cons, hwrite, List.all_cons, if_true, Bool.true_and]
      constructor
      · rw [String.toList_append, houtput, List.flatMap_cons, String.toList_append,
          Json.write, String.toList_ofList]
        rfl
      · exact hending

/-- Lines without a line feed, each ended by one, are what the text is split into. -/
theorem splitOn_lines {lines : List (List Char)} (h : ∀ line ∈ lines, '\n' ∉ line) :
    (lines.flatMap (· ++ ['\n'])).splitOn '\n' = lines ++ [[]] := by
  induction lines with
  | nil => rfl
  | cons line rest ih =>
    obtain ⟨hline, hrest⟩ := List.forall_mem_cons.1 h
    have hnone : ∀ c ∈ line, (c == '\n') = false := fun c hc =>
      beq_false_of_ne (ne_of_mem_of_not_mem hc hline)
    rw [List.flatMap_cons, List.append_assoc, List.singleton_append, List.splitOn,
      List.splitOnP_append_cons_of_forall_mem hnone _ (beq_self_eq_true _)]
    exact congrArg (line :: ·) (ih hrest)

/-! ## Runs -/

/-- The composition of the reducers that settings name. -/
def Composition.ofSettings (settings : Settings.Pipeline) : Except Failure Composition :=
  (ofCandidates knownReducers (settings.entries.map .entry)).outcome

/-- The commands that a run is to print: those of the reducers in the settings, for the
    block in the octets. -/
def Composition.commandsFor (look : String → Found) (environment : Settings.Environment)
    (direction : Direction) (block config : String) (octets : Bytes) :
    Except Failure (List Command) := do
  let settings ← settingsAt look environment config
  let composition ← ofSettings settings
  let parsed ← Block.ofFile block octets
  (composition.reduce parsed direction).outcome

theorem reduceFile_outcome (settings : Settings.Pipeline) (config block : String)
    (octets : Bytes) (direction : Direction) :
    (reduceFile settings config block octets direction).outcome = (do
      let composition ← Composition.ofSettings settings
      let parsed ← Block.ofFile block octets
      (composition.reduce parsed direction).outcome) := by
  rw [reduceFile, Composition.ofSettings]
  cases settings.entries.isEmpty with
  | false => simp only [Bool.false_eq_true, if_false, Logged.outcome_bind, Logged.outcome_lift]
  | true =>
    simp only [if_true, Logged.outcome_bind, Logged.outcome_tell, Logged.outcome_lift]
    rfl

theorem Composition.commandsFor_of_settingsAt {look : String → Found}
    {environment : Settings.Environment} {config : String} {settings : Settings.Pipeline}
    (h : settingsAt look environment config = .ok settings) (direction : Direction)
    (block : String) (octets : Bytes) :
    commandsFor look environment direction block config octets =
      (reduceFile settings config block octets direction).outcome := by
  rw [commandsFor, h]
  exact (reduceFile_outcome settings config block octets direction).symm

theorem runReduce_eq (look : String → Found) (environment : Settings.Environment)
    (direction : Direction) (block config : String) (octets : Bytes) :
    ((runReduce look environment direction block config octets).output,
        (runReduce look environment direction block config octets).ending) =
      match Composition.commandsFor look environment direction block config octets with
      | .ok commands => writeCommands commands
      | .error failure => ("", .ofFailure failure) := by
  cases hsettings : settingsAt look environment config with
  | error failure =>
    have hfor : Composition.commandsFor look environment direction block config octets =
        .error failure := by
      rw [Composition.commandsFor, hsettings]
      exact Except.bind.eq_1 _ failure
    simp only [runReduce, hsettings, hfor]
  | ok settings =>
    have hfor := Composition.commandsFor_of_settingsAt hsettings direction block octets
    cases houtcome : (reduceFile settings config block octets direction).outcome with
    | error failure => simp only [runReduce, hsettings, hfor, houtcome]
    | ok commands => simp only [runReduce, hsettings, hfor, houtcome]

/-- Whether a composition and a block are those behind the settings and the file at two
    paths. -/
def Composition.IsFound (look : String → Found) (environment : Settings.Environment)
    (block config : String) (composition : Composition) (parsed : Block) : Prop :=
  ∃ octets settings, look (Path.normal block) = .file octets ∧
    settingsAt look environment (Path.normal config) = .ok settings ∧
    ofSettings settings = .ok composition ∧ Block.ofFile (Path.normal block) octets = .ok parsed

theorem Composition.commandsFor_eq_ok_iff {look : String → Found}
    {environment : Settings.Environment} {direction : Direction} {block config : String}
    {octets : Bytes} {commands : List Command} :
    commandsFor look environment direction block config octets = .ok commands ↔
      ∃ settings composition parsed, settingsAt look environment config = .ok settings ∧
        ofSettings settings = .ok composition ∧ Block.ofFile block octets = .ok parsed ∧
        (composition.reduce parsed direction).outcome = .ok commands := by
  simp only [commandsFor, bind_eq_ok_iff, exists_and_left]

/-- A run either has commands to print, and prints their lines up to the first that cannot be
    written, or it ends on a failure before it prints anything. -/
theorem Request.run_reduce_cases {direction : Direction} {block config : String}
    {look : String → Found} {environment : Settings.Environment} {result : Run}
    (h : (Request.reduce direction block config).run look environment = some result) :
    ∃ octets, look (Path.normal block) = .file octets ∧
      ((∃ commands, Composition.commandsFor look environment direction (Path.normal block)
            (Path.normal config) octets = .ok commands ∧
          (∀ command ∈ commands, command.IsPlain) ∧
          result.output.toList = (commands.takeWhile Command.canWrite).flatMap
            (fun command => command.lineChars ++ ['\n']) ∧
          result.ending = if commands.all Command.canWrite then .done
            else .broken (.shape (.numeral .tooLarge))) ∨
        ∃ failure, Composition.commandsFor look environment direction (Path.normal block)
            (Path.normal config) octets = .error failure ∧
          result.output = "" ∧ result.ending = .ofFailure failure) := by
  rw [Request.run] at h
  split at h
  · cases h
  split at h
  · next octets hfile =>
    have hrun := runReduce_eq look environment direction (Path.normal block)
      (Path.normal config) octets
    rw [Option.some.inj h] at hrun
    refine ⟨octets, hfile, ?_⟩
    cases hcommands : Composition.commandsFor look environment direction (Path.normal block)
        (Path.normal config) octets with
    | error failure =>
      rw [hcommands] at hrun
      obtain ⟨houtput, hending⟩ := Prod.mk.inj hrun
      exact .inr ⟨failure, rfl, houtput, hending⟩
    | ok commands =>
      rw [hcommands] at hrun
      obtain ⟨settings, composition, parsed, -, -, -, hreduce⟩ :=
        Composition.commandsFor_eq_ok_iff.1 hcommands
      have hplain := Composition.isPlain_of_reduce hreduce
      obtain ⟨hlines, hlast⟩ := writeCommands_eq hplain
      have houtput : result.output = (writeCommands commands).1 := congrArg Prod.fst hrun
      have hending : result.ending = (writeCommands commands).2 := congrArg Prod.snd hrun
      refine .inl ⟨commands, rfl, hplain, ?_, ?_⟩
      · rw [houtput, hlines]
      · rw [hending, hlast]
  · cases h

/-! ## Runs that end well -/

theorem Run.exitCode_eq_zero_iff {result : Run} : result.exitCode = 0 ↔ result.ending = .done := by
  rw [exitCode]
  cases result.ending with
  | done => simp
  | reported message => simp
  | broken failure => simp

theorem Ending.ofFailure_ne_done (failure : Failure) : Ending.ofFailure failure ≠ .done := by
  unfold Ending.ofFailure
  split
  · simp
  · split
    · simp
    · simp

/-- Whether a line is JSON text of a document that is read as a command, with numerals in
    place of its integers. -/
def Command.IsReadFrom (command : Command) (line : List Char) : Prop :=
  ∃ d, (∀ maxDigits, Json.read maxDigits line = .ok d) ∧
    ofDocument d = .ok command.withNumerals.raw

theorem Command.isReadFrom_lineChars {command : Command} (h : command.IsPlain) :
    command.IsReadFrom command.lineChars := by
  refine ⟨command.written, fun maxDigits => ?_, ofDocument_written h⟩
  have hread := Json.read_write maxDigits (isTextual_written h)
  rwa [Json.write, String.toList_ofList] at hread

/-- A run that ends well prints one line for each command of its reducers, in order, and
    each line is read back as its command. -/
theorem Request.lines_of_run {direction : Direction} {block config : String}
    {look : String → Found} {environment : Settings.Environment} {result : Run}
    (hrun : (Request.reduce direction block config).run look environment = some result)
    (hcode : result.exitCode = 0) :
    ∃ composition parsed commands lines,
      Composition.IsFound look environment block config composition parsed ∧
      (composition.reduce parsed direction).outcome = .ok commands ∧
      result.output.toList.splitOn '\n' = lines ++ [[]] ∧
      List.Forall₂ Command.IsReadFrom commands lines := by
  rw [Run.exitCode_eq_zero_iff] at hcode
  obtain ⟨octets, hfile, hcases⟩ := run_reduce_cases hrun
  rcases hcases with ⟨commands, hcommands, hplain, houtput, hending⟩ | ⟨failure, -, -, hending⟩
  · obtain ⟨settings, composition, parsed, hsettings, hcomposition, hparsed, hreduce⟩ :=
      Composition.commandsFor_eq_ok_iff.1 hcommands
    -- no command was too long, since the run would not have ended well
    have hall : commands.all Command.canWrite = true := by
      by_contra hsome
      rw [if_neg hsome, hcode] at hending
      cases hending
    have hwritten : commands.takeWhile Command.canWrite = commands :=
      List.takeWhile_eq_self_iff.2 (List.all_eq_true.1 hall)
    have hlines : ∀ line ∈ commands.map Command.lineChars, '\n' ∉ line := by
      intro line hline
      obtain ⟨command, hmem, rfl⟩ := List.mem_map.1 hline
      exact Command.newline_notMem_lineChars (hplain command hmem)
    refine ⟨composition, parsed, commands, commands.map Command.lineChars,
      ⟨octets, settings, hfile, hsettings, hcomposition, hparsed⟩, hreduce, ?_, ?_⟩
    · rw [houtput, hwritten, ← splitOn_lines hlines, List.flatMap_map]
    · rw [List.forall₂_map_right_iff, List.forall₂_same]
      exact fun command hmem => Command.isReadFrom_lineChars (hplain command hmem)
  · exact absurd (hending.symm.trans hcode) (Ending.ofFailure_ne_done failure)

/-- Settings that name counters under a keyspace of a quote, a line feed and a character
    beyond the first plane, and the rows of a table. -/
def escapedKeyspace : Settings.Environment :=
  [("LEDGER_REDUCERS_REDUCERS",
    "[\x7b\"config\":\x7b\"addressType\":\"payment\"," ++
      "\"prefix\":\"\\\"\\n\\ud83d\\ude00\"\x7d\x7d," ++
      "\x7b\"config\":\x7b\"addressType\":\"payment\",\"table\":\"balances\"\x7d\x7d]")]

/-- A file with a block that creates one output. -/
def oneOutputFile (path : String) : Found :=
  let text := "\x7b\"body\":\x7b\"tx\":[\x7b\"outputs\":[" ++
    "\x7b\"address\":\"0x82\",\"coin\":7\x7d]\x7d]\x7d\x7d"
  if path = "block.json" then .file (text.toList.map fun c => UInt8.ofNat c.toNat)
  else .nothing

theorem Request.lines_of_run_escapedKeyspace : ∃ result,
    (Request.reduce .apply "block.json" defaultConfig).run oneOutputFile escapedKeyspace =
      some result ∧ result.exitCode = 0 ∧
    ∃ composition parsed commands lines,
      Composition.IsFound oneOutputFile escapedKeyspace "block.json" defaultConfig composition
        parsed ∧
      (composition.reduce parsed .apply).outcome = .ok commands ∧
      result.output.toList.splitOn '\n' = lines ++ [[]] ∧
      List.Forall₂ Command.IsReadFrom commands lines := by
  have hcode : ((Request.reduce .apply "block.json" defaultConfig).run oneOutputFile
      escapedKeyspace).map Run.exitCode = some 0 := by decide +kernel
  obtain ⟨result, hrun, hzero⟩ := Option.map_eq_some_iff.1 hcode
  exact ⟨result, hrun, hzero, lines_of_run hrun hzero⟩

end UtxoBalance
