import UtxoBalance.Proofs.BlockFile
import UtxoBalance.Proofs.Output

/-!
# Runs that fail

Commands are written one at a time, and one of them cannot be written where a sum has too
many digits for a numeral. Counters refuse such a sum before anything is printed. The rows
of a table do not: the sum goes into an array of the statement as an integer, and only
the attempt to print the statement breaks the run. What the reducers before it gave has been
printed by then.

This is the only way in which a run that fails prints anything. So a run prints commands and
fails exactly if each of its reducers gives commands, and the first of them with a sum that
is too long comes after one that changes something.

## Main definitions

- `Reducer.HasWritableAmounts` — whether all sums of a reducer can be written

## Main statements

- `Composition.takeWhile_canWrite` — the commands that are written before the run breaks
- `Request.output_of_failed_run` — when a run that fails prints anything
-/

namespace UtxoBalance

/-! ## Commands that cannot be written -/

namespace Emitter

theorem commands_eq_nil_iff (emitter : Emitter) (entries : Deltas) :
    emitter.commands entries = [] ↔ entries = [] := by
  cases emitter with
  | counters keyspace => exact List.map_eq_nil_iff
  | rows table =>
    cases entries with
    | nil => simp [commands]
    | cons entry rest => simp [commands]

theorem all_canWrite_commands (emitter : Emitter) {entries : Deltas}
    (h : (entries.all fun entry => entry.2.natAbs < Numeral.bound) = true) :
    (emitter.commands entries).all Command.canWrite = true := by
  cases emitter with
  | counters keyspace => simp [commands, counterCommand, Command.canWrite]
  | rows table =>
    cases entries with
    | nil => rfl
    | cons entry rest =>
      have hcleanup : (Command.statement (Table.cleanup table)
          [keyParam (entry :: rest)]).canWrite = true := by
        simp only [Command.canWrite, List.all_cons, List.all_nil, canWriteParam_keyParam,
          Bool.and_true]
      rw [commands, List.all_cons, List.all_cons, canWrite_upsert, h, hcleanup]
      · rfl
      · simp

/-- Where an amount is too long but the emitter takes it, the first command cannot be
    written. -/
theorem exists_late_command {emitter : Emitter} {entries : Deltas}
    (hwrite : emitter.canWrite entries = true)
    (h : (entries.all fun entry => entry.2.natAbs < Numeral.bound) = false) :
    ∃ late rest, emitter.commands entries = late :: rest ∧ late.canWrite = false := by
  cases emitter with
  | counters keyspace =>
    rw [canWrite, h] at hwrite
    cases hwrite
  | rows table =>
    cases entries with
    | nil => cases h
    | cons entry rest =>
      exact ⟨_, _, by rw [commands]; simp, by rw [canWrite_upsert, h]⟩

end Emitter

namespace Reducer

/-- Whether all amounts of a reducer for a block can be written. -/
def HasWritableAmounts (block : Block) (direction : Direction) (reducer : Reducer) : Prop :=
  ∀ entry ∈ block.deltas reducer.settings.mode direction, entry.2.natAbs < Numeral.bound

variable {block : Block} {direction : Direction} {reducer : Reducer}

theorem hasWritableAmounts_iff : reducer.HasWritableAmounts block direction ↔
    ((Deltas.sorted (block.deltas reducer.settings.mode direction)).all
      fun entry => entry.2.natAbs < Numeral.bound) = true := by
  rw [(Deltas.sorted_perm _).all_eq, List.all_eq_true]
  simp only [decide_eq_true_eq]
  rfl

theorem commands_eq_nil_iff : reducer.commands block direction = [] ↔
    block.deltas reducer.settings.mode direction = [] := by
  rw [commands, Emitter.commands_eq_nil_iff, Deltas.sorted_eq_nil_iff]

theorem all_canWrite_commands (h : reducer.HasWritableAmounts block direction) :
    (reducer.commands block direction).all Command.canWrite = true :=
  Emitter.all_canWrite_commands _ (hasWritableAmounts_iff.1 h)

theorem exists_late_command {given : List Command}
    (hgiven : (reducer.reduce block direction).outcome = .ok given)
    (h : ¬ reducer.HasWritableAmounts block direction) :
    ∃ late rest, reducer.commands block direction = late :: rest ∧ late.canWrite = false := by
  obtain ⟨-, hwrite, -⟩ := reduce_eq_ok_iff.1 hgiven
  rw [← Emitter.canWrite_of_perm _ (Deltas.sorted_perm _)] at hwrite
  rw [hasWritableAmounts_iff, Bool.not_eq_true] at h
  exact Emitter.exists_late_command hwrite h

end Reducer

namespace Composition

variable {block : Block} {direction : Direction}

theorem canWrite_of_hasWritableAmounts {reducers : List Reducer}
    (h : ∀ reducer ∈ reducers, reducer.HasWritableAmounts block direction) :
    ∀ command ∈ reducers.flatMap (Reducer.commands · block direction),
      command.canWrite = true := by
  intro command hcommand
  obtain ⟨reducer, hreducer, hown⟩ := List.mem_flatMap.1 hcommand
  exact List.all_eq_true.1 (Reducer.all_canWrite_commands (h reducer hreducer)) _ hown

/-- The commands that are written before the first reducer with an amount that is too
    long are those of the reducers before it. -/
theorem takeWhile_canWrite {before after : List Reducer} {late : Reducer} {given : List Command}
    (hbefore : ∀ reducer ∈ before, reducer.HasWritableAmounts block direction)
    (hgiven : (late.reduce block direction).outcome = .ok given)
    (hlate : ¬ late.HasWritableAmounts block direction) :
    ((before ++ late :: after).flatMap (Reducer.commands · block direction)).takeWhile
      Command.canWrite = before.flatMap (Reducer.commands · block direction) := by
  obtain ⟨first, rest, hcommands, hfirst⟩ := Reducer.exists_late_command hgiven hlate
  rw [List.flatMap_append, List.flatMap_cons, hcommands,
    List.takeWhile_append_of_pos (canWrite_of_hasWritableAmounts hbefore), List.cons_append,
    List.takeWhile_cons, hfirst]
  simp

theorem exists_first_late {reducers : List Reducer}
    (h : ¬ ∀ reducer ∈ reducers, reducer.HasWritableAmounts block direction) :
    ∃ before late after, reducers = before ++ late :: after ∧
      (∀ reducer ∈ before, reducer.HasWritableAmounts block direction) ∧
      ¬ late.HasWritableAmounts block direction := by
  induction reducers with
  | nil => simp at h
  | cons reducer rest ih =>
    by_cases hreducer : reducer.HasWritableAmounts block direction
    · have hrest : ¬ ∀ other ∈ rest, other.HasWritableAmounts block direction := fun hall =>
        h (List.forall_mem_cons.2 ⟨hreducer, hall⟩)
      obtain ⟨before, late, after, rfl, hbefore, hlate⟩ := ih hrest
      exact ⟨reducer :: before, late, after, rfl, List.forall_mem_cons.2 ⟨hreducer, hbefore⟩, hlate⟩
    · exact ⟨[], reducer, rest, rfl, by simp, hreducer⟩

/-- The lines of the commands of some reducers are no text exactly if no reducer changes
    anything. -/
theorem lines_ne_nil_iff (before : List Reducer) :
    (before.flatMap (Reducer.commands · block direction)).flatMap
        (fun command => command.lineChars ++ ['\n']) ≠ [] ↔
      ∃ reducer ∈ before, block.deltas reducer.settings.mode direction ≠ [] := by
  rw [Ne, List.flatMap_eq_nil_iff]
  constructor
  · intro hsome
    by_contra hnone
    -- a reducer without deltas gives no command
    refine hsome fun command hmem => ?_
    obtain ⟨reducer, hreducer, hown⟩ := List.mem_flatMap.1 hmem
    have hempty : block.deltas reducer.settings.mode direction = [] := by
      by_contra hne
      exact hnone ⟨reducer, hreducer, hne⟩
    rw [Reducer.commands_eq_nil_iff.2 hempty] at hown
    cases hown
  · rintro ⟨reducer, hreducer, hne⟩ hnone
    rw [Ne, ← Reducer.commands_eq_nil_iff] at hne
    obtain ⟨command, rest, hcommands⟩ := List.exists_cons_of_ne_nil hne
    have hmem : command ∈ before.flatMap (Reducer.commands · block direction) :=
      List.mem_flatMap.2 ⟨reducer, hreducer, by rw [hcommands]; exact List.mem_cons_self⟩
    simpa using hnone command hmem

end Composition

/-! ## Runs -/

theorem Composition.commandsFor_of_isFound {direction : Direction} {block config : String}
    {look : String → Found} {environment : Settings.Environment} {composition : Composition}
    {parsed : Block} {octets : Bytes}
    (hfound : IsFound look environment block config composition parsed)
    (hfile : look (Path.normal block) = .file octets)
    (hgiven : ∀ reducer ∈ composition.reducers, ∃ given,
      (reducer.reduce parsed direction).outcome = .ok given) :
    commandsFor look environment direction (Path.normal block) (Path.normal config) octets =
      .ok (composition.reducers.flatMap (Reducer.commands · parsed direction)) := by
  obtain ⟨octets', settings, hfile', hsettings, hcomposition, hparsed⟩ := hfound
  rw [hfile] at hfile'
  cases hfile'
  have hreduce := reduceAll_eq_ok_iff.2 ⟨hgiven, rfl⟩
  exact commandsFor_eq_ok_iff.2
    ⟨settings, composition, parsed, hsettings, hcomposition, hparsed, hreduce⟩

/-- A run breaks where one of its reducers gives commands that cannot all be written. -/
theorem Request.exitCode_ne_zero_of_not_hasWritableAmounts {direction : Direction}
    {block config : String} {look : String → Found} {environment : Settings.Environment}
    {result : Run} {composition : Composition} {parsed : Block} {late : Reducer}
    (hrun : (Request.reduce direction block config).run look environment = some result)
    (hfound : Composition.IsFound look environment block config composition parsed)
    (hgiven : ∀ reducer ∈ composition.reducers, ∃ given,
      (reducer.reduce parsed direction).outcome = .ok given)
    (hmem : late ∈ composition.reducers)
    (hlate : ¬ late.HasWritableAmounts parsed direction) : result.exitCode ≠ 0 := by
  rw [Ne, Run.exitCode_eq_zero_iff]
  intro hdone
  obtain ⟨octets, hfile, hcases⟩ := run_reduce_cases hrun
  have hfor := Composition.commandsFor_of_isFound hfound hfile hgiven
  rcases hcases with ⟨commands, hcommands, -, -, hending⟩ | ⟨failure, hfailure, -, -⟩
  · rw [hfor] at hcommands
    cases hcommands
    obtain ⟨given, hown⟩ := hgiven late hmem
    obtain ⟨first, rest, hfirst, hwrite⟩ := Reducer.exists_late_command hown hlate
    have hcommand : first ∈
        composition.reducers.flatMap (Reducer.commands · parsed direction) :=
      List.mem_flatMap.2 ⟨late, hmem, by rw [hfirst]; exact List.mem_cons_self⟩
    have hall : ¬ (composition.reducers.flatMap (Reducer.commands · parsed direction)).all
        Command.canWrite = true := by
      intro hall
      rw [List.all_eq_true.1 hall first hcommand] at hwrite
      cases hwrite
    rw [if_neg hall, hdone] at hending
    cases hending
  · rw [hfor] at hfailure
    cases hfailure

/-- A run that fails has printed something exactly if all its reducers gave commands, and the
    first of them with an amount that is too long to be written comes after one that changes
    something. -/
theorem Request.output_of_failed_run {direction : Direction} {block config : String}
    {look : String → Found} {environment : Settings.Environment} {result : Run}
    (hrun : (Request.reduce direction block config).run look environment = some result)
    (hcode : result.exitCode ≠ 0) :
    result.output ≠ "" ↔ ∃ composition parsed,
      Composition.IsFound look environment block config composition parsed ∧
      (∀ reducer ∈ composition.reducers, ∃ given,
        (reducer.reduce parsed direction).outcome = .ok given) ∧
      ∃ before late after, composition.reducers = before ++ late :: after ∧
        (∀ reducer ∈ before, reducer.HasWritableAmounts parsed direction) ∧
        ¬ late.HasWritableAmounts parsed direction ∧
        ∃ reducer ∈ before, parsed.deltas reducer.settings.mode direction ≠ [] := by
  have htext : result.output ≠ "" ↔ result.output.toList ≠ [] := by
    rw [Ne, ← String.toList_inj]
    rfl
  rw [Ne, Run.exitCode_eq_zero_iff] at hcode
  obtain ⟨octets, hfile, hcases⟩ := run_reduce_cases hrun
  constructor
  · intro hprinted
    rcases hcases with ⟨commands, hcommands, -, houtput, hending⟩ | ⟨failure, -, houtput, -⟩
    · obtain ⟨settings, composition, parsed, hsettings, hcomposition, hparsed, hreduce⟩ :=
        Composition.commandsFor_eq_ok_iff.1 hcommands
      obtain ⟨hgiven, rfl⟩ := Composition.reduceAll_eq_ok_iff.1 hreduce
      -- with all amounts writable the run would have printed everything and ended well
      have hsome : ¬ ∀ reducer ∈ composition.reducers,
          reducer.HasWritableAmounts parsed direction := by
        intro hwritable
        have hwritten := Composition.canWrite_of_hasWritableAmounts hwritable
        rw [if_pos (List.all_eq_true.2 hwritten)] at hending
        exact hcode hending
      obtain ⟨before, late, after, hsplit, hbefore, hlate⟩ := Composition.exists_first_late hsome
      obtain ⟨given, hown⟩ := hgiven late (by simp [hsplit])
      rw [hsplit, Composition.takeWhile_canWrite hbefore hown hlate] at houtput
      rw [htext, houtput, Composition.lines_ne_nil_iff] at hprinted
      exact ⟨composition, parsed, ⟨octets, settings, hfile, hsettings, hcomposition, hparsed⟩,
        hgiven, before, late, after, hsplit, hbefore, hlate, hprinted⟩
    · exact absurd houtput hprinted
  · rintro ⟨composition, parsed, hfound, hgiven, before, late, after, hsplit, hbefore, hlate,
      hchange⟩
    have hfor := Composition.commandsFor_of_isFound hfound hfile hgiven
    rcases hcases with ⟨commands, hcommands, -, houtput, -⟩ | ⟨failure, hfailure, -, -⟩
    · -- the composition and the block are the ones of the run, which finds no others
      rw [hfor] at hcommands
      cases hcommands
      obtain ⟨given, hown⟩ := hgiven late (by simp [hsplit])
      rw [hsplit, Composition.takeWhile_canWrite hbefore hown hlate] at houtput
      rw [htext, houtput, Composition.lines_ne_nil_iff]
      exact hchange
    · rw [hfor] at hfailure
      cases hfailure

/-- A block that gives one unit to a base address, and to a Byron address twice the greatest
    amount with a numeral. -/
def twoLongAmounts : Block where
  transactions := [
    { outputs := [⟨0x01 :: List.replicate 56 0x07, 1⟩, ⟨[0x82], Numeral.bound - 1⟩,
        ⟨[0x82], Numeral.bound - 1⟩] }]

/-- Counters of staking keys, and behind them the rows of payment keys. -/
def countersThenRows : Composition where
  reducers := [⟨{ mode := .stake }⟩, ⟨{ mode := .payment, table := some "balances" }⟩]

/-- The settings that name these reducers. -/
def countersThenRowsSettings : Settings.Environment :=
  [("LEDGER_REDUCERS_REDUCERS",
    "[\x7b\"config\":\x7b\"addressType\":\"stake\"\x7d\x7d," ++
      "\x7b\"config\":\x7b\"addressType\":\"payment\",\"table\":\"balances\"\x7d\x7d]")]

/-- The file of the block. -/
def twoLongAmountsFile (path : String) : Found :=
  if path = "block.json" then .file twoLongAmounts.toFile else .nothing

theorem twoLongAmounts_isRenderable : twoLongAmounts.IsRenderable := by
  have houtputs : ∀ transaction ∈ twoLongAmounts.transactions, transaction.inputs = [] ∧
      ∀ output ∈ transaction.outputs,
        0 ≤ output.coin ∧ output.coin.natAbs < Numeral.bound := by decide +kernel
  have hslot : twoLongAmounts.slot = none := rfl
  have hheight : twoLongAmounts.height = none := rfl
  have hhash : twoLongAmounts.hash = none := rfl
  refine ⟨fun transaction htransaction => ?_, by simp [hslot], by simp [hheight], by simp [hhash]⟩
  obtain ⟨hinputs, hcoins⟩ := houtputs transaction htransaction
  constructor
  · intro output houtput
    exact ⟨(hcoins output houtput).1, (hcoins output houtput).2⟩
  · rw [hinputs]
    simp

theorem countersThenRows_isFound : Composition.IsFound twoLongAmountsFile
    countersThenRowsSettings "block.json" Request.defaultConfig countersThenRows
    twoLongAmounts := by
  have hblock : Path.normal "block.json" = "block.json" := by decide +kernel
  have hconfig : Path.normal Request.defaultConfig = "reducers.yaml" := by decide +kernel
  have hfile : twoLongAmountsFile "block.json" = .file twoLongAmounts.toFile := if_pos rfl
  have hnothing : twoLongAmountsFile "reducers.yaml" = .nothing := if_neg (by decide)
  have hcomposed : ((Settings.Pipeline.ofEnvironment countersThenRowsSettings).toOption.bind
      fun settings => (Composition.ofSettings settings).toOption) = some countersThenRows := by
    decide +kernel
  obtain ⟨settings, hsettings, hcomposition⟩ := exists_of_toOption_bind hcomposed
  refine ⟨twoLongAmounts.toFile, settings, ?_, ?_, hcomposition, ?_⟩
  · rw [hblock, hfile]
  · rw [settingsAt, hconfig, hnothing]
    exact hsettings
  · exact Block.ofFile_toFile twoLongAmounts_isRenderable _

theorem Request.output_of_failed_run_twoLongAmounts : ∃ result,
    (Request.reduce .apply "block.json" defaultConfig).run twoLongAmountsFile
      countersThenRowsSettings = some result ∧
    result.exitCode ≠ 0 ∧ result.output ≠ "" := by
  have hblock : Path.normal "block.json" = "block.json" := by decide +kernel
  have hfile : twoLongAmountsFile "block.json" = .file twoLongAmounts.toFile := if_pos rfl
  have hruns : ∀ reducer ∈ countersThenRows.reducers,
      reducer.settings.walker.abort? twoLongAmounts.items = none ∧
        reducer.settings.emitter.canWrite
          (twoLongAmounts.deltas reducer.settings.mode .apply) = true := by decide +kernel
  have hcounters : ∀ entry ∈ twoLongAmounts.deltas .stake .apply,
      entry.2.natAbs < Numeral.bound := by decide +kernel
  have hrows : ¬ ∀ entry ∈ twoLongAmounts.deltas .payment .apply,
      entry.2.natAbs < Numeral.bound := by decide +kernel
  have hchange : twoLongAmounts.deltas .stake .apply ≠ [] := by decide +kernel
  have hgiven : ∀ reducer ∈ countersThenRows.reducers, ∃ given,
      (reducer.reduce twoLongAmounts .apply).outcome = .ok given := fun reducer hreducer =>
    ⟨_, Reducer.reduce_eq_ok_iff.2 ⟨(hruns reducer hreducer).1, (hruns reducer hreducer).2, rfl⟩⟩
  have hrun : (Request.reduce .apply "block.json" defaultConfig).run twoLongAmountsFile
      countersThenRowsSettings = some (runReduce twoLongAmountsFile countersThenRowsSettings
        .apply (Path.normal "block.json") (Path.normal defaultConfig) twoLongAmounts.toFile) := by
    rw [Request.run, if_neg (by decide +kernel), hblock, hfile]
  have hcode := exitCode_ne_zero_of_not_hasWritableAmounts hrun countersThenRows_isFound hgiven
    (List.mem_cons_of_mem _ List.mem_cons_self) hrows
  refine ⟨_, hrun, hcode, (output_of_failed_run hrun hcode).2 ⟨countersThenRows, twoLongAmounts,
    countersThenRows_isFound, hgiven, [⟨{ mode := .stake }⟩], _, [], rfl, ?_, hrows, ?_⟩⟩
  · rw [List.forall_mem_singleton]
    exact hcounters
  · exact ⟨_, List.mem_cons_self, hchange⟩

end UtxoBalance
