import UtxoBalance.Proofs.CheckedSettings
import UtxoBalance.Proofs.Emission
import UtxoBalance.Proofs.TableName

/-!
# Texts of statements

The statements on the rows of a table are two templates with the name of the table in them.
The name is all that is put into a template, and it comes from the settings: what a block
holds is handed over in the parameters, and never becomes part of a text. A name that settings
take has no percent sign, and no fixed part of a template ends in one, so that a name that
begins with `s` makes no placeholder together with what is before it. The placeholders of a
text are those of its template, and the parameters are as many.

## Main definitions

- `Table.Piece`, `Table.fill` — templates, and the texts made from them
- `Table.placeholders` — the number of placeholders in a text
- `Command.IsBound` — statements with as many placeholders as parameters
- `Command.sql?` — the text of a statement

## Main statements

- `Table.placeholders_fill`, `Table.count_percent_fill` — a name adds no placeholder
- `Reducer.reduce_binds_deltas` — the statements of a reducer, block by block
-/

namespace UtxoBalance

namespace Table

/-! ## Templates -/

/-- A piece of a template. -/
inductive Piece
  /-- A text that is the same for all tables. -/
  | fixed (text : String)
  /-- The place of the table. -/
  | table

/-- The text that a template makes with the name of a table in all of its places. -/
def fill (name : String) : List Piece → String
  | [] => ""
  | .fixed text :: rest => text ++ fill name rest
  | .table :: rest => name ++ fill name rest

/-- The template of the statement that adds amounts to rows. -/
def upsertTemplate : List Piece :=
  [.fixed "INSERT INTO ", .table, .fixed " (address, balance) ",
    .fixed "SELECT * FROM unnest(%s::text[], %s::numeric[]) ",
    .fixed "ON CONFLICT (address) DO UPDATE ", .fixed "SET balance = ", .table,
    .fixed ".balance + EXCLUDED.balance"]

/-- The template of the statement that deletes rows. -/
def cleanupTemplate : List Piece :=
  [.fixed "DELETE FROM ", .table, .fixed " WHERE address = ANY(%s::text[]) AND balance = 0"]

theorem upsert_eq_fill (name : String) : upsert name = fill name upsertTemplate := by
  -- for any texts in place of the fixed ones, so that these are not looked at
  have hassoc : ∀ a b c d e f : String, a ++ name ++ b ++ c ++ d ++ e ++ name ++ f =
      fill name [.fixed a, .table, .fixed b, .fixed c, .fixed d, .fixed e, .table, .fixed f] := by
    intro a b c d e f
    simp only [fill, String.append_assoc, String.append_empty]
  exact hassoc _ _ _ _ _ _

theorem cleanup_eq_fill (name : String) : cleanup name = fill name cleanupTemplate := by
  have hassoc : ∀ a b : String, a ++ name ++ b = fill name [.fixed a, .table, .fixed b] := by
    intro a b
    simp only [fill, String.append_assoc, String.append_empty]
  exact hassoc _ _

/-! ## Placeholders -/

/-- The number of placeholders in a text, each of which is a percent sign before an `s`. -/
def placeholders : List Char → Nat
  | [] => 0
  | c :: rest => (if c = '%' ∧ rest.head? = some 's' then 1 else 0) + placeholders rest

theorem placeholders_of_notMem {chars : List Char} (h : '%' ∉ chars) : placeholders chars = 0 := by
  induction chars with
  | nil => rfl
  | cons c rest ih =>
    rw [List.mem_cons, not_or] at h
    rw [placeholders, if_neg fun hboth => h.1 hboth.1.symm, ih h.2]

/-- Where the first of two texts does not end in a percent sign, no placeholder arises between
    them. -/
theorem placeholders_append {first : List Char} (h : first.getLast? ≠ some '%')
    (second : List Char) :
    placeholders (first ++ second) = placeholders first + placeholders second := by
  induction first with
  | nil => rw [List.nil_append, placeholders, Nat.zero_add]
  | cons c rest ih =>
    cases rest with
    | nil =>
      have hc : c ≠ '%' := fun hc => h (by rw [hc]; rfl)
      simp [placeholders, hc]
    | cons d more =>
      rw [List.getLast?_cons_cons] at h
      have hhead : (d :: more ++ second).head? = (d :: more).head? := rfl
      rw [List.cons_append, placeholders, ih h, hhead, placeholders.eq_2 c, Nat.add_assoc]

variable {name : String} {template : List Piece}

/-- A name without a percent sign adds no placeholder to a template. -/
theorem placeholders_fill (h : '%' ∉ name.toList)
    (hends : ∀ text, .fixed text ∈ template → text.toList.getLast? ≠ some '%') :
    placeholders (fill name template).toList = placeholders (fill "" template).toList := by
  induction template with
  | nil => rfl
  | cons piece rest ih =>
    have hrest := ih fun text htext => hends text (List.mem_cons_of_mem _ htext)
    cases piece with
    | fixed text =>
      have hlast := hends text List.mem_cons_self
      rw [fill, fill, String.toList_append, String.toList_append, placeholders_append hlast,
        placeholders_append hlast, hrest]
    | table =>
      have hlast : name.toList.getLast? ≠ some '%' := fun hlast => h (List.mem_of_getLast? hlast)
      rw [fill, fill, String.toList_append, placeholders_append hlast, placeholders_of_notMem h,
        Nat.zero_add, String.empty_append, hrest]

theorem count_percent_fill (h : '%' ∉ name.toList) :
    (fill name template).toList.count '%' = (fill "" template).toList.count '%' := by
  induction template with
  | nil => rfl
  | cons piece rest ih =>
    cases piece with
    | fixed text =>
      rw [fill, fill, String.toList_append, String.toList_append, List.count_append,
        List.count_append, ih]
    | table =>
      rw [fill, fill, String.toList_append, List.count_append, List.count_eq_zero_of_not_mem h,
        Nat.zero_add, String.empty_append, ih]

theorem placeholders_upsertTemplate :
    placeholders (fill "" upsertTemplate).toList = 2 ∧
      (fill "" upsertTemplate).toList.count '%' = 2 := by
  decide +kernel

theorem placeholders_cleanupTemplate :
    placeholders (fill "" cleanupTemplate).toList = 1 ∧
      (fill "" cleanupTemplate).toList.count '%' = 1 := by
  decide +kernel

theorem percent_notMem_of_mem_names (h : name.toList ∈ names) : '%' ∉ name.toList :=
  notMem_of_mem_names h (by decide) (by decide)

end Table

/-! ## Statements -/

/-- A statement in whose text every percent sign begins a placeholder, with one parameter for
    each of them. -/
def Command.IsBound : Command → Prop
  | .counter _ _ => False
  | .statement sql params =>
    Table.placeholders sql.toList = params.length ∧ sql.toList.count '%' = params.length

/-- The text of a statement. -/
def Command.sql? : Command → Option String
  | .counter _ _ => none
  | .statement sql _ => some sql

theorem Command.isBound_upsert {name : String} (h : name.toList ∈ Table.names)
    (keys amounts : Document) : (statement (Table.upsert name) [keys, amounts]).IsBound := by
  have hpercent := Table.percent_notMem_of_mem_names h
  have hends : ∀ text, .fixed text ∈ Table.upsertTemplate → text.toList.getLast? ≠ some '%' := by
    simp [Table.upsertTemplate]
  rw [IsBound, Table.upsert_eq_fill, Table.placeholders_fill hpercent hends,
    Table.count_percent_fill hpercent]
  exact Table.placeholders_upsertTemplate

theorem Command.isBound_cleanup {name : String} (h : name.toList ∈ Table.names)
    (keys : Document) : (statement (Table.cleanup name) [keys]).IsBound := by
  have hpercent := Table.percent_notMem_of_mem_names h
  have hends : ∀ text, .fixed text ∈ Table.cleanupTemplate → text.toList.getLast? ≠ some '%' := by
    simp [Table.cleanupTemplate]
  rw [IsBound, Table.cleanup_eq_fill, Table.placeholders_fill hpercent hends,
    Table.count_percent_fill hpercent]
  exact Table.placeholders_cleanupTemplate

namespace Reducer

/-- The statements of a reducer for the rows of a table. -/
theorem exists_columns_of_reduce {settings : Settings.Reduction} {table : String}
    (htable : settings.emitter = .rows table) {block : Block} {direction : Direction}
    {commands : List Command} (h : (reduce ⟨settings⟩ block direction).outcome = .ok commands)
    (hsome : commands ≠ []) :
    ∃ tally keys amounts, (settings.walker.walk block direction).outcome = .ok tally ∧
      tally.deltas.Columns keys amounts ∧
      commands = [.statement (Table.upsert table) [.list (keys.map .text), .list (amounts.map .int)],
        .statement (Table.cleanup table) [.list (keys.map .text)]] := by
  obtain ⟨habort, -, rfl⟩ := reduce_eq_ok_iff.1 h
  refine ⟨_, _, _, Walker.walk_eq_ok_iff.2 ⟨habort, rfl⟩,
    Deltas.columns_sorted (Deltas.nodup_keys_gather _), ?_⟩
  rw [Reducer.commands, htable, Emitter.commands_rows] at hsome ⊢
  rw [if_neg fun hnil => hsome (if_pos hnil)]
  rfl

/-- Where settings that were taken ask for rows, the texts of the statements are two templates
    with the name of the table in its places, and no block changes anything about them. The
    name is made of letters, digits, underscores and at most one point. There is one parameter
    for each placeholder, and no other percent sign. The parameters hold the deltas of the
    block, in the order of their keys. -/
theorem reduce_binds_deltas {entries : Given.Entries} {settings : Settings.Reduction}
    (h : Settings.Reduction.ofEntries entries = .ok settings)
    (hrows : settings.resolvedBackend = .relational) :
    ∃ table, settings.table = some table ∧ table.toList ∈ Table.names ∧
      (∀ c ∈ table.toList, c ∈ Table.inners ∨ c = '.') ∧ table.toList.count '.' ≤ 1 ∧
      ∀ block direction commands, (reduce ⟨settings⟩ block direction).outcome = .ok commands →
        commands ≠ [] →
        (∃ tally keys amounts, (settings.walker.walk block direction).outcome = .ok tally ∧
          tally.deltas.Columns keys amounts ∧
          commands = [
            .statement (Table.fill table Table.upsertTemplate)
              [.list (keys.map .text), .list (amounts.map .int)],
            .statement (Table.fill table Table.cleanupTemplate) [.list (keys.map .text)]]) ∧
        (∀ command ∈ commands, command.IsBound) ∧
        ∀ other otherDirection otherCommands,
          (reduce ⟨settings⟩ other otherDirection).outcome = .ok otherCommands →
          otherCommands ≠ [] → otherCommands.map Command.sql? = commands.map Command.sql? := by
  obtain ⟨table, htable⟩ := Option.isSome_iff_exists.1
    ((Settings.Reduction.isSound_of_ofEntries h).table_isSome hrows)
  have hname : table.toList ∈ Table.names :=
    Table.isName_iff.1 (Settings.Reduction.isName_of_ofEntries h table htable)
  have hemitter := Settings.Reduction.emitter_of_relational hrows htable
  refine ⟨table, htable, hname, Table.mem_inners_or_eq_point hname,
    Table.count_point_le_one hname, fun block direction commands hcommands hsome => ?_⟩
  obtain ⟨tally, keys, amounts, htally, hcolumns, rfl⟩ :=
    exists_columns_of_reduce hemitter hcommands hsome
  refine ⟨⟨tally, keys, amounts, htally, hcolumns, ?_⟩, fun command hcommand => ?_, ?_⟩
  · rw [Table.upsert_eq_fill, Table.cleanup_eq_fill]
  · rcases List.mem_pair.1 hcommand with rfl | rfl
    · exact Command.isBound_upsert hname _ _
    · exact Command.isBound_cleanup hname _
  · intro other otherDirection otherCommands hother hsomeOther
    obtain ⟨_, _, _, -, -, rfl⟩ := exists_columns_of_reduce hemitter hother hsomeOther
    rfl

theorem commands_ne_nil {settings : Settings.Reduction} {table : String}
    (htable : settings.emitter = .rows table) {block : Block} {direction : Direction}
    (h : block.deltas settings.mode direction ≠ []) : commands ⟨settings⟩ block direction ≠ [] := by
  rw [commands, htable, Emitter.commands_rows, if_neg (Deltas.sorted_eq_nil_iff.not.2 h)]
  exact List.cons_ne_nil _ _

/-- A block that creates one output, and one that spends another. -/
def creating : Block := { transactions := [{ outputs := [⟨[0x82], 5⟩] }] }

def spending : Block :=
  { transactions := [{ inputs := [{ spent := some ⟨[0x83, 0x27], 7⟩ }] }], slot := some 4 }

/-- The statements for the two blocks have the same texts, in one direction and the other. -/
theorem reduce_binds_deltas_creating :
    ∃ settings first second, Settings.Reduction.ofEntries (Given.ofFields
        [("addressType", .text "payment"), ("table", .text "ledger.balances")]) = .ok settings ∧
      settings.resolvedBackend = .relational ∧
      (reduce ⟨settings⟩ creating .apply).outcome = .ok first ∧ first ≠ [] ∧
      (reduce ⟨settings⟩ spending .undo).outcome = .ok second ∧ second ≠ [] ∧
      second.map Command.sql? = first.map Command.sql? ∧ ∀ command ∈ first, command.IsBound := by
  let settings : Settings.Reduction := { mode := .payment, table := some "ledger.balances" }
  have hcheck : Settings.Reduction.ofEntries (Given.ofFields
      [("addressType", .text "payment"), ("table", .text "ledger.balances")]) = .ok settings := by
    decide +kernel
  have hfirst : (reduce ⟨settings⟩ creating .apply).outcome =
      .ok (commands ⟨settings⟩ creating .apply) := reduce_eq_ok_iff.2 ⟨rfl, rfl, rfl⟩
  have hsecond : (reduce ⟨settings⟩ spending .undo).outcome =
      .ok (commands ⟨settings⟩ spending .undo) := reduce_eq_ok_iff.2 ⟨rfl, rfl, rfl⟩
  have hcreating : commands ⟨settings⟩ creating .apply ≠ [] := commands_ne_nil rfl (by decide)
  have hspending : commands ⟨settings⟩ spending .undo ≠ [] := commands_ne_nil rfl (by decide)
  obtain ⟨_, -, -, -, -, htexts⟩ := reduce_binds_deltas hcheck rfl
  obtain ⟨-, hbound, hsame⟩ := htexts creating .apply _ hfirst hcreating
  exact ⟨settings, _, _, hcheck, rfl, hfirst, hcreating, hsecond, hspending,
    hsame spending .undo _ hsecond hspending, hbound⟩

end Reducer

end UtxoBalance
