import UtxoBalance.Proofs.Numeral
import UtxoBalance.Proofs.Reduction

/-!
# Stores

A store keeps what commands tell it: counters by name, and tables whose rows hold the
balance of an address. A counter command adds to one counter. An upsert adds amounts
to rows, and inserts the rows that are missing; as in a database, it may not name an
address twice. A cleanup deletes those of the rows it names that have come to zero.
A command that a store does not understand is refused.

## Main definitions

- `Table.ofUpsert?`, `Table.ofCleanup?` — the table that a statement is about
- `Rows`, `Store` — what is kept
- `Store.execute`, `Store.executeAll` — what commands do
- `Change`, `Store.shift` — a store with other amounts and without rows at zero
- `Emitter.change` — what the commands of an emitter are meant to change

## Main statements

- `Table.ofUpsert?_upsert`, `Table.ofCleanup?_cleanup` — statements are understood
- `Store.shift_shift` — changes add up
- `Store.executeAll_commands` — what the commands of an emitter do to a store
-/

namespace UtxoBalance

/-! ## The table of a statement -/

namespace Table

/-- The name in a text, where the text is a frame around some copies of the name, the
    first of them behind `start` characters. The length of the text tells that of the
    name. -/
def nameIn? (frame : String → String) (start copies : Nat) (text : String) : Option String :=
  let length := (text.length - (frame "").length) / copies
  let name := String.ofList ((text.toList.drop start).take length)
  if frame name = text then some name else none

/-- The table that an upsert is about. -/
def ofUpsert? (sql : String) : Option String :=
  nameIn? upsert "INSERT INTO ".length 2 sql

/-- The table that a cleanup is about. -/
def ofCleanup? (sql : String) : Option String :=
  nameIn? cleanup "DELETE FROM ".length 1 sql

/-- A name is found in its frame, whatever characters it has. -/
theorem nameIn?_frame {frame rest : String → String} {before : String} {copies : Nat}
    (hframe : ∀ name, frame name = before ++ (name ++ rest name))
    (hlength : ∀ name, (frame name).length = (frame "").length + copies * name.length)
    (hcopies : 0 < copies) (name : String) :
    nameIn? frame before.length copies (frame name) = some name := by
  have hcount : ((frame name).length - (frame "").length) / copies = name.length := by
    rw [hlength, Nat.add_sub_cancel_left, Nat.mul_div_cancel_left _ hcopies]
  have hchars : ((frame name).toList.drop before.length).take name.length = name.toList := by
    rw [hframe, String.toList_append, String.toList_append, ← String.length_toList,
      ← String.length_toList, List.drop_left, List.take_left]
  simp only [nameIn?, hcount, hchars, String.ofList_toList, if_true]

theorem nameIn?_of_twice {frame : String → String} {before between after : String}
    (hframe : ∀ name, frame name = before ++ (name ++ (between ++ (name ++ after))))
    (name : String) : nameIn? frame before.length 2 (frame name) = some name := by
  refine nameIn?_frame hframe (fun name => ?_) (by decide) name
  rw [hframe, hframe]
  simp only [String.length_append, String.length_empty]
  omega

theorem nameIn?_of_once {frame : String → String} {before after : String}
    (hframe : ∀ name, frame name = before ++ (name ++ after))
    (name : String) : nameIn? frame before.length 1 (frame name) = some name := by
  refine nameIn?_frame hframe (fun name => ?_) (by decide) name
  rw [hframe, hframe]
  simp only [String.length_append, String.length_empty]
  omega

theorem append_twice (before a b c d name after : String) :
    before ++ name ++ a ++ b ++ c ++ d ++ name ++ after =
      before ++ (name ++ (a ++ b ++ c ++ d ++ (name ++ after))) := by
  simp only [String.append_assoc]

/-- An upsert is understood, whatever the name of the table. -/
theorem ofUpsert?_upsert (table : String) : ofUpsert? (upsert table) = some table :=
  nameIn?_of_twice (fun _ => append_twice ..) table

theorem ofCleanup?_cleanup (table : String) : ofCleanup? (cleanup table) = some table :=
  nameIn?_of_once (fun _ => String.append_assoc ..) table

/-- A cleanup is not taken for an upsert. -/
theorem ofUpsert?_cleanup (table : String) : ofUpsert? (cleanup table) = none := by
  have hupsert : ∀ name, (upsert name).toList.head? = some 'I' := by
    intro name
    unfold upsert
    simp only [String.toList_append, List.head?_append]
    rfl
  have hcleanup : (cleanup table).toList.head? = some 'D' := by
    unfold cleanup
    simp only [String.toList_append, List.head?_append]
    rfl
  have hne : ∀ name, upsert name ≠ cleanup table := by
    intro name heq
    have hhead := hupsert name
    rw [heq, hcleanup] at hhead
    exact absurd hhead (by decide)
  simp only [ofUpsert?, nameIn?, hne, if_false]

end Table

/-! ## Rows -/

/-- The rows of a table: the balance of each address that has one. -/
abbrev Rows := String → Option Int

namespace Rows

/-- The balance of an address; where there is no row it is zero. -/
def balance (rows : Rows) (address : String) : Int :=
  (rows address).getD 0

/-- The rows of all addresses with a balance other than zero. -/
def ofBalance (balance : String → Int) : Rows :=
  fun address => if balance address = 0 then none else some (balance address)

/-- Adds an amount to the row of an address, which is inserted if it is missing. -/
def add (rows : Rows) (entry : String × Int) : Rows :=
  Function.update rows entry.1 (some (rows.balance entry.1 + entry.2))

/-- Adds amounts to the rows of some addresses. -/
def upsert (rows : Rows) (entries : Deltas) : Rows :=
  entries.foldl add rows

/-- Deletes those of some rows that have come to zero. -/
def cleanup (rows : Rows) (addresses : List String) : Rows :=
  fun address => if address ∈ addresses ∧ rows address = some 0 then none else rows address

theorem add_self (rows : Rows) (entry : String × Int) :
    rows.add entry entry.1 = some (rows.balance entry.1 + entry.2) :=
  Function.update_self ..

theorem add_of_ne {rows : Rows} {entry : String × Int} {address : String}
    (h : entry.1 ≠ address) : rows.add entry address = rows address :=
  Function.update_of_ne h.symm ..

theorem balance_add (rows : Rows) (entry : String × Int) (address : String) :
    (rows.add entry).balance address =
      rows.balance address + if entry.1 = address then entry.2 else 0 := by
  by_cases h : entry.1 = address
  · rw [balance, ← h, add_self, if_pos rfl]
    rfl
  · rw [balance, add_of_ne h, if_neg h, Int.add_zero]
    rfl

theorem upsert_apply (rows : Rows) (entries : Deltas) (address : String) :
    rows.upsert entries address =
      if address ∈ entries.keys then some (rows.balance address + entries.amount address)
      else rows address := by
  induction entries generalizing rows with
  | nil => rfl
  | cons entry rest ih =>
    have hstep : rows.upsert (entry :: rest) = (rows.add entry).upsert rest := rfl
    rw [hstep, ih, balance_add, Deltas.amount_cons]
    by_cases hmem : address ∈ Deltas.keys rest
    · have hkeys : address ∈ Deltas.keys (entry :: rest) := List.mem_cons_of_mem _ hmem
      rw [if_pos hmem, if_pos hkeys, Int.add_assoc]
    · have hzero : Deltas.amount address rest = 0 := Deltas.amount_of_notMem hmem
      rw [if_neg hmem, hzero]
      by_cases hkey : entry.1 = address
      · have hkeys : address ∈ Deltas.keys (entry :: rest) := hkey ▸ List.mem_cons_self
        rw [if_pos hkeys, if_pos hkey, ← hkey, add_self, Int.add_zero]
      · have hkeys : address ∉ Deltas.keys (entry :: rest) := by
          simpa [Deltas.keys, Ne.symm hkey] using hmem
        rw [if_neg hkeys, add_of_ne hkey]

/-- Rows none of which stands at zero are told by the balances. -/
theorem ofBalance_balance {rows : Rows} (h : ∀ address, rows address ≠ some 0) :
    ofBalance rows.balance = rows := by
  funext address
  have hrow := h address
  cases hbalance : rows address with
  | none => simp [ofBalance, balance, hbalance]
  | some value =>
    rw [hbalance] at hrow
    have hne : value ≠ 0 := fun heq => hrow (congrArg some heq)
    simp [ofBalance, balance, hbalance, hne]

@[simp] theorem balance_ofBalance (amounts : String → Int) :
    (ofBalance amounts).balance = amounts := by
  funext address
  by_cases h : amounts address = 0
  · simp [balance, ofBalance, h]
  · simp [balance, ofBalance, h]

theorem ofBalance_ne_zero (amounts : String → Int) (address : String) :
    ofBalance amounts address ≠ some 0 := by
  by_cases h : amounts address = 0
  · simp [ofBalance, h]
  · simp [ofBalance, h]

/-- Where no row stands at zero, an upsert and a cleanup of the same rows add what is
    contributed and leave no row at zero. -/
theorem cleanup_upsert {rows : Rows} (h : ∀ address, rows address ≠ some 0) (entries : Deltas) :
    (rows.upsert entries).cleanup entries.keys =
      ofBalance fun address => rows.balance address + entries.amount address := by
  funext address
  rw [cleanup, upsert_apply, ofBalance]
  by_cases hmem : address ∈ entries.keys
  · simp only [hmem, if_true, true_and, Option.some.injEq]
  · have hzero : entries.amount address = 0 := Deltas.amount_of_notMem hmem
    have hrow : ofBalance rows.balance address = rows address := by
      rw [ofBalance_balance h]
    simp only [hmem, false_and, if_false, hzero, Int.add_zero]
    exact hrow.symm

end Rows

/-! ## Stores and what commands do to them -/

/-- Counters and tables. -/
@[ext] structure Store where
  /-- The counters by name; one that was never touched stands at zero. -/
  counters : String → Int
  /-- The tables by name. -/
  tables : String → Rows

/-- The text in a document. -/
def Document.text? : Document → Option String
  | .text value => some value
  | _ => none

/-- The integer in a document. -/
def Document.int? : Document → Option Int
  | .int value => some value
  | _ => none

/-- The values in a list of documents, each read in the same way. -/
def Document.all? {α : Type} (read : Document → Option α) : Document → Option (List α)
  | .list items => items.mapM read
  | _ => none

namespace Store

/-- A store with another amount on one counter. -/
def count (store : Store) (name : String) (amount : Int) : Store :=
  { store with counters := Function.update store.counters name (store.counters name + amount) }

/-- A store with other rows in one table. -/
def setRows (store : Store) (table : String) (rows : Rows) : Store :=
  { store with tables := Function.update store.tables table rows }

/-- What an upsert with these parameters does to rows. No address may be named twice,
    and each comes with one amount. -/
def upsertRows (rows : Rows) : List Document → Option Rows
  | [keys, amounts] => do
    let keys ← keys.all? Document.text?
    let amounts ← amounts.all? Document.int?
    if keys.Nodup ∧ keys.length = amounts.length then some (rows.upsert (keys.zip amounts))
    else none
  | _ => none

/-- What a cleanup with these parameters does to rows. -/
def cleanupRows (rows : Rows) : List Document → Option Rows
  | [keys] => (keys.all? Document.text?).map rows.cleanup
  | _ => none

/-- What a command does to a store, if the store understands it. -/
def execute (store : Store) : Command → Option Store
  | .counter key value => (Numeral.read value).toOption.map (store.count key)
  | .statement sql params =>
    match Table.ofUpsert? sql, Table.ofCleanup? sql with
    | some table, _ => (upsertRows (store.tables table) params).map (store.setRows table)
    | none, some table => (cleanupRows (store.tables table) params).map (store.setRows table)
    | none, none => none

/-- What commands do to a store, one after another. -/
def executeAll (store : Store) (commands : List Command) : Option Store :=
  commands.foldlM execute store

theorem executeAll_cons (store : Store) (command : Command) (rest : List Command) :
    store.executeAll (command :: rest) = (store.execute command).bind (executeAll · rest) := rfl

theorem executeAll_append (store : Store) (first second : List Command) :
    store.executeAll (first ++ second) = (store.executeAll first).bind (executeAll · second) :=
  List.foldlM_append ..

end Store

/-! ## Changes -/

/-- Amounts by which the counters and the balances of rows change. -/
abbrev Change := (String → Int) × (String → String → Int)

namespace Store

/-- No row of a store stands at zero. -/
def HasNoZeroRow (store : Store) : Prop :=
  ∀ table address, store.tables table address ≠ some 0

/-- A store with other amounts, and with rows for all balances other than zero. -/
def shift (store : Store) (change : Change) : Store where
  counters name := store.counters name + change.1 name
  tables table :=
    Rows.ofBalance fun address => (store.tables table).balance address + change.2 table address

theorem hasNoZeroRow_shift (store : Store) (change : Change) :
    (store.shift change).HasNoZeroRow := by
  intro table address
  simp only [shift]
  exact Rows.ofBalance_ne_zero _ address

theorem shift_zero {store : Store} (h : store.HasNoZeroRow) : store.shift 0 = store := by
  ext1
  · funext name
    exact Int.add_zero _
  · funext table
    rw [← Rows.ofBalance_balance (h table)]
    simp [shift]

/-- Changes add up. -/
theorem shift_shift (store : Store) (first second : Change) :
    (store.shift first).shift second = store.shift (first + second) := by
  simp only [shift, Rows.balance_ofBalance, Prod.fst_add, Prod.snd_add, Pi.add_apply,
    Int.add_assoc]

end Store

namespace Emitter

/-- The entries of deltas under the names of their counters. -/
def counterEntries (keyspace : Option String) (entries : Deltas) : Deltas :=
  entries.map fun entry => (counterKey keyspace entry.1, entry.2)

/-- What the commands of an emitter are meant to change. -/
def change : Emitter → Deltas → Change
  | .counters keyspace, entries =>
    (fun name => (counterEntries keyspace entries).amount name, 0)
  | .rows table, entries =>
    (0, fun other address => if other = table then entries.amount address else 0)

theorem change_of_perm (emitter : Emitter) {first second : Deltas} (h : first.Perm second) :
    emitter.change first = emitter.change second := by
  cases emitter with
  | counters keyspace =>
    simp only [change, counterEntries, Deltas.amount_of_perm (h.map _)]
  | rows table => simp only [change, Deltas.amount_of_perm h]

theorem change_negate (emitter : Emitter) (entries : Deltas) :
    emitter.change entries.negate = -emitter.change entries := by
  cases emitter with
  | counters keyspace =>
    have hentries : counterEntries keyspace entries.negate =
        (counterEntries keyspace entries).negate := by
      simp [counterEntries, Deltas.negate, Function.comp_def]
    ext
    · simp [change, hentries]
    · simp [change]
  | rows table =>
    ext
    · simp [change]
    · simp only [change, Deltas.amount_negate, Prod.snd_neg, Pi.neg_apply]
      split
      · rfl
      · rfl

end Emitter

namespace Store

/-! ## What the commands of an emitter do -/

theorem execute_counterCommand (store : Store) (keyspace : Option String)
    {entry : String × Int} (h : entry.2.natAbs < Numeral.bound) :
    store.execute (Emitter.counterCommand keyspace entry) =
      some (store.count (Emitter.counterKey keyspace entry.1) entry.2) := by
  rw [Emitter.counterCommand, execute, Numeral.read_toString h]
  rfl

/-- Counter commands add to each counter what the entries under its name come to. -/
theorem executeAll_counters (store : Store) (keyspace : Option String) {entries : Deltas}
    (h : ∀ entry ∈ entries, entry.2.natAbs < Numeral.bound) :
    store.executeAll (entries.map (Emitter.counterCommand keyspace)) =
      some { store with
        counters := fun name => store.counters name +
          (Emitter.counterEntries keyspace entries).amount name } := by
  induction entries generalizing store with
  | nil => simp [executeAll, Emitter.counterEntries]
  | cons entry rest ih =>
    have hentries : Emitter.counterEntries keyspace (entry :: rest) =
        (Emitter.counterKey keyspace entry.1, entry.2) ::
          Emitter.counterEntries keyspace rest := rfl
    have hcounters : ∀ name,
        (store.count (Emitter.counterKey keyspace entry.1) entry.2).counters name =
          store.counters name +
            if Emitter.counterKey keyspace entry.1 = name then entry.2 else 0 := by
      intro name
      by_cases hname : Emitter.counterKey keyspace entry.1 = name
      · subst hname
        simp [count]
      · simp [count, Function.update_of_ne (Ne.symm hname), hname]
    have htables : (store.count (Emitter.counterKey keyspace entry.1) entry.2).tables =
        store.tables := rfl
    rw [List.map_cons, executeAll_cons,
      execute_counterCommand store keyspace (h entry List.mem_cons_self), Option.bind_some,
      ih _ fun other hother => h other (List.mem_cons_of_mem _ hother)]
    simp only [hcounters, htables, hentries, Deltas.amount_cons, Int.add_assoc]

theorem all?_keyParam (entries : Deltas) :
    (Emitter.keyParam entries).all? Document.text? = some entries.keys := by
  simp only [Emitter.keyParam, Document.all?, List.mapM_map]
  exact List.mapM_pure

theorem all?_amountParam (entries : Deltas) :
    (Emitter.amountParam entries).all? Document.int? = some (entries.map Prod.snd) := by
  simp only [Emitter.amountParam, Document.all?, List.mapM_map]
  exact List.mapM_pure

/-- The upsert for entries with each key once adds the entries to the rows. -/
theorem execute_upsert (store : Store) (table : String) {entries : Deltas}
    (h : entries.keys.Nodup) :
    store.execute (.statement (Table.upsert table)
        [Emitter.keyParam entries, Emitter.amountParam entries]) =
      some (store.setRows table ((store.tables table).upsert entries)) := by
  have hzip : entries.keys.zip (entries.map Prod.snd) = entries := (List.zip_of_prod rfl rfl).symm
  have hlength : entries.keys.length = (entries.map Prod.snd).length := by simp [Deltas.keys]
  simp only [execute, Table.ofUpsert?_upsert, upsertRows, all?_keyParam, all?_amountParam]
  simp [h, hzip, hlength]

/-- The cleanup for entries deletes those of their rows that have come to zero. -/
theorem execute_cleanup (store : Store) (table : String) (entries : Deltas) :
    store.execute (.statement (Table.cleanup table) [Emitter.keyParam entries]) =
      some (store.setRows table ((store.tables table).cleanup entries.keys)) := by
  simp only [execute, Table.ofUpsert?_cleanup, Table.ofCleanup?_cleanup, cleanupRows,
    all?_keyParam, Option.map_some]

theorem setRows_eq_shift {store : Store} (hstore : store.HasNoZeroRow) (table : String)
    (entries : Deltas) :
    store.setRows table (.ofBalance fun address =>
        (store.tables table).balance address + entries.amount address) =
      store.shift (Emitter.change (.rows table) entries) := by
  ext1
  · funext name
    exact (Int.add_zero _).symm
  · funext other
    by_cases hother : other = table
    · subst hother
      simp [setRows, shift, Emitter.change]
    · -- a table that is not written is told by its balances, since no row stands at zero
      have hrows := Rows.ofBalance_balance (hstore other)
      simpa [setRows, shift, Emitter.change, Function.update_of_ne hother, hother] using hrows.symm

/-- The two statements for entries leave the rows of one table that they are meant to
    leave. -/
theorem executeAll_rows {store : Store} (hstore : store.HasNoZeroRow) (table : String)
    {entries : Deltas} (h : entries.keys.Nodup) :
    store.executeAll (Emitter.commands (.rows table) entries) =
      some (store.shift (Emitter.change (.rows table) entries)) := by
  cases entries with
  | nil =>
    have hchange : Emitter.change (.rows table) [] = 0 := by
      ext
      · rfl
      · simp [Emitter.change]
    rw [hchange, shift_zero hstore]
    rfl
  | cons entry rest =>
    have hcommands : Emitter.commands (.rows table) (entry :: rest) =
        [.statement (Table.upsert table)
            [Emitter.keyParam (entry :: rest), Emitter.amountParam (entry :: rest)],
          .statement (Table.cleanup table) [Emitter.keyParam (entry :: rest)]] := rfl
    rw [hcommands, executeAll_cons, execute_upsert store table h, Option.bind_some,
      executeAll_cons, execute_cleanup, Option.bind_some]
    have htable : ∀ rows, (store.setRows table rows).tables table = rows := fun rows => by
      simp [setRows]
    have hagain : ∀ rows more, (store.setRows table rows).setRows table more =
        store.setRows table more := fun rows more => by simp [setRows]
    rw [htable, hagain, Rows.cleanup_upsert (hstore table), setRows_eq_shift hstore]
    rfl

/-- The commands of an emitter for entries with each key once do to a store what they are
    meant to do. -/
theorem executeAll_commands {store : Store} (hstore : store.HasNoZeroRow) (emitter : Emitter)
    {entries : Deltas} (hkeys : entries.keys.Nodup) (hwrite : emitter.canWrite entries) :
    store.executeAll (emitter.commands entries) = some (store.shift (emitter.change entries)) := by
  cases emitter with
  | counters keyspace =>
    have hbound : ∀ entry ∈ entries, entry.2.natAbs < Numeral.bound := by
      simpa [Emitter.canWrite] using hwrite
    rw [Emitter.commands, executeAll_counters store keyspace hbound]
    congr 1
    ext1
    · rfl
    · funext table
      simpa [shift, Emitter.change] using (Rows.ofBalance_balance (hstore table)).symm
  | rows table => exact executeAll_rows hstore table hkeys

end Store

end UtxoBalance
