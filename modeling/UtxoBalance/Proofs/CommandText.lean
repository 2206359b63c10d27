import UtxoBalance.Proofs.JsonText
import UtxoBalance.Proofs.Numeral
import UtxoBalance.Proofs.Reduction

/-!
# Documents of commands

The commands that reducers give are counters with the numeral of an amount, and statements
whose parameters are arrays of texts and integers. The document form of such a command is
built of texts, since integers are written as numerals; it cannot be written where one of
them has too many digits. Read back it is the command with numerals in place of integers.

## Main definitions

- `Command.IsPlain` — the commands with arrays of texts and integers
- `Command.withNumerals` — a command with its integers as numerals
- `Command.canWrite` — whether all integers of a command can be written

## Main statements

- `Command.toDocument_eq` — the document of a plain command, where it has one
- `Command.isTextual_written` — that document is built of texts
- `Command.ofDocument_written` — that document is read back
- `Emitter.isPlain_commands` — reducers give plain commands
-/

namespace UtxoBalance

/-! ## Plain commands -/

namespace Document

/-- Whether a value is a text or an integer. -/
inductive IsPlainItem : Document → Prop
  | text (value : String) : IsPlainItem (.text value)
  | int (n : Int) : IsPlainItem (.int n)

/-- Whether an item of an array can be written. -/
def canWriteItem : Document → Bool
  | .int n => n.natAbs < Numeral.bound
  | _ => true

/-- An item of an array with an integer as its numeral. -/
def itemNumeral : Document → Document
  | .int n => .text (toString n)
  | d => d

/-- Whether a parameter can be written. -/
def canWriteParam : Document → Bool
  | .list items => items.all canWriteItem
  | _ => true

/-- A parameter with the integers of an array as their numerals. -/
def paramNumerals : Document → Document
  | .list items => .list (items.map itemNumeral)
  | d => d

end Document

namespace Command

/-- The commands with the numeral of an amount, or with arrays of texts and integers. -/
inductive IsPlain : Command → Prop
  | counter (key : String) {n : Int} : n.natAbs < Numeral.bound →
      IsPlain (.counter key (toString n))
  | statement (sql : String) {arrays : List (List Document)} :
      (∀ items ∈ arrays, ∀ item ∈ items, item.IsPlainItem) →
      IsPlain (.statement sql (arrays.map .list))

/-- Whether all integers of a command can be written. -/
def canWrite : Command → Bool
  | .counter _ _ => true
  | .statement _ params => params.all Document.canWriteParam

/-- A command with the integers in its arrays as their numerals. -/
def withNumerals : Command → Command
  | .counter key value => .counter key value
  | .statement sql params => .statement sql (params.map Document.paramNumerals)

/-- The document of a command whose integers can be written. -/
def written (command : Command) : Document :=
  match command.withNumerals with
  | .counter key value =>
    .object [("command", .text counterTag), ("key", .text key), ("value", .text value)]
  | .statement sql params =>
    .object [("command", .text statementTag), ("sql", .text sql), ("params", .list params)]

/-! ## Writing -/

theorem writeItem_eq {item : Document} (h : item.IsPlainItem) :
    writeItem item = if item.canWriteItem then .ok item.itemNumeral else .error .tooLarge := by
  cases h with
  | text value => rfl
  | int n =>
    by_cases hn : n.natAbs < Numeral.bound
    · simp [writeItem, Numeral.write, Document.canWriteItem, Document.itemNumeral, hn]
    · simp [writeItem, Numeral.write, Document.canWriteItem, hn]

theorem writeParam_eq {items : List Document} (h : ∀ item ∈ items, item.IsPlainItem) :
    writeParam (.list items) =
      if Document.canWriteParam (.list items) then .ok (Document.paramNumerals (.list items))
      else .error .tooLarge := by
  rw [writeParam, mapM_eq_ite fun item hitem => writeItem_eq (h item hitem)]
  cases hall : items.all Document.canWriteItem with
  | false => simp [Document.canWriteParam, hall]
  | true => simp [Document.canWriteParam, Document.paramNumerals, hall]

/-- A plain command has a document exactly where its integers can be written. -/
theorem toDocument_eq {command : Command} (h : command.IsPlain) :
    command.raw.toDocument =
      if command.canWrite then .ok command.written
      else .error (.shape (.numeral .tooLarge)) := by
  cases h with
  | counter key hn => rfl
  | @statement sql arrays harrays =>
    have hparams : ∀ param ∈ arrays.map Document.list, writeParam param =
        if param.canWriteParam then .ok param.paramNumerals else .error .tooLarge := by
      intro param hparam
      obtain ⟨items, hitems, rfl⟩ := List.mem_map.1 hparam
      exact writeParam_eq (harrays items hitems)
    have hwrite := mapM_eq_ite hparams
    rw [canWrite, raw, toDocument, toDraft, Draft.toDocument]
    change (((arrays.map Document.list).mapM writeParam).mapError _ >>= _) = _
    rw [hwrite]
    cases (arrays.map Document.list).all Document.canWriteParam with
    | false => rfl
    | true => rfl

theorem Document.isTextual_itemNumeral {item : Document} (h : item.IsPlainItem) :
    item.itemNumeral.IsTextual := by
  cases h with
  | text value => exact .text value
  | int n => exact .text (toString n)

theorem isTextual_written {command : Command} (h : command.IsPlain) :
    command.written.IsTextual := by
  cases h with
  | counter key hn =>
    refine .object ?_ (by simp)
    simp only [List.forall_mem_cons, List.not_mem_nil, false_implies, implies_true, and_true]
    exact ⟨.text _, .text _, .text _⟩
  | @statement sql arrays harrays =>
    refine .object ?_ (by simp)
    simp only [List.forall_mem_cons, List.not_mem_nil, false_implies, implies_true, and_true]
    refine ⟨.text _, .text _, .list fun param hparam => ?_⟩
    obtain ⟨array, harray, rfl⟩ := List.mem_map.1 hparam
    obtain ⟨items, hitems, rfl⟩ := List.mem_map.1 harray
    refine .list fun item hitem => ?_
    obtain ⟨given, hgiven, rfl⟩ := List.mem_map.1 hitem
    exact Document.isTextual_itemNumeral (harrays items hitems given hgiven)

/-! ## Reading back -/

theorem asText_eq_ok_iff {error : FormatError} {d : Document} {text : Text.Raw} :
    asText error d = .ok text ↔ d = .ofRaw text := by
  rw [asText, ← Document.raw?_eq_some_iff]
  cases d.raw? with
  | none => simp
  | some other => simp

theorem readCounter_eq {fields : Fields} {key : Text.Raw} {value : String} {amount : Document}
    {n : Int} (hkey : fields.lookup "key" = some (.ofRaw key)) (hvalue : fields.lookup "value" = some amount)
    (hamount : amount.toAmount = .ok n) (hwrite : Numeral.write n = .ok value) :
    readCounter fields = .ok (.counter key value) := by
  simp [readCounter, need, asText, hkey, hvalue, hamount, hwrite, Except.mapError, bind,
    Except.bind, pure, Except.pure]

theorem readStatement_eq {fields : Fields} {sql : Text.Raw} {params : List Document}
    (hsql : fields.lookup "sql" = some (.ofRaw sql))
    (hparams : Document.field fields "params" = .list params) :
    readStatement fields = .ok (.statement sql params) := by
  cases params with
  | nil =>
    simp [readStatement, need, asText, hsql, hparams, Document.isPresent, bind, Except.bind, pure,
      Except.pure]
  | cons param rest =>
    simp [readStatement, need, asText, hsql, hparams, Document.isPresent, Document.elements,
      Document.elements?, Except.mapError, bind, Except.bind, pure, Except.pure]

theorem ofDocument_counter (key : Text.Raw) {value : String} {n : Int}
    (h : Numeral.write n = .ok value) :
    ofDocument (.object [("command", .text counterTag), ("key", .ofRaw key),
      ("value", .text value)]) = .ok (.counter key value) := by
  obtain ⟨hn, rfl⟩ := Numeral.write_eq_ok_iff.1 h
  -- the reader takes the amount as an integer, and writes its numeral anew
  have hamount : (Document.text (toString n)).toAmount = .ok n := by
    rw [Document.toAmount, Numeral.read_toString hn]
    rfl
  exact readCounter_eq rfl rfl hamount h

theorem ofDocument_statement (sql : Text.Raw) (params : List Document) :
    ofDocument (.object [("command", .text statementTag), ("sql", .ofRaw sql),
      ("params", .list params)]) = .ok (.statement sql params) :=
  readStatement_eq rfl rfl

theorem ofDocument_written {command : Command} (h : command.IsPlain) :
    ofDocument command.written = .ok command.withNumerals.raw := by
  cases h with
  | counter key hn => exact ofDocument_counter (.whole key) (if_pos hn)
  | statement sql _ => exact ofDocument_statement (.whole sql) _

end Command

/-! ## The commands of reducers -/

namespace Emitter

/-- What an emitter gives, if it can write all amounts, are plain commands. -/
theorem isPlain_commands {emitter : Emitter} {entries : Deltas} (h : emitter.canWrite entries) :
    ∀ command ∈ emitter.commands entries, command.IsPlain := by
  cases emitter with
  | counters keyspace =>
    intro command hcommand
    obtain ⟨entry, hentry, rfl⟩ := List.mem_map.1 hcommand
    exact .counter _ (of_decide_eq_true (List.all_eq_true.1 h entry hentry))
  | rows table =>
    have hkeys : ∀ item ∈ entries.map fun entry => Document.text entry.1, item.IsPlainItem := by
      intro item hitem
      obtain ⟨entry, -, rfl⟩ := List.mem_map.1 hitem
      exact .text entry.1
    have hamounts : ∀ item ∈ entries.map fun entry => Document.int entry.2, item.IsPlainItem := by
      intro item hitem
      obtain ⟨entry, -, rfl⟩ := List.mem_map.1 hitem
      exact .int entry.2
    have hupsert : (Command.statement (Table.upsert table)
        [keyParam entries, amountParam entries]).IsPlain := by
      refine @Command.IsPlain.statement _ [_, _] ?_
      rw [List.forall_mem_cons, List.forall_mem_singleton]
      exact ⟨hkeys, hamounts⟩
    have hcleanup : (Command.statement (Table.cleanup table) [keyParam entries]).IsPlain := by
      refine @Command.IsPlain.statement _ [_] ?_
      rw [List.forall_mem_singleton]
      exact hkeys
    cases entries with
    | nil => simp [commands]
    | cons entry rest =>
      intro command hcommand
      rcases List.mem_cons.1 hcommand with rfl | hcommand
      · exact hupsert
      · cases List.mem_singleton.1 hcommand
        exact hcleanup

theorem canWriteParam_keyParam (entries : Deltas) : (keyParam entries).canWriteParam = true := by
  simp [keyParam, Document.canWriteParam, Document.canWriteItem]

theorem canWriteParam_amountParam (entries : Deltas) :
    (amountParam entries).canWriteParam =
      entries.all fun entry => entry.2.natAbs < Numeral.bound := by
  simp [amountParam, Document.canWriteParam, Document.canWriteItem, Function.comp_def]

theorem canWrite_upsert (table : String) (entries : Deltas) :
    (Command.statement (Table.upsert table) [keyParam entries, amountParam entries]).canWrite =
      entries.all fun entry => entry.2.natAbs < Numeral.bound := by
  simp only [Command.canWrite, List.all_cons, List.all_nil, canWriteParam_keyParam,
    canWriteParam_amountParam, Bool.true_and, Bool.and_true]

end Emitter

theorem Composition.isPlain_of_reduce {composition : Composition} {block : Block}
    {direction : Direction} {given : List Command}
    (h : (composition.reduce block direction).outcome = .ok given) :
    ∀ command ∈ given, command.IsPlain := by
  obtain ⟨hall, rfl⟩ := Composition.reduceAll_eq_ok_iff.1 h
  intro command hcommand
  obtain ⟨reducer, hreducer, hown⟩ := List.mem_flatMap.1 hcommand
  obtain ⟨own, hreduce⟩ := hall reducer hreducer
  obtain ⟨-, hwrite, -⟩ := Reducer.reduce_eq_ok_iff.1 hreduce
  refine Emitter.isPlain_commands ?_ command hown
  rwa [Emitter.canWrite_of_perm _ (Deltas.sorted_perm _)]

end UtxoBalance
