import UtxoBalance.Proofs.CommandText

/-!
# The normal form of command documents

A document is read as a command, and the command is written as another document. There the
amount of a counter is a plain numeral, and in the arrays among the parameters of a statement
the integers and truth values are texts. The key of a counter and the text of a statement are
kept, whatever code points they have. Reading and writing once more changes nothing.

The commands that an emitter gives are told apart by their documents, although integers are
written like texts: the keys and the amounts stand in arrays of their own.

## Main definitions

- `Command.IsEmitted` — the commands that emitters give
- `Command.withIntegers` — a command with the integers in place of its amounts

## Main statements

- `Command.toDocument_of_toDocument` — what is written is read, and written as it is
- `Command.withIntegers_withNumerals` — the amounts of an emitted command are read back
- `Command.toDocument_isStable` — the documents of commands that are read, and of those that
  are emitted
-/

namespace UtxoBalance

namespace Command

/-! ## What is read -/

theorem need_eq_ok_iff {tag name : String} {fields : Fields} {value : Document} :
    need tag fields name = .ok value ↔ fields.lookup name = some value := by
  rw [need]
  cases fields.lookup name with
  | none => simp
  | some other => simp

theorem readCounter_eq_ok_iff {fields : Fields} {command : Command Text.Raw} :
    readCounter fields = .ok command ↔ ∃ key amount n value,
      fields.lookup "key" = some (.ofRaw key) ∧ fields.lookup "value" = some amount ∧
        amount.toAmount = .ok n ∧ Numeral.write n = .ok value ∧ command = .counter key value := by
  constructor
  · intro h
    obtain ⟨d, hkey, h⟩ := bind_eq_ok_iff.1 h
    obtain ⟨amount, hamount, h⟩ := bind_eq_ok_iff.1 h
    obtain ⟨key, htext, h⟩ := bind_eq_ok_iff.1 h
    obtain ⟨n, hn, h⟩ := bind_eq_ok_iff.1 h
    obtain ⟨value, hvalue, h⟩ := bind_eq_ok_iff.1 h
    cases h
    rw [need_eq_ok_iff, asText_eq_ok_iff.1 htext] at hkey
    exact ⟨key, amount, n, value, hkey, need_eq_ok_iff.1 hamount, mapError_eq_ok_iff.1 hn,
      mapError_eq_ok_iff.1 hvalue, rfl⟩
  · rintro ⟨key, amount, n, value, hkey, hamount, hn, hvalue, rfl⟩
    exact readCounter_eq hkey hamount hn hvalue

theorem exists_of_readStatement {fields : Fields} {command : Command Text.Raw}
    (h : readStatement fields = .ok command) :
    ∃ sql params, command = .statement sql params := by
  obtain ⟨_, -, h⟩ := bind_eq_ok_iff.1 h
  obtain ⟨sql, -, h⟩ := bind_eq_ok_iff.1 h
  dsimp only at h
  split at h
  · obtain ⟨items, -, h⟩ := bind_eq_ok_iff.1 h
    cases h
    exact ⟨sql, items, rfl⟩
  · cases h
    exact ⟨sql, [], rfl⟩

theorem lookup_of_field_eq_text {fields : Fields} {name value : String}
    (h : Document.field fields name = .text value) : fields.lookup name = some (.text value) := by
  rw [Document.field] at h
  cases hlookup : fields.lookup name with
  | none =>
    rw [hlookup] at h
    cases h
  | some other =>
    rw [hlookup] at h
    exact congrArg some h

/-- The fields of a document are read after its tag. Any other tag than the two is shown in the
    message. -/
theorem ofDocument_object_cases (fields : Fields) :
    (fields.lookup "command" = some (.text counterTag) ∧
        ofDocument (.object fields) = readCounter fields) ∨
      (fields.lookup "command" = some (.text statementTag) ∧
        ofDocument (.object fields) = readStatement fields) ∨
      ofDocument (.object fields) = match (Document.field fields "command").shown with
        | .ok shown => .error (.command (.unknownTag shown))
        | .error fault => .error (.shape (.numeral fault)) := by
  rw [ofDocument]
  split
  · next htag => exact .inl ⟨lookup_of_field_eq_text htag, rfl⟩
  · next htag => exact .inr (.inl ⟨lookup_of_field_eq_text htag, rfl⟩)
  · exact .inr (.inr rfl)

/-- What is read is a counter with a plain numeral, or a statement. -/
theorem cases_of_ofDocument {d : Document} {command : Command Text.Raw}
    (h : ofDocument d = .ok command) :
    (∃ key n value, Numeral.write n = .ok value ∧ command = .counter key value) ∨
      ∃ sql params, command = .statement sql params := by
  cases d with
  | object fields =>
    rcases ofDocument_object_cases fields with ⟨-, hread⟩ | ⟨-, hread⟩ | hread
    · rw [hread] at h
      obtain ⟨key, -, n, value, -, -, -, hvalue, rfl⟩ := readCounter_eq_ok_iff.1 h
      exact .inl ⟨key, n, value, hvalue, rfl⟩
    · rw [hread] at h
      exact .inr (exists_of_readStatement h)
    · rw [hread] at h
      split at h
      · cases h
      · cases h
  | _ => cases h

/-! ## What is written -/

theorem writeItem_of_writeItem {item written : Document} (h : writeItem item = .ok written) :
    writeItem written = .ok written := by
  cases item with
  | int n =>
    obtain ⟨value, -, rfl⟩ := map_eq_ok_iff.1 h
    rfl
  | _ =>
    cases h
    rfl

theorem writeParam_of_writeParam {param written : Document} (h : writeParam param = .ok written) :
    writeParam written = .ok written := by
  cases param with
  | list items =>
    obtain ⟨values, hvalues, rfl⟩ := map_eq_ok_iff.1 h
    rw [writeParam, mapM_of_mapM (fun _ _ => writeItem_of_writeItem) hvalues]
    rfl
  | _ =>
    cases h
    rfl

theorem toDocument_statement_eq_ok_iff {sql : Text.Raw} {params : List Document} {d : Document} :
    (statement sql params).toDocument = .ok d ↔ ∃ written, params.mapM writeParam = .ok written ∧
      d = .object [("command", .text statementTag), ("sql", .ofRaw sql),
        ("params", .list written)] := by
  have hdocument : (statement sql params).toDocument = (do
      let written ← (params.mapM writeParam).mapError fun fault => .shape (.numeral fault)
      return .object [("command", .text statementTag), ("sql", .ofRaw sql),
        ("params", .list written)]) := rfl
  rw [hdocument, bind_eq_ok_iff]
  simp only [mapError_eq_ok_iff]
  constructor
  · rintro ⟨written, hwritten, ⟨⟩⟩
    exact ⟨written, hwritten, rfl⟩
  · rintro ⟨written, hwritten, rfl⟩
    exact ⟨written, hwritten, rfl⟩

/-- The document of a command that has been read is read as well, and the command behind it has
    the same document. -/
theorem toDocument_of_toDocument {d j : Document} {command : Command Text.Raw}
    (hread : ofDocument d = .ok command) (h : command.toDocument = .ok j) :
    ∃ normal, ofDocument j = .ok normal ∧ normal.toDocument = .ok j ∧
      ∀ key value, command = .counter key value → normal = command := by
  rcases cases_of_ofDocument hread with ⟨key, n, value, hwrite, rfl⟩ | ⟨sql, params, rfl⟩
  · cases h
    exact ⟨.counter key value, ofDocument_counter key hwrite, rfl, fun _ _ _ => rfl⟩
  · obtain ⟨written, hwritten, rfl⟩ := toDocument_statement_eq_ok_iff.1 h
    refine ⟨.statement sql written, ofDocument_statement sql written, ?_, nofun⟩
    have hagain := mapM_of_mapM (fun _ _ => writeParam_of_writeParam) hwritten
    exact toDocument_statement_eq_ok_iff.2 ⟨written, hagain, rfl⟩

/-! ## What is emitted -/

/-- Whether some emitter gives the command for some deltas. -/
def IsEmitted (command : Command) : Prop :=
  ∃ (emitter : Emitter) (deltas : Deltas) (given : List Command),
    emitter.emit deltas = .ok given ∧ command ∈ given

theorem IsEmitted.exists_entries {command : Command} (h : command.IsEmitted) :
    ∃ (emitter : Emitter) (entries : Deltas),
      emitter.canWrite entries = true ∧ command ∈ emitter.commands entries := by
  obtain ⟨emitter, deltas, given, hgiven, hmem⟩ := h
  rw [Emitter.emit_eq] at hgiven
  split at hgiven
  · next hwrite =>
    cases hgiven
    refine ⟨emitter, Deltas.sorted deltas, ?_, hmem⟩
    rwa [emitter.canWrite_of_perm (Deltas.sorted_perm deltas)]
  · cases hgiven

theorem IsEmitted.isPlain {command : Command} (h : command.IsEmitted) : command.IsPlain := by
  obtain ⟨emitter, entries, hwrite, hmem⟩ := h.exists_entries
  exact Emitter.isPlain_commands hwrite command hmem

theorem IsEmitted.toDocument_eq_ok_iff {command : Command} {j : Document}
    (h : command.IsEmitted) :
    command.raw.toDocument = .ok j ↔ command.canWrite = true ∧ j = command.written := by
  rw [toDocument_eq h.isPlain]
  by_cases hwrite : command.canWrite = true
  · rw [if_pos hwrite]
    simp [hwrite, eq_comm]
  · rw [if_neg hwrite]
    simp [hwrite]

end Command

/-- The integer behind a numeral. -/
def Document.integerOf : Document → Document
  | .text value => ((Numeral.read value).toOption.map .int).getD (.text value)
  | d => d

namespace Command

/-- A statement with keys and amounts, with the integers in place of the numerals of the
    amounts. -/
def withIntegers : Command → Command
  | .statement sql [keys, .list amounts] =>
    .statement sql [keys, .list (amounts.map Document.integerOf)]
  | command => command

theorem paramNumerals_keyParam (entries : Deltas) :
    (Emitter.keyParam entries).paramNumerals = Emitter.keyParam entries := by
  rw [Emitter.keyParam, Document.paramNumerals, List.map_map]
  rfl

theorem map_integerOf_amountParam {entries : Deltas}
    (h : ∀ entry ∈ entries, entry.2.natAbs < Numeral.bound) :
    ((entries.map fun entry => Document.int entry.2).map Document.itemNumeral).map
      Document.integerOf = entries.map fun entry => .int entry.2 := by
  rw [List.map_map, List.map_map]
  refine List.map_congr_left fun entry hentry => ?_
  show ((Numeral.read (toString entry.2)).toOption.map Document.int).getD _ = _
  rw [Numeral.read_toString (h entry hentry)]
  rfl

/-- The amounts of an emitted command that can be written are read back. -/
theorem withIntegers_withNumerals {command : Command} (hemitted : command.IsEmitted)
    (h : command.canWrite = true) : command.withNumerals.withIntegers = command := by
  obtain ⟨emitter, entries, -, hmem⟩ := hemitted.exists_entries
  cases emitter with
  | counters keyspace =>
    obtain ⟨entry, -, rfl⟩ := List.mem_map.1 hmem
    rfl
  | rows table =>
    cases entries with
    | nil => cases hmem
    | cons entry rest =>
      rcases List.mem_cons.1 hmem with rfl | hmem
      · -- the keys are texts and stay, and of the amounts all can be written
        have hamounts : ∀ other ∈ entry :: rest, other.2.natAbs < Numeral.bound := by
          rw [Emitter.canWrite_upsert, List.all_eq_true] at h
          exact fun other hother => of_decide_eq_true (h other hother)
        show Command.statement _ [(Emitter.keyParam _).paramNumerals, .list _] = _
        rw [paramNumerals_keyParam, map_integerOf_amountParam hamounts]
        rfl
      · cases List.mem_singleton.1 hmem
        show (Command.statement _ [(Emitter.keyParam _).paramNumerals]).withIntegers = _
        rw [paramNumerals_keyParam]
        rfl

/-- A command is told by the texts it is read with. -/
theorem raw_injective : Function.Injective raw := by
  rintro (⟨key, value⟩ | ⟨sql, params⟩) (⟨key', value'⟩ | ⟨sql', params'⟩) h
  · cases h
    rfl
  · cases h
  · cases h
  · cases h
    rfl

/-- The documents of commands are a normal form. A command that has been read is read again
    from its document, as a command with the same document, and if it is a counter as itself. A
    command that is emitted is read from its document with numerals in place of integers, and
    no other command that is emitted has that document. -/
theorem toDocument_isStable (j : Document) :
    (∀ d command, ofDocument d = .ok command → command.toDocument = .ok j →
      ∃ normal, ofDocument j = .ok normal ∧ normal.toDocument = .ok j ∧
        ∀ key value, command = .counter key value → normal = command) ∧
    ∀ command : Command, command.IsEmitted → command.raw.toDocument = .ok j →
      ofDocument j = .ok command.withNumerals.raw ∧
        ∀ other : Command, other.IsEmitted → other.raw.toDocument = .ok j → other = command := by
  refine ⟨fun d command hread h => toDocument_of_toDocument hread h, fun command hemitted h => ?_⟩
  obtain ⟨hwrite, rfl⟩ := hemitted.toDocument_eq_ok_iff.1 h
  have hown := ofDocument_written hemitted.isPlain
  refine ⟨hown, fun other hother hsame => ?_⟩
  obtain ⟨hotherWrite, hwritten⟩ := hother.toDocument_eq_ok_iff.1 hsame
  have hnumerals : other.withNumerals = command.withNumerals := by
    rw [hwritten, ofDocument_written hother.isPlain] at hown
    exact raw_injective (Except.ok.inj hown)
  rw [← withIntegers_withNumerals hother hotherWrite, hnumerals,
    withIntegers_withNumerals hemitted hwrite]

/-- The statement that sets the row of one key to a large amount. -/
def largeRow : Command :=
  .statement (Table.upsert "balances") [.list [.text "key"], .list [.int (2 ^ 80)]]

theorem isEmitted_largeRow : largeRow.IsEmitted := by
  have hsorted : Deltas.sorted [("key", (2 ^ 80 : Int))] = [("key", 2 ^ 80)] :=
    List.mergeSort_singleton _
  have hemit : Emitter.emit (.rows "balances") [("key", 2 ^ 80)] =
      .ok [largeRow, .statement (Table.cleanup "balances") [.list [.text "key"]]] := by
    rw [Emitter.emit_eq, hsorted]
    rfl
  exact ⟨_, _, _, hemit, List.mem_cons_self⟩

/-- A statement whose text is half of a surrogate pair, with a truth value in an array and an
    integer beside it. -/
def halfStatement : Command Text.Raw :=
  .statement (.broken [0xD800]) [.list [.bool true], .int 2]

/-- The large row is emitted, and its document is read as the statement with the numeral. The
    statement whose text is no character is read, written with a text for the truth value, and
    read again. -/
theorem toDocument_isStable_largeRow :
    (∃ j, largeRow.raw.toDocument = .ok j ∧
      ofDocument j = .ok (.statement (.whole (Table.upsert "balances"))
        [.list [.text "key"], .list [.text "1208925819614629174706176"]]) ∧
      ∀ other : Command, other.IsEmitted → other.raw.toDocument = .ok j → other = largeRow) ∧
    ∃ j normal, halfStatement.toDocument = .ok j ∧ ofDocument j = .ok normal ∧
      normal.toDocument = .ok j ∧ normal ≠ halfStatement := by
  constructor
  · have hwrite : largeRow.canWrite = true := by decide +kernel
    have hdocument : largeRow.raw.toDocument = .ok largeRow.written :=
      isEmitted_largeRow.toDocument_eq_ok_iff.2 ⟨hwrite, rfl⟩
    obtain ⟨-, hemitted⟩ := toDocument_isStable largeRow.written
    obtain ⟨hread, hunique⟩ := hemitted largeRow isEmitted_largeRow hdocument
    exact ⟨largeRow.written, hdocument, hread, hunique⟩
  · have hdocument : halfStatement.toDocument = .ok (.object [("command", .text statementTag),
        ("sql", .brokenText [0xD800]), ("params", .list [.list [.text "True"], .int 2])]) := rfl
    obtain ⟨hread, -⟩ := toDocument_isStable _
    obtain ⟨normal, hnormal, hagain, -⟩ :=
      hread _ halfStatement (ofDocument_statement _ _) hdocument
    refine ⟨_, normal, hdocument, hnormal, hagain, ?_⟩
    rintro rfl
    -- the statement behind that document has the text in its array
    cases (ofDocument_statement (.broken [0xD800]) _).symm.trans hnormal

end Command

end UtxoBalance
