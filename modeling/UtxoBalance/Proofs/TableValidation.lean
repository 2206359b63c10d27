import UtxoBalance.Proofs.ReductionFields

/-!
# The two checks of a table name

The name of a table is checked twice: by the settings that ask for its rows, and by the
emitter that writes it into statements. The settings take the names, whole and with nothing
around them. The emitter stops looking before a line feed at the end, so it also takes a name
with a line feed behind it, and the two differ on these texts and on no others.

## Main definitions

- `Settings.Reduction.TakesTable` — the texts that settings take for a table

## Main statements

- `Settings.Reduction.takesTable_iff` — they are the names
- `Emitter.ofTable_eq_ok_iff` — the emitter takes the names that a line feed may follow
- `Emitter.ofTable_takes_iff_takesTable` — where the two checks agree
-/

namespace UtxoBalance

namespace Settings.Reduction

/-- Some settings can be given that have a text in the place of the table. -/
def TakesTable (text : Text.Raw) : Prop :=
  ∃ (fields : Fields) (settings : Reduction), fields.lookup "table" = some (.ofRaw text) ∧
    ofDocument (.object fields) = .ok settings

/-- A text in the place of the table is the name that the settings hold. -/
theorem whole_of_ofDocument {fields : Fields} {text : Text.Raw} {settings : Reduction}
    (htext : fields.lookup "table" = some (.ofRaw text))
    (h : ofDocument (.object fields) = .ok settings) :
    ∃ name, text = .whole name ∧ settings.table = some name ∧ name.toList ∈ Table.names := by
  have hentries : ofEntries (Given.ofFields fields) = .ok settings := mapError_eq_ok_iff.1 h
  obtain ⟨-, htable, -⟩ := checks_of_ofEntries hentries
  rw [optional_eq_ok_iff, Given.named?_ofFields, htext] at htable
  rcases htable with ⟨hnone, -⟩ | ⟨_, ⟨⟩, hgiven⟩
  · cases hnone
  have hbytes : ∀ octets, Document.ofRaw text ≠ .bytes octets := by
    cases text with
    | whole _ | broken _ => exact fun _ => nofun
  rcases (reads_checkTable.nullable_ofDocument_iff hbytes).1 hgiven with
    ⟨hnull, -⟩ | ⟨name, hsome, hwhole, hname⟩
  · cases text with
    | whole _ | broken _ => cases hnull
  · cases text with
    | whole value =>
      cases hwhole
      exact ⟨_, rfl, hsome, hname⟩
    | broken points => cases hwhole

theorem takesTable_of_mem_names {name : String} (h : name.toList ∈ Table.names) :
    TakesTable (.whole name) := by
  let fields : Fields := [("addressType", .text "payment"), ("table", .text name)]
  have hbytes : fields.HasNoBytes := by simp [Fields.HasNoBytes, fields]
  have hwritten : IsWrittenIn { mode := .payment, table := some name } fields :=
    { mode := .inl ⟨rfl, rfl⟩
      keyspace := .inl rfl
      table := rfl
      backend := .inl rfl
      policy := .inr ⟨rfl, rfl, rfl⟩
      known := by simp [fields, fieldNames]
      keyspace_ne := by
        rintro _ ⟨⟩
      table_mem := by
        rintro _ ⟨⟩
        exact h
      table_isSome := fun _ => rfl }
  exact ⟨fields, _, rfl, (ofDocument_eq_ok_iff hbytes).2 hwritten⟩

/-- Settings take the names of tables, and nothing else. -/
theorem takesTable_iff {text : Text.Raw} :
    TakesTable text ↔ ∃ name, text = .whole name ∧ name.toList ∈ Table.names := by
  constructor
  · rintro ⟨fields, settings, htext, hsettings⟩
    obtain ⟨name, hwhole, -, hname⟩ := whole_of_ofDocument htext hsettings
    exact ⟨name, hwhole, hname⟩
  · rintro ⟨name, rfl, hname⟩
    exact takesTable_of_mem_names hname

end Settings.Reduction

/-! ## Lines -/

namespace Table

theorem mem_lines_iff {line : String} :
    line.toList ∈ lines ↔ line.toList ∈ names ∨
      ∃ name : String, line = name ++ "\n" ∧ name.toList ∈ names := by
  rw [lines, mem_mul_optional]
  refine or_congr_right ?_
  constructor
  · intro h
    obtain ⟨chars, hchars, _, ⟨c, rfl, rfl⟩, hline⟩ := Language.mem_mul.1 h
    refine ⟨String.ofList chars, String.toList_inj.1 ?_, by rwa [String.toList_ofList]⟩
    rw [← hline, String.toList_append, String.toList_ofList]
    rfl
  · rintro ⟨name, rfl, hname⟩
    rw [String.toList_append]
    exact Language.append_mem_mul hname ⟨'\n', rfl, rfl⟩

/-- With a line feed behind it a name is a name no more. -/
theorem append_lineFeed_notMem_names (name : String) : (name ++ "\n").toList ∉ names := by
  intro h
  refine notMem_of_mem_names h (c := '\n') (by decide) (by decide) ?_
  rw [String.toList_append]
  exact List.mem_append_right _ (List.mem_singleton_self '\n')

end Table

/-! ## The check of the emitter -/

namespace Emitter

open Settings.Reduction (TakesTable takesTable_iff)

theorem ofTable_text_eq_ok_iff {line : String} {emitter : Emitter} :
    ofTable (.text line) = .ok emitter ↔ line.toList ∈ Table.lines ∧ emitter = .rows line := by
  rw [ofTable, ← Table.isNameLine_iff]
  by_cases hline : Table.isNameLine line = true
  · rw [if_pos hline]
    simp [hline, eq_comm]
  · rw [if_neg hline]
    simp [hline]

/-- The emitter takes the names that a line feed may follow. -/
theorem ofTable_eq_ok_iff {text : Text.Raw} {emitter : Emitter} :
    ofTable (.ofRaw text) = .ok emitter ↔
      ∃ line, text = .whole line ∧ line.toList ∈ Table.lines ∧ emitter = .rows line := by
  cases text with
  | whole line => simp [Document.ofRaw, ofTable_text_eq_ok_iff]
  | broken points => simp [Document.ofRaw, ofTable]

/-- What it does not take it shows. -/
theorem badTable_of_ofTable {text : Text.Raw} {failure : Failure}
    (h : ofTable (.ofRaw text) = .error failure) : failure = .badTable text := by
  cases text with
  | whole line =>
    rw [Document.ofRaw, ofTable] at h
    split at h
    · cases h
    · cases h
      rfl
  | broken points =>
    cases h
    rfl

/-- The emitter takes what settings take, and beyond it a line feed at the end. -/
theorem exists_ofTable_iff {text : Text.Raw} :
    (∃ emitter, ofTable (.ofRaw text) = .ok emitter) ↔
      TakesTable text ∨ ∃ name, text = .whole (name ++ "\n") ∧ name.toList ∈ Table.names := by
  simp only [ofTable_eq_ok_iff, takesTable_iff]
  constructor
  · rintro ⟨_, line, rfl, hline, -⟩
    rcases Table.mem_lines_iff.1 hline with hname | ⟨name, rfl, hname⟩
    · exact .inl ⟨line, rfl, hname⟩
    · exact .inr ⟨name, rfl, hname⟩
  · rintro (⟨name, rfl, hname⟩ | ⟨name, rfl, hname⟩)
    · exact ⟨_, name, rfl, Table.mem_lines_iff.2 (.inl hname), rfl⟩
    · exact ⟨_, name ++ "\n", rfl, Table.mem_lines_iff.2 (.inr ⟨name, rfl, hname⟩), rfl⟩

theorem not_takesTable_append_lineFeed (name : String) :
    ¬TakesTable (.whole (name ++ "\n")) := by
  rw [takesTable_iff]
  rintro ⟨_, ⟨⟩, hmem⟩
  exact Table.append_lineFeed_notMem_names name hmem

/-- Settings take a text for a table exactly if it is a name, with nothing around it. The
    emitter takes exactly the names that a line feed may follow, keeps the text as it is, and
    reports the others with their text. So the two checks agree on every text but a name with
    a line feed behind it. -/
theorem ofTable_takes_iff_takesTable (text : Text.Raw) :
    (TakesTable text ↔ ∃ name, text = .whole name ∧ name.toList ∈ Table.names) ∧
    (∀ emitter, ofTable (.ofRaw text) = .ok emitter ↔
      ∃ line, text = .whole line ∧ line.toList ∈ Table.lines ∧ emitter = .rows line) ∧
    (∀ failure, ofTable (.ofRaw text) = .error failure → failure = .badTable text) ∧
    (((∃ emitter, ofTable (.ofRaw text) = .ok emitter) ↔ TakesTable text) ↔
      ¬∃ name, text = .whole (name ++ "\n") ∧ name.toList ∈ Table.names) := by
  refine ⟨takesTable_iff, fun emitter => ofTable_eq_ok_iff, fun failure => badTable_of_ofTable, ?_⟩
  constructor
  · rintro hagree ⟨name, rfl, hname⟩
    exact not_takesTable_append_lineFeed name
      (hagree.1 (exists_ofTable_iff.2 (.inr ⟨name, rfl, hname⟩)))
  · intro hline
    rw [exists_ofTable_iff]
    exact or_iff_left hline

/-- The emitter takes this text, and no settings do. -/
theorem not_ofTable_iff_takesTable :
    ¬((∃ emitter, ofTable (.ofRaw (.whole "balances\n")) = .ok emitter) ↔
      TakesTable (.whole "balances\n")) := by
  intro hagree
  have htakes : ∃ emitter, ofTable (.ofRaw (.whole "balances\n")) = .ok emitter :=
    ⟨.rows "balances\n", by decide⟩
  exact not_takesTable_append_lineFeed "balances" (hagree.1 htakes)

end Emitter

end UtxoBalance
