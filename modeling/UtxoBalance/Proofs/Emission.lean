import UtxoBalance.Proofs.Numeral
import UtxoBalance.Proofs.Rearrangement

/-!
# What an emission keeps

Both emitters put the deltas in the order of their keys, and write down all of them: the
rows in two arrays, one of the keys and one of the amounts, the counters in one command
for each key. The deltas can be read back from either. Where an amount has more digits
than a numeral may have, there are rows but no counters.

## Main definitions

- `Deltas.Columns` — two arrays that hold deltas in the order of their keys
- `Emitter.keyOfName?` — the key behind the name of a counter

## Main statements

- `Deltas.columns_sorted` — the arrays of sorted deltas
- `Emitter.emit_keeps_deltas` — what is emitted, and what is read back from it
-/

namespace UtxoBalance

namespace Deltas

/-! ## Columns -/

/-- Two arrays side by side that hold deltas in the order of their keys. -/
structure Columns (deltas : Deltas) (keys : List String) (amounts : List Int) : Prop where
  /-- Each key stands once, and in its place. -/
  increasing : keys.Pairwise (· < ·)
  /-- Each key comes with one amount. -/
  aligned : keys.length = amounts.length
  /-- What is found in the arrays is what is found in the deltas. -/
  get?_zip : ∀ key, get? (keys.zip amounts) key = deltas.get? key

theorem increasing_keys_sorted {entries : Deltas} (h : entries.keys.Nodup) :
    (keys (sorted entries)).Pairwise (· < ·) := by
  have hle : (keys (sorted entries)).Pairwise (· ≤ ·) :=
    List.pairwise_map.2 (pairwise_sorted entries)
  exact (hle.and (nodup_keys_sorted h)).imp fun hab => lt_of_le_of_ne hab.1 hab.2

theorem columns_sorted {deltas : Deltas} (h : deltas.keys.Nodup) :
    deltas.Columns (keys (sorted deltas)) ((sorted deltas).map Prod.snd) where
  increasing := increasing_keys_sorted h
  aligned := by rw [keys, List.length_map, List.length_map]
  get?_zip key := by
    have hzip : sorted deltas = (keys (sorted deltas)).zip ((sorted deltas).map Prod.snd) :=
      List.zip_of_prod rfl rfl
    rw [← hzip]
    exact get?_of_perm (nodup_keys_sorted h) (sorted_perm deltas) key

end Deltas

namespace Emitter

/-! ## Names of counters -/

/-- The key behind the name of a counter under a keyspace. -/
def keyOfName? (keyspace : Option String) (name : String) : Option String :=
  match keyspace with
  | none => some name
  | some space =>
    if space.isEmpty then some name
    else (name.toList.dropPrefix? (space.toList ++ ['.'])).map String.ofList

theorem keyOfName?_counterKey (keyspace : Option String) (key : String) :
    keyOfName? keyspace (counterKey keyspace key) = some key := by
  cases keyspace with
  | none => rfl
  | some space =>
    by_cases hspace : space.isEmpty = true
    · rw [keyOfName?, counterKey, if_pos hspace, if_pos hspace]
    · -- the key may begin like the keyspace, which is taken off once
      have hname : (counterKey (some space) key).toList =
          (space.toList ++ ['.']) ++ key.toList := by
        simp [counterKey, hspace]
      rw [keyOfName?, if_neg hspace, hname, List.dropPrefix?_append_of_beq _ (by simp)]
      simp

theorem counterKey_injective_right (keyspace : Option String) :
    Function.Injective (counterKey keyspace) := by
  intro key other heq
  have hkey := keyOfName?_counterKey keyspace key
  rw [heq, keyOfName?_counterKey] at hkey
  exact (Option.some.inj hkey).symm

/-! ## What is emitted -/

theorem commands_rows (table : String) (entries : Deltas) :
    commands (.rows table) entries =
      if entries = [] then [] else
        [.statement (Table.upsert table)
            [.list (entries.keys.map .text), .list ((entries.map Prod.snd).map .int)],
          .statement (Table.cleanup table) [.list (entries.keys.map .text)]] := by
  cases entries with
  | nil => rfl
  | cons entry rest =>
    rw [if_neg (List.cons_ne_nil _ _), Deltas.keys, List.map_map, List.map_map]
    rfl

theorem commands_counters (keyspace : Option String) (entries : Deltas) :
    commands (.counters keyspace) entries =
      List.zipWith Command.counter (entries.keys.map (counterKey keyspace))
        (entries.map fun entry => toString entry.2) := by
  rw [Deltas.keys, List.map_map, List.zipWith_map, List.zipWith_self]
  rfl

theorem emit_counters_eq_ok {keyspace : Option String} {deltas : Deltas}
    (h : canWrite (.counters keyspace) deltas = true) :
    emit (.counters keyspace) deltas = .ok (List.zipWith Command.counter
      ((Deltas.keys (Deltas.sorted deltas)).map (counterKey keyspace))
      ((Deltas.sorted deltas).map fun entry => toString entry.2)) := by
  rw [emit_eq, if_pos h, commands_counters]

theorem emit_counters_eq_error_iff {keyspace : Option String} {deltas : Deltas} :
    emit (.counters keyspace) deltas = .error (.shape (.numeral .tooLarge)) ↔
      canWrite (.counters keyspace) deltas = false := by
  rw [emit_eq]
  split
  · next hwrite => simp [hwrite]
  · next hwrite => simpa using hwrite

theorem canWrite_counters_eq_false_iff {keyspace : Option String} {deltas : Deltas}
    (h : deltas.keys.Nodup) :
    canWrite (.counters keyspace) deltas = false ↔
      ∃ key amount, deltas.get? key = some amount ∧
        Numeral.maxDigits < (Nat.digits 10 amount.natAbs).length := by
  simp [canWrite, ← Numeral.bound_le_iff, Deltas.mem_iff_get? h]

theorem map_read_toString {keyspace : Option String} {entries : Deltas}
    (h : canWrite (.counters keyspace) entries = true) :
    (entries.map fun entry => toString entry.2).map Numeral.read =
      (entries.map Prod.snd).map .ok := by
  rw [canWrite, List.all_eq_true] at h
  rw [List.map_map, List.map_map]
  exact List.map_congr_left fun entry hentry =>
    Numeral.read_toString (of_decide_eq_true (h entry hentry))

theorem emitAmounts_int (emitter : Emitter) (deltas : Deltas) :
    emitter.emitAmounts (deltas.map fun entry => (entry.1, .int entry.2)) =
      emitter.emit deltas := by
  rw [emitAmounts, emit, Deltas.sorted_mapValues]
  cases emitter with
  | counters keyspace =>
    rw [emitSorted, emitSorted, List.mapM_map]
    rfl
  | rows table =>
    simp only [emitSorted, List.isEmpty_map, List.map_map, List.mapM_map]
    rfl

/-- The deltas are emitted whole and in the order of their keys. The rows of a table take
    one statement with the keys and their amounts, and one with the keys; no deltas take
    none. The counters take one command for each key, with a name and a numeral that are
    read back as the key and its amount, or they refuse, which is where an amount has more
    than 4300 digits. Deltas with the same keys and amounts in another order are emitted
    alike. -/
theorem emit_keeps_deltas {deltas : Deltas} (h : deltas.keys.Nodup) :
    (∃ keys amounts, deltas.Columns keys amounts ∧
      (∀ table, emit (.rows table) deltas = .ok (if deltas = [] then [] else
        [.statement (Table.upsert table) [.list (keys.map .text), .list (amounts.map .int)],
          .statement (Table.cleanup table) [.list (keys.map .text)]])) ∧
      ∀ keyspace,
        (emit (.counters keyspace) deltas = .error (.shape (.numeral .tooLarge)) ↔
          ∃ key amount, deltas.get? key = some amount ∧
            4300 < (Nat.digits 10 amount.natAbs).length) ∧
        (emit (.counters keyspace) deltas ≠ .error (.shape (.numeral .tooLarge)) →
          ∃ names values,
            emit (.counters keyspace) deltas = .ok (List.zipWith Command.counter names values) ∧
            names = keys.map (counterKey keyspace) ∧ names.Nodup ∧
            names.map (keyOfName? keyspace) = keys.map some ∧
            values.map Numeral.read = amounts.map .ok)) ∧
    (∀ {other : Deltas}, other.keys.Nodup → (∀ key, other.get? key = deltas.get? key) →
      ∀ emitter : Emitter, emitter.emit other = emitter.emit deltas) ∧
    ∀ emitter : Emitter,
      emitter.emitAmounts (deltas.map fun entry => (entry.1, .int entry.2)) =
        emitter.emit deltas := by
  refine ⟨⟨_, _, Deltas.columns_sorted h, fun table => ?_, fun keyspace => ⟨?_, ?_⟩⟩, ?_,
    fun emitter => emitter.emitAmounts_int deltas⟩
  · have hwrite : canWrite (.rows table) deltas = true := rfl
    rw [emit_eq, if_pos hwrite, commands_rows]
    simp only [Deltas.sorted_eq_nil_iff]
  · rw [emit_counters_eq_error_iff, canWrite_counters_eq_false_iff h]
    rfl
  · -- counters refuse for no other reason, so that all amounts can be written
    intro hwritten
    rw [Ne, emit_counters_eq_error_iff, Bool.not_eq_false] at hwritten
    refine ⟨_, _, emit_counters_eq_ok hwritten, rfl, ?_, ?_, ?_⟩
    · exact (Deltas.nodup_keys_sorted h).map (counterKey_injective_right keyspace)
    · rw [List.map_map]
      exact List.map_congr_left fun key _ => keyOfName?_counterKey keyspace key
    · exact map_read_toString ((canWrite_of_perm _ (Deltas.sorted_perm deltas)).trans hwritten)
  · intro other hother hsame emitter
    exact emit_of_perm emitter hother (Deltas.perm_of_get? hother h hsame)

/-- A debt, and an account that is settled. -/
def debts : Deltas := [("b", -5), ("a.b", 0)]

/-- Under a keyspace with which one of the keys begins, in another order, and with one
    digit too many. -/
theorem emit_keeps_deltas_debts :
    (∃ (keys : List String) (values : List String), keys.Pairwise (· < ·) ∧
      emit (.counters (some "a")) debts =
        .ok (List.zipWith Command.counter (keys.map (counterKey (some "a"))) values) ∧
      (keys.map (counterKey (some "a"))).map (keyOfName? (some "a")) = keys.map some) ∧
    emit (.rows "balances") debts.reverse = emit (.rows "balances") debts ∧
    emit (.counters none) [("b", Numeral.bound)] = .error (.shape (.numeral .tooLarge)) := by
  have hdebts : debts.keys.Nodup := by decide
  obtain ⟨⟨keys, amounts, hcolumns, -, hcounters⟩, hsame, -⟩ := emit_keeps_deltas hdebts
  refine ⟨?_, hsame (by decide) ?_ _, ?_⟩
  · have hwritten : emit (.counters (some "a")) debts ≠ .error (.shape (.numeral .tooLarge)) := by
      rw [Ne, emit_counters_eq_error_iff]
      decide +kernel
    obtain ⟨names, values, hemit, rfl, -, hnames, -⟩ := (hcounters (some "a")).2 hwritten
    exact ⟨keys, values, hcolumns.increasing, hemit, hnames⟩
  · exact Deltas.get?_of_perm (by decide) debts.reverse_perm
  · have hlong : (Deltas.keys [("b", (Numeral.bound : Int))]).Nodup := List.nodup_singleton "b"
    obtain ⟨⟨_, _, -, -, hrefused⟩, -⟩ := emit_keeps_deltas hlong
    refine (hrefused none).1.2 ⟨"b", Numeral.bound, rfl, ?_⟩
    rw [Int.natAbs_natCast]
    exact Numeral.bound_le_iff.1 le_rfl

end Emitter

end UtxoBalance
