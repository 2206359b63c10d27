import UtxoBalance.Proofs.AccumulatorUse

/-!
# Merges that fail

A contribution is refused if its amount stands for no integer. By then its key has taken its
place. A key that was there before keeps its sum, and the accumulator is what it was. A new key
stays behind with a sum of zero, and is given out as if contributions had cancelled under it.
So failed merges can be left out without a trace exactly if a merge that succeeds names each of
their keys.

## Main definitions

- `Accumulator.mergedEach` — an accumulator after some merges
- `Accumulator.isReadable` — whether the amount of a contribution stands for an integer

## Main statements

- `Accumulator.mergedEach_eq` — a failed merge counts as one of zero
- `Accumulator.merge_of_fault` — what one failed merge leaves behind
- `Accumulator.failed_merges_leave_keys` — what failed merges leave behind in the deltas
-/

namespace UtxoBalance

theorem Deltas.add_of_notMem {key : String} {amount : Int} {deltas : Deltas}
    (h : key ∉ deltas.keys) : add key amount deltas = deltas ++ [(key, amount)] := by
  induction deltas with
  | nil => rfl
  | cons entry rest ih =>
    obtain ⟨hfirst, hrest⟩ := not_or.1 (mt List.mem_cons.2 h)
    rw [add, if_neg (Ne.symm hfirst), ih hrest]
    rfl

theorem Deltas.add_zero_of_mem {key : String} {deltas : Deltas} (h : key ∈ deltas.keys) :
    add key 0 deltas = deltas := by
  induction deltas with
  | nil => cases h
  | cons entry rest ih =>
    rw [add]
    by_cases hfirst : entry.1 = key
    · rw [if_pos hfirst, Int.add_zero]
    · have hrest : key ∈ keys rest := (List.mem_cons.1 h).resolve_left (Ne.symm hfirst)
      rw [if_neg hfirst, ih hrest]

namespace Accumulator

/-- Whether the amount of a contribution stands for an integer. -/
def isReadable (entry : String × Document) : Bool := entry.2.toAmount.toOption.isSome

/-- What a contribution adds: nothing, if its amount stands for no integer. -/
def added (entry : String × Document) : String × Int :=
  (entry.1, entry.2.toAmount.toOption.getD 0)

/-- A new accumulator after some merges, of which any may fail. -/
def mergedEach (entries : List (String × Document)) : Accumulator :=
  entries.foldl (fun acc entry => (acc.merge entry.1 entry.2).1) {}

/-! ## What failed merges leave behind -/

theorem merge_gathered_fst (contributions : Deltas) (entry : String × Document) :
    ((gathered contributions).merge entry.1 entry.2).1 =
      gathered (contributions ++ [added entry]) := by
  rw [merge_gathered, added]
  cases entry.2.toAmount with
  | ok n => rfl
  | error fault => rfl

/-- A merge that fails leaves behind what one of zero would. -/
theorem mergedEach_eq (entries : List (String × Document)) :
    mergedEach entries = gathered (entries.map added) := by
  induction entries using List.reverseRecOn with
  | nil => rfl
  | append_singleton entries entry ih =>
    have hconcat : mergedEach (entries ++ [entry]) =
        ((mergedEach entries).merge entry.1 entry.2).1 := by
      rw [mergedEach, List.foldl_append]
      rfl
    rw [hconcat, ih, merge_gathered_fst, List.map_append, List.map_singleton]

theorem keys_map_added (entries : List (String × Document)) :
    Deltas.keys (entries.map added) = entries.map Prod.fst := by
  rw [Deltas.keys, List.map_map]
  rfl

theorem mem_keys_mergedEach {entries : List (String × Document)} {key : String} :
    key ∈ (mergedEach entries).deltas.keys ↔ key ∈ entries.map Prod.fst := by
  rw [mergedEach_eq, ← keys_map_added]
  exact Deltas.mem_keys_gather

/-- A failed merge tells the fault. It changes nothing if its key was named before, and otherwise
    leaves the key behind with a sum of zero. -/
theorem merge_of_fault {amount : Document} {fault : Fault} (h : amount.toAmount = .error fault)
    (entries : List (String × Document)) (key : String) :
    (mergedEach entries).merge key amount =
      (if key ∈ entries.map Prod.fst then mergedEach entries
        else { deltas := (mergedEach entries).deltas ++ [(key, 0)] },
        .error (.shape fault)) := by
  have hmerge : (mergedEach entries).merge key amount =
      ({ deltas := (mergedEach entries).deltas.add key 0 }, .error (.shape fault)) := by
    rw [mergedEach_eq, merge_gathered, h]
    exact Prod.ext (by rw [gathered, gathered, Deltas.gather_concat]) rfl
  rw [hmerge]
  refine Prod.ext ?_ rfl
  by_cases hkey : key ∈ entries.map Prod.fst
  · rw [if_pos hkey, Deltas.add_zero_of_mem (mem_keys_mergedEach.2 hkey), mergedEach_eq]
    rfl
  · rw [if_neg hkey, Deltas.add_of_notMem (mt mem_keys_mergedEach.1 hkey)]

/-! ## What is given out -/

theorem amount_map_added_filter (key : String) (entries : List (String × Document)) :
    Deltas.amount key ((entries.filter isReadable).map added) =
      Deltas.amount key (entries.map added) := by
  induction entries with
  | nil => rfl
  | cons entry rest ih =>
    rw [List.map_cons, Deltas.amount_cons, ← ih, List.filter_cons]
    cases hamount : entry.2.toAmount with
    | ok n =>
      have hreadable : isReadable entry = true := by rw [isReadable, hamount]; rfl
      rw [if_pos hreadable, List.map_cons, Deltas.amount_cons]
    | error fault =>
      have hreadable : isReadable entry = false := by rw [isReadable, hamount]; rfl
      have hzero : (added entry).2 = 0 := by rw [added, hamount]; rfl
      rw [if_neg (by rw [hreadable]; exact Bool.false_ne_true), hzero, ite_self, Int.zero_add]

theorem finalize_mergedEach (entries : List (String × Document)) :
    (mergedEach entries).finalize.2 = .ok (.gather (entries.map added)) := by
  rw [mergedEach_eq]
  rfl

/-- What is given out, told by what is given out without the merges that fail: their keys are
    there as well. -/
theorem get?_gather_added (entries : List (String × Document)) (key : String) :
    (Deltas.gather (entries.map added)).get? key =
      ((Deltas.gather ((entries.filter isReadable).map added)).get? key).or
        (if key ∈ entries.map Prod.fst then some 0 else none) := by
  rw [Deltas.get?_gather, Deltas.get?_gather, amount_map_added_filter, keys_map_added,
    keys_map_added]
  by_cases hreadable : key ∈ (entries.filter isReadable).map Prod.fst
  · have hkey : key ∈ entries.map Prod.fst :=
      ((entries.filter_sublist (p := isReadable)).map Prod.fst).subset hreadable
    rw [if_pos hkey, if_pos hreadable, Option.some_or]
  · -- only failed merges name the key, and they add nothing
    have hzero : Deltas.amount key (entries.map added) = 0 := by
      rw [← amount_map_added_filter]
      refine Deltas.amount_of_notMem ?_
      rwa [keys_map_added]
    rw [if_neg hreadable, Option.none_or, hzero]

/-- Failed merges can be left out if each of their keys is named by one that succeeds, and only
    then. -/
theorem gather_added_perm_iff (entries : List (String × Document)) :
    (Deltas.gather (entries.map added)).Perm
        (Deltas.gather ((entries.filter isReadable).map added)) ↔
      ∀ entry ∈ entries, isReadable entry = false →
        entry.1 ∈ (entries.filter isReadable).map Prod.fst := by
  constructor
  · intro h entry hentry _
    have hkeys := (h.map Prod.fst).mem_iff (a := entry.1)
    have hgiven : entry.1 ∈ (Deltas.gather (entries.map added)).keys := by
      rw [Deltas.mem_keys_gather, keys_map_added]
      exact List.mem_map_of_mem hentry
    rw [← keys_map_added, ← Deltas.mem_keys_gather]
    exact hkeys.1 hgiven
  · intro h
    refine Deltas.perm_of_get? (Deltas.nodup_keys_gather _) (Deltas.nodup_keys_gather _) ?_
    intro key
    rw [get?_gather_added]
    by_cases hkey : key ∈ entries.map Prod.fst
    · obtain ⟨entry, hentry, rfl⟩ := List.mem_map.1 hkey
      have hreadable : entry.1 ∈ (entries.filter isReadable).map Prod.fst := by
        cases hfails : isReadable entry with
        | true => exact List.mem_map_of_mem (List.mem_filter.2 ⟨hentry, hfails⟩)
        | false => exact h entry hentry hfails
      rw [Deltas.get?_gather, keys_map_added, if_pos hreadable, Option.some_or]
    · rw [if_neg hkey, Option.or_none]

/-- A merge fails if its amount stands for no integer, with the fault of the amount. It changes
    nothing if its key was named before, and otherwise leaves the key behind with a sum of zero.
    The deltas that are given out after any merges are those without the failed ones, and zero
    under the keys that no merge names that succeeds. They are the same if there are no such
    keys, and only then. -/
theorem failed_merges_leave_keys (entries : List (String × Document)) :
    (∀ (key : String) (amount : Document) (fault : Fault), amount.toAmount = .error fault →
      (mergedEach entries).merge key amount =
        (if key ∈ entries.map Prod.fst then mergedEach entries
          else { deltas := (mergedEach entries).deltas ++ [(key, 0)] },
          .error (.shape fault))) ∧
    ∃ given kept, (mergedEach entries).finalize.2 = .ok given ∧
      (mergedEach (entries.filter isReadable)).finalize.2 = .ok kept ∧
      (∀ key, given.get? key =
        (kept.get? key).or (if key ∈ entries.map Prod.fst then some 0 else none)) ∧
      (given.Perm kept ↔ ∀ entry ∈ entries, isReadable entry = false →
        entry.1 ∈ (entries.filter isReadable).map Prod.fst) :=
  ⟨fun key _ _ h => merge_of_fault h entries key,
    _, _, finalize_mergedEach entries, finalize_mergedEach _, get?_gather_added entries,
    gather_added_perm_iff entries⟩

/-- Two merges under one key, of which the second fails. -/
def onceFailed : List (String × Document) := [("a", .int 5), ("a", .text "x")]

/-- One more merge that fails leaves no trace under this key, and a zero under another. -/
theorem failed_merges_leave_keys_onceFailed :
    (mergedEach onceFailed).merge "a" .null =
      (mergedEach onceFailed, .error (.shape (.notAmount "NoneType"))) ∧
    ((mergedEach onceFailed).merge "b" .null).1.size = 2 ∧
    ∃ given kept, (mergedEach onceFailed).finalize.2 = .ok given ∧
      (mergedEach [("a", .int 5)]).finalize.2 = .ok kept ∧ given.Perm kept := by
  obtain ⟨hfault, given, kept, hgiven, hkept, -, hperm⟩ := failed_merges_leave_keys onceFailed
  have hsame := hfault "a" .null _ rfl
  have hother := hfault "b" .null _ rfl
  refine ⟨hsame, ?_, given, kept, hgiven, hkept, hperm.2 ?_⟩
  · rw [hother]
    rfl
  · intro entry hentry _
    rcases List.mem_cons.1 hentry with rfl | hentry
    · decide
    · rw [List.mem_singleton.1 hentry]
      decide

/-- A merge that fails may change the accumulator. -/
theorem not_failed_merge_inert : ¬∀ (entries : List (String × Document)) (key : String)
    (amount : Document) (fault : Fault), amount.toAmount = .error fault →
      ((mergedEach entries).merge key amount).1 = mergedEach entries := by
  intro h
  have hsame := congrArg size (h [] "a" (.text "1.5") _ rfl)
  exact absurd hsame (by decide)

end Accumulator

end UtxoBalance
