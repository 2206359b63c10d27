import Mathlib
import UtxoBalance.Deltas

/-!
# Sums of contributions

Contributions are signed amounts under keys, in any order and with any key any
number of times. Gathering them one by one gives deltas with each key once. What a
key holds then is the sum of its contributions, whatever their order, and a key is
there as soon as one contribution names it, even if the sum is zero.

## Main definitions

- `Deltas.total`, `Deltas.totalOf` — what entries give to all keys together, and to some
- `Deltas.amount` — what entries give to one key
- `Deltas.gather` — the deltas of a list of contributions
- `Deltas.negate` — all amounts with the other sign

## Main statements

- `Deltas.get?_gather` — gathered deltas hold the declared sums
- `Deltas.perm_of_get?` — deltas are told by what can be looked up in them
- `Deltas.gather_perm`, `Deltas.sorted_eq_of_perm` — the order of contributions leaves no trace
- `Deltas.gather_negate`, `Deltas.sorted_negate` — signs pass through
- `Deltas.sum_amount` — the amounts of some keys are a total
-/

namespace UtxoBalance.Deltas

/-- What entries give to all keys together. -/
def total (entries : Deltas) : Int :=
  (entries.map Prod.snd).sum

/-- What entries give to the keys that are chosen. -/
def totalOf (chosen : String → Bool) (entries : Deltas) : Int :=
  total (entries.filter fun entry => chosen entry.1)

/-- What entries give to one key. -/
def amount (key : String) (entries : Deltas) : Int :=
  totalOf (· = key) entries

/-- The deltas of contributions that are added one by one. -/
def gather (contributions : List (String × Int)) : Deltas :=
  contributions.foldl (fun deltas entry => add entry.1 entry.2 deltas) []

/-- The same entries, with the other sign. -/
def negate (entries : Deltas) : Deltas :=
  entries.map fun entry => (entry.1, -entry.2)

/-! ## Amounts -/

theorem totalOf_cons (chosen : String → Bool) (entry : String × Int) (entries : Deltas) :
    totalOf chosen (entry :: entries) =
      (if chosen entry.1 then entry.2 else 0) + totalOf chosen entries := by
  by_cases h : chosen entry.1
  · simp [totalOf, total, h]
  · simp [totalOf, total, h]

theorem totalOf_true (entries : Deltas) : totalOf (fun _ => true) entries = total entries := by
  rw [totalOf, List.filter_true]

@[simp] theorem amount_nil (key : String) : amount key [] = 0 := rfl

theorem amount_cons (key : String) (entry : String × Int) (entries : Deltas) :
    amount key (entry :: entries) =
      (if entry.1 = key then entry.2 else 0) + amount key entries := by
  rw [amount, totalOf_cons]
  simp only [decide_eq_true_eq]
  rfl

theorem amount_append (key : String) (first second : Deltas) :
    amount key (first ++ second) = amount key first + amount key second := by
  rw [amount, totalOf, total, List.filter_append, List.map_append, List.sum_append]
  rfl

theorem amount_of_perm {first second : Deltas} (h : first.Perm second) (key : String) :
    amount key first = amount key second :=
  ((h.filter _).map _).sum_eq

theorem amount_of_notMem {key : String} {entries : Deltas} (h : key ∉ entries.keys) :
    amount key entries = 0 := by
  have hnone : (entries.filter fun entry => entry.1 = key) = [] := by
    rw [List.filter_eq_nil_iff]
    intro entry hentry hkey
    exact h (List.mem_map.2 ⟨entry, hentry, of_decide_eq_true hkey⟩)
  rw [amount, totalOf, hnone]
  rfl

@[simp] theorem amount_negate (key : String) (entries : Deltas) :
    amount key entries.negate = -amount key entries := by
  induction entries with
  | nil => rfl
  | cons entry rest ih =>
    have hcons : negate (entry :: rest) = (entry.1, -entry.2) :: negate rest := rfl
    rw [hcons, amount_cons, amount_cons, ih]
    split
    · omega
    · omega

/-! ## Entries with each key once -/

theorem get?_cons (key : String) (entry : String × Int) (rest : Deltas) :
    get? (entry :: rest) key = if entry.1 = key then some entry.2 else rest.get? key := by
  obtain ⟨first, sum⟩ := entry
  by_cases h : first = key
  · subst h
    simp [get?]
  · simp [get?, List.lookup_cons, beq_false_of_ne (Ne.symm h), h]

/-- Where each key stands once, the amount of a key is what its entry says. -/
theorem get?_eq_amount {entries : Deltas} (h : entries.keys.Nodup) (key : String) :
    entries.get? key = if key ∈ entries.keys then some (amount key entries) else none := by
  induction entries with
  | nil => rfl
  | cons entry rest ih =>
    obtain ⟨hfirst, hrest⟩ := List.nodup_cons.1 h
    rw [get?_cons, amount_cons]
    by_cases hk : entry.1 = key
    · have hzero : amount key rest = 0 := amount_of_notMem (hk ▸ hfirst)
      simp [hk, hzero, keys]
    · have hkeys : key ∈ keys (entry :: rest) ↔ key ∈ keys rest := by
        simp [keys, Ne.symm hk]
      simp only [hk, if_false, Int.zero_add, ih hrest, hkeys]

/-- Where each key stands once, the entries are what can be looked up. -/
theorem mem_iff_get? {entries : Deltas} (h : entries.keys.Nodup) (entry : String × Int) :
    entry ∈ entries ↔ entries.get? entry.1 = some entry.2 := by
  induction entries with
  | nil => simp [get?]
  | cons first rest ih =>
    obtain ⟨hfirst, hrest⟩ := List.nodup_cons.1 h
    rw [get?_cons, List.mem_cons, ih hrest]
    by_cases hk : first.1 = entry.1
    · have hnone : get? rest entry.1 = none := by
        rw [get?_eq_amount hrest, if_neg (hk ▸ hfirst)]
      simp only [hnone, reduceCtorEq, or_false, hk, if_true, Option.some.injEq]
      exact ⟨fun heq => heq ▸ rfl, fun heq => Prod.ext hk.symm heq.symm⟩
    · have hne : entry ≠ first := fun heq => hk (heq ▸ rfl)
      simp [hk, hne]

theorem nodup_of_nodup_keys {entries : Deltas} (h : entries.keys.Nodup) : entries.Nodup :=
  h.of_map _

theorem get?_of_perm {first second : Deltas} (hkeys : first.keys.Nodup) (h : first.Perm second)
    (key : String) : first.get? key = second.get? key := by
  have hperm : first.keys.Perm second.keys := h.map Prod.fst
  rw [get?_eq_amount hkeys, get?_eq_amount (hperm.nodup_iff.1 hkeys), amount_of_perm h]
  simp only [hperm.mem_iff]

/-- Where each key stands once, deltas are told by what can be looked up in them. -/
theorem perm_of_get? {first second : Deltas} (hfirst : first.keys.Nodup)
    (hsecond : second.keys.Nodup) (h : ∀ key, first.get? key = second.get? key) :
    first.Perm second := by
  refine (List.perm_ext_iff_of_nodup (nodup_of_nodup_keys hfirst)
    (nodup_of_nodup_keys hsecond)).2 fun entry => ?_
  rw [mem_iff_get? hfirst, mem_iff_get? hsecond, h]

/-! ## Gathering -/

theorem nodup_keys_foldl_add {contributions deltas : Deltas} (h : deltas.keys.Nodup) :
    (contributions.foldl (fun deltas entry => add entry.1 entry.2 deltas) deltas).keys.Nodup := by
  induction contributions generalizing deltas with
  | nil => exact h
  | cons entry rest ih => exact ih (nodup_keys_add h)

theorem nodup_keys_gather (contributions : Deltas) : (gather contributions).keys.Nodup :=
  nodup_keys_foldl_add List.nodup_nil

theorem mem_keys_foldl_add {key : String} {contributions deltas : Deltas} :
    key ∈ (contributions.foldl (fun deltas entry => add entry.1 entry.2 deltas) deltas).keys ↔
      key ∈ deltas.keys ∨ key ∈ contributions.keys := by
  induction contributions generalizing deltas with
  | nil => simp [keys]
  | cons entry rest ih =>
    rw [List.foldl_cons, ih, mem_keys_add]
    simp only [keys, List.map_cons, List.mem_cons]
    tauto

/-- A key is there as soon as one contribution names it. -/
@[simp] theorem mem_keys_gather {key : String} {contributions : Deltas} :
    key ∈ (gather contributions).keys ↔ key ∈ contributions.keys := by
  rw [gather, mem_keys_foldl_add]
  simp [keys]

theorem totalOf_add (chosen : String → Bool) (key : String) (value : Int) (deltas : Deltas) :
    totalOf chosen (add key value deltas) =
      (if chosen key then value else 0) + totalOf chosen deltas := by
  induction deltas with
  | nil => exact totalOf_cons chosen (key, value) []
  | cons entry rest ih =>
    obtain ⟨first, sum⟩ := entry
    rw [add]
    by_cases hk : first = key
    · -- the key keeps its place, chosen or not
      subst hk
      rw [if_pos rfl, totalOf_cons, totalOf_cons]
      dsimp only
      split
      · omega
      · omega
    · rw [if_neg hk, totalOf_cons, totalOf_cons, ih]
      omega

theorem totalOf_foldl_add (chosen : String → Bool) (contributions deltas : Deltas) :
    totalOf chosen (contributions.foldl (fun deltas entry => add entry.1 entry.2 deltas) deltas) =
      totalOf chosen deltas + totalOf chosen contributions := by
  induction contributions generalizing deltas with
  | nil => exact (Int.add_zero _).symm
  | cons entry rest ih =>
    rw [List.foldl_cons, ih, totalOf_add, totalOf_cons]
    omega

/-- Gathering moves no amount to another key. -/
theorem totalOf_gather (chosen : String → Bool) (contributions : Deltas) :
    totalOf chosen (gather contributions) = totalOf chosen contributions := by
  rw [gather, totalOf_foldl_add]
  exact Int.zero_add _

@[simp] theorem amount_gather (key : String) (contributions : Deltas) :
    amount key (gather contributions) = amount key contributions :=
  totalOf_gather _ contributions

/-- Gathered deltas hold the declared sums: a key is there when a contribution names
    it, and it holds the sum of what is contributed under it. -/
theorem get?_gather (contributions : Deltas) (key : String) :
    (gather contributions).get? key =
      if key ∈ contributions.keys then some (amount key contributions) else none := by
  rw [get?_eq_amount (nodup_keys_gather contributions), amount_gather]
  simp only [mem_keys_gather]

/-- Contributions in another order give the same entries, maybe in another order. -/
theorem gather_perm {first second : Deltas} (h : first.Perm second) :
    (gather first).Perm (gather second) := by
  have hkeys : ∀ key, key ∈ first.keys ↔ key ∈ second.keys :=
    fun key => (h.map Prod.fst).mem_iff
  refine perm_of_get? (nodup_keys_gather first) (nodup_keys_gather second) fun key => ?_
  rw [get?_gather, get?_gather, amount_of_perm h]
  simp only [hkeys]

/-! ## Signs -/

theorem add_negate (key : String) (value : Int) (deltas : Deltas) :
    add key (-value) deltas.negate = (add key value deltas).negate := by
  induction deltas with
  | nil => rfl
  | cons entry rest ih =>
    have hcons : negate (entry :: rest) = (entry.1, -entry.2) :: negate rest := rfl
    rw [hcons, add, add]
    by_cases hk : entry.1 = key
    · rw [if_pos hk, if_pos hk]
      simp only [negate, List.map_cons, Int.neg_add]
    · rw [if_neg hk, if_neg hk, ih]
      rfl

theorem foldl_add_negate (contributions deltas : Deltas) :
    contributions.negate.foldl (fun deltas entry => add entry.1 entry.2 deltas) deltas.negate =
      (contributions.foldl (fun deltas entry => add entry.1 entry.2 deltas) deltas).negate := by
  induction contributions generalizing deltas with
  | nil => rfl
  | cons entry rest ih =>
    have hcons : negate (entry :: rest) = (entry.1, -entry.2) :: negate rest := rfl
    rw [hcons, List.foldl_cons, List.foldl_cons, add_negate, ih]

/-- Contributions with the other sign give the same deltas with the other sign. -/
theorem gather_negate (contributions : Deltas) :
    gather contributions.negate = (gather contributions).negate :=
  foldl_add_negate contributions []

/-! ## The order of keys -/

/-- Sorting looks at keys alone. -/
theorem sorted_mapValues {α β : Type} (f : α → β) (entries : List (String × α)) :
    sorted (entries.map fun entry => (entry.1, f entry.2)) =
      (sorted entries).map fun entry => (entry.1, f entry.2) :=
  (List.map_mergeSort (f := fun entry : String × α => (entry.1, f entry.2))
    fun _ _ _ _ => rfl).symm

theorem sorted_negate (entries : Deltas) : sorted entries.negate = negate (sorted entries) :=
  sorted_mapValues _ entries

theorem sorted_perm {α : Type} (entries : List (String × α)) : (sorted entries).Perm entries :=
  List.mergeSort_perm _ _

theorem sorted_eq_nil_iff {α : Type} {entries : List (String × α)} :
    sorted entries = [] ↔ entries = [] := by
  rw [← List.length_eq_zero_iff, (sorted_perm entries).length_eq, List.length_eq_zero_iff]

/-- Sorted entries stand in the order of their keys. -/
theorem pairwise_sorted {α : Type} (entries : List (String × α)) :
    (sorted entries).Pairwise fun a b => a.1 ≤ b.1 := by
  have htrans : ∀ a b c : String × α, decide (a.1 ≤ b.1) = true → decide (b.1 ≤ c.1) = true →
      decide (a.1 ≤ c.1) = true := by
    intro a b c hab hbc
    exact decide_eq_true ((of_decide_eq_true hab).trans (of_decide_eq_true hbc))
  have htotal : ∀ a b : String × α, (decide (a.1 ≤ b.1) || decide (b.1 ≤ a.1)) = true := by
    intro a b
    simpa using le_total a.1 b.1
  exact (List.pairwise_mergeSort htrans htotal entries).imp of_decide_eq_true

/-- Entries with each key once have one sorted form. -/
theorem sorted_eq_of_perm {first second : Deltas} (hkeys : first.keys.Nodup)
    (h : first.Perm second) : sorted first = sorted second := by
  have hperm : (sorted first).Perm (sorted second) :=
    (sorted_perm first).trans (h.trans (sorted_perm second).symm)
  refine List.Perm.eq_of_pairwise ?_ (pairwise_sorted first) (pairwise_sorted second) hperm
  intro a b ha hb hab hba
  -- the order is one of keys, so that two entries are the same only since no key comes twice
  have ha' : a ∈ first := (sorted_perm first).mem_iff.1 ha
  have hb' : b ∈ first := h.mem_iff.2 ((sorted_perm second).mem_iff.1 hb)
  exact List.inj_on_of_nodup_map hkeys ha' hb' (le_antisymm hab hba)

theorem nodup_keys_sorted {entries : Deltas} (h : entries.keys.Nodup) :
    (keys (sorted entries)).Nodup :=
  (((sorted_perm entries).map Prod.fst).nodup_iff).2 h

/-! ## Totals -/

/-- Of names that differ, a value under one of them is counted once. -/
theorem sum_ite_of_nodup {names : List String} (h : names.Nodup) (key : String) (value : Int) :
    (names.map fun name => if key = name then value else 0).sum =
      if key ∈ names then value else 0 := by
  induction names with
  | nil => rfl
  | cons first rest ih =>
    obtain ⟨hfirst, hrest⟩ := List.nodup_cons.1 h
    rw [List.map_cons, List.sum_cons, ih hrest]
    by_cases hk : key = first
    · subst hk
      simp [hfirst]
    · simp [hk]

/-- The amounts of some keys add up to what the entries give to these keys. -/
theorem sum_amount {names : List String} (h : names.Nodup) (entries : Deltas) :
    (names.map fun name => amount name entries).sum = totalOf (· ∈ names) entries := by
  induction entries with
  | nil => exact List.sum_eq_zero (by simp)
  | cons entry rest ih =>
    simp only [amount_cons, List.sum_map_add, sum_ite_of_nodup h, ih, totalOf_cons,
      decide_eq_true_eq]

/-- Keys that are there can be looked up all together. -/
theorem mapM_get? {entries : Deltas} (h : entries.keys.Nodup) {names : List String}
    (hnames : ∀ name ∈ names, name ∈ entries.keys) :
    names.mapM entries.get? = some (names.map fun name => amount name entries) := by
  induction names with
  | nil => rfl
  | cons name rest ih =>
    have hname : entries.get? name = some (amount name entries) := by
      rw [get?_eq_amount h, if_pos (hnames name List.mem_cons_self)]
    rw [List.mapM_cons, hname, ih fun other hother => hnames other (List.mem_cons_of_mem _ hother)]
    rfl

end UtxoBalance.Deltas
