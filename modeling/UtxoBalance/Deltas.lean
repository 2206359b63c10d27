/-!
# Deltas

What a block changes: a signed amount for each key it touches. A key whose
contributions cancel keeps its place with an amount of zero, so that a store can
tell a key that was touched from one that was not.

## Main definitions

- `Deltas` — signed amounts by key, in the order in which the keys appeared
- `Deltas.add` — one more contribution
- `Deltas.get?` — the amount of a key
- `Deltas.keys` — the keys
- `Deltas.sorted` — the entries in the order of their keys

## Main statements

- `Deltas.get?_add` — a contribution adds to its own key and to no other
- `Deltas.nodup_keys_add` — each key stays there once
-/

namespace UtxoBalance

/-- Signed amounts by key, each key once, in the order in which the keys appeared. -/
abbrev Deltas := List (String × Int)

namespace Deltas

/-- Adds a contribution to the amount of a key; a new key starts from zero at the
    end. -/
def add (key : String) (amount : Int) : Deltas → Deltas
  | [] => [(key, amount)]
  | (other, sum) :: rest =>
    if other = key then (other, sum + amount) :: rest else (other, sum) :: add key amount rest

/-- The amount of a key that was touched. -/
def get? (deltas : Deltas) (key : String) : Option Int :=
  deltas.lookup key

/-- The keys that were touched. -/
def keys (deltas : Deltas) : List String :=
  deltas.map Prod.fst

/-- Whether a key was touched. -/
def contains (deltas : Deltas) (key : String) : Bool :=
  deltas.keys.contains key

/-- The entries in the order of their keys. -/
def sorted {α : Type} (entries : List (String × α)) : List (String × α) :=
  entries.mergeSort fun a b => a.1 ≤ b.1

/-- A contribution adds to the amount of its own key and to no other. -/
theorem get?_add (key other : String) (amount : Int) (deltas : Deltas) :
    (add key amount deltas).get? other =
      if other = key then some ((deltas.get? key).getD 0 + amount) else deltas.get? other := by
  induction deltas with
  | nil =>
    by_cases h : other = key
    · simp [add, get?, h]
    · simp [add, get?, List.lookup_cons, List.lookup_nil, h, beq_false_of_ne h]
  | cons entry rest ih =>
    obtain ⟨first, sum⟩ := entry
    simp only [get?] at ih
    by_cases hf : first = key
    · subst hf
      by_cases h : other = first
      · simp [add, get?, h]
      · simp [add, get?, List.lookup_cons, h, beq_false_of_ne h]
    · have hk := beq_false_of_ne (Ne.symm hf)
      by_cases h : other = first
      · subst h
        simp [add, get?, hf]
      · have hb := beq_false_of_ne h
        simp [add, get?, List.lookup_cons, hf, hk, hb, ih]

/-- A contribution touches its own key beside those touched before. -/
theorem mem_keys_add {key other : String} {amount : Int} {deltas : Deltas} :
    other ∈ (add key amount deltas).keys ↔ other = key ∨ other ∈ deltas.keys := by
  induction deltas with
  | nil => simp [add, keys]
  | cons entry rest ih =>
    obtain ⟨first, sum⟩ := entry
    simp only [keys] at ih
    by_cases hf : first = key
    · subst hf
      simp [add, keys]
    · simp only [add, hf, if_false, keys, List.map_cons, List.mem_cons, ih]
      exact or_left_comm

/-- Each key stays there once. -/
theorem nodup_keys_add {key : String} {amount : Int} {deltas : Deltas}
    (h : deltas.keys.Nodup) : (add key amount deltas).keys.Nodup := by
  induction deltas with
  | nil => simp [add, keys]
  | cons entry rest ih =>
    obtain ⟨first, sum⟩ := entry
    obtain ⟨hfirst, hrest⟩ := List.nodup_cons.1 h
    by_cases hf : first = key
    · subst hf
      simpa [add, keys] using h
    · simp only [add, hf, if_false, keys, List.map_cons]
      refine List.nodup_cons.2 ⟨fun hm => ?_, ih hrest⟩
      exact (mem_keys_add.1 hm).elim hf hfirst

end Deltas

end UtxoBalance
