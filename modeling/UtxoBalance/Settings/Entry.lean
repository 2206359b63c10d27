import UtxoBalance.Settings.Reduction

/-!
# Entries of a composition

An entry names a reducer and gives its settings. Where it names none, the reducer
of balances by address is meant.

## Main definitions

- `Settings.Entry` — an entry
- `Settings.Entry.ofEntries` — the entry behind the entries of an object
-/

namespace UtxoBalance.Settings

/-- A reducer by name, with its settings. -/
structure Entry where
  /-- The name of the reducer. -/
  name : Text.Raw
  /-- Its settings. -/
  settings : Reduction
  deriving DecidableEq, Repr

namespace Entry

/-- What an entry is called in reports. -/
def title : String := "ReducerEntry"

/-- The name of the reducer of balances by address. -/
def balanceByAddress : String := "BalanceByAddress"

/-- The entry behind the entries of an object; those under other keys are passed
    over. -/
def ofEntries (entries : Given.Entries) : Checked Entry := do
  let (name, settings) ←
    (optional (.whole balanceByAddress) text entries "name").also
      (required Reduction.check entries "config")
  return { name, settings }

/-- The entry that is given. -/
def check (given : Given) : Checked Entry := do
  ofEntries (← entriesOf title given)

/-- A check of an entry by itself. -/
def report (check : Checked Entry) : Except Failure Entry :=
  check.mapError fun issues => .invalid { model := title, issues }

end Entry

end UtxoBalance.Settings
