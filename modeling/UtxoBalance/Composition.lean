import UtxoBalance.Reducer

/-!
# Compositions

A composition runs several reducers over one block and gives their commands one
after another. Reducers share nothing; the first that fails ends the reduction.

## Main definitions

- `Candidate`, `Candidate.toEntry` — what may be asked for as an entry
- `Composition` — reducers in order
- `Composition.ofCandidates` — the composition of reducers that are registered
- `Composition.reduce` — the commands for a block
-/

namespace UtxoBalance

/-- What may be asked for as an entry. -/
inductive Candidate
  /-- An entry. -/
  | entry (given : Settings.Entry)
  /-- A row of values: a name and the settings. -/
  | row (values : List Document)
  /-- A value that is an object or lists its fields as pairs. -/
  | value (d : Document)

/-- The entry that is asked for. -/
def Candidate.toEntry : Candidate → Except Failure Settings.Entry
  | .entry given => .ok given
  | .row values => do
    let (name, settings) ← (Document.toPair (.list values)).mapError .shape
    let entries := [("name", name), ("config", settings)]
    Settings.Entry.report (Settings.Entry.ofEntries (Given.ofFields entries))
  | .value d => do
    Settings.Entry.report (Settings.Entry.ofEntries (← (Given.entriesOf d).mapError .shape))

/-- The names of the reducers that are known by themselves. -/
def knownReducers : List String := [Settings.Entry.balanceByAddress]

/-- The reducer of an entry, if its name is among those registered. -/
def Settings.Entry.toReducer (registry : List String) (entry : Settings.Entry) :
    Except Failure Reducer :=
  if entry.name.whole?.any registry.contains then .ok { settings := entry.settings }
  else
    .error (.unknownReducer entry.name (registry.eraseDups.mergeSort (fun a b => a ≤ b)))

/-- Reducers in order. -/
structure Composition where
  /-- The reducers. -/
  reducers : List Reducer
  deriving DecidableEq, Repr

namespace Composition

/-- The composition of the reducers that are asked for, if their names are among
    those registered. Candidates are taken one by one. -/
def ofCandidates (registry : List String) (candidates : List Candidate) :
    Logged Composition := do
  let reducers ← Logged.lift <| candidates.mapM fun candidate => do
    (← candidate.toEntry).toReducer registry
  Logged.tell (.reducersComposed reducers.length)
  return { reducers }

/-- The commands of some reducers for a block, one reducer after another. -/
def reduceAll (block : Block) (direction : Direction) : List Reducer → Logged (List Command)
  | [] => pure []
  | reducer :: rest => do
    let first ← reducer.reduce block direction
    return first ++ (← reduceAll block direction rest)

/-- The commands for a block. -/
def reduce (composition : Composition) (block : Block) (direction : Direction) :
    Logged (List Command) :=
  reduceAll block direction composition.reducers

end Composition

end UtxoBalance
