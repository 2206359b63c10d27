import UtxoBalance.Emitter
import UtxoBalance.Settings.Checked
import UtxoBalance.Walk

/-!
# Settings of a reduction

A reduction keeps balances by payment key or by staking key, in counters under a
keyspace or in the rows of a table, and is strict or lenient about addresses that
cannot be decoded. Two of the fields may be spelled in two ways. Where no kind of
store is named, a table asks for rows, and anything else for counters.

## Main definitions

- `Settings.Backend` — the kind of store
- `Settings.Reduction` — the settings
- `Settings.Reduction.ofEntries` — the settings behind the entries of an object
- `Settings.Reduction.emitter`, `Settings.Reduction.walker` — what they ask for
- `Settings.Reduction.build` — the emitter of settings that may not have been checked
-/

namespace UtxoBalance.Settings

/-- The kind of store. -/
inductive Backend
  /-- Replicated counters. -/
  | crdt
  /-- Rows of a table. -/
  | relational
  deriving DecidableEq, Repr

/-- The name of a kind of store. -/
def Backend.name : Backend → String
  | .crdt => "crdt"
  | .relational => "relational"

/-- The settings of a reduction. -/
structure Reduction where
  /-- The balances that are kept. -/
  mode : Address.Mode
  /-- The keyspace of counters. -/
  keyspace : Option String := none
  /-- The table with the rows. -/
  table : Option String := none
  /-- The kind of store, where it is named. -/
  backend : Option Backend := none
  /-- What to do about an address that cannot be decoded. -/
  policy : Policy := .strict
  deriving DecidableEq, Repr

namespace Reduction

/-- What these settings are called in reports. -/
def title : String := "ReducerConfig"

/-- The kind of store that settings ask for. -/
def resolvedBackend (settings : Reduction) : Backend :=
  settings.backend.getD (if settings.table.isSome then .relational else .crdt)

/-- The names of the modes. -/
def modes : List (String × Address.Mode) :=
  [Address.Mode.payment, .stake].map fun mode => (mode.name, mode)

/-- The names of the kinds of store. -/
def backends : List (String × Backend) :=
  [Backend.crdt, .relational].map fun backend => (backend.name, backend)

/-- The names of the policies. -/
def policies : List (String × Policy) :=
  [Policy.strict, .lenient].map fun policy => (policy.name, policy)

/-- A keyspace: a text that is not empty. -/
def checkKeyspace (given : Given) : Checked String := do
  let value ← characters given
  if value.isEmpty then .refuse .emptyText else return value

/-- The name of a table. -/
def checkTable (given : Given) : Checked String := do
  let value ← characters given
  if Table.isName value then return value else .refuse (.notMatching Table.pattern)

/-- Settings whose fields are in order ask for rows only of a table that they name. -/
def checkBackend (settings : Reduction) : Checked Reduction :=
  if settings.resolvedBackend = .relational ∧ settings.table.isNone then .refuse .noTable
  else .ok settings

/-- The settings behind the entries of an object. Of two spellings the first counts,
    and the other is then a field of no known name. -/
def ofEntries (entries : Given.Entries) : Checked Reduction := do
  let modeName := spelling entries "addressType" "address_type"
  let policyName := spelling entries "onDecodeError" "on_decode_error"
  let known := [modeName, "prefix", "table", "backend", policyName]
  let ((mode, keyspace, table, backend, policy), ()) ←
    ((required (enumerated modes) entries modeName).also <|
      (optional none (nullable checkKeyspace) entries "prefix").also <|
      (optional none (nullable checkTable) entries "table").also <|
      (optional none (nullable (oneOf backends)) entries "backend").also <|
      optional .strict (oneOf policies) entries policyName).also
        (extras known entries)
  checkBackend { mode, keyspace, table, backend, policy }

/-- The settings that are given. -/
def check (given : Given) : Checked Reduction := do
  ofEntries (← entriesOf title given)

/-- A check of these settings by themselves. -/
def report (check : Checked Reduction) : Except Failure Reduction :=
  check.mapError fun issues => .invalid { model := title, issues }

/-- The settings behind a document that has to be an object. -/
def ofDocument (d : Document) : Except Failure Reduction :=
  report (check (.ofDocument d))

/-- The settings behind a value that is an object or lists its fields as pairs. -/
def ofValue (d : Document) : Except Failure Reduction := do
  report (ofEntries (← (Given.entriesOf d).mapError .shape))

/-- How the settings ask to walk a block. -/
def walker (settings : Reduction) : Walker :=
  { mode := settings.mode, policy := settings.policy }

/-- The emitter that the settings ask for. -/
def emitter (settings : Reduction) : Emitter :=
  match settings.resolvedBackend, settings.table with
  | .relational, some table => .rows table
  | _, _ => .counters settings.keyspace

/-- The emitter that the settings ask for, where nothing is taken for granted: rows need a
    table, and its name is looked at once more. -/
def build (settings : Reduction) : Except Failure Emitter :=
  match settings.resolvedBackend, settings.table with
  | .relational, some table => Emitter.ofTable (.text table)
  | .relational, none => .error .tableMissing
  | .crdt, _ => .ok (.counters settings.keyspace)

end Reduction

end UtxoBalance.Settings
