import UtxoBalance.Settings.Issue
import UtxoBalance.Text.Utf8

/-!
# Checking settings

A check gives a value or the issues found. Checks of several fields are put
together so that the issues of all of them are kept, in order.

## Main definitions

- `Checked` — a value, or the issues found
- `Checked.also` — two checks together
- `Checked.inside` — a check seen from one step further out
- `required`, `optional` — the check of a field
- `extras` — the check that no other field is there
- `text`, `characters`, `nullable`, `oneOf`, `enumerated` — checks of values
-/

namespace UtxoBalance.Settings

/-- A value, or the issues found. -/
abbrev Checked (α : Type) := Except (List Issue) α

namespace Checked

/-- One issue with a value as a whole. -/
def refuse {α : Type} (trouble : Trouble) : Checked α := .error [⟨[], trouble⟩]

/-- The issues of a check. -/
def issues {α : Type} : Checked α → List Issue
  | .ok _ => []
  | .error issues => issues

/-- Two checks together: both values, or the issues of both. -/
def also {α β : Type} (first : Checked α) (second : Checked β) : Checked (α × β) :=
  match first, second with
  | .ok a, .ok b => .ok (a, b)
  | first, second => .error (first.issues ++ second.issues)

/-- A check seen from one step further out. -/
def inside {α : Type} (step : Step) (check : Checked α) : Checked α :=
  check.mapError fun issues => issues.map (Issue.inside step)

/-- The check of a list: all values, or the issues of all items. -/
def all {α : Type} : List (Checked α) → Checked (List α)
  | [] => .ok []
  | check :: rest => (fun pair => pair.1 :: pair.2) <$> check.also (all rest)

end Checked

/-! ### Fields -/

/-- A field that has to be given. -/
def required {α : Type} (check : Given → Checked α) (entries : Given.Entries) (name : String) :
    Checked α :=
  match entries.named? name with
  | some value => (check value).inside (.name name)
  | none => (Checked.refuse .missing).inside (.name name)

/-- A field with a value of its own where it is not given. -/
def optional {α : Type} (fallback : α) (check : Given → Checked α) (entries : Given.Entries)
    (name : String) : Checked α :=
  match entries.named? name with
  | some value => (check value).inside (.name name)
  | none => .ok fallback

/-- The spelling under which a field is given that may be spelled in two ways: the
    preferred one, unless only the other is used. -/
def spelling (entries : Given.Entries) (preferred other : String) : String :=
  if (entries.named? preferred).isNone && (entries.named? other).isSome then other
  else preferred

/-- The characters of a byte string. -/
def charactersOf (bytes : Bytes) : Option String :=
  (Utf8.decode bytes).toOption.map String.ofList

/-- The name that a key stands for: that of a text, or of a byte string that holds
    one. -/
def keyName? : Atom → Option String
  | .text key => key.whole?
  | .bytes key => charactersOf key
  | _ => none

/-- What is wrong with an entry whose key is not among the names that are used, if
    anything is. -/
def extraTrouble? (used : List String) (key : Atom) : Option Trouble :=
  match keyName? key with
  | some name => if used.contains name then none else some .extra
  | none => some .keyNotText

/-- An issue for each entry that is none of the known fields, in order. -/
def extras (known : List String) (entries : Given.Entries) : Checked Unit :=
  let used := known.filter fun name => (entries.named? name).isSome
  let issues := entries.filterMap fun (key, _) =>
    (extraTrouble? used key).map fun trouble => ⟨[.ofKey key], trouble⟩
  if issues.isEmpty then .ok () else .error issues

/-! ### Values -/

/-- A text, which may also be given as a byte string. -/
def text : Given → Checked Text.Raw
  | .atom (.text value) => .ok value
  | .atom (.bytes value) =>
    match charactersOf value with
    | some chars => .ok (.whole chars)
    | none => .refuse .notCharacters
  | _ => .refuse .notText

/-- A text made of characters. -/
def characters (value : Given) : Checked String := do
  match (← text value).whole? with
  | some chars => .ok chars
  | none => .refuse .notCharacters

/-- A value that may be absent. -/
def nullable {α : Type} (check : Given → Checked α) : Given → Checked (Option α)
  | .atom .null => .ok none
  | value => some <$> check value

/-- One of a few texts, each of which stands for a value. -/
def oneOf {α : Type} (options : List (String × α)) (value : Given) : Checked α :=
  let refusal := Checked.refuse (.notLiteral (options.map Prod.fst))
  match value with
  | .atom (.text (.whole chars)) => (options.lookup chars).elim refusal .ok
  | .atom (.text (.broken _)) => .refuse .notCharacters
  | _ => refusal

/-- One of the values of an enumeration by its name, which may also be given as a byte
    string. -/
def enumerated {α : Type} (options : List (String × α)) (value : Given) : Checked α :=
  let refusal := Checked.refuse (.notInEnum (options.map Prod.fst))
  match text value with
  | .ok (.whole chars) => (options.lookup chars).elim refusal .ok
  | .ok (.broken _) => .refuse .notCharacters
  | .error _ => refusal

/-- The items of a list or of a set. -/
def itemsOf : Given → Checked (List Given)
  | .list items => .ok items
  | .set items => .ok (items.map .atom)
  | _ => .refuse .notList

/-- The entries of an object, where the settings named here are needed. -/
def entriesOf (model : String) : Given → Checked Given.Entries
  | .object entries => .ok entries
  | _ => .refuse (.notObject model)

end UtxoBalance.Settings
