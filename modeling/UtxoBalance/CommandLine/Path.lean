/-!
# Paths

A path is taken apart at its slashes. Parts that are empty or a single point lead
nowhere and are left out of its normal form; a path with no other part is the
current directory.

## Main definitions

- `Path.normal` — the normal form of a path
- `Path.isPath` — whether a text can be a path
-/

namespace UtxoBalance.Path

/-- The parts of a path between its slashes. -/
def parts : List Char → List (List Char)
  | [] => [[]]
  | c :: rest =>
    match parts rest with
    | part :: others => if c == '/' then [] :: part :: others else (c :: part) :: others
    | [] => [[c]]

/-- Whether a part leads anywhere. -/
def leads (part : List Char) : Bool := !part.isEmpty && part != ['.']

/-- The slashes in front of a path that lead to the root: two of them are not the same
    as one, and three or more are. -/
def root : List Char → List Char
  | '/' :: '/' :: '/' :: _ => ['/']
  | '/' :: '/' :: _ => ['/', '/']
  | '/' :: _ => ['/']
  | _ => []

/-- The normal form of a path. -/
def normal (path : String) : String :=
  let chars := path.toList
  let names := (parts chars).filter leads
  let text := root chars ++ ['/'].intercalate names
  if text.isEmpty then "." else String.ofList text

/-- Whether a text can be a path. -/
def isPath (text : String) : Bool := !text.toList.contains '\x00'

end UtxoBalance.Path
