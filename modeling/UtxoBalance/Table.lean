/-!
# Table names

A table is named by an identifier, or by two with a point between them. The name
becomes part of a statement's text, so nothing else is let through.

## Main definitions

- `Table.isIdentifier` — one identifier
- `Table.isName` — the name of a table
- `Table.upsert`, `Table.cleanup` — the two statements on a table
-/

namespace UtxoBalance.Table

/-- The pattern of table names. -/
def pattern : String := "^[A-Za-z_][A-Za-z0-9_]*(\\.[A-Za-z_][A-Za-z0-9_]*)?$"

/-- Whether an identifier may begin with a character. -/
def isInitial (c : Char) : Bool := c.isAlpha || c == '_'

/-- Whether a character may stand in an identifier. -/
def isInner (c : Char) : Bool := isInitial c || c.isDigit

/-- Whether a text is one identifier. -/
def isIdentifier : List Char → Bool
  | [] => false
  | c :: rest => isInitial c && rest.all isInner

/-- Whether a text is an identifier, or two with a point between them. -/
def isNameChars (chars : List Char) : Bool :=
  let qualifier := chars.takeWhile isInner
  match chars.dropWhile isInner with
  | [] => isIdentifier qualifier
  | c :: rest => c == '.' && isIdentifier qualifier && isIdentifier rest

/-- Whether a text names a table. -/
def isName (text : String) : Bool := isNameChars text.toList

/-- Whether a text is a table name that one line feed may follow. -/
def isNameLine (text : String) : Bool :=
  isName text ||
    match text.toList.reverse with
    | '\n' :: rest => isNameChars rest.reverse
    | _ => false

/-- The statement that adds amounts to the rows of a table: `%s` stands for the
    addresses, then for the amounts. -/
def upsert (table : String) : String :=
  "INSERT INTO " ++ table ++ " (address, balance) " ++
    "SELECT * FROM unnest(%s::text[], %s::numeric[]) " ++
    "ON CONFLICT (address) DO UPDATE " ++
    "SET balance = " ++ table ++ ".balance + EXCLUDED.balance"

/-- The statement that deletes rows with a balance of zero: `%s` stands for the
    addresses. -/
def cleanup (table : String) : String :=
  "DELETE FROM " ++ table ++ " WHERE address = ANY(%s::text[]) AND balance = 0"

end UtxoBalance.Table
