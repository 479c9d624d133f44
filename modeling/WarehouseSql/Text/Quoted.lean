/-!
Quoted text.  A string literal doubles its single quotes and its backslashes, a quoted identifier doubles its
double quotes, so that no text can close its own quotes.
-/

namespace WarehouseSql.Text

/-- The inside of a string literal. -/
def escapeLiteral : List Char → List Char
  | [] => []
  | c :: cs => if c = '\'' ∨ c = '\\' then c :: c :: escapeLiteral cs else c :: escapeLiteral cs

/-- The inside of a quoted identifier. -/
def escapeIdentifier : List Char → List Char
  | [] => []
  | c :: cs => if c = '"' then c :: c :: escapeIdentifier cs else c :: escapeIdentifier cs

/-- A text as a single-quoted string literal. -/
def quoteLiteral (s : String) : String := String.ofList ('\'' :: escapeLiteral s.toList ++ ['\''])

/-- A text as a double-quoted identifier. -/
def quoteIdentifier (s : String) : String := String.ofList ('"' :: escapeIdentifier s.toList ++ ['"'])

end WarehouseSql.Text
