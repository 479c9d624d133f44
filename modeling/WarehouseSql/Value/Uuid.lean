import WarehouseSql.Text.Case

/-!
Universally unique identifiers: read from any of their written forms, written in lower case with hyphens.
-/

namespace WarehouseSql

/-- An identifier by its hexadecimal digits, in groups of 8, 4, 4, 4 and 12. -/
structure Uuid where
  digits : List Char
deriving DecidableEq

namespace Uuid

def isHexDigit (c : Char) : Bool :=
  c.isDigit || ('a' ≤ c && c ≤ 'f') || ('A' ≤ c && c ≤ 'F')

/-- The identifier with these digits, if there are 32. -/
def ofDigits? (cs : List Char) : Option Uuid :=
  if cs.length = 32 ∧ cs.all isHexDigit = true then some ⟨cs.map Char.toLower⟩ else none

/-- An identifier with hyphens between its groups. -/
def ofHyphenated? (cs : List Char) : Option Uuid :=
  if cs.length = 36 ∧ [8, 13, 18, 23].all (fun i => cs[i]? == some '-') = true then
    ofDigits?
      (cs.take 8 ++ (cs.drop 9).take 4 ++ (cs.drop 14).take 4 ++ (cs.drop 19).take 4 ++ cs.drop 24)
  else none

/-- What a resource name puts before the identifier; its letters may be of either case. -/
def resourceScheme : List Char := "urn:uuid:".toList

/-- Reads an identifier: digits alone, with hyphens, with hyphens in braces, or as a resource name. -/
def parse? (text : String) : Option Uuid :=
  let cs := text.toList
  if cs.length = 32 then ofDigits? cs
  else if cs.length = 36 then ofHyphenated? cs
  else if cs.length = 38 ∧ cs.head? = some '\x7b' ∧ cs.getLast? = some '\x7d' then
    ofHyphenated? (cs.drop 1).dropLast
  else if cs.length = 45 ∧ (cs.take 9).map Char.toLower = resourceScheme then ofHyphenated? (cs.drop 9)
  else none

/-- The groups of digits with hyphens between them. -/
def text (u : Uuid) : String :=
  let ds := u.digits
  String.intercalate "-" <| List.map String.ofList
    [ds.take 8, (ds.drop 8).take 4, (ds.drop 12).take 4, (ds.drop 16).take 4, ds.drop 20]

end Uuid

end WarehouseSql
