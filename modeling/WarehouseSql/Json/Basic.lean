import WarehouseSql.Record
import WarehouseSql.Binary64.Decimal

/-!
JSON values.  An object keeps its members as they were read, repeated names included; `Json.normal` puts the
members of every object in the order of their names and keeps the last of each.

A text may have the form of JSON and still hold parts that denote nothing: half of a surrogate pair, a number beyond
all doubles, lists and objects nested too deep.  Such a part is `Json.unreadable`: a reader may pass over it, and
`Json.isReadable` says that there is none.
-/

namespace WarehouseSql

/-- A JSON value; a number is an integer or a double.  An unreadable part has no value that could be read. -/
inductive Json where
  | null
  | bool (flag : Bool)
  | int (number : Int)
  | float (number : Binary64)
  | text (content : String)
  | list (items : List Json)
  | object (members : List (String × Json))
  | unreadable

instance : Inhabited Json := ⟨.null⟩

namespace Json

mutual
/-- The value with the members of all objects in order, the last of each name. -/
def normal : Json → Json
  | .list items => .list (normalItems items)
  | .object members => .object (sortEntries (normalMembers members))
  | .null => .null
  | .bool flag => .bool flag
  | .int number => .int number
  | .float number => .float number
  | .text content => .text content
  | .unreadable => .unreadable

def normalItems : List Json → List Json
  | [] => []
  | item :: items => item.normal :: normalItems items

def normalMembers : List (String × Json) → List (String × Json)
  | [] => []
  | (key, value) :: members => (key, value.normal) :: normalMembers members
end

mutual
/-- Whether a value is readable in all its parts. -/
def isReadable : Json → Bool
  | .list items => areReadable items
  | .object members => areReadableMembers members
  | .unreadable => false
  | _ => true

def areReadable : List Json → Bool
  | [] => true
  | item :: items => item.isReadable && areReadable items

def areReadableMembers : List (String × Json) → Bool
  | [] => true
  | (_, value) :: members => value.isReadable && areReadableMembers members
end

/-- The value of the last member of a name; nothing outside objects. -/
def member? (name : String) : Json → Option Json
  | .object members => members.reverse.lookup name
  | _ => none

def ofTexts (texts : List String) : Json := .list (texts.map .text)

def ofUInt32 (n : UInt32) : Json := .int n.toNat

def ofUInt64 (n : UInt64) : Json := .int n.toNat

def ofOption {α : Type} (encode : α → Json) : Option α → Json
  | none => .null
  | some a => encode a

/-- A number, or null where JSON has none. -/
def ofBinary64 (number : Binary64) : Json := if number.isFinite then .float number else .null

end Json

end WarehouseSql
