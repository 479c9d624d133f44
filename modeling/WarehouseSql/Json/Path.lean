import WarehouseSql.Json.Basic

/-!
Writing into JSON objects by path.  `Json.put` makes the objects on the way where there are none, whatever stood in
their place.
-/

namespace WarehouseSql.Json

/-- The members of an object; no other value has any. -/
def members : Json → List (String × Json)
  | .object members => members
  | _ => []

/-- Members with a value at a path of keys; an empty path changes nothing. -/
def put (members : List (String × Json)) (path : List String) (value : Json) : List (String × Json) :=
  match path with
  | [] => members
  | [key] => insertEntry key value members
  | key :: next :: rest =>
    let inner := ((members.lookup key).map Json.members).getD []
    insertEntry key (.object (put inner (next :: rest) value)) members

def at? (members : List (String × Json)) : List String → Option Json
  | [] => none
  | [key] => members.lookup key
  | key :: next :: rest =>
    match members.lookup key with
    | some (.object inner) => at? inner (next :: rest)
    | _ => none

end WarehouseSql.Json
