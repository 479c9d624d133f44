import WarehouseSql.Json.Basic

/-!
Reading descriptions out of JSON.  A record is written as an object, or as the list of its fields in their order;
`Fields` is the view that both have in common, bounded in size so that readers may call themselves on what they
find.

A record passes over members that it does not know, also unreadable ones.  A description that has to be held until
its kind is known, or that is tried in several ways, is taken in whole first and so has to be readable throughout.
-/

namespace WarehouseSql

theorem Json.sizeOf_lt_of_mem_list {items : List Json} {item : Json} (h : item ∈ items) :
    sizeOf item < sizeOf (Json.list items) := by
  have := List.sizeOf_lt_of_mem h
  simp
  omega

theorem Json.sizeOf_lt_of_mem_object {members : List (String × Json)} {member : String × Json}
    (h : member ∈ members) : sizeOf member.2 < sizeOf (Json.object members) := by
  have := List.sizeOf_lt_of_mem h
  obtain ⟨key, value⟩ := member
  simp at this ⊢
  omega

/-- The fields of a record, each smaller than `bound`. -/
structure Fields (bound : Nat) where
  members : List (String × Json)
  smaller : ∀ member ∈ members, sizeOf member.2 < bound

namespace Json

/-- Whether none of some names comes twice. -/
def distinctNames (names : List String) (members : List (String × Json)) : Bool :=
  names.all fun name => decide ((members.map Prod.fst).count name ≤ 1)

/-- The fields of an object; unknown members are passed over, a known name must not come twice. -/
def objectFields? (names : List String) : (j : Json) → Option (Fields (sizeOf j))
  | .object members =>
    if distinctNames names members then
      some ⟨members, fun _ h => sizeOf_lt_of_mem_object h⟩
    else none
  | _ => none

/-- The fields of a record as an object, or as a list that is not too long. -/
def fields? (names : List String) : (j : Json) → Option (Fields (sizeOf j))
  | .object members => objectFields? names (.object members)
  | .list items =>
    if items.length ≤ names.length then
      some ⟨names.zip items, fun _ h => sizeOf_lt_of_mem_list (List.of_mem_zip h).2⟩
    else none
  | _ => none

end Json

namespace Fields

variable {bound : Nat} {α : Type}

def get? (fields : Fields bound) (name : String) : Option { j : Json // sizeOf j < bound } :=
  match h : fields.members.find? fun member => member.1 == name with
  | some member => some ⟨member.2, fields.smaller member (List.mem_of_find?_eq_some h)⟩
  | none => none

def required (fields : Fields bound) (name : String)
    (read : (j : Json) → sizeOf j < bound → Option α) : Option α :=
  match fields.get? name with
  | some ⟨j, h⟩ => read j h
  | none => none

def withDefault (fields : Fields bound) (name : String) (default : α)
    (read : (j : Json) → sizeOf j < bound → Option α) : Option α :=
  match fields.get? name with
  | some ⟨j, h⟩ => read j h
  | none => some default

/-- A field that may be absent or null. -/
def nullable (fields : Fields bound) (name : String)
    (read : (j : Json) → sizeOf j < bound → Option α) : Option (Option α) :=
  match fields.get? name with
  | some ⟨.null, _⟩ => some none
  | some ⟨j, h⟩ => (read j h).map some
  | none => some none

end Fields

namespace Json

/-! ### plain values -/

def asBool? : Json → Option Bool
  | .bool flag => some flag
  | _ => none

def asText? : Json → Option String
  | .text content => some content
  | _ => none

/-- A whole number that is not negative and below a bound. -/
def asNatBelow? (bound : Nat) : Json → Option Nat
  | .int number => if 0 ≤ number ∧ number < bound then some number.toNat else none
  | _ => none

def asUInt32? (j : Json) : Option UInt32 := (j.asNatBelow? UInt32.size).map UInt32.ofNat

def asUInt64? (j : Json) : Option UInt64 := (j.asNatBelow? UInt64.size).map UInt64.ofNat

/-- A list, item by item. -/
def asListWith? {α : Type} : (j : Json) → ((item : Json) → sizeOf item < sizeOf j → Option α) → Option (List α)
  | .list items, read =>
    items.attach.mapM fun item => read item.1 (sizeOf_lt_of_mem_list item.2)
  | _, _ => none

def asList? {α : Type} (read : Json → Option α) (j : Json) : Option (List α) :=
  j.asListWith? fun item _ => read item

def asTexts? : Json → Option (List String) := asList? asText?

/-- A map; the last member of a name counts. -/
def asRecord? {α : Type} (read : Json → Option α) : Json → Option (Record α)
  | .object members => do
    let entries ← members.mapM fun member => (read member.2).map fun a => (member.1, a)
    some (Record.ofList entries)
  | _ => none

/-- How a description comes to its reader: straight from where it is written, or after it was held until its kind
was known. -/
inductive Delivery where
  | direct
  | held
deriving DecidableEq

/-- Whether a value stands for nothing: null, and once it was held also an object without members. -/
def isNothing (delivery : Delivery) : Json → Bool
  | .null => true
  | .object [] => delivery == .held
  | _ => false

/-- One of several names, written as a text or as an object with this one member, which stands for nothing. -/
def asChoice? {α : Type} (delivery : Delivery) (choices : List (String × α)) : Json → Option α
  | .text name => choices.lookup name
  | .object [(name, value)] => if value.isNothing delivery then choices.lookup name else none
  | _ => none

/-- The name that a tagged description gives itself, and its other contents: the other members of an object, or
the items after the first of a list.  A tagged description is held. -/
def tagged? (tag : String) (j : Json) : Option (String × Json) :=
  if j.isReadable then
    match j with
    | .object members =>
      match (members.filter fun member => member.1 == tag).map Prod.snd with
      | [.text name] => some (name, .object (members.filter fun member => member.1 != tag))
      | _ => none
    | .list (.text name :: items) => some (name, .list items)
    | _ => none
  else none

end Json

end WarehouseSql
