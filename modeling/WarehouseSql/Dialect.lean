import WarehouseSql.Json.Fields
import WarehouseSql.Query.Basic
import WarehouseSql.Text.Visible

/-!
The dialect that statements are compiled for, and the causes for which a description does not compile.  A strict
dialect refuses what the warehouse lacks; a lenient one leaves it out.
-/

namespace WarehouseSql

/-- What is done about constructs that the warehouse lacks. -/
inductive Strictness where
  | lenient
  | strict
deriving DecidableEq

/-- How statements are written. -/
structure Dialect where
  policy : Policy
  strictness : Strictness
deriving DecidableEq

namespace Strictness

def name : Strictness → String
  | .lenient => "snowflake"
  | .strict => "snowflake_strict"

def ofJson? : Json → Option Strictness :=
  Json.asChoice? .direct [("snowflake", .lenient), ("snowflake_strict", .strict)]

/-- A strictness from free text, or the word that names none. -/
def ofText (text : String) : Except String Strictness :=
  let word := Text.asciiLower (Text.trim text)
  if word = "snowflake" then .ok .lenient
  else if word = "snowflake_strict" ∨ word = "strict" then .ok .strict
  else .error word

/-- The message about a word that names no strictness. -/
def unknown (word : String) : String := "unknown grammar '" ++ word ++ "'"

end Strictness

/-- Why a description does not compile. -/
inductive GrammarError where
  | invalidOperator (operator : String)
  | invalidFunction (function : String)
  | noTargetTable
  | emptyGroup
  | rawInJsonPath (key : String)
  | noAssignments
  | noRowAlias
  | unequalColumns
  | noUniqueColumns
  | lockUnsupported (lock : Lock)
  | keyWithoutColumns (keyType table : String)
  | incompleteForeignKey (table : String)
  | invalidAction (action : String)
  | indexUnsupported (construct : String)
  | dropWithoutColumns
  | tableWithoutColumns (table : String)
  | computedType (column : String)
deriving DecidableEq

def Lock.shown : Lock → String
  | .update => "Update"
  | .shared => "Shared"
  | .raw sql => "Raw(" ++ Text.shown sql ++ ")"

namespace GrammarError

/-- Whether the construct is refused, rather than the description faulty. -/
def isUnsupported : GrammarError → Bool
  | .lockUnsupported _ => true
  | .indexUnsupported _ => true
  | _ => false

def kind (e : GrammarError) : String := if e.isUnsupported then "Unsupported" else "Compilation"

/-- What is wrong, without the kind of the error. -/
def reason : GrammarError → String
  | .invalidOperator operator => "invalid operator '" ++ operator ++ "'"
  | .invalidFunction function => "invalid aggregate function '" ++ function ++ "'"
  | .noTargetTable => "query has no target table"
  | .emptyGroup => "nested where group has no conditions"
  | .rawInJsonPath key => "raw expressions cannot be written into JSON path '" ++ key ++ "'"
  | .noAssignments => "update has no values to set"
  | .noRowAlias => "cannot derive a row-identifier alias for a joined or limited update/delete"
  | .unequalColumns => "every inserted row must provide the same columns"
  | .noUniqueColumns => "upsert requires at least one unique-by column"
  | .lockUnsupported lock => "row locks (" ++ lock.shown ++ ") have no equivalent in this dialect"
  | .keyWithoutColumns keyType table => keyType ++ " on '" ++ table ++ "' lists no columns"
  | .incompleteForeignKey table =>
    "foreign key on '" ++ table ++ "' needs columns, a referenced table and referenced columns"
  | .invalidAction action => "invalid referential action '" ++ action ++ "'"
  | .indexUnsupported construct => construct ++ " has no equivalent in this dialect"
  | .dropWithoutColumns => "drop column lists no columns"
  | .tableWithoutColumns table => "create table '" ++ table ++ "' defines no columns"
  | .computedType column =>
    "column '" ++ column ++ "' needs a concrete type; use virtual_as or stored_as instead of computed"

def message (e : GrammarError) : String :=
  (if e.isUnsupported then "operation not supported by the warehouse dialect: "
    else "cannot compile statement: ") ++ e.reason

end GrammarError

/-- What succeeds in two steps succeeds in the first and then in the second. -/
theorem bind_eq_ok {ε α β : Type} {first : Except ε α} {next : α → Except ε β} {result : β} :
    (first >>= next) = .ok result ↔ ∃ a, first = .ok a ∧ next a = .ok result := by
  cases first with
  | error error =>
    constructor
    · intro h
      cases h
    · rintro ⟨a, h, -⟩
      cases h
  | ok a =>
    constructor
    · exact fun h => ⟨a, rfl, h⟩
    · rintro ⟨b, hb, h⟩
      cases hb
      exact h

/-- A compiled result, or the reason why there is none. -/
abbrev Compiled (α : Type) := Except GrammarError α

theorem Compiled.bind_eq_ok {α β : Type} {compiled : Compiled α} {next : α → Compiled β} {result : β} :
    (compiled >>= next) = .ok result ↔ ∃ a, compiled = .ok a ∧ next a = .ok result := WarehouseSql.bind_eq_ok

end WarehouseSql
