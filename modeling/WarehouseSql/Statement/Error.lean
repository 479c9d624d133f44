import WarehouseSql.Value.Basic

/-!
What can go wrong between a statement, its bindings and the raw connection, with the messages.
-/

namespace WarehouseSql

/-- A failure that the raw connection raises. -/
structure DriverError where
  sqlState : String
  message : String
deriving DecidableEq

/-- Why a statement was not executed, or not with success. -/
inductive StatementError where
  | bindingArity (expected actual : Nat)
  | missingNamed (name : String)
  | unusedNamed (name : String)
  | mixedPlaceholders
  | invalidPosition (position : Nat)
  | alreadyExecuted
  | notExecuted
  | driver (sqlState message : String)
deriving DecidableEq

def DriverError.toStatementError (e : DriverError) : StatementError := .driver e.sqlState e.message

/-- The name of an error's kind, by which a caller tells errors apart. -/
def StatementError.kind : StatementError → String
  | .bindingArity _ _ => "BindingArity"
  | .missingNamed _ => "MissingNamedBinding"
  | .unusedNamed _ => "UnusedNamedBinding"
  | .mixedPlaceholders => "MixedPlaceholders"
  | .invalidPosition _ => "InvalidPosition"
  | .alreadyExecuted => "AlreadyExecuted"
  | .notExecuted => "NotExecuted"
  | .driver _ _ => "Driver"

def StatementError.message : StatementError → String
  | .bindingArity expected actual =>
    "statement has " ++ integerText expected ++ " positional placeholder(s) but " ++ integerText actual
      ++ " binding(s) were supplied"
  | .missingNamed name => "no value bound for named placeholder :" ++ name
  | .unusedNamed name => "binding :" ++ name ++ " does not match any placeholder"
  | .mixedPlaceholders => "statement mixes positional and named placeholders"
  | .invalidPosition position => "positional bindings start at 1, got " ++ integerText position
  | .alreadyExecuted => "statement was already executed; prepare a new one"
  | .notExecuted => "statement has not been executed"
  | .driver sqlState message => "driver reported SQLSTATE " ++ sqlState ++ ": " ++ message

end WarehouseSql
