import WarehouseSql.Row
import WarehouseSql.Statement.Error

/-!
The raw connection as a statement meets it.  What it does with a text is a function of everything that has been
handed to it, so that any behaviour can be described, and a connection is data about which one can reason.
-/

namespace WarehouseSql

/-- Whether a text is prepared first or sent as it is. -/
inductive SendMode where
  | prepared
  | direct
deriving DecidableEq

/-- A text handed to the raw connection. -/
structure Sent where
  mode : SendMode
  sql : String
deriving DecidableEq

/-- The diagnosis of an execution that reports failure without raising it. -/
structure ErrorInfo where
  sqlState : String
  message : Option String
deriving DecidableEq

/-- Whether a state means that nothing happened, rather than that something failed. -/
def isSuccessState (sqlState : String) : Bool := ["00000", "01000"].contains sqlState

/-- What comes of a prepared text: its execution, the diagnosis if that is false, the answer to each fetch, and the
number of affected rows. -/
structure RawStatement where
  execution : Except DriverError Bool
  info : ErrorInfo
  fetch : Nat → Except DriverError (List Row)
  affected : Nat

/-- A raw connection: the outcome of the last text, given all texts so far, the last one first. -/
structure RawConnection where
  prepare : List Sent → Except DriverError RawStatement

end WarehouseSql
