import WarehouseSql.Text.Blank
import WarehouseSql.Value.Basic

/-!
SQL with its bindings.  Fragments are put together end to end, texts and bindings alike, so that **the bindings stand
in the order of their placeholders** whatever the statement is made of.
-/

namespace WarehouseSql

/-- A piece of SQL and the values for its positional placeholders, in their order. -/
structure Fragment where
  sql : String
  bindings : List Value
deriving DecidableEq

namespace Fragment

/-- SQL without placeholders of its own. -/
def text (sql : String) : Fragment := ⟨sql, []⟩

def empty : Fragment := text ""

def append (a b : Fragment) : Fragment := ⟨a.sql ++ b.sql, a.bindings ++ b.bindings⟩

instance : Append Fragment := ⟨append⟩

instance : Coe String Fragment := ⟨text⟩

@[simp] theorem sql_append (a b : Fragment) : (a ++ b).sql = a.sql ++ b.sql := rfl

@[simp] theorem bindings_append (a b : Fragment) : (a ++ b).bindings = a.bindings ++ b.bindings := rfl

@[simp] theorem sql_text (sql : String) : (text sql).sql = sql := rfl

@[simp] theorem bindings_text (sql : String) : (text sql).bindings = [] := rfl

theorem append_assoc (a b c : Fragment) : a ++ b ++ c = a ++ (b ++ c) :=
  (Fragment.mk.injEq ..).mpr ⟨String.append_assoc, List.append_assoc ..⟩

theorem append_right_inj (a : Fragment) {b c : Fragment} : a ++ b = a ++ c ↔ b = c := by
  constructor
  · intro h
    obtain ⟨hsql, hbindings⟩ := (Fragment.mk.injEq ..).mp h
    exact (Fragment.mk.injEq ..).mpr ⟨(String.append_right_inj a.sql).1 hsql, List.append_cancel_left hbindings⟩
  · rintro rfl
    rfl

def join (separator : String) (fragments : List Fragment) : Fragment :=
  ⟨String.intercalate separator (fragments.map sql), fragments.flatMap bindings⟩

/-- Parts of a statement, each without blanks at its ends, with one space between those that have text. -/
def sentence (parts : List Fragment) : Fragment :=
  ⟨String.intercalate " " ((parts.map fun part => Text.trim part.sql).filter (· != "")),
    parts.flatMap bindings⟩

/-- A placeholder for a value, or raw SQL. -/
def operand : Operand → Fragment
  | .raw sql => text sql
  | .value v => ⟨"?", [v]⟩

def operands (list : List Operand) : Fragment := join ", " (list.map operand)

end Fragment

end WarehouseSql
