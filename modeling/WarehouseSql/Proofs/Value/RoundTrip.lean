import WarehouseSql.Name.Json
import WarehouseSql.Proofs.Json.Reading

/-!
Values, operands and references read back.  A double that JSON has no number for is written as null, but **a finite
value reads back** (`Value.ofJson?_toJson`); the raw form of an operand or a reference is tried first and never fits a
value or a name (`Operand.ofJson?_toJson`, `Reference.ofJson?_toJson`).
-/

namespace WarehouseSql

/-- Whether a value is no infinite double and no double that is not a number. -/
def Value.isFinite : Value → Bool
  | .float number => number.isFinite
  | _ => true

def Operand.isFinite : Operand → Bool
  | .raw _ => true
  | .value v => v.isFinite

open Json (Arranges HasMembers)

lemma int64OfInt?_toInt (number : Int64) : int64OfInt? number.toInt = some number := by
  have hbounds : Int64.minValue.toInt ≤ number.toInt ∧ number.toInt ≤ Int64.maxValue.toInt :=
    ⟨number.le_toInt, Int.le_of_lt_add_one number.toInt_lt⟩
  rw [int64OfInt?, if_pos hbounds, Int64.ofInt_toInt]

variable {arrange : Json → Json} (h : Arranges arrange)

/-! ### values -/

lemma Value.isReadable_toJson (v : Value) : v.toJson.isReadable = true := by
  cases v with
  | float number =>
    rw [toJson, Json.ofBinary64]
    split_ifs <;> rfl
  | _ => rfl

include h

/-- Values have no members to arrange. -/
lemma Value.arrange_toJson (v : Value) : arrange v.toJson = v.toJson := by
  cases v with
  | null => exact h.null
  | bool flag => exact h.bool flag
  | int number => exact h.int _
  | float number =>
    rw [toJson, Json.ofBinary64]
    split_ifs
    · exact h.float number
    · exact h.null
  | text content => exact h.text content

lemma Value.ofJson?_toJson {v : Value} (hv : v.isFinite = true) : ofJson? (arrange v.toJson) = some v := by
  rw [arrange_toJson h]
  cases v with
  | int number => simp only [toJson, ofJson?, int64OfInt?_toInt]
  | float number =>
    have hfinite : number.isFinite = true := hv
    rw [toJson, Json.ofBinary64, if_pos hfinite]
    rfl
  | _ => rfl

/-! ### raw SQL -/

lemma rawSqlOfJson?_rawSqlToJson (sql : String) : rawSqlOfJson? (arrange (rawSqlToJson sql)) = some sql := by
  have hreadable : (arrange (rawSqlToJson sql)).isReadable = true := h.isReadable _ rfl
  have hmembers : HasMembers arrange [("raw", .text sql)] (arrange (rawSqlToJson sql)) := h.object _ (by simp)
  obtain ⟨fields, hfields, hlookup⟩ := hmembers.exists_objectFields ["raw"]
  rw [rawSqlOfJson?, if_pos hreadable, hfields]
  exact Fields.required_of_lookup (hlookup "raw") (h.asText?_text sql)

omit h in
lemma rawSqlOfJson?_eq_none {j : Json} (hj : ∀ members, j ≠ .object members) : rawSqlOfJson? j = none := by
  rw [rawSqlOfJson?]
  split_ifs
  · cases j with
    | object members => exact absurd rfl (hj members)
    | _ => rfl
  · rfl

lemma Reference.ofJson?_toJson (r : Reference) : ofJson? (arrange r.toJson) = some r := by
  cases r with
  | raw sql => rw [toJson, ofJson?, rawSqlOfJson?_rawSqlToJson h]
  | name n =>
    have hnone : rawSqlOfJson? (arrange (.text n)) = none := by
      rw [h.text]
      exact rawSqlOfJson?_eq_none fun members => Json.noConfusion
    rw [toJson, ofJson?, hnone]
    simp [h.asText?_text]

lemma Operand.ofJson?_toJson {o : Operand} (ho : o.isFinite = true) : ofJson? (arrange o.toJson) = some o := by
  cases o with
  | raw sql => rw [toJson, ofJson?, rawSqlOfJson?_rawSqlToJson h]
  | value v =>
    have hnone : rawSqlOfJson? (arrange v.toJson) = none := by
      rw [Value.arrange_toJson h]
      refine rawSqlOfJson?_eq_none fun members => ?_
      cases v with
      | float number =>
        rw [Value.toJson, Json.ofBinary64]
        split_ifs <;> exact Json.noConfusion
      | _ => exact Json.noConfusion
    rw [toJson, ofJson?, hnone]
    simp [Value.ofJson?_toJson h ho]

omit h

lemma Reference.isReadable_toJson (r : Reference) : r.toJson.isReadable = true := by
  cases r <;> rfl

lemma Operand.isReadable_toJson (o : Operand) : o.toJson.isReadable = true := by
  cases o with
  | raw sql => rfl
  | value v => exact v.isReadable_toJson

end WarehouseSql
