import Mathlib.Tactic.NormNum
import WarehouseSql.Proofs.Connection.Running
import WarehouseSql.Proofs.Value.Numerals

/-!
Generated identifiers.  A lookup takes one value of a row and makes it an identifier (`IdLookup.extract?_eq`), and an
insert that asks for its identifier gives what the lookup makes of the answer (`Connection.on_insertGetId`); so however
an identifier is made of a value, it is the normalized value (`generatedId_iff`).  A text may only become the integer
that it denotes, else it has to stay as it is (`Represents`).  **A text is represented by its identifiers exactly if
it is no numeral or its numeral survives the reading of integers** (`generatedId_represents_iff`).
-/

namespace WarehouseSql

open WarehouseSql.Action (on on_bind_of_ok on_get)

variable {raw id : Value} {content : String}

/-! ### the value that an identifier is made of -/

namespace IdLookup

/-- The value of a row that becomes the identifier. -/
def raw? (lookup : IdLookup) (row : Row) (sequence : Option String) : Option Value :=
  match lookup with
  | .maxId => (row.getIgnoringCase? (sequenceColumn sequence)).or row.first?
  | .lastQuery => row.first?

lemma extract?_eq (lookup : IdLookup) (row : Row) (sequence : Option String) :
    lookup.extract? row sequence =
      (lookup.raw? row sequence).bind fun raw => if raw.isNull then none else some raw.normalizedId := by
  cases lookup <;> rfl

lemma extract?_of_raw? {lookup : IdLookup} {row : Row} {sequence : Option String}
    (h : lookup.raw? row sequence = some raw) (hnull : raw.isNull = false) :
    lookup.extract? row sequence = some raw.normalizedId := by
  rw [extract?_eq, h, Option.bind_some, hnull, if_neg Bool.false_ne_true]

end IdLookup

/-- An insert that is carried out gives the identifier that the lookup makes of the answer. -/
lemma Connection.on_insertGetId {c : Connection} {q : Query} {values : RowValues} {sequence : Option String}
    {insert : Fragment} {table : String} {s s' t : Session} {row : Row}
    (hinsert : c.config.queryDialect.insert q [values] = .ok insert) (hrun : on (c.runFragment insert) s = (.ok (), s'))
    (htarget : c.config.queryDialect.target q = .ok table)
    (hanswer : on (c.selectOne (c.config.options.idLookup.query table sequence) {}) s' = (.ok (some row), t))
    (hlive : t.pretending = false) (hid : c.config.options.idLookup.extract? row sequence = some id) :
    on (c.insertGetId q values sequence) s = (.ok id, t) := by
  have hinserted : on (Action.ofCompiled (.ok insert)) s = (.ok insert, s) := rfl
  have htargeted : on (Action.ofCompiled (.ok table)) s' = (.ok table, s') := rfl
  rw [insertGetId, hinsert, htarget, on_bind_of_ok hinserted, on_bind_of_ok hrun, on_bind_of_ok htargeted]
  dsimp only
  rw [on_bind_of_ok hanswer, on_bind_of_ok (on_get t), if_neg (by simp [hlive]), Option.bind_some, hid]
  rfl

/-- The ways in which an identifier is made of a value: by itself, by a lookup from the row that holds it, and by an
insert that is answered with such a row. -/
inductive GeneratedId (raw : Value) : Value → Prop
  | normalized : GeneratedId raw raw.normalizedId
  | extracted {lookup : IdLookup} {row : Row} {sequence : Option String} {id : Value}
      (hraw : lookup.raw? row sequence = some raw) (hid : lookup.extract? row sequence = some id) : GeneratedId raw id
  | inserted {c : Connection} {q : Query} {values : RowValues} {sequence : Option String} {insert : Fragment}
      {table : String} {s s' t : Session} {row : Row} {id : Value}
      (hinsert : c.config.queryDialect.insert q [values] = .ok insert)
      (hrun : on (c.runFragment insert) s = (.ok (), s')) (htarget : c.config.queryDialect.target q = .ok table)
      (hanswer : on (c.selectOne (c.config.options.idLookup.query table sequence) {}) s' = (.ok (some row), t))
      (hlive : t.pretending = false) (hraw : c.config.options.idLookup.raw? row sequence = some raw)
      (hid : (on (c.insertGetId q values sequence) s).1 = .ok id) : GeneratedId raw id

lemma generatedId_iff (hnull : raw.isNull = false) : GeneratedId raw id ↔ id = raw.normalizedId := by
  constructor
  · rintro (_ | ⟨hraw, hid⟩ | ⟨hinsert, hrun, htarget, hanswer, hlive, hraw, hid⟩)
    · rfl
    · rw [IdLookup.extract?_of_raw? hraw hnull] at hid
      exact (Option.some.inj hid).symm
    · rw [Connection.on_insertGetId hinsert hrun htarget hanswer hlive (IdLookup.extract?_of_raw? hraw hnull)] at hid
      exact (Except.ok.inj hid).symm
  · rintro rfl
    exact .normalized

/-! ### texts as identifiers -/

/-- The numeral that a text is, blanks at its ends aside. -/
def numeral? (content : String) : Option Numeral := Numeral.read? (Text.trimChars content.toList)

/-- An identifier stands for a text: it is the integer that the text denotes, or the text itself. -/
inductive Represents (content : String) : Value → Prop
  | denoted {n : Numeral} {k : Int64} (hread : numeral? content = some n) (hvalue : n.value = k.toInt) :
      Represents content (.int k)
  | kept : Represents content (.text content)

lemma normalizedId_of_numeral? {n : Numeral} (h : numeral? content = some n) :
    (Value.text content).normalizedId = .int n.toInteger := by
  rw [numeral?] at h
  simp only [Value.normalizedId, Value.toInteger?, h, Option.map_some, Numeral.toInteger]

lemma normalizedId_of_numeral?_eq_none (h : numeral? content = none) :
    (Value.text content).normalizedId = .text content := by
  rw [numeral?] at h
  simp only [Value.normalizedId, Value.toInteger?, h, Option.map_none, Value.display]

lemma represents_int_iff {n : Numeral} (h : numeral? content = some n) {k : Int64} :
    Represents content (.int k) ↔ n.value = k.toInt := by
  constructor
  · rintro (⟨hread, hvalue⟩ | _)
    rw [h] at hread
    rwa [Option.some.inj hread]
  · exact .denoted h

/-- **Every identifier that is generated from a text stands for it exactly if the text is no numeral, or one that
survives**: a plain integer of 64 bits, or any spelling of an integer with at most 53 bits from its first one to its last
one, or of the largest integer. -/
theorem generatedId_represents_iff (content : String) :
    (∀ id, GeneratedId (.text content) id → Represents content id) ↔
      ∀ n, numeral? content = some n → n.Survives := by
  have honly : ∀ id, GeneratedId (.text content) id ↔ id = (Value.text content).normalizedId :=
    fun _ => generatedId_iff rfl
  simp only [honly, forall_eq]
  cases hread : numeral? content with
  | none =>
    rw [normalizedId_of_numeral?_eq_none hread]
    exact iff_of_true .kept nofun
  | some n =>
    rw [normalizedId_of_numeral? hread, represents_int_iff hread, Numeral.toInteger_eq_value_iff]
    simp

/-- One and a half is cut off to one, and the integer above the largest one becomes the largest one. -/
theorem generatedId_altered :
    (GeneratedId (.text "1.5") (.int 1) ∧ ¬Represents "1.5" (.int 1)) ∧
      GeneratedId (.text "9223372036854775808") (.int Int64.maxValue) ∧
        ¬Represents "9223372036854775808" (.int Int64.maxValue) := by
  refine ⟨⟨(generatedId_iff rfl).2 (by decide +kernel), ?_⟩, (generatedId_iff rfl).2 (by decide +kernel), ?_⟩
  · have hdecimal : (⟨false, ['1'], some ['5'], none⟩ : Numeral).decimal = ⟨15, -1⟩ := by decide
    have hone : (1 : Int64).toInt = 1 := by decide
    rw [represents_int_iff (n := ⟨false, ['1'], some ['5'], none⟩) (by decide), Numeral.value, hdecimal, hone]
    norm_num [Decimal.value]
  · have hdecimal : (⟨false, "9223372036854775808".toList, none, none⟩ : Numeral).decimal = ⟨2 ^ 63, 0⟩ := by decide
    have hlargest : Int64.maxValue.toInt = 2 ^ 63 - 1 := by decide
    rw [represents_int_iff (n := ⟨false, "9223372036854775808".toList, none, none⟩) (by decide), Numeral.value, hdecimal,
      hlargest]
    norm_num [Decimal.value]

end WarehouseSql
