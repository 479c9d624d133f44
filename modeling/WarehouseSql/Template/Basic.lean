import WarehouseSql.Record

/-!
SQL templates.  A template is a list of segments: text, positional markers `?` and named markers `:name`.
Markers inside string literals, quoted identifiers, comments and `$$` blocks are text; `Template.parse` skips
each such region as a whole.
-/

namespace WarehouseSql

/-- A piece of a template. -/
inductive Segment where
  | text (cs : List Char)
  | positional
  | named (name : String)
deriving DecidableEq

def Segment.name? : Segment → Option String
  | .named name => some name
  | _ => none

/-- A statement cut at its markers. -/
structure Template where
  segments : List Segment
deriving DecidableEq

namespace Template

/-! ### regions without markers -/

/-- Cuts after the quote that closes a region; the opening quote has been read.  A doubled quote stays inside,
and so does a character after a backslash where `escapes` holds.  An open region takes all. -/
def cutQuoted (quote : Char) (escapes : Bool) : List Char → List Char × List Char
  | [] => ([], [])
  | [c] => ([c], [])
  | c :: d :: cs =>
    if escapes && c == '\\' then
      let (inside, rest) := cutQuoted quote escapes cs
      (c :: d :: inside, rest)
    else if c = quote then
      if d = quote then
        let (inside, rest) := cutQuoted quote escapes cs
        (c :: d :: inside, rest)
      else ([c], d :: cs)
    else
      let (inside, rest) := cutQuoted quote escapes (d :: cs)
      (c :: inside, rest)

/-- Cuts after the end of the line. -/
def cutLine : List Char → List Char × List Char
  | [] => ([], [])
  | c :: cs =>
    if c = '\n' then ([c], cs)
    else
      let (inside, rest) := cutLine cs
      (c :: inside, rest)

/-- Cuts after the first occurrence of two characters in a row. -/
def cutAfterPair (first second : Char) : List Char → List Char × List Char
  | [] => ([], [])
  | [c] => ([c], [])
  | c :: d :: cs =>
    if c = first ∧ d = second then ([c, d], cs)
    else
      let (inside, rest) := cutAfterPair first second (d :: cs)
      (c :: inside, rest)

theorem cutQuoted_append (quote : Char) (escapes : Bool) (cs : List Char) :
    (cutQuoted quote escapes cs).1 ++ (cutQuoted quote escapes cs).2 = cs := by
  fun_induction cutQuoted quote escapes cs <;> simp_all

theorem cutLine_append (cs : List Char) : (cutLine cs).1 ++ (cutLine cs).2 = cs := by
  fun_induction cutLine cs <;> simp_all

theorem cutAfterPair_append (first second : Char) (cs : List Char) :
    (cutAfterPair first second cs).1 ++ (cutAfterPair first second cs).2 = cs := by
  fun_induction cutAfterPair first second cs <;> simp_all

/-- The region that starts with a text, opening included, and what follows it. -/
def cutRegion? : List Char → Option (List Char × List Char)
  | '\'' :: cs =>
    let (inside, rest) := cutQuoted '\'' true cs
    some ('\'' :: inside, rest)
  | '"' :: cs =>
    let (inside, rest) := cutQuoted '"' false cs
    some ('"' :: inside, rest)
  | '-' :: '-' :: cs =>
    let (inside, rest) := cutLine cs
    some ('-' :: '-' :: inside, rest)
  | '/' :: '*' :: cs =>
    let (inside, rest) := cutAfterPair '*' '/' cs
    some ('/' :: '*' :: inside, rest)
  | '$' :: '$' :: cs =>
    let (inside, rest) := cutAfterPair '$' '$' cs
    some ('$' :: '$' :: inside, rest)
  | _ => none

theorem append_of_cutRegion? {cs region rest : List Char} (h : cutRegion? cs = some (region, rest)) :
    region ++ rest = cs ∧ region ≠ [] := by
  unfold cutRegion? at h
  split at h <;> simp only [Option.some.injEq, Prod.mk.injEq, reduceCtorEq] at h <;>
    obtain ⟨rfl, rfl⟩ := h
  · exact ⟨congrArg _ (cutQuoted_append _ _ _), by simp⟩
  · exact ⟨congrArg _ (cutQuoted_append _ _ _), by simp⟩
  · exact ⟨congrArg (fun cs => '-' :: '-' :: cs) (cutLine_append _), by simp⟩
  · exact ⟨congrArg (fun cs => '/' :: '*' :: cs) (cutAfterPair_append _ _ _), by simp⟩
  · exact ⟨congrArg (fun cs => '$' :: '$' :: cs) (cutAfterPair_append _ _ _), by simp⟩

theorem length_rest_of_cutRegion? {cs region rest : List Char}
    (h : cutRegion? cs = some (region, rest)) : rest.length < cs.length := by
  obtain ⟨rfl, hne⟩ := append_of_cutRegion? h
  have := List.length_pos_iff.2 hne
  simp
  omega

/-! ### markers -/

/-- An ASCII letter or an underscore. -/
def startsName (c : Char) : Bool := c.isAlpha || c == '_'

/-- An ASCII letter, an ASCII digit or an underscore. -/
def continuesName (c : Char) : Bool := c.isAlphanum || c == '_'

/-- Whether a named marker may follow a character; this leaves casts and times alone. -/
def allowsMarker : Option Char → Bool
  | none => true
  | some c => [' ', '\t', '\n', '\r', '(', ',', '=', '<', '>', '+', '-', '*', '/'].contains c

/-- Puts text in front of segments, joined with the text they start with. -/
def consText (cs : List Char) : List Segment → List Segment
  | .text more :: segments => .text (cs ++ more) :: segments
  | segments => .text cs :: segments

/-- Cuts a text into segments; `before` is the character in front of it. -/
def segmentsAfter (before : Option Char) (cs : List Char) : List Segment :=
  match cs with
  | [] => []
  | c :: cs =>
    match _h : cutRegion? (c :: cs) with
    | some (region, rest) => consText region (segmentsAfter region.getLast? rest)
    | none =>
      if c = '?' then .positional :: segmentsAfter (some c) cs
      else if c = ':' ∧ allowsMarker before = true ∧ (cs.head?.any startsName) = true then
        let name := cs.takeWhile continuesName
        .named (String.ofList name) :: segmentsAfter name.getLast? (cs.dropWhile continuesName)
      else consText [c] (segmentsAfter (some c) cs)
termination_by cs.length
decreasing_by
  · exact length_rest_of_cutRegion? _h
  · simp
  · have := (List.dropWhile_suffix continuesName (l := cs)).length_le
    simp
    omega
  · simp

def parse (sql : String) : Template := ⟨segmentsAfter none sql.toList⟩

/-! ### the markers of a template -/

def positionalCount (t : Template) : Nat := t.segments.countP (· == .positional)

/-- The names of the named markers in the order of the text, repetitions included. -/
def names (t : Template) : List String := t.segments.filterMap Segment.name?

def hasMarkers (t : Template) : Bool := t.positionalCount != 0 || !t.names.isEmpty

def isMixed (t : Template) : Bool := t.positionalCount != 0 && !t.names.isEmpty

/-- The text with the k-th positional marker replaced by the k-th literal and each named marker by the literal of
its name; a marker without a literal leaves nothing. -/
def fill (named : String → Option String) : List String → List Segment → List Char
  | _, [] => []
  | literals, .text cs :: segments => cs ++ fill named literals segments
  | [], .positional :: segments => fill named [] segments
  | literal :: literals, .positional :: segments => literal.toList ++ fill named literals segments
  | literals, .named name :: segments =>
    ((named name).getD "").toList ++ fill named literals segments

/-- The statement of a template with literals for its markers. -/
def render (t : Template) (positional : List String) (named : String → Option String) : String :=
  String.ofList (fill named positional t.segments)

end Template

end WarehouseSql
