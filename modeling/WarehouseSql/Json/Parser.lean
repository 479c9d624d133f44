import WarehouseSql.Json.Number

/-!
Reading JSON text.  A text is cut into tokens, and the tokens drive a stack of open lists and objects.  A text that
does not have the form of JSON as a whole is refused.  What has the form but no value is kept as unreadable: a string
or a number that denotes nothing, an object with such a name, and whatever lies deeper than 127 lists and objects.
`Json.scan?` leaves it to its caller what to do with unreadable parts; `Json.parse?` refuses them.
-/

namespace WarehouseSql.Json

/-! ### string contents -/

def hexDigit? (c : Char) : Option Nat :=
  if '0' ≤ c ∧ c ≤ '9' then some (c.toNat - '0'.toNat)
  else if 'a' ≤ c ∧ c ≤ 'f' then some (c.toNat - 'a'.toNat + 10)
  else if 'A' ≤ c ∧ c ≤ 'F' then some (c.toNat - 'A'.toNat + 10)
  else none

/-- The value of four hexadecimal digits. -/
def codeUnit? (a b c d : Char) : Option Nat := do
  let a ← hexDigit? a
  let b ← hexDigit? b
  let c ← hexDigit? c
  let d ← hexDigit? d
  some (((a * 16 + b) * 16 + c) * 16 + d)

/-- The character of a one-letter escape. -/
def simpleEscape? (c : Char) : Option Char :=
  [('"', '"'), ('\\', '\\'), ('/', '/'), ('b', '\x08'), ('f', '\x0c'), ('n', '\n'), ('r', '\r'),
    ('t', '\t')].lookup c

/-- Resolves escapes into characters and UTF-16 code units; control characters have to be escaped. -/
def unescape? : List Char → Option (List (Char ⊕ Nat))
  | [] => some []
  | '\\' :: 'u' :: a :: b :: c :: d :: cs => do
    let unit ← codeUnit? a b c d
    let rest ← unescape? cs
    some (.inr unit :: rest)
  | '\\' :: c :: cs => do
    let c ← simpleEscape? c
    let rest ← unescape? cs
    some (.inl c :: rest)
  | c :: cs =>
    if c = '\\' ∨ c.toNat < 0x20 then none
    else (unescape? cs).map (.inl c :: ·)

/-- Joins surrogate pairs; a surrogate alone denotes nothing. -/
def joinSurrogates? : List (Char ⊕ Nat) → Option (List Char)
  | [] => some []
  | .inl c :: rest => (joinSurrogates? rest).map (c :: ·)
  | .inr high :: .inr low :: rest =>
    if 0xd800 ≤ high ∧ high < 0xdc00 then
      if 0xdc00 ≤ low ∧ low < 0xe000 then
        (joinSurrogates? rest).map
          (Char.ofNat (0x10000 + (high - 0xd800) * 0x400 + (low - 0xdc00)) :: ·)
      else none
    else if 0xdc00 ≤ high ∧ high < 0xe000 then none
    else (joinSurrogates? (.inr low :: rest)).map (Char.ofNat high :: ·)
  | .inr unit :: rest =>
    if 0xd800 ≤ unit ∧ unit < 0xe000 then none
    else (joinSurrogates? rest).map (Char.ofNat unit :: ·)

/-- What stands between the quotes of a string token, if it has the form of a string: a text, or nothing where a
surrogate stands alone. -/
def contents? (raw : List Char) : Option (Option String) :=
  (unescape? raw).map fun units => (joinSurrogates? units).map String.ofList

/-! ### tokens -/

/-- The lexical items of JSON; a word is a number or a keyword. -/
inductive Token where
  | openList
  | closeList
  | openObject
  | closeObject
  | colon
  | comma
  | text (raw : List Char)
  | word (cs : List Char)

/-- What the character just read belongs to; contents are kept last character first. -/
inductive Lexing where
  | between
  | inWord (cs : List Char)
  | inText (raw : List Char) (escaped : Bool)

/-- The token of a character that is a token of its own. -/
def Token.ofPunctuation? : Char → Option Token
  | '[' => some .openList
  | ']' => some .closeList
  | '\x7b' => some .openObject
  | '\x7d' => some .closeObject
  | ':' => some .colon
  | ',' => some .comma
  | _ => none

/-- Space, tab, line feed or carriage return. -/
def isGap (c : Char) : Bool := c == ' ' || c == '\t' || c == '\n' || c == '\r'

/-- What a character starts that stands outside words and strings. -/
def Lexing.start (c : Char) : List Token × Lexing :=
  if isGap c then ([], .between)
  else if c = '"' then ([], .inText [] false)
  else
    match Token.ofPunctuation? c with
    | some token => ([token], .between)
    | none => ([], .inWord [c])

def endsWord (c : Char) : Bool := isGap c || c == '"' || (Token.ofPunctuation? c).isSome

/-- The tokens completed by one more character. -/
def Lexing.step : Lexing → Char → List Token × Lexing
  | .between, c => start c
  | .inWord cs, c =>
    if endsWord c then
      let (tokens, next) := start c
      (.word cs.reverse :: tokens, next)
    else ([], .inWord (c :: cs))
  | .inText raw true, c => ([], .inText (c :: raw) false)
  | .inText raw false, c =>
    if c = '"' then ([.text raw.reverse], .between)
    else ([], .inText (c :: raw) (c == '\\'))

/-- Cuts a text into tokens; an open string is refused. -/
def Lexing.tokens? : Lexing → List Char → Option (List Token)
  | .between, [] => some []
  | .inWord cs, [] => some [.word cs.reverse]
  | .inText _ _, [] => none
  | state, c :: cs =>
    let (tokens, next) := state.step c
    (next.tokens? cs).map (tokens ++ ·)

/-! ### structure -/

/-- A list or an object that is still open, what it holds so far in reverse; an object has no members left once one
of its names is unreadable. -/
inductive Frame where
  | list (items : List Json)
  | object (members : Option (List (String × Json)))
  | member (members : Option (List (String × Json))) (key : Option String)

inductive Expectation where
  | value
  | valueOrClose
  | keyOrClose
  | key
  | colon
  | separator
deriving DecidableEq

/-- The state of a reading: open frames, innermost first, or the value that has been read. -/
inductive Reading where
  | open (frames : List Frame) (next : Expectation)
  | complete (value : Json)

/-- The number of lists and objects that may be open around a value that is read. -/
def maxDepth : Nat := 127

/-- Whether one more list or object may be read inside the open ones. -/
def hasRoom (frames : List Frame) : Bool := (frames.drop (maxDepth - 1)).isEmpty

/-- Puts a finished value into the innermost open frame. -/
def Reading.place (value : Json) : List Frame → Option Reading
  | [] => some (.complete value)
  | .list items :: frames => some (.open (.list (value :: items) :: frames) .separator)
  | .member members key :: frames =>
    let members := do
      let members ← members
      let key ← key
      some ((key, value) :: members)
    some (.open (.object members :: frames) .separator)
  | .object _ :: _ => none

/-- Puts a list or an object that was closed into the frame around it. -/
def Reading.close (frames : List Frame) (value : Json) : Option Reading :=
  place (if hasRoom frames then value else .unreadable) frames

def ofReversedMembers (members : Option (List (String × Json))) : Json :=
  match members with
  | some members => .object members.reverse
  | none => .unreadable

/-- The value of a keyword or a number. -/
def ofWord? (cs : List Char) : Option Json :=
  if cs = ['n', 'u', 'l', 'l'] then some .null
  else if cs = ['t', 'r', 'u', 'e'] then some (.bool true)
  else if cs = ['f', 'a', 'l', 's', 'e'] then some (.bool false)
  else (NumberParts.read? cs).map fun parts => parts.value?.getD .unreadable

def Reading.begin (frames : List Frame) : Token → Option Reading
  | .openList => some (.open (.list [] :: frames) .valueOrClose)
  | .openObject => some (.open (.object (some []) :: frames) .keyOrClose)
  | .text raw =>
    (contents? raw).bind fun content => place ((content.map Json.text).getD .unreadable) frames
  | .word cs => (ofWord? cs).bind fun value => place value frames
  | _ => none

def Reading.name (frames : List Frame) (raw : List Char) : Option Reading :=
  match frames with
  | .object members :: frames =>
    (contents? raw).map fun key => .open (.member members key :: frames) .colon
  | _ => none

def Reading.step : Reading → Token → Option Reading
  | .complete _, _ => none
  | .open frames .value, token => begin frames token
  | .open (.list [] :: frames) .valueOrClose, .closeList => close frames (.list [])
  | .open frames .valueOrClose, token => begin frames token
  | .open (.object (some []) :: frames) .keyOrClose, .closeObject => close frames (.object [])
  | .open frames .keyOrClose, .text raw => name frames raw
  | .open frames .key, .text raw => name frames raw
  | .open frames .colon, .colon => some (.open frames .value)
  | .open (.list items :: frames) .separator, .comma => some (.open (.list items :: frames) .value)
  | .open (.list items :: frames) .separator, .closeList => close frames (.list items.reverse)
  | .open (.object members :: frames) .separator, .comma =>
    some (.open (.object members :: frames) .key)
  | .open (.object members :: frames) .separator, .closeObject =>
    close frames (ofReversedMembers members)
  | _, _ => none

/-- The value of a whole text, which may have unreadable parts. -/
def scan? (s : String) : Option Json := do
  let tokens ← Lexing.between.tokens? s.toList
  match ← tokens.foldlM Reading.step (.open [] .value) with
  | .complete value => some value
  | .open _ _ => none

/-- Reads a whole text that is readable throughout. -/
def parse? (s : String) : Option Json := (scan? s).filter isReadable

end WarehouseSql.Json
