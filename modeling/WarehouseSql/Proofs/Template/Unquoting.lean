import WarehouseSql.Proofs.Fragment.Tokens
import WarehouseSql.Proofs.Name.Quoting
import WarehouseSql.Proofs.Name.Stored

/-!
Quoted texts and the scanner.  A literal and an identifier are written alike: some characters are doubled
(`doubled`), and quotes are put around.  Taking the doubles away again undoes the writing (`undoubled_doubled`),
and the scanner, which skips a quoted region by the same two rules, stops at the quote that was put at the end
(`cutQuoted_doubled`).  So **quoting is closed and can be undone** (`quoting_delimits`), of texts and of names alike.
-/

namespace WarehouseSql

namespace Text

/-! ### doubling characters -/

/-- The characters that are doubled between quotes: the quote, and the backslash where it escapes. -/
def isDoubled (quote : Char) (escapes : Bool) (c : Char) : Bool := c == quote || escapes && c == '\\'

/-- Writes some characters twice. -/
def doubled (twice : Char → Bool) (cs : List Char) : List Char := cs.flatMap fun c => if twice c then [c, c] else [c]

/-- Takes one of two equal characters away, for those that were written twice. -/
def undoubled (twice : Char → Bool) : List Char → List Char
  | c :: d :: cs => if twice c && c == d then c :: undoubled twice cs else c :: undoubled twice (d :: cs)
  | cs => cs

variable {twice : Char → Bool} {c : Char}

lemma doubled_cons_of_twice (h : twice c = true) (cs : List Char) :
    doubled twice (c :: cs) = c :: c :: doubled twice cs := by
  simp [doubled, h]

lemma doubled_cons_of_once (h : twice c = false) (cs : List Char) : doubled twice (c :: cs) = c :: doubled twice cs := by
  simp [doubled, h]

lemma escapeLiteral_eq_doubled (cs : List Char) : escapeLiteral cs = doubled (isDoubled '\'' true) cs := by
  induction cs with
  | nil => rfl
  | cons c cs ih =>
    have hc : isDoubled '\'' true c = true ↔ c = '\'' ∨ c = '\\' := by simp [isDoubled]
    rw [escapeLiteral, ih]
    split_ifs with h
    · rw [doubled_cons_of_twice (hc.2 h)]
    · rw [doubled_cons_of_once (Bool.eq_false_iff.2 (mt hc.1 h))]

lemma escapeIdentifier_eq_doubled (cs : List Char) : escapeIdentifier cs = doubled (isDoubled '"' false) cs := by
  induction cs with
  | nil => rfl
  | cons c cs ih =>
    have hc : isDoubled '"' false c = true ↔ c = '"' := by simp [isDoubled]
    rw [escapeIdentifier, ih]
    split_ifs with h
    · rw [doubled_cons_of_twice (hc.2 h)]
    · rw [doubled_cons_of_once (Bool.eq_false_iff.2 (mt hc.1 h))]

lemma undoubled_cons_of_once (h : twice c = false) (cs : List Char) :
    undoubled twice (c :: cs) = c :: undoubled twice cs := by
  cases cs with
  | nil => rfl
  | cons d cs => simp [undoubled, h]

/-- **Doubling can be undone.** -/
lemma undoubled_doubled (twice : Char → Bool) (cs : List Char) : undoubled twice (doubled twice cs) = cs := by
  induction cs with
  | nil => rfl
  | cons c cs ih =>
    cases h : twice c with
    | true => simp [doubled_cons_of_twice h, undoubled, h, ih]
    | false => rw [doubled_cons_of_once h, undoubled_cons_of_once h, ih]

end Text

namespace Template

open Text

/-! ### the end of a quoted region -/

section CutQuoted

variable {quote : Char} {escapes : Bool}

/-- A quote that escapes nothing and that no other one follows ends the region. -/
lemma cutQuoted_close (hquote : (escapes && quote == '\\') = false) {rest : List Char}
    (hrest : rest.head? ≠ some quote) : cutQuoted quote escapes (quote :: rest) = ([quote], rest) := by
  cases rest with
  | nil => rfl
  | cons d rest =>
    have hd : d ≠ quote := fun heq => hrest (congrArg some heq)
    simp [cutQuoted, hquote, hd]

lemma cutQuoted_cons_of_once {c : Char} (hc : isDoubled quote escapes c = false) {cs : List Char} (hcs : cs ≠ []) :
    cutQuoted quote escapes (c :: cs) = (c :: (cutQuoted quote escapes cs).1, (cutQuoted quote escapes cs).2) := by
  obtain ⟨d, cs, rfl⟩ := List.exists_cons_of_ne_nil hcs
  obtain ⟨hquote, hescape⟩ := Bool.or_eq_false_iff.1 hc
  simp [cutQuoted, hescape, beq_eq_false_iff_ne.1 hquote]

lemma cutQuoted_cons_of_twice {c : Char} (hc : isDoubled quote escapes c = true) (cs : List Char) :
    cutQuoted quote escapes (c :: c :: cs) =
      (c :: c :: (cutQuoted quote escapes cs).1, (cutQuoted quote escapes cs).2) := by
  rcases Bool.or_eq_true_iff.1 hc with hquote | hescape
  · obtain rfl := beq_iff_eq.1 hquote
    simp [cutQuoted]
  · simp [cutQuoted, hescape]

variable (quote escapes) in
/-- **Between quotes that are doubled, the scanner goes to the quote at the end.** -/
lemma cutQuoted_doubled (hquote : (escapes && quote == '\\') = false) (cs : List Char) {rest : List Char}
    (hrest : rest.head? ≠ some quote) :
    cutQuoted quote escapes (doubled (isDoubled quote escapes) cs ++ quote :: rest) =
      (doubled (isDoubled quote escapes) cs ++ [quote], rest) := by
  induction cs with
  | nil => exact cutQuoted_close hquote hrest
  | cons c cs ih =>
    cases hc : isDoubled quote escapes c with
    | true => simp only [doubled_cons_of_twice hc, List.cons_append, cutQuoted_cons_of_twice hc, ih]
    | false =>
      rw [doubled_cons_of_once hc, List.cons_append, cutQuoted_cons_of_once hc (by simp), ih]
      rfl

end CutQuoted

/-! ### quoted texts -/

/-- A text is written between quotes so that the scanner stops at the end of what is written, whatever follows but
another quote, and that undoing the doubles of the inside gives the text back. -/
def Delimits (quote : Char) (escapes : Bool) (text written : String) : Prop :=
  ∃ inside, written.toList = quote :: (inside ++ [quote]) ∧ undoubled (isDoubled quote escapes) inside = text.toList ∧
    ∀ rest : List Char, rest.head? ≠ some quote →
      cutQuoted quote escapes (inside ++ quote :: rest) = (inside ++ [quote], rest) ∧
        cutRegion? (written.toList ++ rest) = some (written.toList, rest)

lemma delimits_quoteLiteral (text : String) : Delimits '\'' true text (quoteLiteral text) := by
  refine ⟨_, toList_quoteLiteral text, ?_, fun rest hrest => ?_⟩
  · rw [escapeLiteral_eq_doubled, undoubled_doubled]
  · have hcut := cutQuoted_doubled '\'' true (by decide) text.toList hrest
    rw [← escapeLiteral_eq_doubled] at hcut
    refine ⟨hcut, ?_⟩
    rw [toList_quoteLiteral, List.cons_append, List.append_assoc, List.singleton_append, cutRegion?, hcut]

lemma delimits_quoteIdentifier (name : String) : Delimits '"' false name (quoteIdentifier name) := by
  refine ⟨_, Token.toList_quoteIdentifier name, ?_, fun rest hrest => ?_⟩
  · rw [escapeIdentifier_eq_doubled, undoubled_doubled]
  · have hcut := cutQuoted_doubled '"' false (by decide) name.toList hrest
    rw [← escapeIdentifier_eq_doubled] at hcut
    refine ⟨hcut, ?_⟩
    rw [Token.toList_quoteIdentifier, List.cons_append, List.append_assoc, List.singleton_append, cutRegion?, hcut]

end Template

namespace Policy

variable {policy : Policy}

/-- The star is the only identifier without quotes. -/
lemma identifier_injective (h : policy.caseSensitive = true) : Function.Injective policy.identifier := by
  have hstar : policy.identifier "*" = "*" := if_pos rfl
  have hquoted : ∀ name, Text.quoteIdentifier name ≠ "*" := by
    intro name heq
    have hchars := congrArg String.toList heq
    rw [Token.toList_quoteIdentifier] at hchars
    exact absurd (List.cons.inj hchars).1 (by decide)
  intro a b hab
  by_cases ha : a = "*"
  · by_cases hb : b = "*"
    · rw [ha, hb]
    · rw [ha, hstar, identifier_of_caseSensitive h hb] at hab
      exact absurd hab.symm (hquoted b)
  · by_cases hb : b = "*"
    · rw [hb, hstar, identifier_of_caseSensitive h ha] at hab
      exact absurd hab (hquoted a)
    · rw [identifier_of_caseSensitive h ha, identifier_of_caseSensitive h hb] at hab
      exact Text.quoteIdentifier_injective hab

/-- **Quoting is closed and can be undone**: a text in a literal and a name in an identifier are what the scanner finds
between the quotes, the doubles undone; so different texts have different literals, and different names different
identifiers. -/
theorem quoting_delimits (policy : Policy) (h : policy.caseSensitive = true) :
    (∀ text, Template.Delimits '\'' true text (Text.quoteLiteral text)) ∧
      (∀ name, name ≠ "*" → Template.Delimits '"' false name (policy.identifier name)) ∧
        Function.Injective Text.quoteLiteral ∧ Function.Injective policy.identifier := by
  refine ⟨Template.delimits_quoteLiteral, fun name hname => ?_, Text.quoteLiteral_injective, identifier_injective h⟩
  rw [identifier_of_caseSensitive h hname]
  exact Template.delimits_quoteIdentifier name

/-- A backslash and a quote at the end of a literal, and a quote in a name. -/
theorem quoting_delimits_guest :
    Template.Delimits '\'' true "o\\'" "'o\\\\'''" ∧ Template.Delimits '"' false "a\"b" "\"a\"\"b\"" :=
  ⟨(quoting_delimits ⟨true, ""⟩ rfl).1 "o\\'", (quoting_delimits ⟨true, ""⟩ rfl).2.1 "a\"b" (by decide)⟩

end Policy

end WarehouseSql
