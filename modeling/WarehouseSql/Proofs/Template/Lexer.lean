import Mathlib.Tactic.Common
import WarehouseSql.Template.Basic

/-!
The lexical automaton of statements.  It reads one character at a time and knows six regions: code, single-quoted
text, double-quoted names, line comments, block comments and `$$` blocks.  `Template.regionAt` is the region of a
position, `Template.opensMarker` says where a marker starts, and **`LexState.Leads s cs t`** says that the text `cs`
takes the automaton from `s` to `t` without a marker starting in it.
-/

namespace WarehouseSql

/-- How a character of a statement is read. -/
inductive Region where
  | code
  | single
  | double
  | line
  | block
  | dollar
deriving DecidableEq

/-- What the automaton keeps of the text so far.  `dash`, `slash` and `dollar` are code after a character that may
begin an opening, `singleEnd` and `doubleEnd` follow a quote that closes its region unless the next one doubles it,
`blockStar` and `dollarBlockEnd` follow the first half of a closing pair. -/
inductive LexState where
  | code
  | dash
  | slash
  | dollar
  | single
  | escape
  | singleEnd
  | double
  | doubleEnd
  | line
  | block
  | blockStar
  | dollarBlock
  | dollarBlockEnd
deriving DecidableEq

namespace LexState

/-- The state after a character of code that completes no opening. -/
def afterCode (c : Char) : LexState :=
  if c = '\'' then .single
  else if c = '"' then .double
  else if c = '-' then .dash
  else if c = '/' then .slash
  else if c = '$' then .dollar
  else .code

def step : LexState → Char → LexState
  | .code, c => afterCode c
  | .dash, c => if c = '-' then .line else afterCode c
  | .slash, c => if c = '*' then .block else afterCode c
  | .dollar, c => if c = '$' then .dollarBlock else afterCode c
  | .single, c => if c = '\\' then .escape else if c = '\'' then .singleEnd else .single
  | .escape, _ => .single
  | .singleEnd, c => afterCode c
  | .double, c => if c = '"' then .doubleEnd else .double
  | .doubleEnd, c => afterCode c
  | .line, c => if c = '\n' then .code else .line
  | .block, c => if c = '*' then .blockStar else .block
  | .blockStar, c => if c = '/' then .code else if c = '*' then .blockStar else .block
  | .dollarBlock, c => if c = '$' then .dollarBlockEnd else .dollarBlock
  | .dollarBlockEnd, c => if c = '$' then .code else .dollarBlock

def run (s : LexState) (cs : List Char) : LexState := cs.foldl step s

@[simp] lemma run_nil (s : LexState) : s.run [] = s := rfl

@[simp] lemma run_cons (s : LexState) (c : Char) (cs : List Char) : s.run (c :: cs) = (s.step c).run cs := rfl

lemma run_append (s : LexState) (as bs : List Char) : s.run (as ++ bs) = (s.run as).run bs := by
  simp [run]

/-- Whether the text so far ends outside of every region. -/
def isCode : LexState → Bool
  | .code => true
  | .dash => true
  | .slash => true
  | .dollar => true
  | .singleEnd => true
  | .doubleEnd => true
  | _ => false

/-- The region of the character that comes next: the second half of a doubled quote belongs to its region. -/
def region (s : LexState) (next : Option Char) : Region :=
  match s with
  | .single => .single
  | .escape => .single
  | .singleEnd => if next = some '\'' then .single else .code
  | .double => .double
  | .doubleEnd => if next = some '"' then .double else .code
  | .line => .line
  | .block => .block
  | .blockStar => .block
  | .dollarBlock => .dollar
  | .dollarBlockEnd => .dollar
  | _ => .code

/-- Whether a character completes no opening, whatever the text so far. -/
def completesNothing (c : Char) : Prop := c ≠ '-' ∧ c ≠ '*' ∧ c ≠ '$'

/-- Outside of every region only the second half of an opening is read in a way of its own. -/
lemma step_of_isCode {s : LexState} (hs : s.isCode = true) {c : Char} (hc : completesNothing c) :
    s.step c = afterCode c := by
  obtain ⟨h1, h2, h3⟩ := hc
  cases s <;> simp_all [isCode, step]

lemma eq_single_of_step_quote {s : LexState} (h : (s.step '\'').isCode = true) : s = .single := by
  cases s <;> simp [step, afterCode, isCode] at h ⊢

lemma step_eq_singleEnd {s : LexState} {c : Char} (h : s.step c = .singleEnd) : s = .single ∧ c = '\'' := by
  cases s <;> grind [step, afterCode]

lemma getLast?_of_run_eq_singleEnd {cs : List Char} (h : LexState.run .code cs = .singleEnd) :
    cs.getLast? = some '\'' := by
  rcases List.eq_nil_or_concat cs with rfl | ⟨cs, c, rfl⟩
  · simp at h
  · rw [List.concat_eq_append] at h ⊢
    rw [run_append] at h
    simp [(step_eq_singleEnd h).2]

end LexState

namespace Template

/-- The region of a position of a text. -/
def regionAt (text : List Char) (position : Nat) : Region :=
  (LexState.run .code (text.take position)).region text[position]?

lemma regionAt_append (as bs : List Char) :
    regionAt (as ++ bs) as.length = (LexState.run .code as).region bs.head? := by
  rw [regionAt, List.take_left, List.getElem?_append_right (Nat.le_refl _), Nat.sub_self,
    List.head?_eq_getElem?]

/-! ### where markers start -/

/-- Whether a marker starts with a character, given the state before it and its neighbours. -/
def opensMarker (s : LexState) (before next : Option Char) (c : Char) : Bool :=
  s.isCode && (c == '?' || (c == ':' && allowsMarker before && next.any startsName))

/-- No marker starts in a text that is read from `s` on, between the characters `before` and `next`. -/
def Unmarked (s : LexState) (before next : Option Char) : List Char → Prop
  | [] => True
  | c :: cs => opensMarker s before (cs.head?.or next) c = false ∧ Unmarked (s.step c) (some c) next cs

lemma unmarked_append {s : LexState} {before next : Option Char} {as bs : List Char} :
    Unmarked s before next (as ++ bs) ↔
      Unmarked s before (bs.head?.or next) as ∧ Unmarked (s.run as) (as.getLast?.or before) next bs := by
  induction as generalizing s before with
  | nil => simp [Unmarked]
  | cons a as ih =>
    have hhead : (as ++ bs).head?.or next = as.head?.or (bs.head?.or next) := by
      cases as <;> simp
    have hlast : (a :: as).getLast?.or before = as.getLast?.or (some a) := by
      simp [List.getLast?_cons]
    rw [List.cons_append, Unmarked, Unmarked, ih, hhead, hlast, LexState.run_cons, and_assoc]

lemma opensMarker_of_ne {s : LexState} {before next : Option Char} {c : Char} (h1 : c ≠ '?') (h2 : c ≠ ':') :
    opensMarker s before next c = false := by
  simp [opensMarker, h1, h2]

lemma opensMarker_of_not_isCode {s : LexState} (hs : s.isCode = false) (before next : Option Char) (c : Char) :
    opensMarker s before next c = false := by
  simp [opensMarker, hs]

end Template

/-! ### texts without markers -/

namespace LexState

/-- From `s` a text leads to `t`, and no marker starts in it, whatever stands around it. -/
structure Leads (s : LexState) (cs : List Char) (t : LexState) : Prop where
  run : s.run cs = t
  unmarked : ∀ before next, Template.Unmarked s before next cs

namespace Leads

lemma nil (s : LexState) : Leads s [] s := ⟨rfl, fun _ _ => trivial⟩

lemma append {s t u : LexState} {as bs : List Char} (h1 : Leads s as t) (h2 : Leads t bs u) :
    Leads s (as ++ bs) u where
  run := by rw [run_append, h1.run, h2.run]
  unmarked before next := Template.unmarked_append.2 ⟨h1.unmarked _ _, h1.run ▸ h2.unmarked _ _⟩

lemma cons {s t : LexState} {c : Char} {cs : List Char}
    (hc : ∀ before next, Template.opensMarker s before next c = false) (h : Leads (s.step c) cs t) :
    Leads s (c :: cs) t :=
  ⟨h.run, fun _ _ => ⟨hc _ _, h.unmarked _ _⟩⟩

lemma of_isCode {s t : LexState} {c : Char} {cs : List Char} (hs : s.isCode = true) (hc : completesNothing c)
    (h : Leads .code (c :: cs) t) : Leads s (c :: cs) t := by
  have hstep : s.step c = LexState.step .code c := step_of_isCode hs hc
  refine ⟨by rw [run_cons, hstep]; exact h.run, fun before next => ⟨?_, ?_⟩⟩
  · simpa [Template.opensMarker, hs, show LexState.code.isCode = true from rfl] using (h.unmarked before next).1
  · rw [hstep]
    exact (h.unmarked before next).2

end Leads

/-- A character of code that begins neither a region nor a marker. -/
def isCalm (c : Char) : Bool := !(['\'', '"', '-', '/', '$', '?', ':'].contains c)

lemma isCalm_of_test {p : Char → Bool} (hp : (['\'', '"', '-', '/', '$', '?', ':'].all fun c => !p c) = true)
    {c : Char} (h : p c = true) : isCalm c = true := by
  by_contra hc
  have hcontains : ['\'', '"', '-', '/', '$', '?', ':'].contains c = true := by
    simpa only [isCalm, Bool.not_eq_true, Bool.not_eq_false'] using hc
  have hfails := List.all_eq_true.1 hp c (List.contains_iff_mem.1 hcontains)
  rw [h] at hfails
  exact absurd hfails (by decide)

lemma afterCode_of_isCalm {c : Char} (h : isCalm c = true) : afterCode c = .code := by
  simp [isCalm] at h
  simp [afterCode, h]

lemma opensMarker_of_isCalm {c : Char} (h : isCalm c = true) (s : LexState) (before next : Option Char) :
    Template.opensMarker s before next c = false := by
  simp [isCalm] at h
  exact Template.opensMarker_of_ne h.2.2.2.2.2.1 h.2.2.2.2.2.2

lemma leads_of_isCalm {cs : List Char} (h : cs.all isCalm = true) : Leads .code cs .code := by
  induction cs with
  | nil => exact Leads.nil _
  | cons c cs ih =>
    rw [List.all_cons, Bool.and_eq_true] at h
    refine Leads.cons (opensMarker_of_isCalm h.1 _) ?_
    rw [step, afterCode_of_isCalm h.1]
    exact ih h.2

end LexState

end WarehouseSql
