import Mathlib.Data.List.SplitBy
import WarehouseSql.Proofs.Template.Code
import WarehouseSql.Query.Basic

/-!
Conditions in a text.  `Template.outerText` shows of a text the words that stand outside of quotes and of parentheses,
and `Template.conditions` cuts it at the words `and` and `or` among them, but not at the `and` that belongs to a
`between`.  **Texts that hold none of these words outside come out as they went in** (`Template.conditions_chained`),
whatever stands inside of their quotes and parentheses.
-/

namespace WarehouseSql

open LexState

namespace Template

/-! ### words outside of quotes and parentheses -/

/-- The depth of parentheses after a character. -/
def deepen (depth : Nat) (c : Char) : Nat := if c = '(' then depth + 1 else if c = ')' then depth - 1 else depth

/-- The characters of words outside of parentheses when a text is read from a depth on, and a quote for each other
character. -/
def outerChars (depth : Nat) : List Char → List Char
  | [] => []
  | c :: cs => (if depth = 0 ∧ continuesName c = true then c else '\'') :: outerChars (deepen depth c) cs

/-- What of a text stands in words outside of quotes and parentheses. -/
def outerText (sql : String) : String := String.ofList (outerChars 0 (codeChars .code sql.toList))

example : outerText "\"a and b\" in (1, 2) or c is null" = "''''''''''in''''''''or'c'is'null" := by decide +kernel

/-- A character of a text beside what is shown of it. -/
abbrev Shown := Char × Char

/-- Cuts a text into its outer words and the single characters around them. -/
def lexemes (text : List Shown) : List (List Shown) := text.splitBy fun a b => continuesName a.2 && continuesName b.2

/-- The word that a lexeme is, in lower case. -/
def word (lexeme : List Shown) : List Char := lexeme.map fun c => c.2.toLower

def connective? (word : List Char) : Option Connective :=
  if word = "and".toList then some .and else if word = "or".toList then some .or else none

/-- Puts a lexeme in front of the first piece. -/
def keep (lexeme : List Shown) (pieces : List Char × List (Connective × List Char)) :
    List Char × List (Connective × List Char) :=
  (lexeme.map Prod.fst ++ pieces.1, pieces.2)

/-- The text before the first connective, and each connective with the text after it.  An `and` that follows a `between`
belongs to it. -/
def cutAtConnectives (ranging : Bool) : List (List Shown) → List Char × List (Connective × List Char)
  | [] => ([], [])
  | lexeme :: rest =>
    match connective? (word lexeme) with
    | none => keep lexeme (cutAtConnectives (ranging || word lexeme == "between".toList) rest)
    | some connective =>
      if ranging && connective == .and then keep lexeme (cutAtConnectives false rest)
      else
        let pieces := cutAtConnectives false rest
        ([], (connective, pieces.1) :: pieces.2)

/-- The conditions in a text: the first one, and the further ones with the connective in front of each. -/
def conditions (sql : String) : String × List (Connective × String) :=
  let pieces := cutAtConnectives false (lexemes (sql.toList.zip (outerText sql).toList))
  (Text.trim (String.ofList pieces.1), pieces.2.map fun piece => (piece.1, Text.trim (String.ofList piece.2)))

example : conditions "\"a\" between ? and ? or (\"b\" = ? and \"c\" = ?) and \"or\" = ?" =
    ("\"a\" between ? and ?", [(.or, "(\"b\" = ? and \"c\" = ?)"), (.and, "\"or\" = ?")]) := by decide +kernel

/-! ### depths of parentheses -/

/-- The depth after a text that closes only what is open. -/
def depthAfter? (depth : Nat) : List Char → Option Nat
  | [] => some depth
  | c :: cs => if c = ')' ∧ depth = 0 then none else depthAfter? (deepen depth c) cs

/-- Whether the parentheses of a text outside of quotes close each other. -/
def IsBalanced (sql : String) : Prop := depthAfter? 0 (codeChars .code sql.toList) = some 0

instance : DecidablePred IsBalanced := fun sql => by unfold IsBalanced; infer_instance

/-- Whether a text is one group in parentheses, with this text inside. -/
def IsGroup (sql inside : String) : Prop := sql = "(" ++ inside ++ ")" ∧ IsBalanced inside ∧ IsBalanced sql

instance (sql inside : String) : Decidable (IsGroup sql inside) := by unfold IsGroup; infer_instance

example : IsGroup "(\"a)\" = 1 or (b))" "\"a)\" = 1 or (b)" ∧ ¬ IsGroup "(a) or (b)" "a) or (b" := by decide +kernel

variable {a b : Nat} {cs : List Char}

lemma depthAfter?_append (a : Nat) (as bs : List Char) :
    depthAfter? a (as ++ bs) = (depthAfter? a as).bind fun b => depthAfter? b bs := by
  induction as generalizing a with
  | nil => rfl
  | cons c as ih =>
    rw [List.cons_append, depthAfter?, depthAfter?]
    split_ifs
    · rfl
    · exact ih _

lemma deepen_succ {depth : Nat} {c : Char} (h : ¬ (c = ')' ∧ depth = 0)) :
    deepen (depth + 1) c = deepen depth c + 1 := by
  unfold deepen
  split_ifs with hopen hclose
  · rfl
  · have hdepth : depth ≠ 0 := fun hdepth => h ⟨hclose, hdepth⟩
    omega
  · rfl

/-- What a text does to a depth, it does one deeper. -/
lemma depthAfter?_succ (h : depthAfter? a cs = some b) : depthAfter? (a + 1) cs = some (b + 1) := by
  induction cs generalizing a with
  | nil =>
    cases h
    rfl
  | cons c cs ih =>
    rw [depthAfter?] at h ⊢
    split_ifs at h with hdip
    rw [if_neg (by simp), deepen_succ hdip]
    exact ih h

lemma outerChars_append (h : depthAfter? a cs = some b) (bs : List Char) :
    outerChars a (cs ++ bs) = outerChars a cs ++ outerChars b bs := by
  induction cs generalizing a with
  | nil =>
    cases h
    rfl
  | cons c cs ih =>
    rw [depthAfter?] at h
    split_ifs at h
    rw [List.cons_append, outerChars, outerChars, ih h, List.cons_append]

@[simp] lemma length_outerChars (depth : Nat) (cs : List Char) : (outerChars depth cs).length = cs.length := by
  induction cs generalizing depth with
  | nil => rfl
  | cons c cs ih => simp [outerChars, ih]

/-- A quote in place of each character. -/
def shaded (cs : List Char) : List Char := List.replicate cs.length '\''

lemma outerChars_succ (h : depthAfter? a cs = some b) : outerChars (a + 1) cs = shaded cs := by
  induction cs generalizing a with
  | nil => rfl
  | cons c cs ih =>
    rw [depthAfter?] at h
    split_ifs at h with hdip
    rw [outerChars, deepen_succ hdip, ih h, if_neg (by simp)]
    rfl

/-- A character that neither belongs to a word nor is a parenthesis. -/
def IsSilent (c : Char) : Prop := continuesName c = false ∧ c ≠ '(' ∧ c ≠ ')'

instance : DecidablePred IsSilent := fun c => by unfold IsSilent; infer_instance

lemma silent (h : ∀ c ∈ cs, IsSilent c) (depth : Nat) :
    outerChars depth cs = shaded cs ∧ depthAfter? depth cs = some depth := by
  induction cs with
  | nil => exact ⟨rfl, rfl⟩
  | cons c cs ih =>
    obtain ⟨⟨hword, hopen, hclose⟩, hcs⟩ := List.forall_mem_cons.1 h
    obtain ⟨houter, hdepth⟩ := ih hcs
    have hdeepen : deepen depth c = depth := by simp [deepen, hopen, hclose]
    rw [outerChars, depthAfter?, hdeepen, houter, hdepth]
    simp [hword, hclose, shaded, List.replicate_succ]

lemma isSilent_of_mem_shaded {c : Char} (h : c ∈ shaded cs) : IsSilent c := by
  rw [List.eq_of_mem_replicate h]
  decide

lemma outerChars_shaded (depth : Nat) (cs rest : List Char) :
    outerChars depth (shaded cs ++ rest) = shaded cs ++ outerChars depth rest := by
  obtain ⟨houter, hdepth⟩ := silent (fun c (hc : c ∈ shaded cs) => isSilent_of_mem_shaded hc) depth
  rw [outerChars_append hdepth, houter, shaded, shaded, List.length_replicate]

lemma depthAfter?_shaded (depth : Nat) (cs : List Char) : depthAfter? depth (shaded cs) = some depth :=
  (silent (fun _ => isSilent_of_mem_shaded) depth).2

/-! ### texts without connectives -/

/-- What is shown of a text holds neither a connective nor `between`, and cannot when something follows: there is no
`d`, no `w` and no `or`. -/
def Quiet (shown : List Char) : Prop :=
  (∀ c ∈ shown.map Char.toLower, c ≠ 'd' ∧ c ≠ 'w') ∧ Avoids 'o' 'r' (shown.map Char.toLower)

instance : DecidablePred Quiet := fun shown =>
  have := List.decidableBAll (fun c => c ≠ 'd' ∧ c ≠ 'w') (shown.map Char.toLower)
  inferInstanceAs (Decidable (_ ∧ _))

lemma Quiet.append {as bs : List Char} (ha : Quiet as) (hb : Quiet bs) : Quiet (as ++ bs) := by
  rw [Quiet, List.map_append]
  exact ⟨List.forall_mem_append.2 ⟨ha.1, hb.1⟩, ha.2.append hb.2⟩

lemma quiet_shaded (cs : List Char) : Quiet (shaded cs) := by
  have hquote : ∀ c ∈ (shaded cs).map Char.toLower, c = '\'' := by
    intro c hc
    obtain ⟨quote, hmem, rfl⟩ := List.mem_map.1 hc
    rw [List.eq_of_mem_replicate hmem]
    rfl
  refine ⟨fun c hc => ?_, avoids_of_forall_ne fun c hc => ?_⟩
  · rw [hquote c hc]
    decide
  · rw [hquote c hc]
    decide

/-- The words of a quiet text are of no account. -/
lemma Quiet.of_infix {shown w : List Char} (h : Quiet shown) (hw : w <:+: shown.map Char.toLower) :
    connective? w = none ∧ (w == "between".toList) = false := by
  obtain ⟨hletters, hchain, -⟩ := h
  have hne : ∀ v : List Char, 'd' ∈ v ∨ 'w' ∈ v → w ≠ v := by
    rintro v (hv | hv) rfl
    · exact (hletters 'd' (hw.subset hv)).1 rfl
    · exact (hletters 'w' (hw.subset hv)).2 rfl
  have hor : w ≠ "or".toList := by
    rintro rfl
    have hword := hchain.infix hw
    exact absurd hword (by decide)
  rw [connective?, if_neg (hne _ (by decide)), if_neg hor, beq_eq_false_iff_ne]
  exact ⟨rfl, hne _ (by decide)⟩

/-! ### cutting -/

lemma keep_keep (as bs : List Shown) (pieces : List Char × List (Connective × List Char)) :
    keep as (keep bs pieces) = keep (as ++ bs) pieces := by
  simp [keep]

lemma cutAtConnectives_append {ls : List (List Shown)}
    (h : ∀ l ∈ ls, connective? (word l) = none ∧ (word l == "between".toList) = false) (ranging : Bool)
    (rest : List (List Shown)) :
    cutAtConnectives ranging (ls ++ rest) = keep ls.flatten (cutAtConnectives ranging rest) := by
  induction ls with
  | nil => rfl
  | cons l ls ih =>
    obtain ⟨⟨hconnective, hbetween⟩, hls⟩ := List.forall_mem_cons.1 h
    rw [List.cons_append, cutAtConnectives, hconnective, hbetween, Bool.or_false]
    dsimp only
    rw [ih hls, keep_keep, List.flatten_cons]

/-- A text that cutting at connectives passes over. -/
def Passes (text : List Shown) : Prop :=
  ∀ rest, cutAtConnectives false (lexemes text ++ rest) = keep text (cutAtConnectives false rest)

lemma Quiet.cutAtConnectives {cs shown : List Char} (h : Quiet shown) (hlength : cs.length = shown.length)
    (ranging : Bool) (rest : List (List Shown)) :
    cutAtConnectives ranging (lexemes (cs.zip shown) ++ rest) =
      keep (cs.zip shown) (cutAtConnectives ranging rest) := by
  have hflatten : (lexemes (cs.zip shown)).flatten = cs.zip shown := List.flatten_splitBy _ _
  rw [cutAtConnectives_append (fun l hl => h.of_infix ?_), hflatten]
  have hinfix := (List.infix_of_mem_flatten hl).map fun c : Shown => c.2.toLower
  have hshown : (cs.zip shown).map (fun c => c.2.toLower) = shown.map Char.toLower := by
    rw [show (fun c : Shown => c.2.toLower) = Char.toLower ∘ Prod.snd from rfl, ← List.map_map,
      List.map_snd_zip hlength.ge]
  rwa [hflatten, hshown] at hinfix

lemma lexemes_cons {c : Shown} (hc : continuesName c.2 = false) (text : List Shown) :
    lexemes (c :: text) = [c] :: lexemes text := by
  rw [lexemes, ← List.singleton_append, List.splitBy_append]
  · rfl
  · intro x hx y _
    obtain rfl : c = x := Option.some.inj hx
    rw [hc, Bool.false_and]

lemma lexemes_append_cons {c : Shown} (hc : continuesName c.2 = false) (as bs : List Shown) :
    lexemes (as ++ c :: bs) = lexemes as ++ lexemes (c :: bs) :=
  List.splitBy_append_cons bs fun x _ => by rw [hc, Bool.and_false]

/-! ### ranges -/

def rangeText (negated : Bool) : String := (if negated then " not between" else " between") ++ " ? and ?"

def shownRange (negated : Bool) : List Shown :=
  (rangeText negated).toList.zip (outerChars 0 (rangeText negated).toList)

/-- The `and` of a range is passed over. -/
lemma passes_range {cs shown : List Char} (h : Quiet shown) (hlength : cs.length = shown.length) (negated : Bool) :
    Passes (cs.zip shown ++ shownRange negated) := by
  intro rest
  have hrange : cutAtConnectives false (lexemes (shownRange negated) ++ rest) =
      keep (shownRange negated) (cutAtConnectives false rest) := by
    cases negated <;> rfl
  have hlexemes : lexemes (cs.zip shown ++ shownRange negated) =
      lexemes (cs.zip shown) ++ lexemes (shownRange negated) := by
    cases negated <;> exact lexemes_append_cons rfl _ _
  rw [hlexemes, List.append_assoc, h.cutAtConnectives hlength, hrange, keep_keep]

/-! ### chains of conditions -/

/-- A space, which is no part of a word. -/
def gap : Shown := (' ', '\'')

lemma not_continuesName_gap : continuesName gap.2 = false := rfl

def shownKeyword (connective : Connective) : List Shown := connective.keyword.toList.map fun c => (c, c)

lemma lexemes_shownKeyword (connective : Connective) :
    lexemes (shownKeyword connective) = [shownKeyword connective] := by
  cases connective <;> decide

lemma connective?_shownKeyword (connective : Connective) :
    connective? (word (shownKeyword connective)) = some connective := by
  cases connective <;> decide

/-- Conditions with the connective of each in front. -/
def chained (rest : List (Connective × List Shown)) : List Shown :=
  rest.flatMap fun next => gap :: (shownKeyword next.1 ++ gap :: next.2)

lemma lexemes_append_chained (text : List Shown) (rest : List (Connective × List Shown)) :
    lexemes (text ++ chained rest) = lexemes text ++ lexemes (chained rest) := by
  cases rest with
  | nil => simp [chained, lexemes]
  | cons next rest => exact lexemes_append_cons not_continuesName_gap _ _

lemma lexemes_chained (next : Connective × List Shown) (rest : List (Connective × List Shown)) :
    lexemes (chained (next :: rest)) =
      [gap] :: shownKeyword next.1 :: [gap] :: (lexemes next.2 ++ lexemes (chained rest)) := by
  have htext : chained (next :: rest) = gap :: (shownKeyword next.1 ++ gap :: (next.2 ++ chained rest)) := by
    simp [chained]
  rw [htext, lexemes_cons not_continuesName_gap, lexemes_append_cons not_continuesName_gap,
    lexemes_cons not_continuesName_gap, lexemes_shownKeyword, lexemes_append_chained]
  rfl

lemma trimEndChars_append_of_blank {cs blanks : List Char} (h : blanks.all Text.isBlank = true) :
    Text.trimEndChars (cs ++ blanks) = Text.trimEndChars cs := by
  induction blanks using List.reverseRecOn with
  | nil => rw [List.append_nil]
  | append_singleton blanks c ih =>
    rw [List.all_append, Bool.and_eq_true, List.all_cons, List.all_nil, Bool.and_true] at h
    rw [← List.append_assoc, Token.trimEndChars_concat, if_pos h.2, ih h.1]

lemma trimChars_padded (before : List Char) {cs after : List Char} (hbefore : before.all Text.isBlank = true)
    (h : Token.IsTrimmed cs) (hafter : after.all Text.isBlank = true) :
    Text.trimChars (before ++ (cs ++ after)) = cs := by
  have hstart : Text.trimStartChars (before ++ (cs ++ after)) = cs ++ after := by
    rw [Text.trimStartChars, List.dropWhile_append_of_pos (List.all_eq_true.1 hbefore)]
    exact Token.trimStartChars_append h after
  rw [Text.trimChars, hstart, trimEndChars_append_of_blank hafter]
  exact Token.trimEndChars_append h []

/-- A condition that can be told from its neighbours. -/
structure IsPiece (text : List Shown) : Prop where
  passes : Passes text
  trimmed : Token.IsTrimmed (text.map Prod.fst)

/-- In front of a chain there is nothing but blanks, and then come its connectives and conditions. -/
lemma cutAtConnectives_chained {rest : List (Connective × List Shown)} (h : ∀ next ∈ rest, IsPiece next.2) :
    (cutAtConnectives false (lexemes (chained rest))).1.all Text.isBlank = true ∧
      (cutAtConnectives false (lexemes (chained rest))).2.map (fun piece => (piece.1, Text.trimChars piece.2)) =
        rest.map fun next => (next.1, next.2.map Prod.fst) := by
  induction rest with
  | nil => exact ⟨rfl, rfl⟩
  | cons next rest ih =>
    obtain ⟨hnext, hrest⟩ := List.forall_mem_cons.1 h
    obtain ⟨hblank, hpieces⟩ := ih hrest
    have hgap : ∀ ls, cutAtConnectives false ([gap] :: ls) = keep [gap] (cutAtConnectives false ls) := fun _ => rfl
    have hcut : cutAtConnectives false (lexemes (chained (next :: rest))) =
        ([' '], (next.1, ' ' :: (next.2.map Prod.fst ++ (cutAtConnectives false (lexemes (chained rest))).1)) ::
          (cutAtConnectives false (lexemes (chained rest))).2) := by
      rw [lexemes_chained, hgap, cutAtConnectives, connective?_shownKeyword]
      dsimp only
      rw [Bool.false_and, if_neg Bool.false_ne_true, hgap, hnext.passes]
      rfl
    rw [hcut]
    refine ⟨rfl, ?_⟩
    rw [List.map_cons, List.map_cons, hpieces]
    have htrim : Text.trimChars (' ' :: (next.2.map Prod.fst ++ (cutAtConnectives false (lexemes (chained rest))).1)) =
        next.2.map Prod.fst := trimChars_padded [' '] rfl hnext.trimmed hblank
    rw [htrim]

/-- **A chain of conditions falls apart into its conditions.** -/
theorem conditions_chained {sql : String} {first : List Shown} {rest : List (Connective × List Shown)}
    (hsql : sql.toList.zip (outerText sql).toList = first ++ chained rest) (hfirst : IsPiece first)
    (hrest : ∀ next ∈ rest, IsPiece next.2) :
    conditions sql =
      (String.ofList (first.map Prod.fst), rest.map fun next => (next.1, String.ofList (next.2.map Prod.fst))) := by
  obtain ⟨hblank, hpieces⟩ := cutAtConnectives_chained hrest
  have hhead : Text.trimChars (first.map Prod.fst ++ (cutAtConnectives false (lexemes (chained rest))).1) =
      first.map Prod.fst := trimChars_padded [] rfl hfirst.trimmed hblank
  have htail : (cutAtConnectives false (lexemes (chained rest))).2.map
      (fun piece => (piece.1, Text.trim (String.ofList piece.2))) =
        rest.map fun next => (next.1, String.ofList (next.2.map Prod.fst)) := by
    have hmap := congrArg (List.map fun piece : Connective × List Char => (piece.1, String.ofList piece.2)) hpieces
    rw [List.map_map, List.map_map] at hmap
    refine Eq.trans (List.map_congr_left fun piece _ => ?_) hmap
    rw [Text.trim, String.toList_ofList]
    rfl
  simp only [conditions]
  rw [hsql, lexemes_append_chained, hfirst.passes, keep, htail, Text.trim, String.toList_ofList, hhead]

end Template

end WarehouseSql
