import WarehouseSql.Proofs.Name.Qualified

/-!
Aliases of names.  The keyword is an `as` in any letter case between ASCII white space (`Name.HasKeyword`).  **A name is
split at its last keyword, unless nothing but white space stands on one side of it**, its alias holds no keyword, and
what stands before is shorter, so that every name is written as a name without an alias and the aliases behind it
(`Name.splitAlias?_last`).
-/

namespace WarehouseSql

namespace Name

open Text (isBlank isAsciiBlank trimEndChars trimStartChars)

/-! ### the keyword -/

/-- An `as` in any letter case stands in a text, behind a part that ends in ASCII white space and before one that begins
with ASCII white space. -/
structure HasKeyword (cs before after : List Char) : Prop where
  word : ∃ a s, cs = before ++ a :: s :: after ∧ (a = 'a' ∨ a = 'A') ∧ (s = 's' ∨ s = 'S')
  behind : ∃ c ∈ before.getLast?, isAsciiBlank c = true
  ahead : ∃ c ∈ after.head?, isAsciiBlank c = true

structure IsLastKeyword (cs before after : List Char) : Prop extends HasKeyword cs before after where
  last : ∀ sooner later, HasKeyword cs sooner later → sooner.length ≤ before.length

lemma spellsAs_iff {a s : Char} : spellsAs a s = true ↔ (a = 'a' ∨ a = 'A') ∧ (s = 's' ∨ s = 'S') := by
  simp [spellsAs]

variable {cs before after : List Char}

/-- A keyword stands right behind a first character. -/
def IsKeywordBehind (c : Char) (cs after : List Char) : Prop :=
  isAsciiBlank c = true ∧ ∃ a s next rest, cs = a :: s :: next :: rest ∧ after = next :: rest ∧
    spellsAs a s = true ∧ isAsciiBlank next = true

/-- A keyword stands right behind the first character or later. -/
lemma hasKeyword_cons_iff {c : Char} : HasKeyword (c :: cs) before after ↔
    (∃ sooner, before = c :: sooner ∧ HasKeyword cs sooner after) ∨ before = [c] ∧ IsKeywordBehind c cs after := by
  constructor
  · rintro ⟨⟨a, s, hcs, ha, hs⟩, ⟨last, hlast, hbehind⟩, ⟨next, hnext, hahead⟩⟩
    obtain ⟨rest, rfl⟩ := List.head?_eq_some_iff.1 hnext
    cases before with
    | nil => cases hlast
    | cons first sooner =>
      obtain ⟨rfl, rfl⟩ := List.cons.inj hcs
      cases sooner with
      | nil =>
        obtain rfl : c = last := Option.some.inj hlast
        exact .inr ⟨rfl, hbehind, a, s, next, rest, rfl, rfl, spellsAs_iff.2 ⟨ha, hs⟩, hahead⟩
      | cons second sooner =>
        rw [List.getLast?_cons_cons] at hlast
        exact .inl ⟨_, rfl, ⟨a, s, rfl, ha, hs⟩, ⟨last, hlast, hbehind⟩, ⟨next, hnext, hahead⟩⟩
  · rintro (⟨sooner, rfl, ⟨a, s, rfl, hword⟩, ⟨last, hlast, hbehind⟩, hahead⟩ |
      ⟨rfl, hc, a, s, next, rest, rfl, rfl, hword, hnext⟩)
    · refine ⟨⟨a, s, rfl, hword⟩, ⟨last, ?_, hbehind⟩, hahead⟩
      rw [Option.mem_def] at hlast ⊢
      rw [List.getLast?_cons, hlast, Option.getD_some]
    · exact ⟨⟨a, s, rfl, spellsAs_iff.1 hword⟩, ⟨c, rfl, hc⟩, ⟨next, rfl, hnext⟩⟩

lemma cutAtKeyword_cons_of_some {sooner : List Char} (c : Char) (h : cutAtKeyword cs = some (sooner, after)) :
    cutAtKeyword (c :: cs) = some (c :: sooner, after) := by
  rw [cutAtKeyword.eq_def]
  simp only [h]

/-- Where the rest has no keyword, the only one can stand right behind the first character. -/
lemma cutAtKeyword_cons_of_none {c : Char} (h : cutAtKeyword cs = none) :
    cutAtKeyword (c :: cs) = some (before, after) ↔ before = [c] ∧ IsKeywordBehind c cs after := by
  rw [cutAtKeyword.eq_def]
  simp only [h]
  split
  · next a s next rest =>
    rw [Option.ite_none_right_eq_some, Option.some.injEq, Prod.mk.injEq, Bool.and_eq_true, Bool.and_eq_true]
    constructor
    · rintro ⟨⟨⟨hc, hword⟩, hnext⟩, rfl, rfl⟩
      exact ⟨rfl, hc, a, s, next, rest, rfl, rfl, hword, hnext⟩
    · rintro ⟨rfl, hc, _, _, _, _, hcs, rfl, hword, hnext⟩
      cases hcs
      exact ⟨⟨⟨hc, hword⟩, hnext⟩, rfl, rfl⟩
  · next hshort =>
    refine iff_of_false (fun hnone => by cases hnone) ?_
    rintro ⟨-, -, a, s, next, rest, hcs, -⟩
    exact hshort a s next rest hcs

lemma not_hasKeyword_nil : ¬HasKeyword [] before after := by
  rintro ⟨⟨a, s, hnil, -⟩, -⟩
  simp at hnil

/-- **A text is cut at its last keyword, and a text that is not cut has none.** -/
lemma cutAtKeyword_spec (cs : List Char) :
    (cutAtKeyword cs = none ∧ ∀ before after, ¬HasKeyword cs before after) ∨
      ∃ before after, cutAtKeyword cs = some (before, after) ∧ IsLastKeyword cs before after := by
  induction cs with
  | nil => exact .inl ⟨rfl, fun _ _ => not_hasKeyword_nil⟩
  | cons c cs ih =>
    rcases ih with ⟨hnone, hrest⟩ | ⟨before, after, hcut, hlast⟩
    · -- no keyword in the rest: it can only stand right behind the first character
      by_cases hbehind : ∃ after, IsKeywordBehind c cs after
      · obtain ⟨after, hafter⟩ := hbehind
        refine .inr ⟨[c], after, (cutAtKeyword_cons_of_none hnone).2 ⟨rfl, hafter⟩,
          hasKeyword_cons_iff.2 (.inr ⟨rfl, hafter⟩), fun sooner later hkeyword => ?_⟩
        rcases hasKeyword_cons_iff.1 hkeyword with ⟨_, -, hinner⟩ | ⟨rfl, -⟩
        · exact absurd hinner (hrest _ _)
        · exact le_rfl
      · refine .inl ⟨Option.eq_none_iff_forall_ne_some.2 fun parts hparts => ?_, fun before after hkeyword => ?_⟩
        · exact hbehind ⟨parts.2, ((cutAtKeyword_cons_of_none hnone).1 hparts).2⟩
        · rcases hasKeyword_cons_iff.1 hkeyword with ⟨_, -, hinner⟩ | ⟨-, hafter⟩
          · exact hrest _ _ hinner
          · exact hbehind ⟨after, hafter⟩
    · -- a keyword behind the first character comes sooner than the last one of the rest
      refine .inr ⟨c :: before, after, cutAtKeyword_cons_of_some c hcut,
        hasKeyword_cons_iff.2 (.inl ⟨before, rfl, hlast.toHasKeyword⟩), fun sooner later hkeyword => ?_⟩
      rcases hasKeyword_cons_iff.1 hkeyword with ⟨inner, rfl, hinner⟩ | ⟨rfl, -⟩
      · exact Nat.succ_le_succ (hlast.last inner later hinner)
      · exact Nat.succ_le_succ (Nat.zero_le _)

lemma IsLastKeyword.unique {sooner later : List Char} (h : IsLastKeyword cs before after)
    (h' : IsLastKeyword cs sooner later) : before = sooner ∧ after = later := by
  have hlength : before.length = sooner.length :=
    le_antisymm (h'.last _ _ h.toHasKeyword) (h.last _ _ h'.toHasKeyword)
  obtain ⟨a, s, hcs, -⟩ := h.word
  obtain ⟨a', s', hcs', -⟩ := h'.word
  obtain ⟨hbefore, hrest⟩ := List.append_inj (hcs.symm.trans hcs') hlength
  exact ⟨hbefore, (List.cons.inj (List.cons.inj hrest).2).2⟩

lemma cutAtKeyword_eq_some_iff : cutAtKeyword cs = some (before, after) ↔ IsLastKeyword cs before after := by
  rcases cutAtKeyword_spec cs with ⟨hnone, hno⟩ | ⟨sooner, later, hcut, hlast⟩
  · rw [hnone]
    exact iff_of_false (fun hsome => by cases hsome) fun h => hno _ _ h.toHasKeyword
  · rw [hcut, Option.some.injEq, Prod.mk.injEq]
    constructor
    · rintro ⟨rfl, rfl⟩
      exact hlast
    · exact hlast.unique

lemma HasKeyword.append_left (front : List Char) (h : HasKeyword cs before after) :
    HasKeyword (front ++ cs) (front ++ before) after := by
  obtain ⟨⟨a, s, rfl, hword⟩, ⟨last, hlast, hblank⟩, hahead⟩ := h
  refine ⟨⟨a, s, (List.append_assoc ..).symm, hword⟩, ⟨last, ?_, hblank⟩, hahead⟩
  rw [Option.mem_def] at hlast ⊢
  rw [List.getLast?_append, hlast, Option.some_or]

/-- Behind the last keyword there is none, whatever is taken off its start. -/
lemma IsLastKeyword.not_hasKeyword_behind (h : IsLastKeyword cs before after) (front : List Char)
    {rest sooner later : List Char} (hafter : after = front ++ rest) : ¬HasKeyword rest sooner later := by
  intro hkeyword
  obtain ⟨a, s, rfl, -⟩ := h.word
  have hlonger := h.last (before ++ a :: s :: front ++ sooner) later <| by
    have hwhole := hkeyword.append_left (before ++ a :: s :: front)
    rwa [List.append_assoc, List.cons_append, List.cons_append, ← hafter] at hwhole
  simp only [List.length_append, List.length_cons] at hlonger
  omega

/-! ### the two parts of a name -/

lemma trimStartChars_eq_nil_iff {cs : List Char} : trimStartChars cs = [] ↔ cs.all isBlank = true := by
  rw [trimStartChars, List.dropWhile_eq_nil_iff, List.all_eq_true]

lemma trimEndChars_eq_nil_iff {cs : List Char} : trimEndChars cs = [] ↔ cs.all isBlank = true := by
  induction cs with
  | nil => exact iff_of_true rfl rfl
  | cons c cs ih =>
    rw [List.all_cons, Bool.and_eq_true, ← ih, trimEndChars]
    split
    · next hnil => simp [hnil]
    · next hkept => exact iff_of_false (List.cons_ne_nil _ _) fun hall => hkept hall.2

/-- A name is another name, the last keyword and an alias: the parts before and after the keyword without the white
space that is next to it, neither of them white space alone. -/
def IsAliased (name left label : String) : Prop :=
  ∃ before after, IsLastKeyword name.toList before after ∧ before.all isBlank = false ∧ after.all isBlank = false ∧
    left.toList = trimEndChars before ∧ label.toList = trimStartChars after

variable {name left label : String}

/-- **A name is split at its last keyword, unless nothing but white space stands on one side of it.** -/
lemma splitAlias?_eq_some_iff : splitAlias? name = some (left, label) ↔ IsAliased name left label := by
  have hsides (before after : List Char) : ((trimEndChars before).isEmpty || (trimStartChars after).isEmpty) = false ↔
      before.all isBlank = false ∧ after.all isBlank = false := by
    rw [Bool.or_eq_false_iff, List.isEmpty_eq_false_iff, List.isEmpty_eq_false_iff, Ne, Ne, trimEndChars_eq_nil_iff,
      trimStartChars_eq_nil_iff, Bool.not_eq_true, Bool.not_eq_true]
  rw [splitAlias?, splitAliasChars?]
  constructor
  · intro h
    obtain ⟨parts, hparts, heq⟩ := Option.map_eq_some_iff.1 h
    obtain ⟨rfl, rfl⟩ := Prod.mk.inj heq
    split at hparts
    · cases hparts
    · next before after hcut =>
      dsimp only at hparts
      split_ifs at hparts with hblank
      obtain rfl := Option.some.inj hparts
      obtain ⟨hbefore, hafter⟩ := (hsides before after).1 (Bool.eq_false_iff.2 hblank)
      exact ⟨before, after, cutAtKeyword_eq_some_iff.1 hcut, hbefore, hafter, String.toList_ofList,
        String.toList_ofList⟩
  · rintro ⟨before, after, hlast, hbefore, hafter, hleft, hlabel⟩
    rw [cutAtKeyword_eq_some_iff.2 hlast]
    simp only [(hsides before after).2 ⟨hbefore, hafter⟩, Bool.false_eq_true, if_false, Option.map_some]
    rw [← hleft, ← hlabel, String.ofList_toList, String.ofList_toList]

namespace IsAliased

lemma not_hasKeyword_label (h : IsAliased name left label) {sooner later : List Char} :
    ¬HasKeyword label.toList sooner later := by
  obtain ⟨before, after, hlast, -, -, -, hlabel⟩ := h
  refine hlast.not_hasKeyword_behind (after.takeWhile isBlank) ?_
  rw [hlabel, trimStartChars, List.takeWhile_append_dropWhile]

lemma utf8ByteSize_lt (h : IsAliased name left label) : left.utf8ByteSize < name.utf8ByteSize := by
  obtain ⟨before, after, ⟨⟨⟨a, s, hname, -⟩, -⟩, -⟩, -, -, hleft, -⟩ := h
  obtain ⟨blanks, hbefore, -⟩ := Text.trimEndChars_append_blanks before
  have hwhole : name = left ++ String.ofList (blanks ++ a :: s :: after) := by
    rw [← String.toList_inj, String.toList_append, String.toList_ofList, hname, hleft, ← List.append_assoc, hbefore]
  have hrest : (String.ofList (blanks ++ a :: s :: after)).utf8ByteSize ≠ 0 := by
    rw [Ne, String.utf8ByteSize_eq_zero_iff, ← String.toList_inj, String.toList_ofList]
    simp
  rw [hwhole, String.utf8ByteSize_append]
  omega

end IsAliased

/-! ### names taken apart -/

/-- A name without an alias and the aliases behind it, one after another. -/
inductive TakesApart : String → String → List String → Prop
  | plain {name : String} : splitAlias? name = none → TakesApart name name []
  | labelled {name left label base : String} {labels : List String} :
      splitAlias? name = some (left, label) → TakesApart left base labels → TakesApart name base (labels ++ [label])

/-- Every name is taken apart in finitely many steps. -/
lemma exists_takesApart (name : String) : ∃ base labels, TakesApart name base labels := by
  induction hn : name.utf8ByteSize using Nat.strong_induction_on generalizing name with
  | _ n ih =>
    cases hsplit : splitAlias? name with
    | none => exact ⟨name, [], .plain hsplit⟩
    | some parts =>
      obtain ⟨left, label⟩ := parts
      obtain ⟨base, labels, hleft⟩ := ih _ (hn ▸ (splitAlias?_eq_some_iff.1 hsplit).utf8ByteSize_lt) left rfl
      exact ⟨base, labels ++ [label], .labelled hsplit hleft⟩

end Name

namespace Policy

open Name (TakesApart)

variable {policy : Policy} {tablePrefix name base : String} {labels : List String}

lemma columnName_of_alias {left label : String} (h : Name.splitAlias? name = some (left, label)) :
    policy.columnName name = policy.columnName left ++ " as " ++ policy.identifier label := by
  rw [columnName]
  split
  · next heq =>
    rw [h] at heq
    cases heq
    rfl
  · next heq => simp [h] at heq

/-- A column is the column without aliases, and its aliases. -/
lemma columnName_of_takesApart (h : TakesApart name base labels) :
    policy.columnName name =
      labels.foldl (fun sql label => sql ++ " as " ++ policy.identifier label) (policy.jsonSelector base) := by
  induction h with
  | plain hnone => exact columnName_of_none hnone
  | labelled hsplit _ ih => rw [columnName_of_alias hsplit, ih, List.foldl_append, List.foldl_cons, List.foldl_nil]

/-- A table is the table without aliases, and its aliases with the prefix. -/
lemma tableWithPrefix_of_takesApart (h : TakesApart name base labels) :
    policy.tableWithPrefix tablePrefix name =
      labels.foldl (fun sql label => sql ++ " as " ++ policy.identifier (tablePrefix ++ label))
        (policy.dottedTable tablePrefix base) := by
  induction h with
  | plain hnone => exact tableWithPrefix_of_none hnone
  | labelled hsplit _ ih => rw [tableWithPrefix_of_alias hsplit, ih, List.foldl_append, List.foldl_cons, List.foldl_nil]

end Policy

namespace Name

/-- **A name is split at its last keyword, unless nothing but white space stands on one side of it.**  Its alias holds
no keyword and the name in front of it is shorter, so columns and tables are written down to a name without an alias. -/
theorem splitAlias?_last (name : String) :
    (∀ left label, splitAlias? name = some (left, label) ↔ IsAliased name left label) ∧
      (∀ left label, splitAlias? name = some (left, label) →
        (∀ before after, ¬HasKeyword label.toList before after) ∧ left.utf8ByteSize < name.utf8ByteSize) ∧
      ∃ base labels, TakesApart name base labels ∧ ∀ (policy : Policy) (tablePrefix : String),
        policy.columnName name =
            labels.foldl (fun sql label => sql ++ " as " ++ policy.identifier label) (policy.jsonSelector base) ∧
          policy.tableWithPrefix tablePrefix name =
            labels.foldl (fun sql label => sql ++ " as " ++ policy.identifier (tablePrefix ++ label))
              (policy.dottedTable tablePrefix base) := by
  obtain ⟨base, labels, hparts⟩ := exists_takesApart name
  refine ⟨fun _ _ => splitAlias?_eq_some_iff, fun left label hsplit => ?_, base, labels, hparts, fun _ _ =>
    ⟨Policy.columnName_of_takesApart hparts, Policy.tableWithPrefix_of_takesApart hparts⟩⟩
  have haliased := splitAlias?_eq_some_iff.1 hsplit
  exact ⟨fun _ _ => haliased.not_hasKeyword_label, haliased.utf8ByteSize_lt⟩

/-- Of two keywords that share white space the last counts; the other then has nothing behind it. -/
theorem splitAlias?_last_overlapping :
    splitAlias? "a as as b" = some ("a as", "b") ∧ splitAlias? "a as" = none ∧
      (∀ before after, ¬HasKeyword "b".toList before after) ∧ "a as".utf8ByteSize < "a as as b".utf8ByteSize := by
  have hsplit : splitAlias? "a as as b" = some ("a as", "b") := by decide +kernel
  exact ⟨hsplit, by decide +kernel, (splitAlias?_last "a as as b").2.1 "a as" "b" hsplit⟩

end Name

end WarehouseSql
