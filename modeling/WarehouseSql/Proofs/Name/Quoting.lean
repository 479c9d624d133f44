import Mathlib.Tactic.Common
import WarehouseSql.Text.Pieces
import WarehouseSql.Text.Quoted

/-!
Quoted identifiers, read again.  A quoted identifier ends at the first quote that no other one follows, and a doubled
quote in it stands for one.  **Reading takes the identifier off a text and accepts nothing else**
(`Text.readIdentifier?_eq_some_iff`), and so it is with lists of identifiers (`Text.readIdentifiers?_eq_some_iff`).
-/

namespace WarehouseSql.Text

/-! ### one identifier -/

/-- The rest of a quoted identifier whose first quote has been read, and what follows its last quote. -/
def readInside? : List Char → Option (List Char × List Char)
  | [] => none
  | '"' :: '"' :: cs => (readInside? cs).map fun parts => ('"' :: parts.1, parts.2)
  | '"' :: cs => some ([], cs)
  | c :: cs => (readInside? cs).map fun parts => (c :: parts.1, parts.2)

/-- The name in the quoted identifier that a text begins with, and what follows it. -/
def readIdentifier? : List Char → Option (List Char × List Char)
  | '"' :: cs => readInside? cs
  | _ => none

lemma readInside?_of_ne {c : Char} (h : c ≠ '"') (cs : List Char) :
    readInside? (c :: cs) = (readInside? cs).map fun parts => (c :: parts.1, parts.2) := by
  rw [readInside?.eq_def]
  split
  · next heq => cases heq
  · next heq => exact absurd (List.cons.inj heq).1 h
  · next heq => exact absurd (List.cons.inj heq).1 h
  · next heq =>
    cases heq
    rfl

lemma readInside?_close {rest : List Char} (h : rest.head? ≠ some '"') :
    readInside? ('"' :: rest) = some ([], rest) := by
  cases rest with
  | nil => rfl
  | cons c cs =>
    have hc : c ≠ '"' := fun heq => h (congrArg some heq)
    rw [readInside?.eq_def]
    split
    · next heq => cases heq
    · next heq =>
      cases heq
      exact absurd rfl hc
    · next heq =>
      cases heq
      rfl
    · next hne heq =>
      cases heq
      exact absurd rfl hne

lemma readInside?_escapeIdentifier (cs : List Char) {rest : List Char} (h : rest.head? ≠ some '"') :
    readInside? (escapeIdentifier cs ++ '"' :: rest) = some (cs, rest) := by
  induction cs with
  | nil => exact readInside?_close h
  | cons c cs ih =>
    rw [escapeIdentifier]
    split_ifs with hc
    · rw [hc, List.cons_append, List.cons_append, readInside?, ih]
      rfl
    · rw [List.cons_append, readInside?_of_ne hc, ih]
      rfl

lemma eq_of_readInside? {cs inside rest : List Char} (h : readInside? cs = some (inside, rest)) :
    cs = escapeIdentifier inside ++ '"' :: rest ∧ rest.head? ≠ some '"' := by
  fun_induction readInside? cs generalizing inside with
  | case1 => cases h
  | case2 cs ih =>
    obtain ⟨⟨inside', rest'⟩, hread, hparts⟩ := Option.map_eq_some_iff.1 h
    cases hparts
    obtain ⟨rfl, hrest⟩ := ih hread
    exact ⟨rfl, hrest⟩
  | case3 cs hopen =>
    cases h
    refine ⟨rfl, fun hhead => ?_⟩
    obtain ⟨tail, rfl⟩ := List.head?_eq_some_iff.1 hhead
    exact hopen tail rfl
  | case4 c cs hdoubled hc ih =>
    obtain ⟨⟨inside', rest'⟩, hread, hparts⟩ := Option.map_eq_some_iff.1 h
    cases hparts
    obtain ⟨rfl, hrest⟩ := ih hread
    refine ⟨?_, hrest⟩
    rw [escapeIdentifier, if_neg hc, List.cons_append]

/-- **Reading takes a quoted identifier off a text**, and nothing else. -/
theorem readIdentifier?_eq_some_iff {cs name rest : List Char} :
    readIdentifier? cs = some (name, rest) ↔
      cs = (quoteIdentifier (String.ofList name)).toList ++ rest ∧ rest.head? ≠ some '"' := by
  have hquoted : (quoteIdentifier (String.ofList name)).toList ++ rest = '"' :: (escapeIdentifier name ++ '"' :: rest) := by
    simp [quoteIdentifier]
  rw [hquoted]
  constructor
  · intro h
    rw [readIdentifier?.eq_def] at h
    split at h
    · obtain ⟨rfl, hrest⟩ := eq_of_readInside? h
      exact ⟨rfl, hrest⟩
    · cases h
  · rintro ⟨rfl, hrest⟩
    exact readInside?_escapeIdentifier name hrest

lemma readIdentifier?_quoteIdentifier (name : String) {rest : List Char} (h : rest.head? ≠ some '"') :
    readIdentifier? ((quoteIdentifier name).toList ++ rest) = some (name.toList, rest) := by
  rw [readIdentifier?_eq_some_iff, String.ofList_toList]
  exact ⟨rfl, h⟩

lemma readIdentifier?_quoteIdentifier_self (name : String) :
    readIdentifier? (quoteIdentifier name).toList = some (name.toList, []) := by
  have hnone : ([] : List Char).head? ≠ some '"' := by simp
  simpa using readIdentifier?_quoteIdentifier name hnone

/-- No two names are quoted alike. -/
theorem quoteIdentifier_injective : Function.Injective quoteIdentifier := by
  intro a b h
  have ha := readIdentifier?_quoteIdentifier_self a
  rw [h, readIdentifier?_quoteIdentifier_self] at ha
  exact String.toList_inj.1 (Prod.ext_iff.1 (Option.some.inj ha)).1.symm

/-! ### lists of identifiers -/

lemma length_lt_of_readIdentifier? {cs name rest : List Char} (h : readIdentifier? cs = some (name, rest)) :
    rest.length < cs.length := by
  obtain ⟨rfl, -⟩ := readIdentifier?_eq_some_iff.1 h
  simp [quoteIdentifier]
  omega

/-- The names in a list of quoted identifiers with commas between them. -/
def readIdentifiers? (cs : List Char) : Option (List String) :=
  match _h : readIdentifier? cs with
  | some (name, []) => some [String.ofList name]
  | some (name, ',' :: rest) => (readIdentifiers? rest).map (String.ofList name :: ·)
  | _ => none
termination_by cs.length
decreasing_by
  have hlength := length_lt_of_readIdentifier? _h
  rw [List.length_cons] at hlength
  omega

lemma readIdentifiers?_last {cs name : List Char} (h : readIdentifier? cs = some (name, [])) :
    readIdentifiers? cs = some [String.ofList name] := by
  rw [readIdentifiers?]
  split <;> simp_all

lemma readIdentifiers?_more {cs name rest : List Char} (h : readIdentifier? cs = some (name, ',' :: rest)) :
    readIdentifiers? cs = (readIdentifiers? rest).map (String.ofList name :: ·) := by
  rw [readIdentifiers?]
  split <;> simp_all

def identifierList (names : List String) : String := String.intercalate "," (names.map quoteIdentifier)

lemma toList_intercalate_cons_cons (separator first second : String) (rest : List String) :
    (String.intercalate separator (first :: second :: rest)).toList =
      first.toList ++ (separator.toList ++ (String.intercalate separator (second :: rest)).toList) := by
  rw [String.intercalate_cons_cons, String.toList_append, String.toList_append, List.append_assoc]

lemma identifierList_cons_cons (first second : String) (rest : List String) :
    (identifierList (first :: second :: rest)).toList =
      (quoteIdentifier first).toList ++ ',' :: (identifierList (second :: rest)).toList :=
  toList_intercalate_cons_cons "," _ _ _

/-- **Reading a list of quoted identifiers gives the names that it was made of**, and nothing else can be read. -/
theorem readIdentifiers?_eq_some_iff {cs : List Char} {names : List String} :
    readIdentifiers? cs = some names ↔ names ≠ [] ∧ cs = (identifierList names).toList := by
  constructor
  · intro h
    fun_induction readIdentifiers? cs generalizing names with
    | case1 cs name hread =>
      cases h
      obtain ⟨rfl, -⟩ := readIdentifier?_eq_some_iff.1 hread
      exact ⟨List.cons_ne_nil _ _, by simp [identifierList]⟩
    | case2 cs name rest hread ih =>
      obtain ⟨names', hrest, rfl⟩ := Option.map_eq_some_iff.1 h
      obtain ⟨hne, rfl⟩ := ih hrest
      obtain ⟨rfl, -⟩ := readIdentifier?_eq_some_iff.1 hread
      obtain ⟨second, rest', rfl⟩ := List.exists_cons_of_ne_nil hne
      exact ⟨List.cons_ne_nil _ _, (identifierList_cons_cons _ _ _).symm⟩
    | case3 => cases h
  · rintro ⟨hne, rfl⟩
    obtain ⟨first, rest, rfl⟩ := List.exists_cons_of_ne_nil hne
    clear hne
    induction rest generalizing first with
    | nil =>
      have hread := readIdentifier?_quoteIdentifier_self first
      rw [identifierList, List.map_singleton, String.intercalate_singleton, readIdentifiers?_last hread,
        String.ofList_toList]
    | cons second rest ih =>
      -- the comma behind a name is no quote, so that the name ends there
      have hcomma : (',' :: (identifierList (second :: rest)).toList).head? ≠ some '"' := by simp
      have hread := readIdentifier?_quoteIdentifier first hcomma
      rw [identifierList_cons_cons, readIdentifiers?_more hread, ih, String.ofList_toList]
      rfl

end WarehouseSql.Text
