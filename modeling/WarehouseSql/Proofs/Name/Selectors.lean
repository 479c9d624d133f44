import Mathlib.Data.List.DropRight
import WarehouseSql.Proofs.Name.Qualified

/-!
JSON selectors.  A selector names a column and the keys of a path into its JSON, with arrows between them, and **every
name with an arrow is a selector's** (`JsonSelector.exists_text_eq`).  It is read back key by key
(`JsonSelector.cutAtArrow_text`, `JsonSelector.splitOnArrow_path`), and **looking a selector up takes the quotes off
the ends of its trimmed keys** (`JsonSelector.jsonSelector_text`).
-/

namespace WarehouseSql

namespace Text

/-! ### arrows -/

lemma cutAtArrow_cons {c : Char} {cs : List Char} (h : c = '-' → cs.head? ≠ some '>') :
    cutAtArrow (c :: cs) = (cutAtArrow cs).map fun parts => (c :: parts.1, parts.2) := by
  rw [cutAtArrow.eq_def]
  split
  · next heq => cases heq
  · next heq =>
    cases heq
    exact absurd rfl (h rfl)
  · next heq =>
    cases heq
    rfl

lemma splitOnArrow_cons {c : Char} {cs piece : List Char} {pieces : List (List Char)}
    (h : c = '-' → cs.head? ≠ some '>') (hcs : splitOnArrow cs = piece :: pieces) :
    splitOnArrow (c :: cs) = (c :: piece) :: pieces := by
  rw [splitOnArrow.eq_def]
  split
  · next heq => cases heq
  · next heq =>
    cases heq
    exact absurd rfl (h rfl)
  · next heq =>
    cases heq
    rw [hcs]

lemma head?_append_arrow {as : List Char} (bs : List Char) (h : as.head? ≠ some '>') :
    (as ++ '-' :: '>' :: bs).head? ≠ some '>' := by
  cases as with
  | nil => simp
  | cons a as => exact h

lemma cutAtArrow_append_arrow {as : List Char} (h : cutAtArrow as = none) (bs : List Char) :
    cutAtArrow (as ++ '-' :: '>' :: bs) = some (as, bs) := by
  induction as with
  | nil => rfl
  | cons a as ih =>
    obtain ⟨hfirst, hrest⟩ := cutAtArrow_cons_eq_none.1 h
    rw [List.cons_append, cutAtArrow_cons fun ha => head?_append_arrow bs (hfirst ha), ih hrest]
    rfl

lemma splitOnArrow_of_none {cs : List Char} (h : cutAtArrow cs = none) : splitOnArrow cs = [cs] := by
  induction cs with
  | nil => rfl
  | cons c cs ih =>
    obtain ⟨hfirst, hrest⟩ := cutAtArrow_cons_eq_none.1 h
    exact splitOnArrow_cons hfirst (ih hrest)

lemma splitOnArrow_append_arrow {as : List Char} (h : cutAtArrow as = none) (bs : List Char) :
    splitOnArrow (as ++ '-' :: '>' :: bs) = as :: splitOnArrow bs := by
  induction as with
  | nil => rfl
  | cons a as ih =>
    obtain ⟨hfirst, hrest⟩ := cutAtArrow_cons_eq_none.1 h
    exact splitOnArrow_cons (fun ha => head?_append_arrow bs (hfirst ha)) (ih hrest)

/-- What stands before the first arrow has none, and the text is put together again around it. -/
lemma eq_of_cutAtArrow {cs as bs : List Char} (h : cutAtArrow cs = some (as, bs)) :
    cutAtArrow as = none ∧ cs = as ++ '-' :: '>' :: bs := by
  induction cs generalizing as with
  | nil => cases h
  | cons c cs ih =>
    by_cases hfirst : c = '-' → cs.head? ≠ some '>'
    · rw [cutAtArrow_cons hfirst, Option.map_eq_some_iff] at h
      obtain ⟨⟨as', bs'⟩, hcut, hparts⟩ := h
      cases hparts
      obtain ⟨hnone, rfl⟩ := ih hcut
      refine ⟨cutAtArrow_cons_eq_none.2 ⟨fun hc => ?_, hnone⟩, rfl⟩
      cases as' with
      | nil => simp
      | cons a as' => exact hfirst hc
    · simp only [Classical.not_imp, not_not] at hfirst
      obtain ⟨rfl, hhead⟩ := hfirst
      obtain ⟨rest, rfl⟩ := List.head?_eq_some_iff.1 hhead
      cases h
      exact ⟨rfl, rfl⟩

lemma splitOnArrow_ne_nil (cs : List Char) : splitOnArrow cs ≠ [] := by
  cases hcut : cutAtArrow cs with
  | none =>
    rw [splitOnArrow_of_none hcut]
    exact List.cons_ne_nil _ _
  | some parts =>
    obtain ⟨hnone, rfl⟩ := eq_of_cutAtArrow hcut
    rw [splitOnArrow_append_arrow hnone]
    exact List.cons_ne_nil _ _

/-- Every text is some without arrows and arrows between them. -/
lemma exists_intercalate_arrow (cs : List Char) : ∃ first rest,
    (∀ key ∈ first :: rest, cutAtArrow key.toList = none) ∧ (String.intercalate "->" (first :: rest)).toList = cs := by
  induction hlength : cs.length using Nat.strong_induction_on generalizing cs with
  | _ length ih =>
    cases hcut : cutAtArrow cs with
    | none =>
      refine ⟨String.ofList cs, [], List.forall_mem_singleton.2 ?_, ?_⟩
      · rwa [String.toList_ofList]
      · rw [String.intercalate_singleton, String.toList_ofList]
    | some parts =>
      obtain ⟨as, bs⟩ := parts
      obtain ⟨hnone, rfl⟩ := eq_of_cutAtArrow hcut
      have hshorter : bs.length < length := by
        rw [← hlength, List.length_append, List.length_cons, List.length_cons]
        omega
      obtain ⟨first, rest, hkeys, hbs⟩ := ih bs.length hshorter bs rfl
      refine ⟨String.ofList as, first :: rest, List.forall_mem_cons.2 ⟨?_, hkeys⟩, ?_⟩
      · rwa [String.toList_ofList]
      · rw [String.intercalate_cons_cons, String.toList_append, String.toList_append, String.toList_ofList, hbs,
          List.append_assoc]
        rfl

/-! ### quotes -/

def isQuote (c : Char) : Bool := c == '"' || c == '\''

/-- A text without the quotes at its ends. -/
def unquoted (s : String) : String := String.ofList ((s.toList.dropWhile isQuote).rdropWhile isQuote)

/-- A text has a quote at one of its ends. -/
def IsQuoted (s : String) : Prop :=
  s.toList.head?.any isQuote = true ∨ s.toList.getLast?.any isQuote = true

instance : DecidablePred IsQuoted := fun s => by unfold IsQuoted; infer_instance

lemma sublist_unquoted (s : String) : ((s.toList.dropWhile isQuote).rdropWhile isQuote).Sublist s.toList :=
  (List.rdropWhile_prefix _ _).sublist.trans (List.dropWhile_sublist _)

/-- Taking off quotes leaves a text as it is or makes it shorter. -/
lemma length_unquoted_lt {s : String} (h : unquoted s ≠ s) : (unquoted s).length < s.length := by
  rw [unquoted, String.length_ofList, ← String.length_toList (s := s)]
  refine lt_of_le_of_ne (sublist_unquoted s).length_le fun hlength => h ?_
  rw [unquoted, (sublist_unquoted s).eq_of_length hlength, String.ofList_toList]

lemma unquoted_eq_self_iff (s : String) : unquoted s = s ↔ ¬ IsQuoted s := by
  have hstart : s.toList.dropWhile isQuote = s.toList ↔ ¬ s.toList.head?.any isQuote = true := by
    cases s.toList with
    | nil => simp
    | cons c cs =>
      rw [List.dropWhile_eq_self_iff]
      simp
  have hend : s.toList.rdropWhile isQuote = s.toList ↔ ¬ s.toList.getLast?.any isQuote = true := by
    rw [List.rdropWhile_eq_self_iff]
    by_cases hnil : s.toList = []
    · simp [hnil]
    · simp [hnil, List.getLast?_eq_some_getLast hnil]
  rw [IsQuoted, not_or, ← hstart, ← hend, unquoted]
  constructor
  · intro h
    have hboth : (s.toList.dropWhile isQuote).rdropWhile isQuote = s.toList := by
      rw [← String.toList_ofList (l := List.rdropWhile _ _), h]
    -- characters taken off the start are missed in the length
    have hdrop : s.toList.dropWhile isQuote = s.toList := by
      refine (List.dropWhile_sublist _).eq_of_length_le ?_
      have hlength := congrArg List.length hboth
      have hle := (List.rdropWhile_prefix isQuote (s.toList.dropWhile isQuote)).length_le
      omega
    exact ⟨hdrop, by rwa [hdrop] at hboth⟩
  · rintro ⟨hdrop, hrdrop⟩
    rw [hdrop, hrdrop, String.ofList_toList]

/-! ### words between separators -/

/-- Words between separators become no longer where each may only become shorter, and keep their length only if each
word is kept. -/
lemma length_intercalate_map {f : String → String} (hf : ∀ s, f s ≠ s → (f s).length < s.length) (separator : String)
    (words : List String) :
    (String.intercalate separator (words.map f)).length ≤ (String.intercalate separator words).length ∧
      ((String.intercalate separator (words.map f)).length = (String.intercalate separator words).length →
        ∀ word ∈ words, f word = word) := by
  have hword : ∀ s, (f s).length ≤ s.length ∧ ((f s).length = s.length → f s = s) := by
    intro s
    by_cases h : f s = s
    · exact ⟨by rw [h], fun _ => h⟩
    · exact ⟨(hf s h).le, fun hlength => absurd hlength (hf s h).ne⟩
  induction words with
  | nil => exact ⟨le_refl _, fun _ => List.forall_mem_nil _⟩
  | cons first rest ih =>
    obtain ⟨hfirst, hkept⟩ := hword first
    cases rest with
    | nil =>
      rw [List.map_singleton, String.intercalate_singleton, String.intercalate_singleton]
      exact ⟨hfirst, fun h => List.forall_mem_singleton.2 (hkept h)⟩
    | cons second rest =>
      obtain ⟨hrest, hall⟩ := ih
      rw [List.map_cons] at hrest hall
      rw [List.map_cons, List.map_cons, String.intercalate_cons_cons, String.intercalate_cons_cons]
      simp only [String.length_append]
      -- no word becomes longer, so that the lengths agree only word by word
      refine ⟨by omega, fun h => List.forall_mem_cons.2 ⟨hkept (by omega), hall (by omega)⟩⟩

lemma intercalate_map_eq_iff {f : String → String} (hf : ∀ s, f s ≠ s → (f s).length < s.length) (separator : String)
    (words : List String) :
    String.intercalate separator (words.map f) = String.intercalate separator words ↔
      ∀ word ∈ words, f word = word := by
  constructor
  · intro h
    exact (length_intercalate_map hf separator words).2 (congrArg _ h)
  · intro h
    rw [List.map_congr_left h, List.map_id'']
    exact fun _ => rfl

lemma exists_intercalate_concat (separator : String) (words : List String) (last : String) :
    ∃ before, String.intercalate separator (words ++ [last]) = before ++ last := by
  induction words with
  | nil => exact ⟨"", by rw [List.nil_append, String.intercalate_singleton, String.empty_append]⟩
  | cons word words ih =>
    obtain ⟨before, hbefore⟩ := ih
    obtain ⟨second, rest, hrest⟩ := List.exists_cons_of_ne_nil (List.append_ne_nil_of_right_ne_nil words
      (List.cons_ne_nil last []))
    refine ⟨word ++ separator ++ before, ?_⟩
    rw [List.cons_append, hrest, String.intercalate_cons_cons, ← hrest, hbefore, ← String.append_assoc]

end Text

/-! ### selectors -/

/-- A column and the keys of a path into its JSON; in none of them stands an arrow. -/
structure JsonSelector where
  column : String
  first : String
  rest : List String
  column_free : Text.cutAtArrow column.toList = none
  keys_free : ∀ key ∈ first :: rest, Text.cutAtArrow key.toList = none

namespace JsonSelector

variable (s : JsonSelector)

/-- The keys of a selector with arrows between them. -/
def path : String := String.intercalate "->" (s.first :: s.rest)

def text : String := s.column ++ "->" ++ s.path

/-- The keys of a selector without blanks at their ends. -/
def keys : List String := (s.first :: s.rest).map Text.trim

lemma cutAtArrow_text : Text.cutAtArrow s.text.toList = some (s.column.toList, s.path.toList) := by
  rw [text, String.toList_append, String.toList_append, List.append_assoc]
  exact Text.cutAtArrow_append_arrow s.column_free _

lemma splitOnArrow_path : Text.splitOnArrow s.path.toList = (s.first :: s.rest).map String.toList := by
  obtain ⟨column, first, rest, -, hkeys⟩ := s
  unfold path
  induction rest generalizing first with
  | nil =>
    rw [String.intercalate_singleton]
    exact Text.splitOnArrow_of_none (hkeys first List.mem_cons_self)
  | cons second rest ih =>
    obtain ⟨hfirst, hrest⟩ := List.forall_mem_cons.1 hkeys
    rw [String.intercalate_cons_cons, String.toList_append, String.toList_append, List.append_assoc]
    exact (Text.splitOnArrow_append_arrow hfirst _).trans (congrArg _ (ih second hrest))

/-- **Every name with an arrow is the text of a selector.** -/
theorem exists_text_eq {name : String} (h : Text.cutAtArrow name.toList ≠ none) :
    ∃ s : JsonSelector, s.text = name := by
  obtain ⟨⟨as, bs⟩, hcut⟩ := Option.ne_none_iff_exists'.1 h
  obtain ⟨hnone, hname⟩ := Text.eq_of_cutAtArrow hcut
  obtain ⟨first, rest, hfree, hbs⟩ := Text.exists_intercalate_arrow bs
  refine ⟨⟨String.ofList as, first, rest, by rwa [String.toList_ofList], hfree⟩, ?_⟩
  have htext : String.ofList as ++ "->" ++ String.intercalate "->" (first :: rest) = name := by
    rw [← String.toList_inj, String.toList_append, String.toList_append, String.toList_ofList, hbs, hname,
      List.append_assoc]
    rfl
  exact htext

/-- Looking a selector up takes the quotes off the ends of its keys. -/
lemma jsonSelector_text (policy : Policy) :
    policy.jsonSelector s.text =
      "get_path(" ++ policy.path (Text.dotted s.column) ++ ", "
        ++ Text.quoteLiteral (String.intercalate "." (s.keys.map Text.unquoted)) ++ ")" := by
  have hkeys : Policy.jsonKeys s.path.toList = s.keys.map Text.unquoted := by
    rw [Policy.jsonKeys, splitOnArrow_path, keys, List.map_map, List.map_map]
    refine List.map_congr_left fun key _ => ?_
    rw [Function.comp_apply, Function.comp_apply, Text.unquoted, Text.trim, String.toList_ofList]
    rfl
  rw [Policy.jsonSelector, cutAtArrow_text]
  dsimp only
  rw [String.ofList_toList, hkeys]

end JsonSelector

end WarehouseSql
