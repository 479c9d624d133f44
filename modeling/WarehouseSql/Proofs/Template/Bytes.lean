import WarehouseSql.Proofs.Name.Spelling
import WarehouseSql.Proofs.Text.Utf8

/-!
Templates cut by bytes.  The scan goes through the UTF-8 of a statement by positions and cuts it before and after each
marker (`Template.cuts`); behind a backslash it goes on two bytes further on, which may be inside a character or behind
the end.  **What stands between its cuts are the segments of the statement**, so each cut is at the boundary of a
character (`Template.readCuts_cuts`).
-/

namespace WarehouseSql

open Text (utf8 asChar runEnd slice? IsRange PassesOver)

namespace Template

/-! ### the scan -/

/-- The position behind the quote that closes a region, from a position inside it. -/
def quotedEnd (bytes : List UInt8) (quote : Char) (i : Nat) : Nat :=
  if i < bytes.length then
    if quote = '\'' ∧ bytes[i]? = some '\\'.toUInt8 then quotedEnd bytes quote (i + 2)
    else if bytes[i]? = some quote.toUInt8 then
      if bytes[i + 1]? = some quote.toUInt8 then quotedEnd bytes quote (i + 2) else i + 1
    else quotedEnd bytes quote (i + 1)
  else bytes.length
termination_by bytes.length - i

/-- The position behind the first of some bytes in a row, from a position on. -/
def endAfter (bytes needle : List UInt8) (i : Nat) : Nat :=
  if i < bytes.length then
    if needle <+: bytes.drop i then i + needle.length else endAfter bytes needle (i + 1)
  else bytes.length
termination_by bytes.length - i

/-- The position behind the region that begins at a position. -/
def regionEnd? (bytes : List UInt8) (i : Nat) : Option Nat :=
  if bytes[i]? = some '\''.toUInt8 then some (quotedEnd bytes '\'' (i + 1))
  else if bytes[i]? = some '"'.toUInt8 then some (quotedEnd bytes '"' (i + 1))
  else if bytes[i]? = some '-'.toUInt8 ∧ bytes[i + 1]? = some '-'.toUInt8 then
    some (endAfter bytes (utf8 ['\n']) (i + 2))
  else if bytes[i]? = some '/'.toUInt8 ∧ bytes[i + 1]? = some '*'.toUInt8 then
    some (endAfter bytes (utf8 ['*', '/']) (i + 2))
  else if bytes[i]? = some '$'.toUInt8 ∧ bytes[i + 1]? = some '$'.toUInt8 then
    some (endAfter bytes (utf8 ['$', '$']) (i + 2))
  else none

/-- Whether a colon at a position begins a named marker. -/
def startsNamed (bytes : List UInt8) (i : Nat) : Bool :=
  (bytes[i + 1]?.any fun b => startsName (asChar b)) &&
    (i == 0 || bytes[i - 1]?.any fun b => allowsMarker (some (asChar b)))

/-- A cut of a statement: the text between two positions, a positional marker, or a named one with its name between two
positions. -/
inductive Cut where
  | text (start stop : Nat)
  | positional
  | named (start stop : Nat)
deriving DecidableEq

lemma le_quotedEnd (bytes : List UInt8) (quote : Char) (i : Nat) : min i bytes.length ≤ quotedEnd bytes quote i := by
  fun_induction quotedEnd bytes quote i <;> omega

lemma le_endAfter (bytes needle : List UInt8) (i : Nat) : min i bytes.length ≤ endAfter bytes needle i := by
  fun_induction endAfter bytes needle i <;> omega

lemma lt_regionEnd {bytes : List UInt8} {i stop : Nat} (h : regionEnd? bytes i = some stop) : i < stop := by
  have hbyte {j : Nat} {c : Char} (hj : bytes[j]? = some c.toUInt8) : j < bytes.length :=
    (List.getElem?_eq_some_iff.1 hj).1
  unfold regionEnd? at h
  split_ifs at h with hsingle hdouble hdash hslash hdollar <;> obtain rfl := Option.some.inj h
  · have hle := le_quotedEnd bytes '\'' (i + 1)
    have hlt := hbyte hsingle
    omega
  · have hle := le_quotedEnd bytes '"' (i + 1)
    have hlt := hbyte hdouble
    omega
  · have hle := le_endAfter bytes (utf8 ['\n']) (i + 2)
    have hlt := hbyte hdash.2
    omega
  · have hle := le_endAfter bytes (utf8 ['*', '/']) (i + 2)
    have hlt := hbyte hslash.2
    omega
  · have hle := le_endAfter bytes (utf8 ['$', '$']) (i + 2)
    have hlt := hbyte hdollar.2
    omega

/-- The cuts from a position on, the text before which begins at another. -/
def cutsFrom (bytes : List UInt8) (textStart i : Nat) : List Cut :=
  if _hi : i < bytes.length then
    match _hregion : regionEnd? bytes i with
    | some stop => cutsFrom bytes textStart stop
    | none =>
      if bytes[i]? = some '?'.toUInt8 then .text textStart i :: .positional :: cutsFrom bytes (i + 1) (i + 1)
      else if bytes[i]? = some ':'.toUInt8 ∧ startsNamed bytes i = true then
        let stop := runEnd continuesName bytes (i + 1)
        .text textStart i :: .named (i + 1) stop :: cutsFrom bytes stop stop
      else cutsFrom bytes textStart (i + 1)
  else [.text textStart bytes.length]
termination_by bytes.length - i
decreasing_by
  · have hlt := lt_regionEnd _hregion
    omega
  · omega
  · have hle := Text.le_runEnd continuesName bytes (i + 1)
    omega
  · omega

def cuts (sql : String) : List Cut := cutsFrom sql.toUTF8.data.toList 0 0

/-- The segments that a statement has between cuts; there are none if a cut is not at the boundary of a character. -/
def readCuts (sql : String) : List Cut → Option (List Segment)
  | [] => some []
  | .text start stop :: cuts => do
    let part ← slice? sql start stop
    let segments ← readCuts sql cuts
    return if part = "" then segments else .text part.toList :: segments
  | .positional :: cuts => do
    let segments ← readCuts sql cuts
    return .positional :: segments
  | .named start stop :: cuts => do
    let name ← slice? sql start stop
    let segments ← readCuts sql cuts
    return .named name :: segments

/-- A cut is at boundaries of characters. -/
def Cut.IsWithin (sql : String) : Cut → Prop
  | .text start stop => IsRange sql start stop
  | .positional => True
  | .named start stop => IsRange sql start stop

/-- What can be read between cuts is cut at boundaries of characters. -/
lemma isWithin_of_readCuts {sql : String} {cuts : List Cut} {segments : List Segment}
    (h : readCuts sql cuts = some segments) : ∀ cut ∈ cuts, cut.IsWithin sql := by
  induction cuts generalizing segments with
  | nil => exact fun _ hcut => absurd hcut List.not_mem_nil
  | cons cut cuts ih =>
    cases cut with
    | text start stop =>
      obtain ⟨part, hpart, hrest⟩ := Option.bind_eq_some_iff.1 h
      obtain ⟨rest, hread, -⟩ := Option.bind_eq_some_iff.1 hrest
      exact List.forall_mem_cons.2 ⟨Text.isRange_of_slice? hpart, ih hread⟩
    | positional =>
      obtain ⟨rest, hread, -⟩ := Option.bind_eq_some_iff.1 h
      exact List.forall_mem_cons.2 ⟨trivial, ih hread⟩
    | named start stop =>
      obtain ⟨name, hname, hrest⟩ := Option.bind_eq_some_iff.1 h
      obtain ⟨rest, hread, -⟩ := Option.bind_eq_some_iff.1 hrest
      exact List.forall_mem_cons.2 ⟨Text.isRange_of_slice? hname, ih hread⟩

/-! ### regions by bytes -/

lemma passesOver_quotedEnd {quote : Char} (hquote : quote.toNat < 128) (bytes : List UInt8) :
    PassesOver bytes (quotedEnd bytes quote) := by
  intro i b hb hbeyond
  have hi : i < bytes.length := (List.getElem?_eq_some_iff.1 hb).1
  have hne {d : Char} : d.toNat < 128 → bytes[i]? ≠ some d.toUInt8 := Text.getElem?_ne_of_le hb hbeyond
  rw [quotedEnd.eq_def bytes quote i, if_pos hi, if_neg fun h => hne (by decide) h.2, if_neg (hne hquote)]

lemma quotedEnd_of_le {bytes : List UInt8} {i : Nat} (quote : Char) (h : bytes.length ≤ i) :
    quotedEnd bytes quote i = bytes.length := by
  rw [quotedEnd, if_neg (Nat.not_lt.2 h)]

/-- What the scan of a quoted region does at a character; behind a backslash it goes on within the next one. -/
lemma quotedEnd_cons {quote : Char} (hquote : quote.toNat < 128) (done : List Char) (c : Char) (cs : List Char) :
    quotedEnd (utf8 (done ++ c :: cs)) quote (utf8 done).length =
      if quote = '\'' ∧ c = '\\' then quotedEnd (utf8 (done ++ c :: cs)) quote ((utf8 (done ++ [c])).length + 1)
      else if c = quote then
        if cs.head? = some quote then quotedEnd (utf8 (done ++ c :: cs)) quote (utf8 (done ++ [c, quote])).length
        else (utf8 (done ++ [c])).length
      else quotedEnd (utf8 (done ++ c :: cs)) quote (utf8 (done ++ [c])).length := by
  have hi := Text.length_utf8_lt_cons done c cs
  have hnext := (passesOver_quotedEnd hquote (utf8 (done ++ c :: cs))).eq_behind
  rw [quotedEnd.eq_def, if_pos hi]
  simp only [Text.getElem?_utf8, Text.head?_utf8_eq_iff (d := '\\') (by decide), Text.head?_utf8_eq_iff hquote,
    List.head?_cons, Option.some_inj]
  refine ite_congr rfl (fun hescape => ?_) fun _ => ite_congr rfl (fun hclose => ?_) fun _ => hnext
  · rw [Text.length_utf8_concat (hescape.2 ▸ by decide)]
  · subst hclose
    simp only [Text.getElem?_utf8_succ hquote, Text.head?_utf8_eq_iff hquote, List.append_cons done c [c],
      Text.length_utf8_concat hquote]

/-- **A quoted region ends at the same place by bytes as by characters.** -/
lemma quotedEnd_utf8 (quote : Char) (escapes : Bool) (hquote : quote.toNat < 128)
    (hescapes : escapes = true ↔ quote = '\'') (done cs : List Char) :
    quotedEnd (utf8 (done ++ cs)) quote (utf8 done).length =
      (utf8 (done ++ (cutQuoted quote escapes cs).1)).length := by
  have htest {c : Char} : (escapes && c == '\\') = true ↔ quote = '\'' ∧ c = '\\' := by
    rw [Bool.and_eq_true, beq_iff_eq, hescapes]
  fun_induction cutQuoted quote escapes cs generalizing done with
  | case1 => rw [List.append_nil, quotedEnd_of_le _ le_rfl]
  | case2 c =>
    -- the last character closes the region or leaves it open
    rw [quotedEnd_cons hquote, quotedEnd_of_le _ (Nat.le_succ _), quotedEnd_of_le _ le_rfl]
    simp
  | case3 c d cs hescape inside rest hcut ih =>
    -- the scan goes on behind the first byte of the character after the backslash
    have hbehind := (passesOver_quotedEnd hquote (utf8 (done ++ [c] ++ d :: cs))).eq_behind
    have hnext := ih (done ++ [c, d])
    rw [hcut] at hnext
    simp only [List.append_assoc, List.cons_append, List.nil_append] at hbehind hnext
    rw [quotedEnd_cons hquote, if_pos (htest.1 hescape), hbehind, hnext]
  | case4 cs inside rest hcut hescape ih =>
    have hnext := ih (done ++ [quote, quote])
    rw [hcut] at hnext
    simp only [List.append_assoc, List.cons_append, List.nil_append] at hnext
    rw [quotedEnd_cons hquote, if_neg fun h => hescape (htest.2 h), if_pos rfl, List.head?_cons, if_pos rfl, hnext]
  | case5 d cs hd hescape =>
    rw [quotedEnd_cons hquote, if_neg fun h => hescape (htest.2 h), if_pos rfl, List.head?_cons,
      if_neg fun h => hd (Option.some.inj h)]
  | case6 c d cs hescape hc inside rest hcut ih =>
    have hnext := ih (done ++ [c])
    rw [hcut] at hnext
    simp only [List.append_assoc, List.cons_append, List.nil_append] at hnext
    rw [quotedEnd_cons hquote, if_neg fun h => hescape (htest.2 h), if_neg hc, hnext]

lemma passesOver_endAfter {needle : List Char} (hne : needle ≠ []) (hneedle : ∀ c ∈ needle, c.toNat < 128)
    (bytes : List UInt8) : PassesOver bytes (endAfter bytes (utf8 needle)) := by
  intro i b hb hbeyond
  have hi : i < bytes.length := (List.getElem?_eq_some_iff.1 hb).1
  obtain ⟨c, more, rfl⟩ := List.exists_cons_of_ne_nil hne
  have hc := hneedle c List.mem_cons_self
  have hno : ¬utf8 (c :: more) <+: bytes.drop i := by
    rw [List.drop_eq_getElem_cons hi, Text.utf8_cons, Text.utf8_singleton_of_lt hc, List.singleton_append,
      List.cons_prefix_cons]
    intro h
    exact Text.getElem?_ne_of_le hb hbeyond hc (by rw [h.1, List.getElem?_eq_getElem hi])
  rw [endAfter.eq_def _ _ i, if_pos hi, if_neg hno]

lemma endAfter_of_le {bytes needle : List UInt8} {i : Nat} (h : bytes.length ≤ i) :
    endAfter bytes needle i = bytes.length := by
  rw [endAfter, if_neg (Nat.not_lt.2 h)]

lemma endAfter_cons {needle : List Char} (hne : needle ≠ []) (hneedle : ∀ c ∈ needle, c.toNat < 128)
    (done : List Char) (c : Char) (cs : List Char) :
    endAfter (utf8 (done ++ c :: cs)) (utf8 needle) (utf8 done).length =
      if needle <+: c :: cs then (utf8 (done ++ needle)).length
      else endAfter (utf8 (done ++ c :: cs)) (utf8 needle) (utf8 (done ++ [c])).length := by
  have hi := Text.length_utf8_lt_cons done c cs
  rw [endAfter.eq_def, if_pos hi]
  simp only [Text.drop_utf8, Text.utf8_prefix_iff hneedle]
  refine ite_congr rfl (fun _ => ?_) fun _ => (passesOver_endAfter hne hneedle _).eq_behind
  rw [Text.utf8_append, List.length_append]

lemma endAfter_line (done cs : List Char) :
    endAfter (utf8 (done ++ cs)) (utf8 ['\n']) (utf8 done).length = (utf8 (done ++ (cutLine cs).1)).length := by
  fun_induction cutLine cs generalizing done with
  | case1 => rw [List.append_nil, endAfter_of_le le_rfl]
  | case2 cs => rw [endAfter_cons (by simp) (by simp), if_pos (by simp)]
  | case3 c cs hc inside rest hcut ih =>
    have hnext := ih (done ++ [c])
    rw [hcut] at hnext
    simp only [List.append_assoc, List.cons_append, List.nil_append] at hnext
    rw [endAfter_cons (by simp) (by simp), if_neg (by simpa [eq_comm] using hc), hnext]

lemma endAfter_pair (first second : Char) (hfirst : first.toNat < 128) (hsecond : second.toNat < 128)
    (done cs : List Char) : endAfter (utf8 (done ++ cs)) (utf8 [first, second]) (utf8 done).length =
      (utf8 (done ++ (cutAfterPair first second cs).1)).length := by
  have hneedle : ∀ c ∈ [first, second], c.toNat < 128 := by simp [hfirst, hsecond]
  fun_induction cutAfterPair first second cs generalizing done with
  | case1 => rw [List.append_nil, endAfter_of_le le_rfl]
  | case2 c => rw [endAfter_cons (by simp) hneedle, if_neg (by simp), endAfter_of_le le_rfl]
  | case3 c d cs hpair =>
    obtain ⟨rfl, rfl⟩ := hpair
    rw [endAfter_cons (by simp) hneedle, if_pos (by simp)]
  | case4 c d cs hpair inside rest hcut ih =>
    have hnext := ih (done ++ [c])
    rw [hcut] at hnext
    simp only [List.append_assoc, List.cons_append, List.nil_append] at hnext
    rw [endAfter_cons (by simp) hneedle, if_neg (by simpa [eq_comm] using hpair), hnext]

lemma getElem?_utf8_pair_iff (first second : Char) (hfirst : first.toNat < 128) (hsecond : second.toNat < 128)
    (done cs : List Char) :
    (utf8 (done ++ cs))[(utf8 done).length]? = some first.toUInt8 ∧
        (utf8 (done ++ cs))[(utf8 done).length + 1]? = some second.toUInt8 ↔
      ∃ rest, cs = first :: second :: rest := by
  rw [Text.getElem?_utf8, Text.head?_utf8_eq_iff hfirst]
  constructor
  · rintro ⟨hhead, hnext⟩
    obtain ⟨more, rfl⟩ := List.head?_eq_some_iff.1 hhead
    rw [Text.getElem?_utf8_succ hfirst, Text.head?_utf8_eq_iff hsecond] at hnext
    obtain ⟨rest, rfl⟩ := List.head?_eq_some_iff.1 hnext
    exact ⟨rest, rfl⟩
  · rintro ⟨rest, rfl⟩
    rw [Text.getElem?_utf8_succ hfirst, Text.head?_utf8_eq_iff hsecond]
    exact ⟨rfl, rfl⟩

/-- **A region ends at the same place by bytes as by characters.** -/
lemma regionEnd?_utf8 (done cs : List Char) :
    regionEnd? (utf8 (done ++ cs)) (utf8 done).length =
      (cutRegion? cs).map fun parts => (utf8 (done ++ parts.1)).length := by
  have hopens {c : Char} (hc : c.toNat < 128) :
      (utf8 (done ++ cs))[(utf8 done).length]? = some c.toUInt8 ↔ ∃ rest, cs = c :: rest := by
    rw [Text.getElem?_utf8, Text.head?_utf8_eq_iff hc, List.head?_eq_some_iff]
  have hsingle := hopens (c := '\'') (by decide)
  have hdouble := hopens (c := '"') (by decide)
  have hdash := getElem?_utf8_pair_iff '-' '-' (by decide) (by decide) done cs
  have hslash := getElem?_utf8_pair_iff '/' '*' (by decide) (by decide) done cs
  have hdollar := getElem?_utf8_pair_iff '$' '$' (by decide) (by decide) done cs
  -- the tests become statements on characters, for which there is no decision procedure
  classical
  simp only [regionEnd?, hsingle, hdouble, hdash, hslash, hdollar]
  clear hopens hsingle hdouble hdash hslash hdollar
  fun_cases cutRegion? cs with
  | case1 cs inside rest hcut =>
    have hend := quotedEnd_utf8 '\'' true (by decide) (by simp) (done ++ ['\'']) cs
    rw [Text.length_utf8_concat (by decide), hcut] at hend
    simpa using hend
  | case2 cs inside rest hcut =>
    have hend := quotedEnd_utf8 '"' false (by decide) (by simp) (done ++ ['"']) cs
    rw [Text.length_utf8_concat (by decide), hcut] at hend
    simpa using hend
  | case3 cs inside rest hcut =>
    have hend := endAfter_line (done ++ ['-'] ++ ['-']) cs
    rw [Text.length_utf8_concat (by decide), Text.length_utf8_concat (by decide), hcut] at hend
    simpa using hend
  | case4 cs inside rest hcut =>
    have hend := endAfter_pair '*' '/' (by decide) (by decide) (done ++ ['/'] ++ ['*']) cs
    rw [Text.length_utf8_concat (by decide), Text.length_utf8_concat (by decide), hcut] at hend
    simpa using hend
  | case5 cs inside rest hcut =>
    have hend := endAfter_pair '$' '$' (by decide) (by decide) (done ++ ['$'] ++ ['$']) cs
    rw [Text.length_utf8_concat (by decide), Text.length_utf8_concat (by decide), hcut] at hend
    simpa using hend
  | case6 _ hsingle hdouble hdash hslash hdollar =>
    rw [if_neg fun ⟨rest, h⟩ => hsingle rest h, if_neg fun ⟨rest, h⟩ => hdouble rest h,
      if_neg fun ⟨rest, h⟩ => hdash rest h, if_neg fun ⟨rest, h⟩ => hslash rest h,
      if_neg fun ⟨rest, h⟩ => hdollar rest h, Option.map_none]

/-! ### markers by bytes -/

lemma isAsciiTest_continuesName : Text.IsAsciiTest continuesName := fun _ h =>
  toNat_lt_of_isNameChar (isNameChar_of_continuesName h)

lemma isAsciiTest_startsName : Text.IsAsciiTest startsName := fun c h =>
  isAsciiTest_continuesName c (continuesName_of_startsName h)

lemma isAsciiTest_allowsMarker : Text.IsAsciiTest fun c => allowsMarker (some c) := by
  have hleads : ∀ c ∈ [' ', '\t', '\n', '\r', '(', ',', '=', '<', '>', '+', '-', '*', '/'], c.toNat < 128 := by simp
  exact fun c h => hleads c (List.contains_iff_mem.1 h)

lemma allowsMarker_getLast? (done rest : List Char) :
    ((utf8 done).length == 0 ||
        (utf8 (done ++ rest))[(utf8 done).length - 1]?.any fun b => allowsMarker (some (asChar b))) =
      allowsMarker done.getLast? := by
  by_cases hdone : done = []
  · subst hdone
    rfl
  · have hpos : ((utf8 done).length == 0) = false := beq_eq_false_iff_ne.2 (mt Text.length_utf8_eq_zero_iff.1 hdone)
    rw [hpos, Bool.false_or, Text.getElem?_utf8_pred hdone, Text.any_getLast?_utf8 isAsciiTest_allowsMarker,
      List.getLast?_eq_some_getLast hdone, Option.any_some]

lemma startsNamed_utf8 (done cs : List Char) :
    startsNamed (utf8 (done ++ ':' :: cs)) (utf8 done).length =
      (allowsMarker done.getLast? && cs.head?.any startsName) := by
  rw [startsNamed, allowsMarker_getLast?, Text.getElem?_utf8_succ (by decide),
    Text.any_head?_utf8 isAsciiTest_startsName, Bool.and_comm]

lemma passesOver_cutsFrom (bytes : List UInt8) (textStart : Nat) : PassesOver bytes (cutsFrom bytes textStart) := by
  intro i b hb hbeyond
  have hi : i < bytes.length := (List.getElem?_eq_some_iff.1 hb).1
  have hne {d : Char} : d.toNat < 128 → bytes[i]? ≠ some d.toUInt8 := Text.getElem?_ne_of_le hb hbeyond
  have hregion : regionEnd? bytes i = none := by
    rw [regionEnd?, if_neg (hne (by decide)), if_neg (hne (by decide)), if_neg fun h => hne (by decide) h.1,
      if_neg fun h => hne (by decide) h.1, if_neg fun h => hne (by decide) h.1]
  rw [cutsFrom.eq_def _ _ i, dif_pos hi]
  split
  · next hsome => rw [hregion] at hsome; cases hsome
  · rw [if_neg (hne (by decide)), if_neg fun h => hne (by decide) h.1]

section Steps

variable (textStart : Nat) (done : List Char) {c : Char} {cs : List Char}

lemma cutsFrom_end : cutsFrom (utf8 done) textStart (utf8 done).length = [.text textStart (utf8 done).length] := by
  rw [cutsFrom, dif_neg (Nat.lt_irrefl _)]

lemma cutsFrom_of_region {region rest : List Char} (h : cutRegion? (c :: cs) = some (region, rest)) :
    cutsFrom (utf8 (done ++ c :: cs)) textStart (utf8 done).length =
      cutsFrom (utf8 (done ++ c :: cs)) textStart (utf8 (done ++ region)).length := by
  have hi := Text.length_utf8_lt_cons done c cs
  have hregion := regionEnd?_utf8 done (c :: cs)
  rw [h, Option.map_some] at hregion
  rw [cutsFrom.eq_def, dif_pos hi]
  split
  · next hstop =>
    obtain rfl := Option.some.inj (hstop.symm.trans hregion)
    rfl
  · next hnone =>
    rw [hregion] at hnone
    cases hnone

/-- What the scan does at a character that begins no region. -/
lemma cutsFrom_of_none (h : cutRegion? (c :: cs) = none) :
    cutsFrom (utf8 (done ++ c :: cs)) textStart (utf8 done).length =
      let next := (utf8 (done ++ [c])).length
      if c = '?' then
        .text textStart (utf8 done).length :: .positional :: cutsFrom (utf8 (done ++ c :: cs)) next next
      else if c = ':' ∧ allowsMarker done.getLast? = true ∧ cs.head?.any startsName = true then
        let stop := (utf8 (done ++ [c] ++ cs.takeWhile continuesName)).length
        .text textStart (utf8 done).length :: .named next stop :: cutsFrom (utf8 (done ++ c :: cs)) stop stop
      else cutsFrom (utf8 (done ++ c :: cs)) textStart next := by
  have hi := Text.length_utf8_lt_cons done c cs
  have hregion := regionEnd?_utf8 done (c :: cs)
  rw [h, Option.map_none] at hregion
  have hbyte {d : Char} (hd : d.toNat < 128) :
      (utf8 (done ++ c :: cs))[(utf8 done).length]? = some d.toUInt8 ↔ c = d := by
    rw [Text.getElem?_utf8, Text.head?_utf8_eq_iff hd, List.head?_cons, Option.some_inj]
  have hnamed : c = ':' → (startsNamed (utf8 (done ++ c :: cs)) (utf8 done).length = true ↔
      allowsMarker done.getLast? = true ∧ cs.head?.any startsName = true) := by
    rintro rfl
    rw [startsNamed_utf8, Bool.and_eq_true]
  rw [cutsFrom.eq_def, dif_pos hi]
  split
  · next hstop =>
    rw [hregion] at hstop
    cases hstop
  · simp only [hbyte (d := '?') (by decide), hbyte (d := ':') (by decide)]
    refine ite_congr rfl (fun hmark => ?_) fun _ => ite_congr ?_ (fun hcolon => ?_) fun _ => ?_
    · rw [Text.length_utf8_concat (hmark ▸ by decide)]
    · exact propext (and_congr_right hnamed)
    · have hnext : (utf8 (done ++ [c])).length = (utf8 done).length + 1 :=
        Text.length_utf8_concat (hcolon.1 ▸ by decide) done
      have hname := Text.runEnd_utf8 isAsciiTest_continuesName (done ++ [c]) cs
      rw [← List.append_cons, hnext] at hname
      rw [hname, hnext]
    · -- any other character may have several bytes, and the scan passes over the further ones
      exact (passesOver_cutsFrom _ _).eq_behind

end Steps

/-! ### segments between cuts -/

/-- Puts text in front of segments, where there is any. -/
def pushText (cs : List Char) (segments : List Segment) : List Segment :=
  if cs = [] then segments else .text cs :: segments

/-- Puts text in front of segments, joined with the text they start with, where there is any. -/
def joinText (cs : List Char) (segments : List Segment) : List Segment :=
  if cs = [] then segments else consText cs segments

lemma joinText_consText (cs : List Char) {more : List Char} (hmore : more ≠ []) (segments : List Segment) :
    joinText cs (consText more segments) = joinText (cs ++ more) segments := by
  rw [joinText, joinText, if_neg fun h => hmore (List.append_eq_nil_iff.1 h).2]
  split_ifs with hcs
  · rw [hcs, List.nil_append]
  · rcases segments with _ | ⟨segment, segments⟩
    · rfl
    · cases segment with
      | text cs => exact congrArg (.text · :: segments) (List.append_assoc ..).symm
      | positional => rfl
      | named name => rfl

lemma joinText_nil (segments : List Segment) : joinText [] segments = segments := rfl

lemma joinText_cons (cs : List Char) {segment : Segment} (h : ∀ more, segment ≠ .text more) (segments : List Segment) :
    joinText cs (segment :: segments) = pushText cs (segment :: segments) := by
  rw [joinText, pushText]
  cases segment with
  | text more => exact absurd rfl (h more)
  | positional => rfl
  | named name => rfl

section Reading

variable {sql : String} {passed part rest : List Char} (cuts : List Cut)

lemma readCuts_text (h : sql.toList = passed ++ (part ++ rest)) :
    readCuts sql (.text (utf8 passed).length (utf8 (passed ++ part)).length :: cuts) =
      (readCuts sql cuts).map (pushText part) := by
  have hempty : String.ofList part = "" ↔ part = [] := by
    rw [← String.toList_inj, String.toList_ofList]
    rfl
  rw [readCuts, Text.slice?_utf8 h]
  cases readCuts sql cuts with
  | none => rfl
  | some segments =>
    simp only [Option.bind_eq_bind, Option.bind_some, hempty, String.toList_ofList]
    rfl

lemma readCuts_named (h : sql.toList = passed ++ (part ++ rest)) :
    readCuts sql (.named (utf8 passed).length (utf8 (passed ++ part)).length :: cuts) =
      (readCuts sql cuts).map (.named (String.ofList part) :: ·) := by
  rw [readCuts, Text.slice?_utf8 h]
  cases readCuts sql cuts <;> rfl

lemma readCuts_positional : readCuts sql (.positional :: cuts) = (readCuts sql cuts).map (.positional :: ·) := by
  rw [readCuts]
  cases readCuts sql cuts <;> rfl

end Reading

/-- What is read between the cuts from a position on are the segments from there on, with the text before it. -/
lemma readCuts_cutsFrom {sql : String} {before : Option Char} {cs : List Char} (passed pending : List Char)
    (hbefore : before = (passed ++ pending).getLast?) (hsql : sql.toList = passed ++ (pending ++ cs)) :
    readCuts sql (cutsFrom (utf8 sql.toList) (utf8 passed).length (utf8 (passed ++ pending)).length) =
      some (joinText pending (segmentsAfter before cs)) := by
  -- what is in front of the text that is not cut yet, that text, and what the scan has not come to
  have hdone : sql.toList = passed ++ pending ++ cs := hsql.trans (List.append_assoc ..).symm
  fun_induction segmentsAfter before cs generalizing passed pending with
  | case1 before =>
    rw [hdone, List.append_nil, cutsFrom_end, readCuts_text [] hsql, readCuts, Option.map_some]
    rfl
  | case2 before c cs region rest hregion ih =>
    obtain ⟨hcs, hne⟩ := append_of_cutRegion? hregion
    have hlast : region.getLast? = (passed ++ (pending ++ region)).getLast? := by
      rw [← List.append_assoc, List.getLast?_append, List.getLast?_eq_some_getLast hne, Option.some_or]
    have hrest : sql.toList = passed ++ (pending ++ region ++ rest) := by
      rw [hsql, ← hcs, List.append_assoc]
    have hnext := ih passed (pending ++ region) hlast hrest (hrest.trans (List.append_assoc ..).symm)
    rw [hdone, cutsFrom_of_region _ _ hregion, ← hdone, joinText_consText pending hne, ← hnext, List.append_assoc]
  | case3 before cs hnone ih =>
    have hmarked : sql.toList = passed ++ pending ++ ['?'] ++ cs := by rw [hdone, ← List.append_cons]
    have hnext := ih (passed ++ pending ++ ['?']) [] (by simp) hmarked (by rw [hmarked, List.append_nil])
    rw [List.append_nil] at hnext
    rw [hdone, cutsFrom_of_none _ _ hnone, if_pos rfl, readCuts_text _ hsql, readCuts_positional, ← hdone, hnext,
      joinText_nil, joinText_cons pending (fun more h => by cases h)]
    rfl
  | case4 before c cs hnone hmark hnamed name ih =>
    subst hbefore
    have hcs : cs = name ++ cs.dropWhile continuesName := (List.takeWhile_append_dropWhile ..).symm
    have hne : name ≠ [] := by
      obtain ⟨d, more, hname, -⟩ := exists_takeWhile_continuesName hnamed.2.2
      exact ne_of_eq_of_ne hname (List.cons_ne_nil d more)
    have hmarked : sql.toList = passed ++ pending ++ [c] ++ (name ++ cs.dropWhile continuesName) := by
      rw [hdone, List.append_cons, ← hcs]
    have hrest := hmarked.trans (List.append_assoc ..).symm
    have hlast : name.getLast? = (passed ++ pending ++ [c] ++ name ++ []).getLast? := by
      rw [List.append_nil, List.getLast?_append, List.getLast?_eq_some_getLast hne, Option.some_or]
    have hnext := ih (passed ++ pending ++ [c] ++ name) [] hlast hrest (by rw [hrest, List.append_nil])
    rw [List.append_nil] at hnext
    rw [hdone, cutsFrom_of_none _ _ hnone, if_neg hmark, if_pos hnamed, readCuts_text _ hsql]
    rw [readCuts_named _ hmarked, ← hdone, hnext, joinText_nil, joinText_cons pending (fun more h => by cases h)]
    rfl
  | case5 before c cs hnone hmark hnamed ih =>
    have hrest : sql.toList = passed ++ (pending ++ [c] ++ cs) := by rw [hsql, ← List.append_cons]
    have hnext := ih passed (pending ++ [c]) (by simp) hrest (hrest.trans (List.append_assoc ..).symm)
    subst hbefore
    rw [hdone, cutsFrom_of_none _ _ hnone, if_neg hmark, if_neg hnamed, ← hdone,
      joinText_consText pending (List.cons_ne_nil c []), ← hnext, List.append_assoc]

/-- **What is read between the cuts of a statement are its segments**, so the cuts are at boundaries of characters. -/
lemma readCuts_cuts (sql : String) : readCuts sql (cuts sql) = some (parse sql).segments := by
  rw [cuts, Text.data_toUTF8]
  exact readCuts_cutsFrom [] [] rfl rfl

/-- A backslash at the end takes the scan behind the end. -/
example : cuts "? '\\" = [.text 0 0, .positional, .text 1 4] := by decide +kernel

end Template

end WarehouseSql
