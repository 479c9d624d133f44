import WarehouseSql.Text.Blank

/-!
Aliases in names.  `cutAtKeyword` cuts a text at the last `as`, in any letter case, that has ASCII white space on
both sides; `splitAlias?` gives what stands before and after it, and **what stands before is shorter than the
name**, so that a name can be taken apart alias by alias.
-/

namespace WarehouseSql.Name

/-- Whether two characters spell `as` in any letter case. -/
def spellsAs (a s : Char) : Bool := (a == 'a' || a == 'A') && (s == 's' || s == 'S')

/-- The texts before and after the last `as` that stands between ASCII blanks. -/
def cutAtKeyword : List Char → Option (List Char × List Char)
  | [] => none
  | c :: cs =>
    match cutAtKeyword cs with
    | some (before, after) => some (c :: before, after)
    | none =>
      match cs with
      | a :: s :: next :: rest =>
        if Text.isAsciiBlank c && spellsAs a s && Text.isAsciiBlank next then some ([c], next :: rest)
        else none
      | _ => none

/-- The name and the alias around the last `as`, unless one of them is blank. -/
def splitAliasChars? (cs : List Char) : Option (List Char × List Char) :=
  match cutAtKeyword cs with
  | none => none
  | some (before, after) =>
    let left := Text.trimEndChars before
    let right := Text.trimStartChars after
    if left.isEmpty || right.isEmpty then none else some (left, right)

def splitAlias? (name : String) : Option (String × String) :=
  (splitAliasChars? name.toList).map fun parts => (String.ofList parts.1, String.ofList parts.2)

/-- The two parts and the keyword make up the text. -/
theorem append_of_cutAtKeyword {cs before after : List Char} (h : cutAtKeyword cs = some (before, after)) :
    ∃ a s, spellsAs a s = true ∧ cs = before ++ a :: s :: after := by
  induction cs generalizing before after with
  | nil => simp [cutAtKeyword] at h
  | cons c cs ih =>
    simp only [cutAtKeyword] at h
    split at h
    · next heq =>
      simp only [Option.some.injEq, Prod.mk.injEq] at h
      obtain ⟨rfl, rfl⟩ := h
      obtain ⟨a, s, has, rfl⟩ := ih heq
      exact ⟨a, s, has, rfl⟩
    · split at h
      · split at h
        · next hif =>
          simp only [Option.some.injEq, Prod.mk.injEq] at h
          obtain ⟨rfl, rfl⟩ := h
          simp only [Bool.and_eq_true] at hif
          exact ⟨_, _, hif.1.2, rfl⟩
        · simp at h
      · simp at h

theorem length_left_of_splitAlias? {name left right : String} (h : splitAlias? name = some (left, right)) :
    left.length < name.length := by
  simp only [splitAlias?, splitAliasChars?, Option.map_eq_some_iff, Prod.mk.injEq] at h
  obtain ⟨parts, h, rfl, rfl⟩ := h
  split at h
  · simp at h
  · next before after heq =>
    obtain ⟨a, s, _, happend⟩ := append_of_cutAtKeyword heq
    split at h
    · simp at h
    · simp only [Option.some.injEq] at h
      subst h
      have hle := Text.length_trimEndChars_le before
      have hlen := congrArg List.length happend
      simp only [List.length_append, List.length_cons, String.length_toList] at hlen
      simp only [String.length_ofList]
      omega

end WarehouseSql.Name
