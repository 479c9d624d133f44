import WarehouseSql.Proofs.Query.Nesting

/-!
The structure of conditions in compiled SQL.  `Dialect.ChainMirrors` says that a text falls apart into what the clauses
compile to, one piece for each and with their connectives, and that the inside of a group falls apart likewise.
**Conditions without raw SQL mirror their clauses under a case-sensitive policy** (`Dialect.conditions_mirror`), in
`where` and in joins, whatever names, values and queries they hold.
-/

namespace WarehouseSql

namespace Dialect

/-! ### clauses and their texts -/

/-- Whether a text is what a condition compiles to. -/
def Writes (d : Dialect) (condition : Condition) (sql : String) : Prop :=
  ∃ f, d.condition condition = .ok f ∧ f.sql = sql

mutual
/-- Whether a piece of a text is a condition.  A group is one group in parentheses, and the text inside falls apart into
its clauses. -/
def Mirrors (d : Dialect) : Condition → String → Prop
  | .group clauses, piece =>
    d.Writes (.group clauses) piece ∧
      ∃ inside, Template.IsGroup piece inside ∧ d.ChainMirrors clauses (Template.conditions inside)
  | condition, piece => d.Writes condition piece

/-- Whether the pieces of a text are the conditions of clauses, one for each and in their order.  The first piece has no
connective. -/
def ChainMirrors (d : Dialect) : List Clause → String × List (Connective × String) → Prop
  | [], _ => False
  | ⟨_, condition⟩ :: clauses, pieces => d.Mirrors condition pieces.1 ∧ d.LinksMirror clauses pieces.2

/-- Whether further pieces of a text are the conditions of further clauses, with their connectives. -/
def LinksMirror (d : Dialect) : List Clause → List (Connective × String) → Prop
  | [], pieces => pieces = []
  | ⟨connective, condition⟩ :: clauses, pieces =>
    ∃ piece rest, pieces = (connective, piece) :: rest ∧ d.Mirrors condition piece ∧ d.LinksMirror clauses rest
end

/-- Whether a text is a join, the conditions of which mirror its clauses. -/
def JoinMirrors (d : Dialect) (join : Join) (sql : String) : Prop :=
  let joined := join.kind.keyword ++ " join " ++ d.policy.table join.table
  if join.clauses.isEmpty then sql = joined
  else ∃ conditions, sql = joined ++ " on " ++ conditions ∧ d.ChainMirrors join.clauses (Template.conditions conditions)

variable {d : Dialect} (hcase : d.policy.caseSensitive = true)

lemma mirrors_of_writes {c : Condition} (hgroup : ∀ clauses, c ≠ .group clauses) {sql : String} (h : d.Writes c sql) :
    d.Mirrors c sql := by
  rw [Mirrors.eq_2 d c sql hgroup]
  exact h

lemma mirrors_group {clauses : List Clause}
    (h : ∀ cs, clauses ≠ [] → d.clauseFragments clauses = .ok cs → (∀ c ∈ cs, Separable c.2.sql) ∧
      d.ChainMirrors clauses (Template.conditions (chain cs).sql))
    {f : Fragment} (hf : d.condition (.group clauses) = .ok f) : d.Mirrors (.group clauses) f.sql := by
  have hwrites : d.Writes (.group clauses) f.sql := ⟨f, hf, rfl⟩
  rw [condition] at hf
  split_ifs at hf with hempty
  · cases hf
  · have hne : clauses ≠ [] := mt List.isEmpty_iff.2 hempty
    obtain ⟨cs, hcs, hf⟩ := Compiled.bind_eq_ok.1 hf
    cases hf
    obtain ⟨hseparable, hmirrors⟩ := h cs hne hcs
    have hinside : Nests 0 0 (chain cs).sql := nests_chain fun c hc => (hseparable c hc).nests
    have hopen : Nests 0 1 "(" := .word (by decide)
    have hclose : Nests 1 0 ")" := .word (by decide)
    rw [Mirrors]
    exact ⟨hwrites, _, ⟨rfl, hinside.isBalanced, ((hopen.append hinside.succ).append hclose).isBalanced⟩, hmirrors⟩

lemma exists_of_clauseFragments {connective : Connective} {condition : Condition} {clauses : List Clause}
    {cs : List (Connective × Fragment)} (h : d.clauseFragments (⟨connective, condition⟩ :: clauses) = .ok cs) :
    ∃ first others, d.condition condition = .ok first ∧ d.clauseFragments clauses = .ok others ∧
      cs = (connective, first) :: others := by
  rw [clauseFragments] at h
  obtain ⟨first, hfirst, h⟩ := Compiled.bind_eq_ok.1 h
  obtain ⟨others, hothers, h⟩ := Compiled.bind_eq_ok.1 h
  exact ⟨first, others, hfirst, hothers, (Except.ok.inj h).symm⟩

mutual
lemma mirrors_condition (hcase : d.policy.caseSensitive = true) :
    ∀ c : Condition, c.isRawFree d.policy.admits = true → ∀ f, d.condition c = .ok f → d.Mirrors c f.sql
  | .group clauses, h => fun _ => mirrors_group fun cs hne hcs =>
    ⟨separable_clauseFragments hcase clauses h cs hcs, mirrors_chain hcase clauses h cs hne hcs⟩
  | .compare .., _ => fun f hf => mirrors_of_writes (by simp) ⟨f, hf, rfl⟩
  | .compareColumns .., _ => fun f hf => mirrors_of_writes (by simp) ⟨f, hf, rfl⟩
  | .among .., _ => fun f hf => mirrors_of_writes (by simp) ⟨f, hf, rfl⟩
  | .isNull .., _ => fun f hf => mirrors_of_writes (by simp) ⟨f, hf, rfl⟩
  | .between .., _ => fun f hf => mirrors_of_writes (by simp) ⟨f, hf, rfl⟩
  | .raw .., _ => fun f hf => mirrors_of_writes (by simp) ⟨f, hf, rfl⟩
  | .existsRow .., _ => fun f hf => mirrors_of_writes (by simp) ⟨f, hf, rfl⟩
  | .amongRows .., _ => fun f hf => mirrors_of_writes (by simp) ⟨f, hf, rfl⟩
  | .comparePart .., _ => fun f hf => mirrors_of_writes (by simp) ⟨f, hf, rfl⟩

/-- **The text of clauses falls apart into their conditions**, and so do the groups in it. -/
lemma mirrors_chain (hcase : d.policy.caseSensitive = true) :
    ∀ clauses : List Clause, clausesRawFree d.policy.admits clauses = true → ∀ cs, clauses ≠ [] →
      d.clauseFragments clauses = .ok cs → d.ChainMirrors clauses (Template.conditions (chain cs).sql)
  | [], _ => fun _ hne _ => absurd rfl hne
  | ⟨connective, condition⟩ :: clauses, h => by
    intro cs _ hcs
    have hseparable := separable_clauseFragments hcase _ h cs hcs
    simp only [clausesRawFree, Bool.and_eq_true] at h
    obtain ⟨first, others, hfirst, hothers, rfl⟩ := exists_of_clauseFragments hcs
    obtain ⟨hseparableFirst, hseparableOthers⟩ := List.forall_mem_cons.1 hseparable
    rw [conditions_chain hseparableFirst hseparableOthers, ChainMirrors]
    exact ⟨mirrors_condition hcase condition h.1 first hfirst, mirrors_links hcase clauses h.2 others hothers⟩

lemma mirrors_links (hcase : d.policy.caseSensitive = true) :
    ∀ clauses : List Clause, clausesRawFree d.policy.admits clauses = true →
      ∀ cs, d.clauseFragments clauses = .ok cs → d.LinksMirror clauses (cs.map fun next => (next.1, next.2.sql))
  | [], _ => by
    intro cs hcs
    cases hcs
    rw [LinksMirror]
    rfl
  | ⟨connective, condition⟩ :: clauses, h => by
    intro cs hcs
    simp only [clausesRawFree, Bool.and_eq_true] at h
    obtain ⟨first, others, hfirst, hothers, rfl⟩ := exists_of_clauseFragments hcs
    rw [LinksMirror]
    exact ⟨_, _, rfl, mirrors_condition hcase condition h.1 first hfirst,
      mirrors_links hcase clauses h.2 others hothers⟩
end

lemma exists_of_joinFragments {join : Join} {joins : List Join} {fs : List Fragment}
    (h : d.joinFragments (join :: joins) = .ok fs) :
    ∃ cs others, d.clauseFragments join.clauses = .ok cs ∧ d.joinFragments joins = .ok others ∧
      fs = (if cs.isEmpty then Fragment.text (join.kind.keyword ++ " join " ++ d.policy.table join.table)
        else Fragment.text (join.kind.keyword ++ " join " ++ d.policy.table join.table) ++ " on " ++ chain cs) ::
          others := by
  cases join
  rw [joinFragments] at h
  obtain ⟨cs, hcs, h⟩ := Compiled.bind_eq_ok.1 h
  obtain ⟨others, hothers, h⟩ := Compiled.bind_eq_ok.1 h
  exact ⟨cs, others, hcs, hothers, (Except.ok.inj h).symm⟩

lemma isEmpty_of_clauseFragments {clauses : List Clause} {cs : List (Connective × Fragment)}
    (h : d.clauseFragments clauses = .ok cs) : cs.isEmpty = clauses.isEmpty := by
  cases clauses with
  | nil =>
    cases h
    rfl
  | cons clause clauses =>
    cases clause
    obtain ⟨first, others, -, -, rfl⟩ := exists_of_clauseFragments h
    rfl

include hcase in
lemma mirrors_joins {joins : List Join} (h : joinsRawFree d.policy.admits joins = true) {fs : List Fragment}
    (hfs : d.joinFragments joins = .ok fs) : List.Forall₂ (fun join f => d.JoinMirrors join f.sql) joins fs := by
  induction joins generalizing fs with
  | nil =>
    cases hfs
    exact .nil
  | cons join joins ih =>
    obtain ⟨cs, others, hcs, hothers, rfl⟩ := exists_of_joinFragments hfs
    obtain ⟨kind, table, clauses⟩ := join
    simp only [joinsRawFree, Bool.and_eq_true] at h
    obtain ⟨⟨-, hclauses⟩, hjoins⟩ := h
    refine .cons ?_ (ih hjoins hothers)
    rw [JoinMirrors, isEmpty_of_clauseFragments hcs]
    split_ifs with hempty
    · rfl
    · have hne : clauses ≠ [] := mt List.isEmpty_iff.2 hempty
      exact ⟨_, rfl, mirrors_chain hcase clauses hclauses cs hne hcs⟩

/-- **Compiled conditions keep their structure**, in clauses and in joins. -/
theorem conditions_mirror (d : Dialect) (hcase : d.policy.caseSensitive = true) :
    (∀ clauses : List Clause, clauses ≠ [] → clausesRawFree (fun _ => true) clauses = true →
      ∀ cs, d.clauseFragments clauses = .ok cs → d.ChainMirrors clauses (Template.conditions (chain cs).sql)) ∧
    ∀ joins : List Join, joinsRawFree (fun _ => true) joins = true →
      ∀ fs, d.joinFragments joins = .ok fs → List.Forall₂ (fun join f => d.JoinMirrors join f.sql) joins fs := by
  have hadmits : (fun _ => true) = d.policy.admits :=
    funext fun name => (Policy.admits_of_caseSensitive hcase name).symm
  rw [hadmits]
  exact ⟨fun clauses hne h cs hcs => mirrors_chain hcase clauses h cs hne hcs,
    fun joins h fs hfs => mirrors_joins hcase h hfs⟩

/-- Rooms by a range, or by a name or the lack of a floor. -/
def roomClauses : List Clause :=
  [⟨.and, .between (.name "beds and cots") (.value (.int 1)) (.value (.int 2)) false⟩,
    ⟨.or, .group [⟨.and, .compare (.name "or") "=" (.value (.text "suite"))⟩, ⟨.or, .isNull (.name "floor") false⟩]⟩]

theorem conditions_mirror_roomClauses :
    ChainMirrors ⟨⟨true, ""⟩, .lenient⟩ roomClauses
      (Template.conditions "\"beds and cots\" between ? and ? or (\"or\" = ? or \"floor\" is null)") := by
  have hcompiled : clauseFragments ⟨⟨true, ""⟩, .lenient⟩ roomClauses =
      .ok [(.and, ⟨"\"beds and cots\" between ? and ?", [.int 1, .int 2]⟩),
        (.or, ⟨"(\"or\" = ? or \"floor\" is null)", [.text "suite"]⟩)] := by decide +kernel
  have htext : (chain [(.and, ⟨"\"beds and cots\" between ? and ?", [.int 1, .int 2]⟩),
      (.or, ⟨"(\"or\" = ? or \"floor\" is null)", [.text "suite"]⟩)]).sql =
        "\"beds and cots\" between ? and ? or (\"or\" = ? or \"floor\" is null)" := by decide +kernel
  have hmirrors := (conditions_mirror ⟨⟨true, ""⟩, .lenient⟩ rfl).1 roomClauses (by simp [roomClauses]) (by decide) _
    hcompiled
  rw [htext] at hmirrors
  exact hmirrors

end Dialect

end WarehouseSql
