import Mathlib.Data.List.Forall2
import Mathlib.Data.List.TakeWhile
import ProfilingOperator.Proofs.Selection

/-!
# Reading queries

A compiled selector is written in the platform's query syntax, in which a comma stands both between requirements and
between the values of one.  Here the syntax is given as a grammar, and a reader of it:

    Clause text q : the text writes one requirement, as k=v, k in (a,b), k notin (a), k or !k
    Writes text qs : clauses with commas between them
    readQuery text : the requirements a text writes

The reader follows the grammar, so a text writes one list of requirements at most, and what a compiled selector writes
is read back.  This needs keys and values in which no sign of the syntax stands; no letter, digit, or one of `-_./` is
such a sign.

    readQuery_eq_some_iff : readQuery text = some qs ↔ Writes text qs
    writes_query : what a compiled selector writes are its requirements
    query_unambiguous : equal queries are of equal requirements
-/

namespace ProfilingOperator.Selector

/-! ## Grammar -/

/-- A sign of the syntax. -/
def isMark (c : Char) : Bool :=
  c = ',' || c = '=' || c = '!' || c = ' ' || c = '(' || c = ')'

/-- A text without signs of the syntax. -/
def IsWord (w : String) : Prop :=
  ∀ c ∈ w.toList, isMark c = false

/-- A word that is not empty. -/
def IsKey (key : String) : Prop :=
  key ≠ "" ∧ IsWord key

/-- A text that writes one requirement. -/
inductive Clause : String → Requirement → Prop where
  | pair {key value : String} (hkey : IsKey key) (hvalue : IsWord value) :
      Clause (key ++ "=" ++ value) ⟨key, .isIn, [value]⟩
  | isIn {key : String} {values : List String} (hkey : IsKey key) (nonempty : values ≠ [])
      (hvalues : ∀ v ∈ values, IsWord v) : Clause (key ++ " in (" ++ ",".intercalate values ++ ")") ⟨key, .isIn, values⟩
  | notIn {key : String} {values : List String} (hkey : IsKey key) (nonempty : values ≠ [])
      (hvalues : ∀ v ∈ values, IsWord v) :
      Clause (key ++ " notin (" ++ ",".intercalate values ++ ")") ⟨key, .notIn, values⟩
  | present {key : String} (hkey : IsKey key) : Clause key ⟨key, .present, []⟩
  | absent {key : String} (hkey : IsKey key) : Clause ("!" ++ key) ⟨key, .absent, []⟩

/-- A text that writes a list of requirements. -/
def Writes (text : String) (qs : List Requirement) : Prop :=
  ∃ clauses, text = ",".intercalate clauses ∧ List.Forall₂ Clause clauses qs

/-- A character of which the platform's labels are made. -/
def isLabelChar (c : Char) : Bool :=
  c.isAlphanum || c = '-' || c = '_' || c = '.' || c = '/'

/-! ## Algorithm -/

def wordOf (cs : List Char) : List Char :=
  cs.takeWhile (!isMark ·)

def afterWord (cs : List Char) : List Char :=
  cs.dropWhile (!isMark ·)

/-- Reads words with commas between them, up to a closing parenthesis. -/
def readValues : List Char → Option (List (List Char) × List Char)
  | [] => none
  | c :: r =>
    if c = ')' then some ([[]], r)
    else if c = ',' then (readValues r).map fun p => ([] :: p.1, p.2)
    else if isMark c then none
    else
      match readValues r with
      | some (v :: vs, rest) => some ((c :: v) :: vs, rest)
      | _ => none

/-- Reads what is said of a key. -/
def readKeyed (key : String) (cs : List Char) : Option (Requirement × List Char) :=
  match cs with
  | '=' :: r => some (⟨key, .isIn, [String.ofList (wordOf r)]⟩, afterWord r)
  | ' ' :: 'i' :: 'n' :: ' ' :: '(' :: r => (readValues r).map fun p => (⟨key, .isIn, p.1.map String.ofList⟩, p.2)
  | ' ' :: 'n' :: 'o' :: 't' :: 'i' :: 'n' :: ' ' :: '(' :: r =>
    (readValues r).map fun p => (⟨key, .notIn, p.1.map String.ofList⟩, p.2)
  | _ => some (⟨key, .present, []⟩, cs)

/-- Reads one requirement. -/
def readClause (cs : List Char) : Option (Requirement × List Char) :=
  match cs with
  | '!' :: r => if wordOf r = [] then none else some (⟨String.ofList (wordOf r), .absent, []⟩, afterWord r)
  | _ => if wordOf cs = [] then none else readKeyed (String.ofList (wordOf cs)) (afterWord cs)

/-! ## Lemmas -/

/-! ### Words -/

theorem isMark_eq_false_of_isLabelChar {c : Char} (h : isLabelChar c = true) : isMark c = false := by
  rw [Bool.eq_false_iff]
  intro hmark
  simp only [isMark, Bool.or_eq_true, decide_eq_true_eq] at hmark
  obtain ((((rfl | rfl) | rfl) | rfl) | rfl) | rfl := hmark <;> cases h

theorem isWord_of_isLabelChar {w : String} (h : ∀ c ∈ w.toList, isLabelChar c = true) : IsWord w :=
  fun c hc => isMark_eq_false_of_isLabelChar (h c hc)

section
variable {w : List Char} {rest : List Char}

theorem wordOf_append (hw : ∀ c ∈ w, isMark c = false) (hrest : ∀ c r, rest = c :: r → isMark c = true) :
    wordOf (w ++ rest) = w ∧ afterWord (w ++ rest) = rest := by
  have hall : ∀ c ∈ w, (!isMark c) = true := fun c hc => by rw [hw c hc]; rfl
  unfold wordOf afterWord
  rw [List.takeWhile_append_of_pos hall, List.dropWhile_append_of_pos hall]
  cases rest with
  | nil => simp
  | cons c r => simp [hrest c r rfl]

theorem not_isMark_of_mem_wordOf {cs : List Char} : ∀ c ∈ wordOf cs, isMark c = false := by
  intro c hc
  simpa using List.mem_takeWhile_imp hc

theorem wordOf_append_afterWord (cs : List Char) : wordOf cs ++ afterWord cs = cs :=
  List.takeWhile_append_dropWhile

theorem isWord_ofList (hw : ∀ c ∈ w, isMark c = false) : IsWord (String.ofList w) := by
  unfold IsWord
  rwa [String.toList_ofList]

theorem isKey_ofList (hw : ∀ c ∈ w, isMark c = false) (hne : w ≠ []) : IsKey (String.ofList w) := by
  refine ⟨fun h => hne ?_, isWord_ofList hw⟩
  simpa using congrArg String.toList h

end

/-! ### Values -/

theorem readValues_word {w cs v rest : List Char} {vs : List (List Char)} (hw : ∀ c ∈ w, isMark c = false)
    (h : readValues cs = some (v :: vs, rest)) : readValues (w ++ cs) = some ((w ++ v) :: vs, rest) := by
  induction w with
  | nil => exact h
  | cons c w ih =>
    obtain ⟨hc, hw⟩ := List.forall_mem_cons.1 hw
    have hend : c ≠ ')' := by rintro rfl; cases hc
    have hcomma : c ≠ ',' := by rintro rfl; cases hc
    rw [List.cons_append, readValues, if_neg hend, if_neg hcomma, if_neg (by simp [hc]), ih hw]
    rfl

theorem readValues_append {vs : List (List Char)} (rest : List Char) (hne : vs ≠ [])
    (hvs : ∀ v ∈ vs, ∀ c ∈ v, isMark c = false) :
    readValues ([','].intercalate vs ++ ')' :: rest) = some (vs, rest) := by
  induction vs with
  | nil => exact absurd rfl hne
  | cons v vs ih =>
    obtain ⟨hv, hvs⟩ := List.forall_mem_cons.1 hvs
    cases vs with
    | nil =>
      have hend : readValues (')' :: rest) = some ([[]], rest) := rfl
      simpa using readValues_word hv hend
    | cons v' vs =>
      have hmore : readValues (',' :: ([','].intercalate (v' :: vs) ++ ')' :: rest)) = some ([] :: v' :: vs, rest) := by
        rw [readValues, if_neg (by decide), if_pos rfl, ih (List.cons_ne_nil _ _) hvs]
        rfl
      simpa using readValues_word hv hmore

theorem values_of_readValues {cs rest : List Char} {vs : List (List Char)} (h : readValues cs = some (vs, rest)) :
    vs ≠ [] ∧ (∀ v ∈ vs, ∀ c ∈ v, isMark c = false) ∧ cs = [','].intercalate vs ++ ')' :: rest := by
  induction cs generalizing vs with
  | nil => cases h
  | cons c r ih =>
    rw [readValues] at h
    split_ifs at h with hend hcomma hmark
    · cases h
      exact ⟨List.cons_ne_nil _ _, by simp, by simp [hend]⟩
    · obtain ⟨⟨vs', rest'⟩, hr, heq⟩ := Option.map_eq_some_iff.1 h
      cases heq
      obtain ⟨hne, hwords, rfl⟩ := ih hr
      refine ⟨List.cons_ne_nil _ _, by simpa using hwords, ?_⟩
      rw [List.intercalate_cons_of_ne_nil hne, hcomma]
      rfl
    · split at h
      · next v vs' rest' hr =>
        cases h
        obtain ⟨-, hwords, rfl⟩ := ih hr
        obtain ⟨hv, hvs⟩ := List.forall_mem_cons.1 hwords
        have hc : isMark c = false := by simpa using hmark
        refine ⟨List.cons_ne_nil _ _, List.forall_mem_cons.2 ⟨List.forall_mem_cons.2 ⟨hc, hv⟩, hvs⟩, ?_⟩
        cases vs' <;> simp
      · cases h

/-! ### Clauses -/

/-- What can follow a clause: nothing, or a comma. -/
def Follows (rest : List Char) : Prop :=
  ∀ c r, rest = c :: r → c = ','

theorem Follows.isMark {rest : List Char} (h : Follows rest) : ∀ c r, rest = c :: r → isMark c = true := by
  intro c r hrest
  rw [h c r hrest]
  rfl

section
variable {key : String} {rest : List Char}

/-- A clause that begins with its key. -/
theorem readClause_key (hkey : IsKey key) (hrest : ∀ c r, rest = c :: r → isMark c = true) :
    readClause (key.toList ++ rest) = readKeyed key rest := by
  have hne : key.toList ≠ [] := fun h => hkey.1 (String.toList_eq_nil_iff.1 h)
  obtain ⟨hword, hafter⟩ := wordOf_append hkey.2 hrest
  unfold readClause
  split
  · next r hcs =>
    obtain ⟨c, w, hw⟩ := List.exists_cons_of_ne_nil hne
    rw [hw, List.cons_append] at hcs
    have hmark := hkey.2 c (by rw [hw]; exact List.mem_cons_self)
    rw [(List.cons.inj hcs).1] at hmark
    cases hmark
  · rw [hword, hafter, if_neg hne, String.ofList_toList]

theorem readKeyed_present (hrest : Follows rest) : readKeyed key rest = some (⟨key, .present, []⟩, rest) := by
  unfold readKeyed
  split
  · next hcs => exact absurd (hrest _ _ rfl) (by decide)
  · next hcs => exact absurd (hrest _ _ rfl) (by decide)
  · next hcs => exact absurd (hrest _ _ rfl) (by decide)
  · rfl

theorem map_ofList_toList (values : List String) : (values.map String.toList).map String.ofList = values := by
  simp [Function.comp_def]

theorem readValues_words {values : List String} (hne : values ≠ []) (hvalues : ∀ v ∈ values, IsWord v) :
    readValues ((",".intercalate values).toList ++ ')' :: rest) = some (values.map String.toList, rest) := by
  rw [String.toList_intercalate]
  refine readValues_append rest (by simpa using hne) fun v hv => ?_
  obtain ⟨value, hvalue, rfl⟩ := List.mem_map.1 hv
  exact hvalues value hvalue

/-- A clause is read where it ends. -/
theorem readClause_append {text : String} {q : Requirement} (h : Clause text q) (hrest : Follows rest) :
    readClause (text.toList ++ rest) = some (q, rest) := by
  -- the sign behind the key tells the forms apart, and a key alone is followed by none of them
  cases h with
  | @pair key value hkey hvalue =>
    obtain ⟨hword, hafter⟩ := wordOf_append hvalue hrest.isMark
    have htext : (key ++ "=" ++ value).toList ++ rest = key.toList ++ '=' :: (value.toList ++ rest) := by simp
    rw [htext, readClause_key hkey (by rintro c r ⟨⟩; rfl)]
    simp only [readKeyed, hword, hafter, String.ofList_toList]
  | @isIn key values hkey nonempty hvalues =>
    have htext : (key ++ " in (" ++ ",".intercalate values ++ ")").toList ++ rest =
        key.toList ++ ' ' :: 'i' :: 'n' :: ' ' :: '(' :: ((",".intercalate values).toList ++ ')' :: rest) := by simp
    rw [htext, readClause_key hkey (by rintro c r ⟨⟩; rfl)]
    simp only [readKeyed, readValues_words nonempty hvalues, Option.map_some, map_ofList_toList]
  | @notIn key values hkey nonempty hvalues =>
    have htext : (key ++ " notin (" ++ ",".intercalate values ++ ")").toList ++ rest =
        key.toList ++ ' ' :: 'n' :: 'o' :: 't' :: 'i' :: 'n' :: ' ' :: '(' ::
          ((",".intercalate values).toList ++ ')' :: rest) := by simp
    rw [htext, readClause_key hkey (by rintro c r ⟨⟩; rfl)]
    simp only [readKeyed, readValues_words nonempty hvalues, Option.map_some, map_ofList_toList]
  | present hkey =>
    rw [readClause_key hkey hrest.isMark, readKeyed_present hrest]
  | @absent key hkey =>
    have hne : key.toList ≠ [] := fun h => hkey.1 (String.toList_eq_nil_iff.1 h)
    obtain ⟨hword, hafter⟩ := wordOf_append hkey.2 hrest.isMark
    have htext : ("!" ++ key).toList ++ rest = '!' :: (key.toList ++ rest) := by simp
    rw [htext]
    simp [readClause, hword, hafter, hne]

theorem keyed_of_readKeyed {cs : List Char} {q : Requirement} (hkey : IsKey key)
    (h : readKeyed key cs = some (q, rest)) :
    ∃ text, Clause text q ∧ key.toList ++ cs = text.toList ++ rest := by
  unfold readKeyed at h
  split at h
  · next r =>
    cases h
    refine ⟨_, .pair hkey (isWord_ofList not_isMark_of_mem_wordOf), ?_⟩
    simp [wordOf_append_afterWord]
  · next r =>
    obtain ⟨⟨vs, rest'⟩, hvs, heq⟩ := Option.map_eq_some_iff.1 h
    cases heq
    obtain ⟨hne, hwords, rfl⟩ := values_of_readValues hvs
    refine ⟨_, .isIn hkey (by simpa using hne) ?_, ?_⟩
    · simpa using fun v hv => isWord_ofList (hwords v hv)
    · simp [Function.comp_def]
  · next r =>
    obtain ⟨⟨vs, rest'⟩, hvs, heq⟩ := Option.map_eq_some_iff.1 h
    cases heq
    obtain ⟨hne, hwords, rfl⟩ := values_of_readValues hvs
    refine ⟨_, .notIn hkey (by simpa using hne) ?_, ?_⟩
    · simpa using fun v hv => isWord_ofList (hwords v hv)
    · simp [Function.comp_def]
  · cases h
    exact ⟨key, .present hkey, rfl⟩

/-- What is read as a clause is one. -/
theorem clause_of_readClause {cs : List Char} {q : Requirement} (h : readClause cs = some (q, rest)) :
    ∃ text, Clause text q ∧ cs = text.toList ++ rest := by
  unfold readClause at h
  split at h
  · next r =>
    split_ifs at h with hempty
    cases h
    refine ⟨_, .absent (isKey_ofList not_isMark_of_mem_wordOf hempty), ?_⟩
    simp [wordOf_append_afterWord]
  · split_ifs at h with hempty
    obtain ⟨text, hclause, hcs⟩ := keyed_of_readKeyed (isKey_ofList not_isMark_of_mem_wordOf hempty) h
    rw [String.toList_ofList, wordOf_append_afterWord] at hcs
    exact ⟨text, hclause, hcs⟩

theorem Clause.ne_nil {text : String} {q : Requirement} (h : Clause text q) : text.toList ≠ [] := by
  cases h with
  | present hkey => exact fun hnil => hkey.1 (String.toList_eq_nil_iff.1 hnil)
  | _ => simp

/-- Reading a clause takes something off the text. -/
theorem length_of_readClause {cs : List Char} {q : Requirement} (h : readClause cs = some (q, rest)) :
    rest.length < cs.length := by
  obtain ⟨text, hclause, rfl⟩ := clause_of_readClause h
  have hpos := List.length_pos_iff.2 hclause.ne_nil
  rw [List.length_append]
  omega

end

/-! ### Queries -/

/-- Reads requirements with commas between them. -/
def readClauses (cs : List Char) : Option (List Requirement) :=
  match _hread : readClause cs with
  | some (q, []) => some [q]
  | some (q, ',' :: r) => (readClauses r).map (q :: ·)
  | _ => none
  termination_by cs.length
  decreasing_by exact Nat.lt_of_succ_lt (length_of_readClause _hread)

/-- Reads a query. -/
def readQuery (text : String) : Option (List Requirement) :=
  if text = "" then some [] else readClauses text.toList

theorem readClauses_last {cs : List Char} {q : Requirement} (h : readClause cs = some (q, [])) :
    readClauses cs = some [q] := by
  rw [readClauses]
  split
  · next q' hread =>
    rw [h] at hread
    cases hread
    rfl
  · next q' r hread =>
    rw [h] at hread
    cases hread
  · next hlast _ => exact absurd h (hlast q)

theorem readClauses_comma {cs r : List Char} {q : Requirement} (h : readClause cs = some (q, ',' :: r)) :
    readClauses cs = (readClauses r).map (q :: ·) := by
  rw [readClauses]
  split
  · next q' hread =>
    rw [h] at hread
    cases hread
  · next q' r' hread =>
    rw [h] at hread
    cases hread
    rfl
  · next _ hcomma => exact absurd h (hcomma q r)

theorem readClauses_intercalate {clauses : List String} {qs : List Requirement} (h : List.Forall₂ Clause clauses qs)
    (hne : clauses ≠ []) : readClauses (",".intercalate clauses).toList = some qs := by
  induction h with
  | nil => exact absurd rfl hne
  | @cons text q clauses qs hclause hmore ih =>
    cases clauses with
    | nil =>
      cases hmore
      rw [String.intercalate_singleton]
      refine readClauses_last ?_
      simpa using readClause_append hclause (show Follows [] by rintro c r ⟨⟩)
    | cons text' clauses =>
      have hread := readClause_append hclause
        (show Follows (',' :: (",".intercalate (text' :: clauses)).toList) by rintro c r ⟨⟩; rfl)
      have htext : (",".intercalate (text :: text' :: clauses)).toList =
          text.toList ++ ',' :: (",".intercalate (text' :: clauses)).toList := by
        rw [String.intercalate_cons_cons, String.toList_append, String.toList_append, List.append_assoc]
        rfl
      rw [htext, readClauses_comma hread, ih (List.cons_ne_nil _ _), Option.map_some]

/-- What is read as requirements is a list of clauses that say them. -/
theorem clauses_of_readClauses (cs : List Char) {qs : List Requirement} (h : readClauses cs = some qs) :
    ∃ clauses, clauses ≠ [] ∧ cs = (",".intercalate clauses).toList ∧ List.Forall₂ Clause clauses qs := by
  -- along the recursion of the reader, as the text gets shorter by a clause and a comma
  induction cs using readClauses.induct generalizing qs with
  | case1 cs q hread =>
    rw [readClauses_last hread] at h
    cases h
    obtain ⟨text, hclause, rfl⟩ := clause_of_readClause hread
    exact ⟨[text], List.cons_ne_nil _ _, by simp, .cons hclause .nil⟩
  | case2 cs q r hread ih =>
    rw [readClauses_comma hread] at h
    obtain ⟨qs', hqs, rfl⟩ := Option.map_eq_some_iff.1 h
    obtain ⟨clauses, hne, rfl, hclauses⟩ := ih hqs
    obtain ⟨text, hclause, rfl⟩ := clause_of_readClause hread
    refine ⟨text :: clauses, List.cons_ne_nil _ _, ?_, .cons hclause hclauses⟩
    rw [String.intercalate_cons_of_ne_nil hne, String.toList_append, String.toList_append, List.append_assoc]
    rfl
  | case3 cs hlast hcomma =>
    rw [readClauses] at h
    split at h
    · next q hread => exact absurd hread (hlast q)
    · next q r hread => exact absurd hread (hcomma q r)
    · cases h

/-- The reader reads what is written, and nothing else. -/
theorem readQuery_eq_some_iff {text : String} {qs : List Requirement} : readQuery text = some qs ↔ Writes text qs := by
  unfold readQuery
  constructor
  · intro h
    split_ifs at h with hempty
    · cases h
      exact ⟨[], by rw [hempty, String.intercalate_nil], .nil⟩
    · obtain ⟨clauses, -, htext, hclauses⟩ := clauses_of_readClauses text.toList h
      exact ⟨clauses, String.toList_injective htext, hclauses⟩
  · rintro ⟨clauses, rfl, hclauses⟩
    cases hclauses with
    | nil => rw [String.intercalate_nil, if_pos rfl]
    | @cons text q clauses qs hclause hmore =>
      have hread := readClauses_intercalate (.cons hclause hmore) (List.cons_ne_nil _ _)
      have hne : ",".intercalate (text :: clauses) ≠ "" := by
        intro hempty
        obtain ⟨c, r, htext⟩ := List.exists_cons_of_ne_nil hclause.ne_nil
        have hlist := congrArg String.toList hempty
        cases clauses <;> simp [htext] at hlist
      rw [if_neg hne, hread]

/-! ### What selectors write -/

/-- A requirement whose key and values are words. -/
def Requirement.IsPlain (q : Requirement) : Prop :=
  IsWord q.key ∧ ∀ v ∈ q.values, IsWord v

/-- A requirement that passed its check. -/
def Requirement.IsSound (q : Requirement) : Prop :=
  q.key ≠ "" ∧ (q.operator.takesValues = true ↔ q.values ≠ [])

/-- A sound requirement of plain words is written as a clause that says it. -/
theorem clause_query {q : Requirement} (hsound : q.IsSound) (hplain : q.IsPlain) : Clause q.query q := by
  obtain ⟨key, operator, values⟩ := q
  obtain ⟨hne, hvalues⟩ := hsound
  obtain ⟨hword, hwords⟩ := hplain
  have hkey : IsKey key := ⟨hne, hword⟩
  cases operator with
  | isIn =>
    cases values with
    | nil => exact absurd rfl (hvalues.1 rfl)
    | cons v vs =>
      cases vs with
      | nil => exact .pair hkey (hwords v List.mem_cons_self)
      | cons v' vs => exact .isIn hkey (List.cons_ne_nil _ _) hwords
  | notIn => exact .notIn hkey (hvalues.1 rfl) hwords
  | present =>
    obtain rfl : values = [] := by simpa [Operator.takesValues] using hvalues
    exact .present hkey
  | absent =>
    obtain rfl : values = [] := by simpa [Operator.takesValues] using hvalues
    exact .absent hkey

theorem isSound_of_compile {s : Selector} {c : Compiled} (h : compile s = .ok c) : ∀ q ∈ c.requirements, q.IsSound := by
  obtain ⟨pairs, expressions, hpairs, hexpressions, rfl⟩ := compile_eq_ok_iff.1 h
  refine List.forall_mem_append.2 ⟨?_, ?_⟩
  · intro q hq
    obtain ⟨pair, -, hok⟩ := exists_of_compileAll hpairs q hq
    obtain ⟨hkey, rfl⟩ := compilePair_eq_ok_iff.1 hok
    exact ⟨hkey, by simp [Operator.takesValues]⟩
  · intro q hq
    obtain ⟨e, -, hok⟩ := exists_of_compileAll hexpressions q hq
    obtain ⟨hkey, op, -, hvalues, rfl⟩ := compileExpression_eq_ok_iff.1 hok
    exact ⟨hkey, hvalues⟩

/-- What a compiled selector writes are its requirements. -/
theorem writes_query {s : Selector} {c : Compiled} (h : compile s = .ok c) (hplain : ∀ q ∈ c.requirements, q.IsPlain) :
    Writes c.query c.requirements := by
  refine ⟨c.requirements.map Requirement.query, rfl, ?_⟩
  rw [List.forall₂_map_left_iff, List.forall₂_same]
  exact fun q hq => clause_query (isSound_of_compile h q hq) (hplain q hq)

/-- Queries of plain selectors are read back, so that equal ones are of equal requirements and accept the same labels.
What is read are the requirements that labels have to meet, all of them, to be accepted. -/
theorem query_unambiguous {s t : Selector} {c d : Compiled} (hc : compile s = .ok c) (hd : compile t = .ok d)
    (hcp : ∀ q ∈ c.requirements, q.IsPlain) (hdp : ∀ q ∈ d.requirements, q.IsPlain) :
    (c.query = d.query → c.requirements = d.requirements ∧ ∀ labels, c.accepts labels = d.accepts labels) ∧
    readQuery c.query = some c.requirements ∧
    (∀ labels, c.accepts labels = true ↔ ∀ q ∈ c.requirements, q.accepts labels = true) ∧
    ∀ text qs, readQuery text = some qs ↔ Writes text qs := by
  have hreadc := readQuery_eq_some_iff.2 (writes_query hc hcp)
  have hreadd := readQuery_eq_some_iff.2 (writes_query hd hdp)
  refine ⟨fun hquery => ?_, hreadc, fun labels => Compiled.accepts_eq_true_iff, fun text qs => readQuery_eq_some_iff⟩
  have hsame : c.requirements = d.requirements := by
    rw [hquery, hreadd] at hreadc
    exact (Option.some.inj hreadc).symm
  exact ⟨hsame, fun labels => by rw [Compiled.accepts, Compiled.accepts, hsame]⟩

/-- One label with two values. -/
def Sample.listed : Selector :=
  ⟨StringMap.empty, [⟨"app", "In", ["cart", "edge"]⟩]⟩

/-- Two labels, of which one has a value. -/
def Sample.split : Selector :=
  ⟨StringMap.ofList [("app", "cart")], [⟨"edge", "Exists", []⟩]⟩

/-- Of two selectors whose queries differ in signs of the syntax only, each query is read as its own requirements. -/
theorem queries_read_apart :
    readQuery "app in (cart,edge)" = some [⟨"app", .isIn, ["cart", "edge"]⟩] ∧
    readQuery "app=cart,edge" = some [⟨"app", .isIn, ["cart"]⟩, ⟨"edge", .present, []⟩] ∧
    Compiled.query ⟨[⟨"app", .isIn, ["cart", "edge"]⟩]⟩ ≠
      Compiled.query ⟨[⟨"app", .isIn, ["cart"]⟩, ⟨"edge", .present, []⟩]⟩ := by
  have hlisted : compile Sample.listed = .ok ⟨[⟨"app", .isIn, ["cart", "edge"]⟩]⟩ := by decide +kernel
  have hsplit : compile Sample.split = .ok ⟨[⟨"app", .isIn, ["cart"]⟩, ⟨"edge", .present, []⟩]⟩ := by decide +kernel
  have hlabels : (["app", "cart", "edge"].all fun w => w.toList.all isLabelChar) = true := by decide +kernel
  have hword : ∀ w ∈ ["app", "cart", "edge"], IsWord w :=
    fun w hw => isWord_of_isLabelChar (List.all_eq_true.1 (List.all_eq_true.1 hlabels w hw))
  have hplain : ∀ q : Requirement,
      q ∈ [⟨"app", .isIn, ["cart", "edge"]⟩, ⟨"app", .isIn, ["cart"]⟩, ⟨"edge", .present, []⟩] → q.IsPlain := by
    simp [Requirement.IsPlain, hword]
  obtain ⟨hquery, hread, -⟩ := query_unambiguous hlisted hsplit
    (fun q hq => hplain q (by simp_all)) (fun q hq => hplain q (by simp_all))
  obtain ⟨-, hreadSplit, -⟩ := query_unambiguous hsplit hlisted
    (fun q hq => hplain q (by simp_all)) (fun q hq => hplain q (by simp_all))
  exact ⟨hread, hreadSplit, fun h => absurd (hquery h).1 (by decide)⟩

end ProfilingOperator.Selector
