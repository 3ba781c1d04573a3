import Mathlib.Data.List.Induction
import Mathlib.Data.List.Nodup
import ProfilingOperator.Condition

/-!
# What recorded conditions amount to

Conditions of many kinds are recorded one after the other, each in place of the entry of its kind or at the end.  What
comes of it is said kind by kind.  The history of a kind is its entry at the start, if there is one, followed by what
was recorded of it; the entry at the end says what the last of its history says, and has held since the first of the
run with which the history ends.

    find?_recordAll : the entry of a kind is what its history amounts to
    Since.concat : a history goes on with the stamp it has, or breaks off and starts anew
    kinds_recordAll : the kinds there were stay in order, and new ones follow as they were first recorded
    recorded_history : all of this of every list with one entry of a kind and every sequence
-/

namespace ProfilingOperator.Condition

/-! ## Histories -/

/-- Conditions after some more were recorded, one after the other. -/
def recordAll (calls initial : List Condition) : List Condition :=
  calls.foldl (fun l c => record c l) initial

/-- The conditions of a kind among some, in order. -/
def ofKind (kind : String) (l : List Condition) : List Condition :=
  l.filter fun c => c.kind = kind

/-- The entry a history amounts to: its first condition, refreshed by the others. -/
def amount : List Condition → Option Condition
  | [] => none
  | c :: rest => some (rest.foldl refreshed c)

/-- An entry says what the last condition of a history says. -/
def Repeats (history : List Condition) (e : Condition) : Prop :=
  ∃ c, history.getLast? = some c ∧ e.status = c.status ∧ e.reason = c.reason ∧ e.message = c.message

/-- An entry has the stamp of the first condition of the run of its status with which a history ends. -/
def Since (history : List Condition) (e : Condition) : Prop :=
  ∃ before first rest, history = before ++ first :: rest ∧ (∀ c ∈ first :: rest, c.status = e.status) ∧
    (∀ c ∈ before.getLast?, c.status ≠ e.status) ∧ e.since = first.since

/-! ## Lemmas -/

section
variable {kind : String} {c d e : Condition} {calls initial history l : List Condition}

/-! ### One history -/

theorem amount_concat (history : List Condition) (c : Condition) :
    amount (history ++ [c]) = some (((amount history).map fun d => d.refreshed c).getD c) := by
  cases history with
  | nil => rfl
  | cons d rest => simp [amount, List.foldl_append]

theorem repeats_concat (he : e.status = c.status) (hr : e.reason = c.reason) (hm : e.message = c.message) :
    Repeats (history ++ [c]) e :=
  ⟨c, List.getLast?_concat, he, hr, hm⟩

theorem refreshed_reason (old new : Condition) : (old.refreshed new).reason = new.reason := by
  unfold refreshed
  split <;> rfl

theorem refreshed_message (old new : Condition) : (old.refreshed new).message = new.message := by
  unfold refreshed
  split <;> rfl

/-- A condition that was never there has held since it was recorded. -/
theorem since_singleton (c : Condition) : Since [c] c :=
  ⟨[], c, [], rfl, fun d hd => by rw [List.mem_singleton.1 hd], fun d hd => by simp at hd, rfl⟩

/-- The last condition of a history has the status of the entry. -/
theorem Since.last_status (h : Since history e) : ∀ c ∈ history.getLast?, c.status = e.status := by
  obtain ⟨before, first, rest, rfl, hrun, -, -⟩ := h
  intro c hc
  rw [List.getLast?_append_cons] at hc
  exact hrun c (List.mem_of_getLast? hc)

/-- One more condition of the same status belongs to the run; one of another status starts a new one. -/
theorem Since.concat (h : Since history d) (c : Condition) : Since (history ++ [c]) (d.refreshed c) := by
  unfold refreshed
  split
  · next hsame =>
    obtain ⟨before, first, rest, rfl, hrun, hbefore, hsince⟩ := h
    refine ⟨before, first, rest ++ [c], by simp, fun b hb => ?_, hbefore, hsince⟩
    rw [← List.cons_append] at hb
    rcases List.mem_append.1 hb with hb | hb
    · exact hrun b hb
    · rw [List.mem_singleton.1 hb]
      exact hsame.symm
  · next hother =>
    refine ⟨history, c, [], rfl, fun b hb => by rw [List.mem_singleton.1 hb], fun b hb hstatus => ?_, rfl⟩
    exact hother ((h.last_status b hb).symm.trans hstatus)

/-- What a history amounts to repeats its last condition, since the first of its final run. -/
theorem since_of_amount (h : amount history = some e) : Repeats history e ∧ Since history e := by
  induction history using List.reverseRecOn generalizing e with
  | nil => cases h
  | append_singleton history c ih =>
    rw [amount_concat] at h
    obtain rfl := Option.some.inj h
    cases hd : amount history with
    | none =>
      obtain rfl : history = [] := by
        cases history with
        | nil => rfl
        | cons d rest => cases hd
      exact ⟨repeats_concat rfl rfl rfl, since_singleton c⟩
    | some d =>
      exact ⟨repeats_concat (refreshed_status d c) (refreshed_reason d c) (refreshed_message d c), (ih hd).2.concat c⟩

/-! ### All kinds -/

theorem recordAll_concat (calls initial : List Condition) (c : Condition) :
    recordAll (calls ++ [c]) initial = record c (recordAll calls initial) :=
  List.foldl_concat _ _ _ _

theorem ofKind_concat (kind : String) (l : List Condition) (c : Condition) :
    ofKind kind (l ++ [c]) = if c.kind = kind then ofKind kind l ++ [c] else ofKind kind l := by
  unfold ofKind
  rw [List.filter_append, List.filter_singleton]
  by_cases h : c.kind = kind <;> simp [h]

theorem mem_kinds_iff : kind ∈ kinds l ↔ ofKind kind l ≠ [] := by
  simp [kinds, ofKind, List.filter_eq_nil_iff]

theorem nodup_kinds_recordAll (h : (kinds initial).Nodup) : (kinds (recordAll calls initial)).Nodup := by
  induction calls using List.reverseRecOn with
  | nil => exact h
  | append_singleton calls c ih =>
    rw [recordAll_concat]
    exact nodup_kinds_record c ih

theorem find?_cons_self (d : Condition) (l : List Condition) : find? (d :: l) d.kind = some d := by
  simp [find?]

theorem find?_cons_of_ne (h : d.kind ≠ kind) (l : List Condition) : find? (d :: l) kind = find? l kind := by
  simp [find?, h]

/-- Of distinct kinds an entry is found by its own. -/
theorem find?_eq_some_of_mem (h : (kinds l).Nodup) (he : e ∈ l) : find? l e.kind = some e := by
  induction l with
  | nil => cases he
  | cons d l ih =>
    obtain ⟨hd, hl⟩ : d.kind ∉ kinds l ∧ (kinds l).Nodup := List.nodup_cons.1 h
    rcases List.mem_cons.1 he with rfl | he
    · exact find?_cons_self e l
    · have hkind : e.kind ∈ kinds l := List.mem_map_of_mem he
      rw [find?_cons_of_ne (fun heq => hd (heq ▸ hkind)), ih hl he]

/-- Of distinct kinds an entry is all there is of its own. -/
theorem amount_ofKind (h : (kinds l).Nodup) : amount (ofKind kind l) = find? l kind := by
  induction l with
  | nil => rfl
  | cons d l ih =>
    obtain ⟨hd, hl⟩ : d.kind ∉ kinds l ∧ (kinds l).Nodup := List.nodup_cons.1 h
    by_cases hkind : d.kind = kind
    · subst hkind
      have hhead : ofKind d.kind (d :: l) = d :: ofKind d.kind l := List.filter_cons_of_pos (decide_eq_true rfl)
      rw [hhead, not_not.1 (mt mem_kinds_iff.2 hd), find?_cons_self]
      rfl
    · have hrest : ofKind kind (d :: l) = ofKind kind l := List.filter_cons_of_neg (by simpa using hkind)
      rw [hrest, ih hl, find?_cons_of_ne hkind]

/-- The entry of a kind is what its history amounts to. -/
theorem find?_recordAll (h : (kinds initial).Nodup) :
    find? (recordAll calls initial) kind = amount (ofKind kind (initial ++ calls)) := by
  induction calls using List.reverseRecOn with
  | nil => rw [List.append_nil, amount_ofKind h, recordAll, List.foldl_nil]
  | append_singleton calls c ih =>
    rw [recordAll_concat, ← List.append_assoc, ofKind_concat]
    split
    · next hkind =>
      subst hkind
      rw [find?_record_self, amount_concat, ih]
    · next hkind => rw [find?_record_of_ne (Ne.symm hkind), ih]

/-- The kinds there were stay in order, and new ones follow as they were first recorded. -/
theorem kinds_recordAll (calls initial : List Condition) :
    kinds (recordAll calls initial) =
      kinds initial ++ ((kinds calls).filter fun kind => kind ∉ kinds initial).eraseDups := by
  induction calls using List.reverseRecOn with
  | nil => simp [recordAll, kinds]
  | append_singleton calls c ih =>
    have hkinds : kinds (calls ++ [c]) = kinds calls ++ [c.kind] := by simp [kinds]
    rw [recordAll_concat, kinds_record, ih, hkinds, List.filter_append, List.filter_singleton, List.eraseDups_append]
    by_cases hold : c.kind ∈ kinds initial
    · simp [hold]
    · by_cases hnew : c.kind ∈ kinds calls <;> simp [hold, hnew, List.removeAll, List.eraseDups_cons]

end

/-! ## Sequences -/

/-- From entries of distinct kinds, any sequence of recordings leaves entries of distinct kinds: the ones there were
in their order, then the new ones in the order in which they were first recorded.  An entry of a kind that was not
recorded is as it was. Any other repeats the last condition recorded of its kind, with the stamp of the first of the
final run of its status, for which the entry at the start counts as the first condition of its kind. -/
theorem recorded_history {initial : List Condition} (h : (kinds initial).Nodup) (calls : List Condition) :
    (kinds (recordAll calls initial)).Nodup ∧
    kinds (recordAll calls initial) =
      kinds initial ++ ((kinds calls).filter fun kind => kind ∉ kinds initial).eraseDups ∧
    ∀ e ∈ recordAll calls initial,
      (e.kind ∉ kinds calls → e ∈ initial) ∧
      (e.kind ∈ kinds calls →
        Repeats (ofKind e.kind calls) e ∧ Since (ofKind e.kind initial ++ ofKind e.kind calls) e) := by
  have hnodup : (kinds (recordAll calls initial)).Nodup := nodup_kinds_recordAll h
  refine ⟨hnodup, kinds_recordAll calls initial, fun e he => ?_⟩
  have hfound := find?_eq_some_of_mem hnodup he
  rw [find?_recordAll h, ofKind, List.filter_append, ← ofKind, ← ofKind] at hfound
  refine ⟨fun hnever => ?_, fun hcalled => ?_⟩
  · rw [not_not.1 (mt mem_kinds_iff.2 hnever), List.append_nil, amount_ofKind h] at hfound
    exact List.mem_of_find?_eq_some hfound
  · obtain ⟨⟨c, hlast, htold⟩, hsince⟩ := since_of_amount hfound
    rw [List.getLast?_append_of_ne_nil _ (mem_kinds_iff.1 hcalled)] at hlast
    exact ⟨⟨c, hlast, htold⟩, hsince⟩

/-! ## A sequence to look at -/

/-- A condition of a kind, recorded at a second. -/
def told (kind : String) (status : Status) (second : Int) : Condition :=
  ⟨kind, status, kind, "", ⟨second, 0⟩⟩

def start : List Condition :=
  [told "Running" .holds 0, told "Completed" .fails 1]

def tellings : List Condition :=
  [told "Conflicted" .holds 5, told "Running" .holds 6, told "Conflicted" .fails 7, told "Running" .holds 8,
    told "Conflicted" .fails 9]

/-- The job has run since the start and is free of conflicts since the second but one recording of that. -/
theorem tellings_since :
    (kinds start).Nodup ∧
    recordAll tellings start = [told "Running" .holds 0, told "Completed" .fails 1, told "Conflicted" .fails 7] ∧
    Since [told "Running" .holds 0, told "Running" .holds 6, told "Running" .holds 8] (told "Running" .holds 0) ∧
    Since [told "Conflicted" .holds 5, told "Conflicted" .fails 7, told "Conflicted" .fails 9]
      (told "Conflicted" .fails 7) := by
  have hdistinct : (kinds start).Nodup := by decide
  have hresult : recordAll tellings start =
      [told "Running" .holds 0, told "Completed" .fails 1, told "Conflicted" .fails 7] := by decide
  obtain ⟨-, -, hentries⟩ := recorded_history hdistinct tellings
  rw [hresult] at hentries
  exact ⟨hdistinct, hresult, ((hentries (told "Running" .holds 0) (by decide)).2 (by decide)).2,
    ((hentries (told "Conflicted" .fails 7) (by decide)).2 (by decide)).2⟩

end ProfilingOperator.Condition
