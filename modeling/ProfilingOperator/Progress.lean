import ProfilingOperator.Conflict

/-!
# Progress of a job

How each outcome of a pass changes the status of a job: its phase, its counts, its claims and its conditions.

    project_activePods : (s.project n m now).activePods = m
    project_project : (s.project n m now).project n m later = s.project n m now
-/

namespace ProfilingOperator

namespace Progress

/-! ## Conditions of a job -/

/-- Targets are selected and the job is set up. -/
def ready : String := "Ready"

/-- Diagnostic containers run. -/
def running : String := "Running"

/-- Every diagnostic container has ended. -/
def completed : String := "Completed"

/-- A configuration error was met. -/
def failed : String := "Failed"

/-- A target pod is claimed by another job. -/
def conflicted : String := "Conflicted"

/-- What is said of a job whose containers have all ended. -/
def allCompleted : String := "All containers completed"

/-- A count as it is kept, in 32 bits. -/
def count (n : Nat) : Nat :=
  n % UInt32.size

theorem count_of_lt {n : Nat} (h : n < UInt32.size) : count n = n :=
  Nat.mod_eq_of_lt h

/-- What counts as none is none, or too much to be counted. -/
theorem eq_zero_or_le_of_count {n : Nat} (h : count n = 0) : n = 0 ∨ UInt32.size ≤ n := by
  by_cases hn : n < UInt32.size
  · exact .inl ((count_of_lt hn).symm.trans h)
  · exact .inr (Nat.not_lt.1 hn)

end Progress

namespace Job.Status

open Progress

/-- The status with a condition recorded now. -/
def note (s : Status) (kind : String) (status : Condition.Status) (reason message : String) (now : Stamp) :
    Status :=
  { s with conditions := Condition.record ⟨kind, status, reason, message, now⟩ s.conditions }

/-- The first pass over a job. -/
def initialized (s : Status) (now : Stamp) : Status :=
  note { s with phase := some .pending, startedAt := some now } ready .fails "TargetsSelected"
    "Initializing PowerTool" now

/-- A configuration error; the phase stays as it is. -/
def markFailed (s : Status) (message : String) (now : Stamp) : Status :=
  note { s with lastError := some message } failed .holds "Failed" message now

/-- A conflict over a pod. -/
def markConflicted (s : Status) (c : Conflict) (now : Stamp) : Status :=
  note { s with phase := some .conflicted } conflicted .holds "ConflictDetected" c.message now

/-- No conflict any more, if one was recorded. -/
def clearConflict (s : Status) (now : Stamp) : Status :=
  if Condition.stands s.conditions conflicted then
    s.note conflicted .fails "ConflictResolved" "No conflicting PowerTool" now
  else s

/-- A condition recorded only where one of its kind is there already. -/
def amend (s : Status) (kind : String) (status : Condition.Status) (reason message : String) (now : Stamp) :
    Status :=
  if (Condition.find? s.conditions kind).isSome then s.note kind status reason message now else s

/-- What a pass leaves: the counts, the claims, and with them the phase.  With no pods selected the phase stays as
it is. -/
def project (s : Status) (selected : Nat) (active : StringMap String) (now : Stamp) : Status :=
  let live := count active.size
  let s := { s with selectedPods := selected, completedPods := selected - live, activePods := active }
  if 0 < live then
    let message := "Running on " ++ toString live ++ " pods"
    (note { s with phase := some .running } running .holds "Running" message now).amend
      completed .fails "Running" message now
  else if 0 < selected then
    let finishedAt := if s.phase = some .completed then s.finishedAt else some now
    (note { s with phase := some .completed, finishedAt := finishedAt } completed .holds "Completed"
      allCompleted now).amend running .fails "Completed" allCompleted now
  else s

/-! ## Lemmas -/

@[simp] theorem note_phase (s : Status) (k : String) (st : Condition.Status) (r m : String) (now : Stamp) :
    (s.note k st r m now).phase = s.phase := rfl

@[simp] theorem note_activePods (s : Status) (k : String) (st : Condition.Status) (r m : String)
    (now : Stamp) : (s.note k st r m now).activePods = s.activePods := rfl

@[simp] theorem amend_phase (s : Status) (k : String) (st : Condition.Status) (r m : String) (now : Stamp) :
    (s.amend k st r m now).phase = s.phase := by
  unfold amend
  split <;> rfl

@[simp] theorem amend_activePods (s : Status) (k : String) (st : Condition.Status) (r m : String)
    (now : Stamp) : (s.amend k st r m now).activePods = s.activePods := by
  unfold amend
  split <;> rfl

/-! ### Conditions after a note -/

section
variable {s : Status} {k j r m : String} {st : Condition.Status} {now : Stamp}

theorem find?_note_of_ne (h : j ≠ k) :
    Condition.find? (s.note k st r m now).conditions j = Condition.find? s.conditions j :=
  Condition.find?_record_of_ne h s.conditions

theorem find?_amend_of_ne (h : j ≠ k) :
    Condition.find? (s.amend k st r m now).conditions j = Condition.find? s.conditions j := by
  unfold amend
  split
  · exact find?_note_of_ne h
  · rfl

theorem stands_note_self : Condition.stands (s.note k st r m now).conditions k = decide (st = .holds) :=
  Condition.stands_record_self ⟨k, st, r, m, now⟩ s.conditions

theorem stands_note_of_ne (h : j ≠ k) :
    Condition.stands (s.note k st r m now).conditions j = Condition.stands s.conditions j := by
  rw [Condition.stands, find?_note_of_ne h]
  rfl

/-- A condition that is amended to fail does not stand, recorded or not. -/
theorem stands_amend_fails : Condition.stands (s.amend k .fails r m now).conditions k = false := by
  unfold amend
  split
  · exact stands_note_self
  · next h => exact Condition.stands_of_find?_eq_none (by simpa using h)

theorem stands_amend_of_ne (h : j ≠ k) :
    Condition.stands (s.amend k st r m now).conditions j = Condition.stands s.conditions j := by
  rw [Condition.stands, find?_amend_of_ne h]
  rfl

theorem nodup_kinds_note (h : (Condition.kinds s.conditions).Nodup) :
    (Condition.kinds (s.note k st r m now).conditions).Nodup :=
  Condition.nodup_kinds_record _ h

theorem nodup_kinds_amend (h : (Condition.kinds s.conditions).Nodup) :
    (Condition.kinds (s.amend k st r m now).conditions).Nodup := by
  unfold amend
  split
  · exact nodup_kinds_note h
  · exact h

end

/-- Amending a status changes its conditions. -/
theorem amend_eq (s : Status) (k : String) (st : Condition.Status) (r m : String) (now : Stamp) :
    ∃ conditions, s.amend k st r m now = { s with conditions := conditions } := by
  unfold amend
  split
  · exact ⟨_, rfl⟩
  · exact ⟨s.conditions, rfl⟩

/-- Projecting a status sets its counts and its claims; what it may change besides is the phase, the conditions and
the time it finished. -/
theorem project_eq (s : Status) (selected : Nat) (active : StringMap String) (now : Stamp) :
    ∃ phase conditions finishedAt, s.project selected active now =
      { s with
        phase := phase, selectedPods := selected, completedPods := selected - count active.size,
        activePods := active, conditions := conditions, finishedAt := finishedAt } := by
  simp only [project]
  split
  · obtain ⟨conditions, h⟩ := amend_eq _ completed .fails "Running"
      ("Running on " ++ toString (count active.size) ++ " pods") now
    rw [h]
    exact ⟨_, _, _, rfl⟩
  · split
    · obtain ⟨conditions, h⟩ := amend_eq _ running .fails "Completed" allCompleted now
      rw [h]
      exact ⟨_, _, _, rfl⟩
    · exact ⟨_, _, _, rfl⟩

/-! ### Recording and projecting once more -/

theorem find?_note_self (s : Status) (k : String) (st : Condition.Status) (r m : String) (now : Stamp) :
    ∃ since, Condition.find? (s.note k st r m now).conditions k = some ⟨k, st, r, m, since⟩ :=
  Condition.find?_record_told ⟨k, st, r, m, now⟩ s.conditions

/-- A condition that is recorded already is not recorded anew. -/
theorem note_of_told {s : Status} {k r m : String} {st : Condition.Status} {since : Stamp}
    (h : Condition.find? s.conditions k = some ⟨k, st, r, m, since⟩) (now : Stamp) : s.note k st r m now = s := by
  have hconditions : Condition.record ⟨k, st, r, m, now⟩ s.conditions = s.conditions := Condition.record_of_told h
  rw [note, hconditions]

theorem amend_amend (s : Status) (k : String) (st : Condition.Status) (r m : String) (now later : Stamp) :
    (s.amend k st r m now).amend k st r m later = s.amend k st r m now := by
  obtain ⟨since, hsince⟩ := find?_note_self s k st r m now
  cases hk : (Condition.find? s.conditions k).isSome with
  | true =>
    have hnote : s.amend k st r m now = s.note k st r m now := by rw [amend, if_pos hk]
    rw [hnote, amend, hsince]
    exact note_of_told hsince later
  | false =>
    have hkept : ∀ now, s.amend k st r m now = s := by
      intro now
      rw [amend, hk]
      rfl
    rw [hkept, hkept]

/-- A status that says already what is recorded and amended stays as it is. -/
theorem note_amend_again {s t : Status} {k j r r' m m' : String} {st st' : Condition.Status} {now : Stamp}
    (hne : k ≠ j) (h : t = (s.note k st r m now).amend j st' r' m' now) (later : Stamp) :
    (t.note k st r m later).amend j st' r' m' later = t := by
  obtain ⟨since, hsince⟩ := find?_note_self s k st r m now
  have htold : Condition.find? t.conditions k = some ⟨k, st, r, m, since⟩ := by
    rw [h, find?_amend_of_ne hne, hsince]
  rw [note_of_told htold, h, amend_amend]

/-- Projecting a status once more with the same counts and claims changes nothing, at whatever time. -/
theorem project_project (s : Status) (selected : Nat) (active : StringMap String) (now later : Stamp) :
    (s.project selected active now).project selected active later = s.project selected active now := by
  generalize ht : s.project selected active now = t
  obtain ⟨phase, conditions, finishedAt, heq⟩ := project_eq s selected active now
  rw [ht] at heq
  simp only [project] at ht ⊢
  split at ht
  · next hlive =>
    rw [if_pos hlive]
    have hphase : t.phase = some .running := by rw [← ht, amend_phase, note_phase]
    have hsame : { t with
        phase := some .running, selectedPods := selected, completedPods := selected - count active.size,
        activePods := active } = t := by
      rw [← hphase, heq]
    rw [hsame]
    exact note_amend_again (by decide) ht.symm later
  · next hlive =>
    rw [if_neg hlive]
    split at ht
    · next hselected =>
      rw [if_pos hselected]
      have hphase : t.phase = some .completed := by rw [← ht, amend_phase, note_phase]
      have hsame : { t with
          phase := some .completed, selectedPods := selected, completedPods := selected - count active.size,
          activePods := active, finishedAt := if t.phase = some .completed then t.finishedAt else some later } = t := by
        rw [if_pos hphase, ← hphase, heq]
      rw [hsame]
      exact note_amend_again (by decide) ht.symm later
    · next hselected => rw [if_neg hselected, heq]

theorem stands_project_of_ne {s : Status} {selected : Nat} {active : StringMap String} {now : Stamp} {k : String}
    (hrunning : k ≠ running) (hcompleted : k ≠ completed) :
    Condition.stands (s.project selected active now).conditions k = Condition.stands s.conditions k := by
  simp only [project]
  split
  · rw [stands_amend_of_ne hcompleted, stands_note_of_ne hrunning]
  · split
    · rw [stands_amend_of_ne hrunning, stands_note_of_ne hcompleted]
    · rfl

/-- The claims of a projected status are those it is given. -/
@[simp] theorem project_activePods (s : Status) (selected : Nat) (active : StringMap String) (now : Stamp) :
    (s.project selected active now).activePods = active := by
  simp only [project]
  split
  · simp
  · split <;> simp

end Job.Status

end ProfilingOperator
