import ProfilingOperator.Proofs.Contest
import ProfilingOperator.Proofs.Ending

/-!
# Phase and conditions of a job

The phase of a job and its conditions tell one story.  A job is completed exactly if it is said to be, it is in a
conflict if one stands, and while it is running it is said to run.  Before it has run nothing of this is recorded, and
a job that waits or is completed claims no pod.  Every way of changing a status keeps this, so that every status a pass
stores of a job that was made without one tells such a story, whatever the calls come to.

    Coherent.project : the claims a pass leaves bring phase and conditions with them
    sound_of_due : what a pass asks to store is coherent if what it has read is
    coherent_run : so is every status of a job that was made without one
-/

namespace ProfilingOperator.Coherence

open Pass Cluster
open Condition (stands find? kinds)
open Finished (Bout bout_run phaseAt)

/-! ## Coherent statuses -/

/-- The phase, the conditions and the claims of a status agree.  Claims are counted in 32 bits. -/
structure Coherent (container : String) (s : Job.Status) : Prop where
  distinct : (kinds s.conditions).Nodup
  completed : stands s.conditions Progress.completed = true ↔ s.phase = some .completed
  conflicted : stands s.conditions Progress.conflicted = true → s.phase = some .conflicted
  running : s.phase = some .running → stands s.conditions Progress.running = true
  runs : stands s.conditions Progress.running = true → s.phase = some .running ∨ s.phase = some .conflicted
  /-- Of a job that has not run yet nothing is recorded but that it is set up or failed. -/
  fresh : s.phase = none ∨ s.phase = some .pending →
    find? s.conditions Progress.running = none ∧ find? s.conditions Progress.completed = none ∧
      find? s.conditions Progress.conflicted = none
  /-- A job that waits or is completed claims nothing. -/
  idle : s.phase = none ∨ s.phase = some .pending ∨ s.phase = some .completed →
    s.activePods = .empty ∨ 2 ^ 32 ≤ s.activePods.size
  owned : s.activePods.Owned container

/-- The status of a job, if it has one, is coherent for the container that its id gives it. -/
def Sound (name : String) (job : Job) : Prop :=
  ∀ s, job.status = some s → ∃ uid, job.metadata.uid = some uid ∧ Coherent (Job.containerName name uid) s

/-! ## Lemmas -/

section
variable {container : String} {s t : Job.Status} {now : Stamp}

theorem Coherent.congr (h : Coherent container s) (hphase : t.phase = s.phase)
    (hconditions : t.conditions = s.conditions) (hclaims : t.activePods = s.activePods) : Coherent container t := by
  obtain ⟨distinct, completed, conflicted, running, runs, fresh, idle, owned⟩ := h
  rw [← hphase, ← hconditions] at completed conflicted running runs fresh
  rw [← hconditions] at distinct
  rw [← hphase, ← hclaims] at idle
  rw [← hclaims] at owned
  exact ⟨distinct, completed, conflicted, running, runs, fresh, idle, owned⟩

theorem coherent_initial : Coherent container .initial where
  distinct := .nil
  completed := by decide
  conflicted := by decide
  running := by decide
  runs := by decide
  fresh _ := ⟨rfl, rfl, rfl⟩
  idle _ := .inl rfl
  owned := StringMap.owned_empty

theorem coherent_of_running (hdistinct : (kinds s.conditions).Nodup) (hphase : s.phase = some .running)
    (hruns : stands s.conditions Progress.running = true) (hdone : stands s.conditions Progress.completed = false)
    (hconflict : stands s.conditions Progress.conflicted = false) (howned : s.activePods.Owned container) :
    Coherent container s where
  distinct := hdistinct
  completed := by simp [hdone, hphase]
  conflicted := by simp [hconflict]
  running _ := hruns
  runs _ := .inl hphase
  fresh := by simp [hphase]
  idle := by simp [hphase]
  owned := howned

theorem coherent_of_completed (hdistinct : (kinds s.conditions).Nodup) (hphase : s.phase = some .completed)
    (hruns : stands s.conditions Progress.running = false) (hdone : stands s.conditions Progress.completed = true)
    (hconflict : stands s.conditions Progress.conflicted = false)
    (hidle : s.activePods = .empty ∨ 2 ^ 32 ≤ s.activePods.size) (howned : s.activePods.Owned container) :
    Coherent container s where
  distinct := hdistinct
  completed := by simp [hdone, hphase]
  conflicted := by simp [hconflict]
  running := by simp [hphase]
  runs := by simp [hruns]
  fresh := by simp [hphase]
  idle _ := hidle
  owned := howned

theorem Coherent.initialized (h : Coherent container s) (hphase : s.phase = none) :
    Coherent container (s.initialized now) := by
  obtain ⟨hrunning, hcompleted, hconflicted⟩ := h.fresh (.inl hphase)
  have hfresh : find? (s.initialized now).conditions Progress.running = none ∧
      find? (s.initialized now).conditions Progress.completed = none ∧
      find? (s.initialized now).conditions Progress.conflicted = none := by
    refine ⟨?_, ?_, ?_⟩
    · exact (Job.Status.find?_note_of_ne (by decide)).trans hrunning
    · exact (Job.Status.find?_note_of_ne (by decide)).trans hcompleted
    · exact (Job.Status.find?_note_of_ne (by decide)).trans hconflicted
  have hpending : (s.initialized now).phase = some .pending := rfl
  constructor
  · exact Job.Status.nodup_kinds_note h.distinct
  · simp [hpending, Condition.stands_of_find?_eq_none hfresh.2.1]
  · simp [Condition.stands_of_find?_eq_none hfresh.2.2]
  · simp [hpending]
  · simp [Condition.stands_of_find?_eq_none hfresh.1]
  · exact fun _ => hfresh
  · exact fun _ => h.idle (.inl hphase)
  · exact h.owned

/-- A condition of another kind that is noted changes nothing, as long as the phase stays. -/
theorem Coherent.note {kind reason message : String} {status : Condition.Status} (h : Coherent container s)
    (hrunning : Progress.running ≠ kind) (hcompleted : Progress.completed ≠ kind)
    (hconflicted : Progress.conflicted ≠ kind) : Coherent container (s.note kind status reason message now) where
  distinct := Job.Status.nodup_kinds_note h.distinct
  completed := by rw [Job.Status.stands_note_of_ne hcompleted]; exact h.completed
  conflicted := by rw [Job.Status.stands_note_of_ne hconflicted]; exact h.conflicted
  running := by rw [Job.Status.stands_note_of_ne hrunning]; exact h.running
  runs := by rw [Job.Status.stands_note_of_ne hrunning]; exact h.runs
  fresh := by
    rw [Job.Status.find?_note_of_ne hrunning, Job.Status.find?_note_of_ne hcompleted,
      Job.Status.find?_note_of_ne hconflicted]
    exact h.fresh
  idle := h.idle
  owned := h.owned

theorem Coherent.markFailed (h : Coherent container s) (message : String) :
    Coherent container (s.markFailed message now) :=
  Coherent.note (h.congr rfl rfl rfl) (by decide) (by decide) (by decide)

theorem Coherent.markConflicted (h : Coherent container s) (c : Conflict) (hphase : s.phase ≠ some .completed) :
    Coherent container (s.markConflicted c now) := by
  have hconflicted : (s.markConflicted c now).phase = some .conflicted := rfl
  have hdone : stands (s.markConflicted c now).conditions Progress.completed = false := by
    have hnot : ¬ stands s.conditions Progress.completed = true := fun hs => hphase (h.completed.1 hs)
    exact (Job.Status.stands_note_of_ne (by decide)).trans (by simpa using hnot)
  constructor
  · exact Job.Status.nodup_kinds_note h.distinct
  · simp [hdone, hconflicted]
  · exact fun _ => hconflicted
  · simp [hconflicted]
  · exact fun _ => .inr hconflicted
  · simp [hconflicted]
  · simp [hconflicted]
  · exact h.owned

theorem Coherent.clearConflict (h : Coherent container s) (now : Stamp) :
    Coherent container (s.clearConflict now) ∧ stands (s.clearConflict now).conditions Progress.conflicted = false := by
  unfold Job.Status.clearConflict
  split
  · next hconflict =>
    have hphase : s.phase = some .conflicted := h.conflicted hconflict
    have hcleared : ∀ reason message, stands (s.note Progress.conflicted .fails reason message now).conditions
        Progress.conflicted = false := fun _ _ => Job.Status.stands_note_self
    refine ⟨⟨Job.Status.nodup_kinds_note h.distinct, ?_, ?_, ?_, ?_, ?_, h.idle, h.owned⟩, hcleared _ _⟩
    · rw [Job.Status.stands_note_of_ne (by decide)]
      exact h.completed
    · simp [hcleared]
    · simp [hphase]
    · exact fun _ => .inr hphase
    · simp [hphase]
  · next hclear => exact ⟨h, by simpa using hclear⟩

/-- A job that is done with keeps its conditions, and no conflict is among them. -/
theorem Coherent.settled {job : Job} (h : Coherent container s) (hphase : s.phase = job.phase) :
    Coherent container (settled now job s) ∧ stands (settled now job s).conditions Progress.conflicted = false := by
  unfold Pass.settled
  cases ht : job.isTerminal with
  | true =>
    -- nothing is cleared, but a job in a conflict is not one that is done with
    refine ⟨h.congr rfl rfl rfl, ?_⟩
    rw [← Bool.not_eq_true]
    intro hconflict
    have hconflicted : job.phase = some .conflicted := hphase.symm.trans (h.conflicted hconflict)
    rw [Job.isTerminal, hconflicted] at ht
    cases ht
  | false =>
    obtain ⟨hcoherent, hclear⟩ := h.clearConflict now
    exact ⟨hcoherent.congr rfl rfl rfl, hclear⟩

/-- What is projected is coherent when no conflict stands. -/
theorem Coherent.project {selected : Nat} {active : StringMap String} (h : Coherent container s)
    (hclear : stands s.conditions Progress.conflicted = false) (howned : active.Owned container) :
    Coherent container (s.project selected active now) := by
  -- claims that count as none are none, or too many to be counted
  have hidle : ¬ 0 < Progress.count active.size → active = .empty ∨ 2 ^ 32 ≤ active.size := by
    intro hnone
    exact (Progress.eq_zero_or_le_of_count (Nat.eq_zero_of_not_pos hnone)).imp_left
      fun hsize => StringMap.ext (List.eq_nil_of_length_eq_zero hsize)
  simp only [Job.Status.project]
  split
  · refine coherent_of_running ?_ ?_ ?_ Job.Status.stands_amend_fails ?_ ?_
    · exact Job.Status.nodup_kinds_amend (Job.Status.nodup_kinds_note h.distinct)
    · simp
    · rw [Job.Status.stands_amend_of_ne (by decide)]
      exact Job.Status.stands_note_self
    · rw [Job.Status.stands_amend_of_ne (by decide), Job.Status.stands_note_of_ne (by decide)]
      exact hclear
    · simpa using howned
  · next hnone =>
    split
    · refine coherent_of_completed ?_ ?_ Job.Status.stands_amend_fails ?_ ?_ ?_ ?_
      · exact Job.Status.nodup_kinds_amend (Job.Status.nodup_kinds_note h.distinct)
      · simp
      · rw [Job.Status.stands_amend_of_ne (by decide)]
        exact Job.Status.stands_note_self
      · rw [Job.Status.stands_amend_of_ne (by decide), Job.Status.stands_note_of_ne (by decide)]
        exact hclear
      · simpa using hidle hnone
      · simpa using howned
    · exact ⟨h.distinct, h.completed, h.conflicted, h.running, h.runs, h.fresh, fun _ => hidle hnone, howned⟩

end

/-! ## Passes -/

section
variable {space name uid : String} {now : Stamp} {log : List Answered} {before after : List Job} {job : Job}
  {c d : Cluster}

theorem Sound.reported (h : Sound name job) (huid : job.metadata.uid = some uid) :
    Coherent (Job.containerName name uid) job.reported := by
  unfold Job.reported
  cases hstatus : job.status with
  | none => exact coherent_initial
  | some s =>
    obtain ⟨uid', huid', hcoherent⟩ := h s hstatus
    cases huid.symm.trans huid'
    exact hcoherent

theorem Sound.congr {other : Job} (h : Sound name job) (huid : other.metadata.uid = job.metadata.uid)
    (hstatus : other.status = job.status) : Sound name other := by
  unfold Sound
  rw [huid, hstatus]
  exact h

theorem sound_withStatus {s : Job.Status} (huid : job.metadata.uid = some uid)
    (h : Coherent (Job.containerName name uid) s) : Sound name (job.withStatus s) := by
  intro t ht
  cases ht
  exact ⟨uid, huid, h⟩

theorem coherent_of_works {read work : Job} (htold : ∀ a ∈ log, Told c before job after a) (h : Sound name job)
    (hw : Works now space name log read uid work) :
    work.metadata.uid = some uid ∧ Coherent (Job.containerName name uid) work.reported := by
  obtain ⟨halike, hstatus⟩ := works_of_told htold hw
  have huid : job.metadata.uid = some uid := read_of_told htold hw.toRead ▸ hw.identity
  refine ⟨halike.uid.trans huid, ?_⟩
  rcases hstatus with ⟨-, rfl⟩ | ⟨hphase, hstatus⟩
  · exact h.reported huid
  · have hreported : work.reported = job.reported.initialized now := by
      rw [Job.reported, hstatus]
      rfl
    rw [hreported]
    exact (h.reported huid).initialized ((phase_reported job).trans hphase)

/-- **One write.**  A status that is due to be stored is coherent if the one that was read is. -/
theorem sound_of_due {sent : Job} (htold : ∀ a ∈ log, Told c before job after a) (h : Sound name job)
    (hdue : Due now space name log (.replaceStatus sent)) : Sound name sent := by
  cases hdue with
  | setUp hr hphase =>
    obtain rfl := read_of_told htold hr
    exact sound_withStatus hr.identity ((h.reported hr.identity).initialized ((phase_reported _).trans hphase))
  | abandon hw =>
    obtain ⟨huid, hcoherent⟩ := coherent_of_works htold h hw
    exact sound_withStatus huid (hcoherent.markFailed _)
  | @makeWay _ read work uid tool pods others con hr hopen =>
    obtain ⟨huid, hcoherent⟩ := coherent_of_works htold h hr.toWorks
    have hselected : Coherent (Job.containerName name uid) (selected work pods) := hcoherent.congr rfl rfl rfl
    have hphase : (selected work pods).phase ≠ some .completed := by
      intro hcompleted
      rw [Job.isTerminal, ← phase_reported, show work.reported.phase = some .completed from hcompleted] at hopen
      cases hopen
    exact sound_withStatus huid (hselected.markConflicted con hphase)
  | @store _ read work uid tool pods results active trouble hc hr hs =>
    obtain ⟨huid, hcoherent⟩ := coherent_of_works htold h hc.toWorks
    have hselected : Coherent (Job.containerName name uid) (selected work pods) := hcoherent.congr rfl rfl rfl
    obtain ⟨hsettled, hclear⟩ := hselected.settled (phase_reported work)
    have howned : active.Owned (Job.containerName name uid) := by
      intro k v hv
      rcases (claim_of_settle hr hs hv).2 with hv | hv
      · exact hcoherent.owned k v hv
      · exact hv
    have htroubled : Coherent (Job.containerName name uid)
        { settled now work (selected work pods) with lastError := trouble } := hsettled.congr rfl rfl rfl
    exact sound_withStatus huid (htroubled.project hclear howned)

/-- A pass stores the status of a job only after it has read the job. -/
theorem found_of_sent {sent : Job} {r : (Call.replaceStatus sent).Reply} (hb : Bout space name c now log d)
    (hsaw : Saw log (.replaceStatus sent) r) : ∃ job, c.job? space name = some job := by
  obtain ⟨q, hg⟩ := hb.goes
  obtain ⟨earlier, later, rfl⟩ := List.append_of_mem hsaw
  have hread : ∃ read uid, Read space name earlier read uid := by
    cases due_of_goes hg with
    | setUp hr => exact ⟨_, _, hr⟩
    | abandon hw => exact ⟨_, _, hw.toRead⟩
    | makeWay hr => exact ⟨_, _, hr.toRead⟩
    | store hc => exact ⟨_, _, hc.toRead⟩
  obtain ⟨read, uid, hr⟩ := hread
  obtain ⟨more, rfl⟩ := hr.first
  obtain ⟨e, hget, -⟩ := Served.uncons hb.served
  exact ⟨read, (job?_of_serves_getJob hget).1⟩

theorem sound_of_sent {sent : Job} {r : (Call.replaceStatus sent).Reply} (hb : Bout space name c now log d)
    (hj : c.job? space name = some job) (h : Sound name job) (hsaw : Saw log (.replaceStatus sent) r) :
    Sound name sent := by
  obtain ⟨q, hg⟩ := hb.goes
  obtain ⟨before, after, hjobs, hplaced⟩ := placed_of_job? hj
  obtain ⟨earlier, later, -, htold, hdue⟩ := (standing_of_served hjobs hplaced hg hb.served).due_of_mem hg hsaw
  exact sound_of_due htold h hdue

theorem sound_of_bout (hb : Bout space name c now log d)
    (h : ∀ job, c.job? space name = some job → Sound name job) :
    ∀ job, d.job? space name = some job → Sound name job := by
  intro cur hcur
  -- a pass makes no job: there was one at the address before
  have hspecs := (framed_of_served hb.served).specs space name
  rw [hcur] at hspecs
  obtain ⟨job, hj, -⟩ := Option.map_eq_some_iff.1 hspecs.symm
  obtain ⟨before, after, cur', -, -, hhere, halike, horigin⟩ := hb.leaves hj
  obtain rfl : cur = cur' := Option.some.inj (hcur.symm.trans hhere)
  rcases horigin with rfl | ⟨sent, earlier, later, -, htold, hdue, hstatus⟩
  · exact h cur hj
  · have huid : cur.metadata.uid = sent.metadata.uid := halike.uid.trans (alike_of_due htold hdue).uid.symm
    exact (sound_of_due htold (h job hj) hdue).congr huid hstatus

end

/-- Over any run of passes over the job of an address, whole or cut off, whatever their calls come to and whatever
becomes of the rest of the cluster between them, every status that is sent and every status that is stored is coherent,
as long as the job is made without a status, be it once or again, and its status is changed by the passes only. -/
theorem coherent_run {space name : String} {before after : Nat → Cluster} {now : Nat → Stamp}
    {log : Nat → List Answered} (hpass : ∀ n, Bout space name (before n) (now n) (log n) (after n))
    (hstart : ∀ job, (before 0).job? space name = some job → job.status = none)
    (hbetween : ∀ n job, (before (n + 1)).job? space name = some job → job.status = none ∨
      ∃ prev, (after n).job? space name = some prev ∧ job.metadata.uid = prev.metadata.uid ∧
        job.status = prev.status) :
    ∀ n, (∀ sent r, Saw (log n) (.replaceStatus sent) r → Sound name sent) ∧
      ∀ job, (after n).job? space name = some job → Sound name job := by
  have unset : ∀ job : Job, job.status = none → Sound name job := by
    intro job hstatus s hs
    rw [hstatus] at hs
    cases hs
  -- by induction on the passes: each finds a sound job, because the one before left one
  have hsound : ∀ n job, (before n).job? space name = some job → Sound name job := by
    intro n
    induction n with
    | zero => exact fun job hj => unset job (hstart job hj)
    | succ n ih =>
      intro job hj
      rcases hbetween n job hj with hstatus | ⟨prev, hprev, huid, hstatus⟩
      · exact unset job hstatus
      · exact (sound_of_bout (hpass n) ih prev hprev).congr huid hstatus
  -- what is sent is sound even if it is never stored
  intro n
  refine ⟨fun sent r hsaw => ?_, sound_of_bout (hpass n) (hsound n)⟩
  obtain ⟨job, hj⟩ := found_of_sent (hpass n) hsaw
  exact sound_of_sent (hpass n) hj (hsound n job hj) hsaw

/-! ## A job from its first pass on -/

/-- What becomes of the cluster between the passes: another job comes to hold the pod of the job, that job is deleted,
and at last the container in the pod ends. -/
def befalls : Nat → Cluster → Cluster
  | 1, c => c.putJob Contest.rival
  | 2, c => c.deleteJob "shop" "rival"
  | 3, c => (c.report "shop" "cart" none (some ⟨none, none, some (.obj [])⟩)).2
  | _, c => c

/-- The clusters that the passes over the job find. -/
def rising : Nat → Cluster
  | 0 => Sample.made
  | n + 1 => befalls (n + 1) (Sample.afterPass "trace" (rising n))

/-- The clusters that they leave. -/
def raised (n : Nat) : Cluster :=
  Sample.afterPass "trace" (rising n)

/-- The job runs, comes into a conflict, runs again and is completed, and its status is coherent after each pass. -/
theorem newborn_raised_coherent :
    ([0, 1, 2, 3].map fun n => phaseAt "shop" "trace" (raised n)) =
      [some .running, some .conflicted, some .running, some .completed] ∧
    ∀ n < 4, ∃ job, (raised n).job? "shop" "trace" = some job ∧ Sound "trace" job := by
  have hpass := fun n => bout_run Sample.now "shop" "trace" (Session.start (rising n) [])
  have hstart : ∀ job, (rising 0).job? "shop" "trace" = some job → job.status = none := by
    intro job hj
    cases hj
    rfl
  have hkept : ∀ n, (rising (n + 1)).job? "shop" "trace" = (raised n).job? "shop" "trace" := by
    intro n
    match n with
    | 0 | 1 | 2 | _ + 3 => rfl
  have hrun := coherent_run hpass hstart fun n job hj => .inr ⟨job, (hkept n).symm.trans hj, rfl, rfl⟩
  have hphases : ([0, 1, 2, 3].map fun n => phaseAt "shop" "trace" (raised n)) =
      [some .running, some .conflicted, some .running, some .completed] := by decide +kernel
  refine ⟨hphases, fun n hn => ?_⟩
  have hstored : ∀ n < 4, ((raised n).job? "shop" "trace").isSome = true := by decide +kernel
  obtain ⟨job, hj⟩ := Option.isSome_iff_exists.1 (hstored n hn)
  exact ⟨job, hj, (hrun n).2 job hj⟩

end ProfilingOperator.Coherence
