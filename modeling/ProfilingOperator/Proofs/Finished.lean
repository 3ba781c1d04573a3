import Mathlib.Algebra.Group.Nat.Defs
import ProfilingOperator.Proofs.Claims
import ProfilingOperator.Proofs.Serving

/-!
# Jobs that are done with

A pass over a job that is done with adds no container and looks for no conflict.  It keeps the claims on containers
that run, takes up those it finds running, and drops the others.  But the phase is then told from these claims, so that
the job is running again with a container that runs, and a failed job is completed once it has pods.  As long as no
pass comes upon either, the job stays as it ended.

    phase_kept_iff : the phase stays unless something wakes the job
    stays_done_iff : over a run of passes, the job stays done with exactly if no pass revives it
-/

namespace ProfilingOperator.Finished

open Pass Cluster

/-! ## Bookkeeping -/

/-- The phase of the job of an address. -/
def phaseAt (space name : String) (c : Cluster) : Option Job.Phase :=
  (c.job? space name).bind Job.phase

/-- The status a pass leaves of a job that is done with: it has the claims on containers that run. -/
def kept (now : Stamp) (job : Job) (pods : List Pod) (container : String) : Job.Status :=
  managed now job pods (planFor job pods container).active none

/-- What takes a job that is done with out of its phase: a container that runs in one of its pods, or any pod if it has
failed.  Both are counted in 32 bits. -/
def Wakes (job : Job) (pods : List Pod) (container : String) : Prop :=
  0 < Progress.count (planFor job pods container).active.size ∨
    (job.phase = some .failed ∧ 0 < Progress.count pods.length)

/-- A pass over the job of an address, whole or cut off, has taken one cluster to another. -/
structure Bout (space name : String) (c : Cluster) (now : Stamp) (log : List Answered) (d : Cluster) : Prop where
  goes : ∃ q, (reconcile now space name).Goes log q
  served : Served c log d

/-- A pass has resolved pods that wake the job, and its status after them is stored. -/
def Revives (space name : String) (c : Cluster) (now : Stamp) (log : List Answered) (d : Cluster) : Prop :=
  ∃ job uid tool pods earlier later, c.job? space name = some job ∧ log = earlier ++ later ∧
    Resolved now space name earlier job uid job tool pods ∧ Wakes job pods (Job.containerName name uid) ∧
    (d.job? space name).bind Job.status = some (kept now job pods (Job.containerName name uid))

/-! ## Lemmas -/

section
variable {space name uid container : String} {now : Stamp} {log : List Answered} {job : Job} {pods : List Pod}
  {c d : Cluster}

/-- A run of a pass in a session is a pass over the job, whatever its schedule makes fail. -/
theorem bout_run (now : Stamp) (space name : String) (s : Session) :
    Bout space name s.cluster now ((reconcile now space name).record Session.answer s)
      ((reconcile now space name).run Session.answer s).2.cluster :=
  ⟨⟨_, goes_run _ _ _⟩, served_run _ _⟩

/-- What a pass leaves of a job: the job it was, or one with a status that the pass was due to store. -/
theorem Bout.leaves (h : Bout space name c now log d) (hj : c.job? space name = some job) :
    ∃ before after cur, c.jobs = before ++ job :: after ∧ d.jobs = before ++ cur :: after ∧
      d.job? space name = some cur ∧ job.Alike cur ∧
      (cur = job ∨ ∃ sent earlier later, log = earlier ++ later ∧ (∀ a ∈ earlier, Told c before job after a) ∧
        Due now space name earlier (.replaceStatus sent) ∧ cur.status = sent.status) := by
  obtain ⟨q, hg⟩ := h.goes
  obtain ⟨before, after, hjobs, hplaced⟩ := placed_of_job? hj
  have hstanding := standing_of_served hjobs hplaced hg h.served
  obtain ⟨cur, hcur, halike, horigin⟩ := hstanding.jobs
  refine ⟨before, after, cur, hjobs, hcur, job?_at (hplaced.alike halike) hcur, halike, ?_⟩
  rcases horigin with rfl | ⟨sent, r, hsaw, hstatus⟩
  · exact .inl rfl
  · obtain ⟨earlier, later, hlog, htold, hdue⟩ := hstanding.due_of_mem hg hsaw
    exact .inr ⟨sent, earlier, _, hlog, htold, hdue, hstatus⟩

theorem phaseAt_of_status {s : Job.Status} (h : (c.job? space name).bind Job.status = some s) :
    phaseAt space name c = s.phase := by
  unfold phaseAt
  cases hj : c.job? space name with
  | none =>
    rw [hj] at h
    cases h
  | some j =>
    rw [hj] at h
    show j.phase = s.phase
    rw [Job.phase, show j.status = some s from h]
    rfl

/-- The phase of a job that is done with stays unless something wakes the job. -/
theorem phase_kept_iff (ht : job.isTerminal = true) :
    (kept now job pods container).phase = job.phase ↔ ¬ Wakes job pods container := by
  rw [kept, phase_managed, phase_reported]
  unfold Wakes
  rcases Job.isTerminal_iff.1 ht with hp | hp
  · rw [hp]
    split
    · next hlive => simp [hlive]
    · next hlive => simp [hlive]
  · rw [hp]
    split
    · next hlive => simp [hlive]
    · next hlive =>
      split
      · next hpods => simp [hpods]
      · next hpods => simp [hlive, hpods]

theorem work_of_told {before after : List Job} {read work : Job} (htold : ∀ a ∈ log, Told c before job after a)
    (ht : job.isTerminal = true) (h : Works now space name log read uid work) : read = job ∧ work = job := by
  refine ⟨read_of_told htold h.toRead, ?_⟩
  obtain ⟨-, ⟨-, hw⟩ | ⟨hp, -⟩⟩ := works_of_told htold h
  · exact hw
  · rw [Job.isTerminal, hp] at ht
    exact Bool.noConfusion ht

/-- What a pass asks to store of a job that is done with: a trouble that leaves the phase, or the claims it keeps. -/
theorem sent_of_due {before after : List Job} {sent : Job} (htold : ∀ a ∈ log, Told c before job after a)
    (ht : job.isTerminal = true) (h : Due now space name log (.replaceStatus sent)) :
    sent.phase = job.phase ∨ ∃ uid tool pods, Resolved now space name log job uid job tool pods ∧
      sent.status = some (kept now job pods (Job.containerName name uid)) := by
  cases h with
  | setUp hr hp =>
    obtain rfl := read_of_told htold hr
    rw [Job.isTerminal, hp] at ht
    exact Bool.noConfusion ht
  | abandon hw =>
    obtain ⟨-, rfl⟩ := work_of_told htold ht hw
    exact .inl (phase_reported _)
  | makeWay hr hopen =>
    obtain ⟨-, rfl⟩ := work_of_told htold ht hr.toWorks
    rw [ht] at hopen
    exact Bool.noConfusion hopen
  | @store _ read work uid tool pods results active trouble hc hr hs =>
    obtain ⟨rfl, rfl⟩ := work_of_told htold ht hc.toWorks
    refine .inr ⟨uid, tool, pods, hc.toResolved, ?_⟩
    have hnone : results = [] := by
      rw [attempted, if_pos ht, List.map_eq_nil_iff] at hr
      exact hr
    rw [hnone] at hs
    have hout : (planFor work pods (Job.containerName name uid)).active = active ∧ none = trouble :=
      Prod.mk.inj hs
    rw [kept, hout.1, hout.2]
    rfl

theorem target?_of_due {before after : List Job} {a : Answered} (htold : ∀ a ∈ log, Told c before job after a)
    (ht : job.isTerminal = true) (h : Due now space name log a.call) : a.target? = none := by
  obtain ⟨call, r⟩ := a
  cases call with
  | addContainer pod container =>
    cases h with
    | addContainer hc hopen =>
      obtain ⟨-, rfl⟩ := work_of_told htold ht hc.toWorks
      rw [ht] at hopen
      exact Bool.noConfusion hopen
  | _ => rfl

/-- A pass over a job that is done with adds no container, and leaves the phase or the claims it keeps. -/
theorem Bout.bookkeeping (h : Bout space name c now log d) (hj : c.job? space name = some job)
    (ht : job.isTerminal = true) :
    targets log = [] ∧ (phaseAt space name d = job.phase ∨
      ∃ uid tool pods earlier later, log = earlier ++ later ∧
        Resolved now space name earlier job uid job tool pods ∧
        (d.job? space name).bind Job.status = some (kept now job pods (Job.containerName name uid))) := by
  obtain ⟨q, hg⟩ := h.goes
  obtain ⟨before, after, hjobs, hplaced⟩ := placed_of_job? hj
  have hstanding := standing_of_served hjobs hplaced hg h.served
  obtain ⟨cur, hcur, halike, horigin⟩ := hstanding.jobs
  have hafter : d.job? space name = some cur := job?_at (hplaced.alike halike) hcur
  constructor
  · unfold targets
    rw [List.filterMap_eq_nil_iff]
    intro a ha
    obtain ⟨earlier, later, -, htold, hdue⟩ := hstanding.due_of_mem hg ha
    exact target?_of_due htold ht hdue
  · rcases horigin with rfl | ⟨sent, r, hsaw, hstatus⟩
    · left
      rw [phaseAt, hafter]
      rfl
    · obtain ⟨earlier, later, hlog, htold, hdue⟩ := hstanding.due_of_mem hg hsaw
      rcases sent_of_due htold ht hdue with hphase | ⟨uid, tool, pods, hr, hkept⟩
      · left
        rw [phaseAt, hafter, ← hphase]
        show cur.phase = sent.phase
        rw [Job.phase, hstatus]
        rfl
      · refine .inr ⟨uid, tool, pods, earlier, _, hlog, hr, ?_⟩
        rw [hafter, ← hkept]
        exact hstatus

/-- The phase of a job that is done with stays in a pass unless the pass revives the job. -/
theorem Bout.phaseAt_eq_iff (h : Bout space name c now log d) (hj : c.job? space name = some job)
    (ht : job.isTerminal = true) :
    phaseAt space name d = job.phase ↔ ¬ Revives space name c now log d := by
  constructor
  · rintro hphase ⟨j, uid, tool, pods, earlier, later, hj', -, -, hwakes, hkept⟩
    obtain rfl : job = j := Option.some.inj (hj.symm.trans hj')
    rw [phaseAt_of_status hkept] at hphase
    exact (phase_kept_iff ht).1 hphase hwakes
  · intro hnot
    rcases (h.bookkeeping hj ht).2 with hphase | ⟨uid, tool, pods, earlier, later, hlog, hr, hkept⟩
    · exact hphase
    · rw [phaseAt_of_status hkept, phase_kept_iff ht]
      exact fun hwakes => hnot ⟨job, uid, tool, pods, earlier, later, hj, hlog, hr, hwakes, hkept⟩

theorem job_of_phaseAt {phase : Job.Phase} (h : phaseAt space name c = some phase) :
    ∃ job, c.job? space name = some job ∧ job.phase = some phase :=
  Option.bind_eq_some_iff.1 h

end

/-- Over any run of passes over a job that is done with, whatever becomes of the rest of the cluster between them, the
job stays in its phase and gets no container exactly if no pass revives it. -/
theorem stays_done_iff {space name : String} {before after : Nat → Cluster} {now : Nat → Stamp}
    {log : Nat → List Answered} {phase : Job.Phase}
    (hpass : ∀ n, Bout space name (before n) (now n) (log n) (after n))
    (hbetween : ∀ n, phaseAt space name (before (n + 1)) = phaseAt space name (after n))
    (hstart : phaseAt space name (before 0) = some phase) (hterminal : phase.isTerminal = true) :
    (∀ n, phaseAt space name (after n) = some phase ∧ targets (log n) = []) ↔
      ∀ n, ¬ Revives space name (before n) (now n) (log n) (after n) := by
  -- a pass that starts in the phase is over a job that is done with
  have hdone : ∀ n, phaseAt space name (before n) = some phase →
      ∃ job, (before n).job? space name = some job ∧ job.phase = some phase ∧ job.isTerminal = true := by
    intro n hn
    obtain ⟨job, hj, hphase⟩ := job_of_phaseAt hn
    refine ⟨job, hj, hphase, ?_⟩
    rw [Job.isTerminal, hphase]
    exact hterminal
  constructor
  · intro hstay n
    have hn : phaseAt space name (before n) = some phase := by
      cases n with
      | zero => exact hstart
      | succ n => exact (hbetween n).trans (hstay n).1
    obtain ⟨job, hj, hphase, ht⟩ := hdone n hn
    exact ((hpass n).phaseAt_eq_iff hj ht).1 ((hstay n).1.trans hphase.symm)
  · intro hnot
    have hstay : ∀ n, phaseAt space name (before n) = some phase := by
      intro n
      induction n with
      | zero => exact hstart
      | succ n ih =>
        obtain ⟨job, hj, hphase, ht⟩ := hdone n ih
        exact (hbetween n).trans ((((hpass n).phaseAt_eq_iff hj ht).2 (hnot n)).trans hphase)
    intro n
    obtain ⟨job, hj, hphase, ht⟩ := hdone n (hstay n)
    exact ⟨(((hpass n).phaseAt_eq_iff hj ht).2 (hnot n)).trans hphase, ((hpass n).bookkeeping hj ht).1⟩

/-! ## A job that wakes -/

/-- The sample job, completed and without a claim. -/
def completed : Job :=
  Sample.job.withStatus { Job.Status.initial with phase := some .completed, selectedPods := 1, completedPods := 1 }

/-- The sample pod with the container of the job, of which nothing was reported yet. -/
def livePod : Pod :=
  Sample.pod.addEphemeral Sample.container

/-- The status a pass over the completed job stores. -/
def woken : Job :=
  completed.withStatus (kept Sample.now completed [livePod] (Job.containerName "trace" "7f9c"))

/-- A cluster with the completed job, the live pod and the tool. -/
def calm : Cluster :=
  ⟨[completed], [livePod], [Sample.tool], "ops", false⟩

def stirred : Cluster :=
  { calm with jobs := [restatused completed woken.status] }

def wakingLog : List Answered :=
  [⟨.getJob "shop" "trace", Except.ok (some completed)⟩, ⟨.findTool "perf" "shop", Except.ok (some Sample.tool)⟩,
    ⟨.listPods "shop" "", Except.ok [livePod]⟩,
    ⟨.replaceStatus woken, Except.ok (restatused completed woken.status)⟩]

theorem bout_waking : Bout "shop" "trace" calm Sample.now wakingLog stirred := by
  constructor
  · apply Exists.intro
    apply Goes.call (c := .getJob "shop" "trace") (Except.ok (some completed))
    apply Goes.call (c := .findTool "perf" "shop") (Except.ok (some Sample.tool))
    apply Goes.call (c := .listPods "shop" "") (Except.ok [livePod])
    apply Goes.call (c := .replaceStatus woken) (Except.ok (restatused completed woken.status))
    exact .stay _
  · have h1 := Served.nil.concat (.performed (c := calm) (.getJob "shop" "trace"))
    have h2 := h1.concat (.performed (.findTool "perf" "shop"))
    have h3 := h2.concat (.performed (.listPods "shop" ""))
    exact h3.concat (.performed (.replaceStatus woken))

/-- A completed job whose container still runs in a pod is running again after one pass. -/
theorem completed_job_runs_again : ∃ c now log d, Bout "shop" "trace" c now log d ∧
    phaseAt "shop" "trace" c = some .completed ∧ phaseAt "shop" "trace" d = some .running :=
  ⟨calm, Sample.now, wakingLog, stirred, bout_waking, by decide, by decide⟩

/-- The clusters before the passes of a run that wakes the job and stops. -/
def beforeWaking : Nat → Cluster
  | 0 => calm
  | _ + 1 => stirred

def wakingLogs : Nat → List Answered
  | 0 => wakingLog
  | _ + 1 => []

/-- That run does not leave the job as it ended, for its first pass revives it. -/
theorem waking_is_a_revival :
    (∀ n, phaseAt "shop" "trace" stirred = some .completed ∧ targets (wakingLogs n) = []) ↔
      ∀ n, ¬ Revives "shop" "trace" (beforeWaking n) Sample.now (wakingLogs n) stirred := by
  have hpass : ∀ n, Bout "shop" "trace" (beforeWaking n) Sample.now (wakingLogs n) stirred := by
    intro n
    cases n with
    | zero => exact bout_waking
    | succ n => exact ⟨⟨_, .stay _⟩, .nil⟩
  have hstart : phaseAt "shop" "trace" (beforeWaking 0) = some .completed := by decide
  exact stays_done_iff hpass (fun _ => rfl) hstart rfl

end ProfilingOperator.Finished
