import ProfilingOperator.Proofs.Tokens

/-!
# Histories of a job

A job is made without a status, and from then on only passes write it, one pass after another.  Everything else is left
open: what becomes of the rest of the cluster, what the clock says, which calls fail, and whether a write whose reply is
an error was stored all the same.  The history of the job is the list of the statuses that were sent, each with what was
stored before it.

    Kept.accounted : a pass sends lawful statuses, and tells of a completion where it was told that one was stored
    kept_of_served : a pass that is served by a cluster is one of these
    history_of_run : what holds of every history
-/

namespace ProfilingOperator

namespace History

open Pass

/-! ## Writes -/

/-- What becomes of a status that is sent. -/
inductive Fate where
  | stored
  /-- It is stored, but the pass is told that it was not. -/
  | lost
  | refused
  deriving DecidableEq

/-- A status that was sent, and what was stored before it. -/
structure Write where
  before : Job.Status
  sent : Job.Status
  now : Stamp
  fate : Fate

/-- What is stored after a write. -/
def Write.leaves (w : Write) : Job.Status :=
  if w.fate = .refused then w.before else w.sent

/-- A write that completes the job. -/
def Write.finishes (w : Write) : Bool :=
  decide (w.before.phase ≠ some .completed ∧ w.sent.phase = some .completed)

/-- A completion of which the pass is told that it was stored. -/
def Write.succeeds (w : Write) : Bool :=
  w.finishes && decide (w.fate = .stored)

/-- What a pass may make of a status. -/
structure Lawful (w : Write) : Prop where
  set : w.sent.phase ≠ none
  opens : w.before.phase = none → w.sent.phase = some .pending
  pending : w.sent.phase = some .pending → w.before.phase = none ∨ w.before.phase = some .pending
  failed : w.sent.phase = some .failed → w.before.phase = some .failed
  conflicted : w.sent.phase = some .conflicted → w.before.phase = some .pending ∨ w.before.phase = some .running ∨
    w.before.phase = some .conflicted
  started : w.sent.startedAt = if w.before.phase = none then some w.now else w.before.startedAt
  finished : w.sent.finishedAt = if w.finishes then some w.now else w.before.finishedAt

/-! ## Runs -/

/-- A job is read with the status that is stored. -/
def Faithful (s : Job.Status) : Answered → Prop
  | ⟨.getJob _ _, .ok (some job)⟩ => job.reported = s
  | _ => True

/-- A reply to a status that was sent, and what has become of it. -/
inductive Met (sent : Job) : Except Pass.Failure Job → Fate → Prop
  | stored {job : Job} : job.reported = sent.reported → Met sent (.ok job) .stored
  | lost (f : Pass.Failure) : Met sent (.error f) .lost
  | refused (f : Pass.Failure) : Met sent (.error f) .refused

/-- The calls of a log are answered from the status that is stored, and the writes among them take it to another. -/
inductive Kept (now : Stamp) : Job.Status → List Answered → List Write → Job.Status → Prop
  | nil (s : Job.Status) : Kept now s [] [] s
  | idle {s t : Job.Status} {a : Answered} {log : List Answered} {ws : List Write} :
      a.call.isStore = false → Faithful s a → Kept now s log ws t → Kept now s (a :: log) ws t
  | write {s t : Job.Status} {sent : Job} {r : Except Pass.Failure Job} {fate : Fate} {log : List Answered}
      {ws : List Write} : Met sent r fate → Kept now (Write.leaves ⟨s, sent.reported, now, fate⟩) log ws t →
      Kept now s (⟨.replaceStatus sent, r⟩ :: log) (⟨s, sent.reported, now, fate⟩ :: ws) t

/-- Whole passes over a job, one after another, from when it was made: the status that is stored, the writes so far and
the calls so far. -/
inductive Run (space name : String) : Job.Status → List Write → List Answered → Prop
  | made : Run space name .initial [] []
  | pass {s t : Job.Status} {ws new : List Write} {log more : List Answered} {now : Stamp} {o : Outcome Next} :
      Run space name s ws log → (reconcile now space name).Ends more o → Kept now s more new t →
      Run space name t (ws ++ new) (log ++ more)

/-- What a status has kept that comes later than another. -/
structure Later (a b : Job.Status) : Prop where
  set : a.phase ≠ none → b.phase ≠ none
  pending : b.phase = some .pending → a.phase = none ∨ a.phase = some .pending
  failed : b.phase = some .failed → a.phase = some .failed
  started : a.phase ≠ none → b.startedAt = a.startedAt

/-- Writes take one status to another, and no status goes back behind one before it. -/
structure Onward (s : Job.Status) (ws : List Write) (t : Job.Status) : Prop where
  whole : Later s t
  since : ∀ w ∈ ws, Later s w.before
  upTo : ∀ w ∈ ws, Later w.leaves t
  between : ws.Pairwise fun w w' => Later w.leaves w'.before

/-- The events of a log that tell of a completion. -/
def completions (log : List Answered) : Nat :=
  (events log).countP fun e => e.reason = "ProfilingCompleted"

/-- The writes of a log are lawful, and its completions are those that were stored. -/
structure Accounted (log : List Answered) (ws : List Write) : Prop where
  lawful : ∀ w ∈ ws, Lawful w
  told : completions log = ws.countP Write.succeeds

/-! ## Lemmas -/

section
variable {now : Stamp} {space name uid container : String} {log more : List Answered} {ws new : List Write}
  {s t : Job.Status} {read job : Job} {tool : Tool.Spec} {pods : List Pod} {fate : Fate} {o : Outcome Next}

/-! ### Statuses -/

theorem startedAt_managed (active : StringMap String) (trouble : Option String) :
    (managed now job pods active trouble).startedAt = job.reported.startedAt := by
  obtain ⟨conditions, hsettled⟩ := settled_eq now job (selected job pods)
  unfold managed
  obtain ⟨phase, conditions', finishedAt, hproject⟩ := Job.Status.project_eq
    { settled now job (selected job pods) with lastError := trouble }
    (settled now job (selected job pods)).selectedPods active now
  rw [hproject, hsettled]
  rfl

/-- A status is stamped where it is projected to completion, and only if it was not complete. -/
theorem finishedAt_project (s : Job.Status) (selected : Nat) (active : StringMap String) :
    (s.project selected active now).finishedAt =
      if s.phase ≠ some .completed ∧ (s.project selected active now).phase = some .completed then some now
      else s.finishedAt := by
  simp only [Job.Status.project]
  split
  · obtain ⟨conditions, hamend⟩ := Job.Status.amend_eq _ Progress.completed .fails "Running"
      ("Running on " ++ toString (Progress.count active.size) ++ " pods") now
    rw [hamend]
    simp [Job.Status.note]
  · split
    · obtain ⟨conditions, hamend⟩ := Job.Status.amend_eq _ Progress.running .fails "Completed"
        Progress.allCompleted now
      rw [hamend]
      simp only [Job.Status.note]
      by_cases hdone : s.phase = some .completed
      · simp [hdone]
      · simp [hdone]
    · by_cases hdone : s.phase = some .completed
      · simp [hdone]
      · simp [hdone]

theorem finishedAt_managed (active : StringMap String) (trouble : Option String) :
    (managed now job pods active trouble).finishedAt =
      if job.reported.phase ≠ some .completed ∧ (managed now job pods active trouble).phase = some .completed then
        some now
      else job.reported.finishedAt := by
  obtain ⟨conditions, hsettled⟩ := settled_eq now job (selected job pods)
  unfold managed
  rw [finishedAt_project, hsettled]
  rfl

/-! ### What is sent -/

theorem finishes_eq_false {w : Write} (h : w.sent.phase = some .completed → w.before.phase = some .completed) :
    w.finishes = false :=
  decide_eq_false fun hdone => hdone.1 (h hdone.2)

theorem lawful_setUp (h : read.phase = none) : Lawful ⟨read.reported, (setUp now read).reported, now, fate⟩ := by
  have hphase : read.reported.phase = none := by rw [phase_reported, h]
  have hopen : Write.finishes ⟨read.reported, (setUp now read).reported, now, fate⟩ = false :=
    finishes_eq_false fun hdone => by cases hdone
  exact
    { set := Option.some_ne_none _
      opens := fun _ => rfl
      pending := fun _ => .inl hphase
      failed := fun hfailed => by cases hfailed
      conflicted := fun hconflicted => by cases hconflicted
      started := by rw [hphase]; rfl
      finished := by rw [hopen]; rfl }

/-- A status of the same phase, with its stamps, is no news. -/
theorem lawful_of_phase {sent : Job.Status} (hset : s.phase ≠ none) (hphase : sent.phase = s.phase)
    (hstarted : sent.startedAt = s.startedAt) (hfinished : sent.finishedAt = s.finishedAt) :
    Lawful ⟨s, sent, now, fate⟩ := by
  have hopen : Write.finishes ⟨s, sent, now, fate⟩ = false := finishes_eq_false fun hdone => hphase.symm.trans hdone
  exact
    { set := by rwa [hphase]
      opens := fun hnone => absurd hnone hset
      pending := fun hp => .inr (hphase.symm.trans hp)
      failed := fun hp => hphase.symm.trans hp
      conflicted := fun hp => .inr (.inr (hphase.symm.trans hp))
      started := by rw [if_neg hset, hstarted]
      finished := by rw [hopen]; exact hfinished }

theorem lawful_failing {f : Pass.Failure} (hset : job.phase ≠ none) :
    Lawful ⟨job.reported, (failing now job f).reported, now, fate⟩ :=
  lawful_of_phase (by rwa [phase_reported]) rfl rfl rfl

/-- To make way is lawful for a job that is set up and not done with. -/
theorem lawful_conflicted {c : Conflict} (hset : job.phase ≠ none) (hopen : job.isTerminal = false) :
    Lawful ⟨job.reported, (selected job pods).markConflicted c now, now, fate⟩ := by
  have hphase : job.reported.phase ≠ none := by rwa [phase_reported]
  have hunfinished : Write.finishes ⟨job.reported, (selected job pods).markConflicted c now, now, fate⟩ = false :=
    finishes_eq_false fun hdone => by cases hdone
  refine
    { set := Option.some_ne_none _
      opens := fun hnone => absurd hnone hphase
      pending := fun hpending => by cases hpending
      failed := fun hfailed => by cases hfailed
      conflicted := fun _ => ?_
      started := by rw [if_neg hphase]; rfl
      finished := by rw [hunfinished]; rfl }
  rw [phase_reported]
  cases hp : job.phase with
  | none => exact absurd hp hset
  | some p =>
    cases p with
    | pending => exact .inl rfl
    | running => exact .inr (.inl rfl)
    | conflicted => exact .inr (.inr rfl)
    | completed =>
      rw [Job.isTerminal, hp] at hopen
      cases hopen
    | failed =>
      rw [Job.isTerminal, hp] at hopen
      cases hopen

/-- The phase that a managed job comes to: running or completed, or what it was. -/
theorem phase_concluded_cases {results : List ((Pod × Nat) × Except Pass.Failure Unit)} {p : Job.Phase}
    (h : (concluded now job pods container results).phase = some p) :
    p = .running ∨ p = .completed ∨ job.reported.phase = some p := by
  unfold concluded at h
  rw [phase_managed] at h
  split at h
  · exact .inl (Option.some.inj h).symm
  · split at h
    · exact .inr (.inl (Option.some.inj h).symm)
    · exact .inr (.inr h)

/-- What a pass concludes with is lawful, whatever came of its trials. -/
theorem lawful_concluded (results : List ((Pod × Nat) × Except Pass.Failure Unit)) (hset : job.phase ≠ none) :
    Lawful ⟨job.reported, concluded now job pods container results, now, fate⟩ := by
  have hphase : job.reported.phase ≠ none := by rwa [phase_reported]
  -- a phase that is neither running nor completed is the one before
  have hsame : ∀ {p}, (concluded now job pods container results).phase = some p → p ≠ .running → p ≠ .completed →
      job.reported.phase = some p := by
    intro p hp hrunning hcompleted
    obtain h | h | h := phase_concluded_cases hp
    · exact absurd h hrunning
    · exact absurd h hcompleted
    · exact h
  exact
    { set := phase_concluded_ne_none hset
      opens := fun hnone => absurd hnone hphase
      pending := fun hp => .inr (hsame hp (by decide) (by decide))
      failed := fun hp => hsame hp (by decide) (by decide)
      conflicted := fun hp => .inr (.inr (hsame hp (by decide) (by decide)))
      started := by rw [if_neg hphase]; exact startedAt_managed _ _
      finished := by
        refine (finishedAt_managed _ _).trans ?_
        unfold Write.finishes
        simp only [decide_eq_true_eq]
        rfl }

/-! ### Parts of a pass -/

theorem Kept.split (h : Kept now s (log ++ more) ws t) :
    ∃ u first later, ws = first ++ later ∧ Kept now s log first u ∧ Kept now u more later t := by
  induction log generalizing s ws with
  | nil => exact ⟨s, [], ws, rfl, .nil s, h⟩
  | cons a log ih =>
    cases h with
    | idle hquiet hfaithful h =>
      obtain ⟨u, first, later, rfl, hfirst, hlater⟩ := ih h
      exact ⟨u, first, later, rfl, .idle hquiet hfaithful hfirst, hlater⟩
    | write met h =>
      obtain ⟨u, first, later, rfl, hfirst, hlater⟩ := ih h
      exact ⟨u, _ :: first, later, rfl, .write met hfirst, hlater⟩

theorem Kept.append {u : Job.Status} (h : Kept now s log ws u) (h' : Kept now u more new t) :
    Kept now s (log ++ more) (ws ++ new) t := by
  induction h with
  | nil => exact h'
  | idle hquiet hfaithful _ ih => exact .idle hquiet hfaithful (ih h')
  | write met _ ih => exact .write met (ih h')

theorem completions_append : completions (log ++ more) = completions log + completions more := by
  unfold completions
  rw [events_append, List.countP_append]

theorem Accounted.append (h : Accounted log ws) (h' : Accounted more new) : Accounted (log ++ more) (ws ++ new) := by
  refine ⟨List.forall_mem_append.2 ⟨h.lawful, h'.lawful⟩, ?_⟩
  rw [completions_append, List.countP_append, h.told, h'.told]

/-- A log that writes nothing leaves what is stored. -/
theorem Kept.of_quiet (h : Kept now s log ws t) (hquiet : ∀ a ∈ log, a.call.isStore = false) : ws = [] ∧ t = s := by
  induction h with
  | nil => exact ⟨rfl, rfl⟩
  | idle _ _ _ ih => exact ih fun a ha => hquiet a (List.mem_cons_of_mem _ ha)
  | write => cases hquiet _ List.mem_cons_self

theorem accounted_nil (h : completions log = 0) : Accounted log [] :=
  ⟨fun _ hw => absurd hw List.not_mem_nil, h⟩

theorem completions_of_looks (h : ∀ a ∈ log, a.call.isLookup = true) : completions log = 0 := by
  rw [completions, events_of_looks h]
  rfl

/-- Looking something up writes nothing and tells of nothing. -/
theorem Kept.of_looks (h : Kept now s log ws t) (hlooks : ∀ a ∈ log, a.call.isLookup = true) :
    Accounted log ws ∧ t = s := by
  obtain ⟨rfl, rfl⟩ := h.of_quiet fun a ha => Call.isStore_of_isLookup (hlooks a ha)
  exact ⟨accounted_nil (completions_of_looks hlooks), rfl⟩

theorem Kept.of_read (h : Kept now s (⟨.getJob space name, Except.ok (some read)⟩ :: log) ws t) :
    read.reported = s ∧ Kept now s log ws t := by
  cases h with
  | idle _ hfaithful h => exact ⟨hfaithful, h⟩

/-- A status that is sent is lawful if what was read is what is stored. -/
theorem Kept.of_write {sent : Job} {r : Except Pass.Failure Job}
    (h : Kept now s (⟨.replaceStatus sent, r⟩ :: log) ws t)
    (hlawful : ∀ fate, Lawful ⟨s, sent.reported, now, fate⟩) :
    ∃ fate new, ws = ⟨s, sent.reported, now, fate⟩ :: new ∧ Met sent r fate ∧
      Lawful ⟨s, sent.reported, now, fate⟩ ∧ Kept now (Write.leaves ⟨s, sent.reported, now, fate⟩) log new t := by
  cases h with
  | idle hquiet => cases hquiet
  | write met h => exact ⟨_, _, rfl, met, hlawful _, h⟩

theorem accounted_singleton {w : Write} (hlawful : Lawful w) (hwrite : w.succeeds = false)
    (hlog : completions log = 0) : Accounted log [w] := by
  refine ⟨List.forall_mem_singleton.2 hlawful, ?_⟩
  rw [hlog, List.countP_singleton, hwrite]
  rfl

theorem succeeds_of_open {w : Write} (h : w.finishes = false) : w.succeeds = false := by
  rw [Write.succeeds, h, Bool.false_and]

/-- A status that is not told to be stored completes nothing. -/
theorem succeeds_of_error {sent : Job} {f : Pass.Failure} {w : Write} (h : Met sent (.error f) w.fate) :
    w.succeeds = false := by
  unfold Write.succeeds
  generalize w.fate = fate at h
  cases h with
  | lost => exact Bool.and_false _
  | refused => exact Bool.and_false _

/-- An opened job has a phase, and its status is what is stored. -/
theorem Kept.of_opening (h : Kept now s log ws t) (hopening : Opening now space name log read uid job) :
    Accounted log ws ∧ t = job.reported ∧ job.phase ≠ none := by
  obtain ⟨setup, hsetup, rfl⟩ := hopening.steps
  obtain ⟨rfl, h⟩ := h.of_read
  rcases ends_initialized.1 hsetup with ⟨hphase, rfl, hdone⟩ | ⟨hphase, r, rfl, hdone⟩
  · cases hdone
    obtain ⟨rfl, rfl⟩ := h.of_quiet fun a ha => absurd ha List.not_mem_nil
    exact ⟨accounted_nil rfl, rfl, hphase⟩
  · obtain rfl : Except.ok job = r := ofReply_eq_done.1 hdone.symm
    obtain ⟨fate, new, rfl, met, hlawful, h⟩ := h.of_write fun fate => lawful_setUp hphase
    obtain ⟨rfl, rfl⟩ := h.of_quiet fun a ha => absurd ha List.not_mem_nil
    cases met with
    | stored hreported =>
      have hopen : Write.succeeds ⟨read.reported, (setUp now read).reported, now, .stored⟩ = false :=
        succeeds_of_open (finishes_eq_false fun hdone => by cases hdone)
      refine ⟨accounted_singleton hlawful hopen rfl, hreported.symm, ?_⟩
      rw [← phase_reported, hreported]
      exact Option.some_ne_none _

theorem accounted_of_abandons {f : Pass.Failure} (h : Kept now job.reported log ws t) (hset : job.phase ≠ none)
    (habandons : Abandons now job f log) : Accounted log ws := by
  cases habandons with
  | silent =>
    obtain ⟨rfl, -⟩ := h.of_quiet fun a ha => absurd ha List.not_mem_nil
    exact accounted_nil rfl
  | recorded r =>
    obtain ⟨fate, new, rfl, -, hlawful, h⟩ := h.of_write fun fate => lawful_failing hset
    obtain ⟨rfl, -⟩ := h.of_quiet (List.forall_mem_singleton.2 rfl)
    exact accounted_singleton hlawful (succeeds_of_open (finishes_eq_false fun hdone => hdone)) rfl

theorem accounted_of_makesWay {c : Conflict} (h : Kept now job.reported log ws t) (hset : job.phase ≠ none)
    (hopen : job.isTerminal = false) (hway : MakesWay now job (selected job pods) c log o) : Accounted log ws := by
  have hidle : ∀ fate, Write.succeeds ⟨job.reported, (selected job pods).markConflicted c now, now, fate⟩ = false :=
    fun fate => succeeds_of_open (finishes_eq_false fun hdone => by cases hdone)
  cases hway with
  | told stored =>
    obtain ⟨fate, new, rfl, -, hlawful, h⟩ := h.of_write fun fate => lawful_conflicted hset hopen
    obtain ⟨rfl, -⟩ := h.of_quiet (List.forall_mem_singleton.2 rfl)
    exact accounted_singleton hlawful (hidle fate) rfl
  | refused f =>
    obtain ⟨fate, new, rfl, -, hlawful, h⟩ := h.of_write fun fate => lawful_conflicted hset hopen
    obtain ⟨rfl, -⟩ := h.of_quiet fun a ha => absurd ha List.not_mem_nil
    exact accounted_singleton hlawful (hidle fate) rfl

/-- A completion is told of if the status is complete and the job was not. -/
theorem completions_tellCompleted {status : Job.Status} (h : (tellCompleted job status).Ends log (.done ())) :
    completions log = if status.phase = some .completed ∧ job.phase ≠ some .completed then 1 else 0 := by
  unfold tellCompleted at h
  split at h
  · next hdone =>
    rw [if_pos hdone]
    obtain ⟨u, rest, rfl, hrest⟩ := ends_call.1 h
    obtain ⟨rfl, -⟩ := ends_done.1 hrest
    rfl
  · next hdone =>
    rw [if_neg hdone]
    obtain ⟨rfl, -⟩ := ends_done.1 h
    rfl

/-- A pass that closes writes lawfully, and tells of the completions it has stored. -/
theorem accounted_of_closes {status : Job.Status} (h : Kept now job.reported log ws t)
    (hlawful : ∀ fate, Lawful ⟨job.reported, status, now, fate⟩) (hcloses : Closes job status log o) :
    Accounted log ws := by
  cases hcloses with
  | kept hsame htell =>
    obtain ⟨rfl, -⟩ := h.of_quiet (quiet_of_tellCompleted htell)
    refine accounted_nil ((completions_tellCompleted htell).trans (if_neg fun hdone => hdone.2 ?_))
    rw [Job.phase, hsame]
    exact hdone.1
  | @written stored told hne htell =>
    obtain ⟨fate, new, rfl, met, hwrite, h⟩ := h.of_write hlawful
    obtain ⟨rfl, -⟩ := h.of_quiet (quiet_of_tellCompleted htell)
    refine ⟨List.forall_mem_singleton.2 hwrite, ?_⟩
    -- the write was told to be stored, and both sides ask the same of it
    cases met with
    | stored =>
      have htold : completions told = _ := completions_tellCompleted htell
      show completions told = _
      rw [htold, List.countP_singleton, Write.succeeds, Write.finishes, phase_reported]
      simp [and_comm]
  | @refused f =>
    obtain ⟨fate, new, rfl, met, hwrite, h⟩ := h.of_write hlawful
    obtain ⟨rfl, -⟩ := h.of_quiet fun a ha => absurd ha List.not_mem_nil
    exact accounted_singleton hwrite (succeeds_of_error met) rfl

theorem completions_of_tried {tries : List (Pod × Except Pass.Failure Unit)} (h : Tried job tool container tries log) :
    completions log = 0 := by
  refine List.countP_eq_zero.2 fun e he => ?_
  obtain hadded | ⟨pod, f, -, rfl⟩ := h.tells he
  · rw [hadded]
    decide
  · show ¬decide ("InjectionFailed" = "ProfilingCompleted") = true
    decide

/-! ### Passes -/

/-- A resolved job has a phase, and its status is what is stored. -/
theorem Kept.of_resolution (h : Kept now s log ws t) (hr : Resolution now space name log read uid job tool pods) :
    Accounted log ws ∧ t = job.reported ∧ job.phase ≠ none := by
  obtain ⟨opening, search, lookup, rfl, hopening, hsearch, hlookup⟩ := hr.parts
  obtain ⟨u, first, later, rfl, hfirst, hlater⟩ := h.split
  obtain ⟨v, second, third, rfl, hsecond, hthird⟩ := hlater.split
  obtain ⟨hopened, rfl, hset⟩ := hfirst.of_opening hopening
  obtain ⟨hsearched, rfl⟩ := hsecond.of_looks (looks_of_resolveTool hsearch)
  obtain ⟨hlooked, rfl⟩ := hthird.of_looks (looks_of_resolve hlookup)
  exact ⟨hopened.append (hsearched.append hlooked), rfl, hset⟩

/-- What a whole pass sends is lawful, and it tells of a completion where it was told that one was stored. -/
theorem Kept.accounted (h : Kept now s log ws t) (hends : (reconcile now space name).Ends log o) :
    Accounted log ws := by
  cases exit_of_ends hends with
  | unread f =>
    obtain ⟨rfl, -⟩ := h.of_quiet (List.forall_mem_singleton.2 rfl)
    exact accounted_nil rfl
  | gone =>
    obtain ⟨rfl, -⟩ := h.of_quiet (List.forall_mem_singleton.2 rfl)
    exact accounted_nil rfl
  | nameless =>
    obtain ⟨rfl, -⟩ := h.of_quiet (List.forall_mem_singleton.2 rfl)
    exact accounted_nil rfl
  | @unset read uid f _ _ hphase =>
    obtain ⟨rfl, h⟩ := h.of_read
    obtain ⟨fate, new, rfl, met, hlawful, h⟩ := h.of_write fun fate => lawful_setUp hphase
    obtain ⟨rfl, -⟩ := h.of_quiet fun a ha => absurd ha List.not_mem_nil
    exact accounted_singleton hlawful (succeeds_of_error met) rfl
  | @toolless opening search record read job uid f hopening hsearch habandons =>
    obtain ⟨u, first, later, rfl, hfirst, hlater⟩ := h.split
    obtain ⟨v, second, third, rfl, hsecond, hthird⟩ := hlater.split
    obtain ⟨hopened, rfl, hset⟩ := hfirst.of_opening hopening
    obtain ⟨hsearched, rfl⟩ := hsecond.of_looks (looks_of_resolveTool hsearch)
    exact hopened.append (hsearched.append (accounted_of_abandons hthird hset habandons))
  | @podless opening search lookup record read job uid tool f hopening hsearch hlookup habandons =>
    obtain ⟨u, first, later, rfl, hfirst, hlater⟩ := h.split
    obtain ⟨v, second, later, rfl, hsecond, hlater⟩ := hlater.split
    obtain ⟨v', third, fourth, rfl, hthird, hfourth⟩ := hlater.split
    obtain ⟨hopened, rfl, hset⟩ := hfirst.of_opening hopening
    obtain ⟨hsearched, rfl⟩ := hsecond.of_looks (looks_of_resolveTool hsearch)
    obtain ⟨hlooked, rfl⟩ := hthird.of_looks (looks_of_resolve hlookup)
    exact hopened.append (hsearched.append (hlooked.append (accounted_of_abandons hfourth hset habandons)))
  | @unlisted before check read job uid tool pods f hr hcheck =>
    obtain ⟨u, first, later, rfl, hfirst, hlater⟩ := h.split
    exact (hfirst.of_resolution hr).1.append (hlater.of_looks (looks_of_conflict? hcheck)).1
  | @madeWay before check rest read job uid tool pods c o hr hcheck hway =>
    obtain ⟨u, first, later, rfl, hfirst, hlater⟩ := h.split
    obtain ⟨v, second, third, rfl, hsecond, hthird⟩ := hlater.split
    obtain ⟨hresolved, rfl, hset⟩ := hfirst.of_resolution hr
    obtain ⟨hchecked, rfl⟩ := hsecond.of_looks (looks_of_conflict? hcheck)
    have hopen : job.isTerminal = false := by
      rcases ends_conflict?.1 hcheck with ⟨-, -, hnone⟩ | ⟨hopen, -⟩
      · cases hnone
      · exact hopen
    exact hresolved.append (hchecked.append (accounted_of_makesWay hthird hset hopen hway))
  | @managed before check tried ending read job uid tool pods results o hr hcheck hresults htried hcloses =>
    obtain ⟨u, first, later, rfl, hfirst, hlater⟩ := h.split
    obtain ⟨v, second, later, rfl, hsecond, hlater⟩ := hlater.split
    obtain ⟨v', third, fourth, rfl, hthird, hfourth⟩ := hlater.split
    obtain ⟨hresolved, rfl, hset⟩ := hfirst.of_resolution hr
    obtain ⟨hchecked, rfl⟩ := hsecond.of_looks (looks_of_conflict? hcheck)
    obtain ⟨rfl, rfl⟩ := hthird.of_quiet htried.quiet
    have hattempts : Accounted tried [] := accounted_nil (completions_of_tried htried)
    exact hresolved.append (hchecked.append (hattempts.append
      (accounted_of_closes hfourth (fun fate => lawful_concluded results hset) hcloses)))
  | @cutShort before check rest read job uid tool pods m hr hcheck hmanage =>
    -- a pass stops short before it asks for anything, so that only the lookups are left
    obtain ⟨rfl, -⟩ := Tokens.ends_manage_crashed_iff.1 hmanage
    rw [List.append_nil] at h
    obtain ⟨u, first, later, rfl, hfirst, hlater⟩ := h.split
    rw [List.append_nil]
    exact (hfirst.of_resolution hr).1.append (hlater.of_looks (looks_of_conflict? hcheck)).1

/-! ### Passes served by a cluster -/

/-- A job is told of as it stands. -/
theorem faithful_of_serves {c d : Cluster} {call : Call} {r : call.Reply} {cur : Job}
    (hserves : Cluster.Serves c call r d) (hcur : c.job? space name = some cur) (hdue : Due now space name log call) :
    Faithful cur.reported ⟨call, r⟩ := by
  cases hdue with
  | getJob =>
    obtain ⟨f, rfl⟩ | rfl := hserves.reply
    · trivial
    · show Faithful _ ⟨.getJob space name, Except.ok (c.job? space name)⟩
      rw [hcur]
      rfl
  | _ => trivial

/-- What a cluster makes of a status that is sent for the job at its address. -/
theorem met_of_serves (now : Stamp) {c d : Cluster} {before after : List Job} {cur sent : Job}
    {r : (Call.replaceStatus sent).Reply}
    (hserves : Cluster.Serves c (.replaceStatus sent) r d) (hplaced : Cluster.Placed space name before cur)
    (hjobs : c.jobs = before ++ cur :: after) (halike : cur.Alike sent) :
    ∃ fate, Met sent r fate ∧ (d.job? space name).map Job.reported =
      some (Write.leaves ⟨cur.reported, sent.reported, now, fate⟩) := by
  have hcur : c.job? space name = some cur := Cluster.job?_at hplaced hjobs
  have hstays : (c.job? space name).map Job.reported = some cur.reported := by rw [hcur]; rfl
  have hput : (Cluster.job? { c with jobs := before ++ Cluster.restatused cur sent.status :: after } space name).map
      Job.reported = some sent.reported := by
    rw [Cluster.job?_at (hplaced.alike (Cluster.alike_restatused _ _)) rfl]
    rfl
  have hreplace := Cluster.replaceStatus_at hplaced hjobs halike
  cases hserves with
  | failed f => exact ⟨.refused, .refused f, hstays⟩
  | lost f =>
    show ∃ fate, Met sent (.error f) fate ∧ ((c.replaceStatus sent).2.job? space name).map Job.reported = _
    rw [hreplace]
    split
    · exact ⟨.lost, .lost f, hput⟩
    · exact ⟨.refused, .refused f, hstays⟩
  | performed =>
    show ∃ fate, Met sent (c.replaceStatus sent).1 fate ∧
      ((c.replaceStatus sent).2.job? space name).map Job.reported = _
    rw [hreplace]
    split
    · exact ⟨.stored, .stored rfl, hput⟩
    · exact ⟨.refused, .refused _, hstays⟩

/-- A pass that is served by a cluster, be it cut off or whole, keeps the status of its job. -/
theorem kept_of_served {c d : Cluster} {q : Pass Next} (hgoes : (reconcile now space name).Goes log q)
    (hserved : Cluster.Served c log d) (hjob : c.job? space name = some job) :
    ∃ ws t, (d.job? space name).map Job.reported = some t ∧ Kept now job.reported log ws t := by
  obtain ⟨before, after, hjobs, hplaced⟩ := Cluster.placed_of_job? hjob
  -- by induction from the first call to the last: the job stays where it is, and only a store writes it
  induction hserved generalizing q with
  | nil => exact ⟨[], job.reported, by rw [hjob]; rfl, .nil _⟩
  | @concat log d e call r hserved hserves ih =>
    obtain ⟨next, hgoes, -⟩ := hgoes.split
    obtain ⟨ws, t, hreported, hkept⟩ := ih hgoes
    have hstanding := Cluster.standing_of_served hjobs hplaced hgoes hserved
    obtain ⟨cur, hcurs, halike, -⟩ := hstanding.jobs
    have hcur : d.job? space name = some cur := Cluster.job?_at (hplaced.alike halike) hcurs
    obtain rfl : cur.reported = t := by
      rw [hcur] at hreported
      exact Option.some.inj hreported
    have hdue : Due now space name log call := due_of_call hgoes
    cases hcall : call.isStore with
    | false =>
      have hsame : e.job? space name = d.job? space name :=
        Cluster.job?_of_served (Cluster.Served.nil.concat hserves) (List.forall_mem_singleton.2 hcall)
      refine ⟨ws ++ [], cur.reported, by rw [hsame, hcur]; rfl, hkept.append ?_⟩
      exact .idle hcall (faithful_of_serves hserves hcur hdue) (.nil _)
    | true =>
      cases call with
      | replaceStatus sent =>
        have hsent : cur.Alike sent := halike.symm.trans (Cluster.alike_of_due hstanding.told hdue)
        obtain ⟨fate, met, hleaves⟩ := met_of_serves now hserves (hplaced.alike halike) hcurs hsent
        exact ⟨_, _, hleaves, hkept.append (.write met (.nil _))⟩
      | _ => cases hcall

/-! ### Runs -/

theorem Later.refl (s : Job.Status) : Later s s :=
  ⟨id, .inr, id, fun _ => rfl⟩

theorem Later.trans {a b c : Job.Status} (h : Later a b) (h' : Later b c) : Later a c := by
  refine ⟨fun hset => h'.set (h.set hset), fun hpending => ?_, fun hfailed => h.failed (h'.failed hfailed),
    fun hset => (h'.started (h.set hset)).trans (h.started hset)⟩
  obtain hnone | hpending := h'.pending hpending
  · by_cases hset : a.phase = none
    · exact .inl hset
    · exact absurd hnone (h.set hset)
  · exact h.pending hpending

theorem Lawful.later {w : Write} (h : Lawful w) : Later w.before w.sent :=
  ⟨fun _ => h.set, h.pending, h.failed, fun hset => h.started.trans (if_neg hset)⟩

theorem Lawful.leaves {w : Write} (h : Lawful w) : Later w.before w.leaves := by
  unfold Write.leaves
  split
  · exact .refl _
  · exact h.later

theorem Onward.append {u : Job.Status} (h : Onward s ws u) (h' : Onward u new t) : Onward s (ws ++ new) t := by
  refine ⟨h.whole.trans h'.whole, List.forall_mem_append.2 ⟨h.since, fun w hw => h.whole.trans (h'.since w hw)⟩,
    List.forall_mem_append.2 ⟨fun w hw => (h.upTo w hw).trans h'.whole, h'.upTo⟩, ?_⟩
  exact List.pairwise_append.2 ⟨h.between, h'.between, fun w hw w' hw' => (h.upTo w hw).trans (h'.since w' hw')⟩

theorem onward_nil (s : Job.Status) : Onward s [] s :=
  ⟨.refl s, fun _ hw => absurd hw List.not_mem_nil, fun _ hw => absurd hw List.not_mem_nil, .nil⟩

theorem onward_singleton {w : Write} (h : Lawful w) : Onward w.before [w] w.leaves :=
  ⟨h.leaves, List.forall_mem_singleton.2 (.refl _), List.forall_mem_singleton.2 (.refl _),
    List.pairwise_singleton _ _⟩

theorem Kept.onward (h : Kept now s log ws t) (hlawful : ∀ w ∈ ws, Lawful w) : Onward s ws t := by
  induction h with
  | nil => exact onward_nil _
  | idle _ _ _ ih => exact ih hlawful
  | write _ _ ih =>
    obtain ⟨hfirst, hrest⟩ := List.forall_mem_cons.1 hlawful
    exact (onward_singleton hfirst).append (ih hrest)

/-- By induction on the passes: what each sends is lawful, so that each takes the history on. -/
theorem Run.accounted (h : Run space name s ws log) : Accounted log ws ∧ Onward .initial ws s := by
  induction h with
  | made => exact ⟨accounted_nil rfl, onward_nil _⟩
  | pass _ hends hkept ih =>
    have hpass := hkept.accounted hends
    exact ⟨ih.1.append hpass, ih.2.append (hkept.onward hpass.lawful)⟩

/-- Over any run of whole passes over a job that was made without a status, whatever their calls come to and whatever
the clock says: every status that is sent is a lawful successor of the one that is stored, and never failed.  A status
that comes later has not gone back, neither to an unset phase nor to pending, and was started when the first was.  And
as many completions are told of as there are writes that complete the job and are told to be stored. -/
theorem history_of_run (h : Run space name s ws log) :
    (∀ w ∈ ws, Lawful w ∧ w.sent.phase ≠ some .failed) ∧ s.phase ≠ some .failed ∧
    ws.Pairwise (fun w w' => Later w.leaves w'.before ∧ Later w.leaves w'.sent) ∧ (∀ w ∈ ws, Later w.leaves s) ∧
    completions log = ws.countP Write.succeeds := by
  obtain ⟨haccounted, honward⟩ := h.accounted
  have hunfailed : ∀ b, Later .initial b → b.phase ≠ some .failed := fun b hb hfailed => by cases hb.failed hfailed
  refine ⟨fun w hw => ⟨haccounted.lawful w hw, hunfailed _ ?_⟩, hunfailed s honward.whole, ?_, honward.upTo,
    haccounted.told⟩
  · exact (honward.since w hw).trans (haccounted.lawful w hw).later
  · refine honward.between.imp_of_mem fun _ hw' hlater => ⟨hlater, ?_⟩
    exact hlater.trans (haccounted.lawful _ hw').later

end

/-! ### A job from its first pass to its last -/

/-- The cluster after the first pass, when the container that it has added has ended. -/
def ended : Cluster :=
  ((Sample.afterPass "trace" Sample.made).report "shop" "cart" none (some ⟨none, none, some (.object [])⟩)).2

/-- The calls of the first pass, and of one a minute later. -/
def calls : List Answered :=
  (reconcile Sample.now "shop" "trace").record Session.answer (Session.start Sample.made []) ++
    (reconcile ⟨60, 0⟩ "shop" "trace").record Session.answer (Session.start ended [])

/-- Two passes take the job to its completion, which is stored once and told of once. -/
theorem sample_completes : ∃ s ws, Run "shop" "trace" s ws calls ∧ s.phase = some .completed ∧
    completions calls = 1 ∧ ws.countP Write.succeeds = 1 := by
  have hmade : Sample.made.job? "shop" "trace" = some Sample.unseen := rfl
  obtain ⟨ws, t, ht, hfirst⟩ := kept_of_served (goes_run Session.answer (reconcile Sample.now "shop" "trace") _)
    (Cluster.served_run _ (Session.start Sample.made [])) hmade
  have hbegun : Run "shop" "trace" t ws _ :=
    .pass .made (goes_run Session.answer _ (Session.start Sample.made [])) hfirst
  have hstands : (ended.job? "shop" "trace").isSome = true := rfl
  obtain ⟨job, hjob⟩ := Option.isSome_iff_exists.1 hstands
  -- between the passes the container ends, and nobody writes the job
  have hstays : ended.job? "shop" "trace" = (Sample.afterPass "trace" Sample.made).job? "shop" "trace" := rfl
  have hsame : job.reported = t := by
    have hbegun : ((Sample.afterPass "trace" Sample.made).job? "shop" "trace").map Job.reported = some t := ht
    rw [← hstays, hjob] at hbegun
    exact Option.some.inj hbegun
  obtain ⟨new, u, hu, hsecond⟩ := kept_of_served (goes_run Session.answer (reconcile ⟨60, 0⟩ "shop" "trace") _)
    (Cluster.served_run _ (Session.start ended [])) hjob
  rw [hsame] at hsecond
  have hrun : Run "shop" "trace" u (ws ++ new) calls :=
    hbegun.pass (goes_run Session.answer _ (Session.start ended [])) hsecond
  have hcompletions : completions calls = 1 := rfl
  obtain ⟨-, -, -, -, htold⟩ := history_of_run hrun
  have hphase : ((((reconcile ⟨60, 0⟩ "shop" "trace").run Session.answer (Session.start ended [])).2.cluster.job?
      "shop" "trace").map Job.reported).bind Job.Status.phase = some .completed := rfl
  rw [hu] at hphase
  exact ⟨u, ws ++ new, hrun, hphase, hcompletions, htold.symm.trans hcompletions⟩

end History

end ProfilingOperator
