import ProfilingOperator.Pass.Job
import ProfilingOperator.Proofs.Log
import ProfilingOperator.Proofs.Planning

/-!
# The course of a pass over a job

What a pass over a job knows grows in stages: it has read the job, works on it, is equipped with its tool, has
resolved its pods, is clear of other jobs, and takes its turn with one pod after the other.  Each stage is a
structure of facts about the log so far.  `Due` says which calls are made at which stage.

    meets_reconcile : every call of a pass over a job is due
    due_of_goes : (reconcile now space name).Goes (log ++ a :: more) q → Due now space name log a.call
-/

namespace ProfilingOperator

/-! ## What a log tells -/

/-- The status a job has reported, that of an unseen job if there is none. -/
def Job.reported (j : Job) : Job.Status :=
  j.status.getD .initial

namespace Answered

/-- The job whose status a call has stored. -/
def stored? : Answered → Option Job
  | ⟨.replaceStatus job, .ok _⟩ => some job
  | _ => none

/-- The pod a call was to add a container to. -/
def target? : Answered → Option Pod
  | ⟨.addContainer pod _, _⟩ => some pod
  | _ => none

/-- Whether a call asked for a token. -/
def isToken : Answered → Bool
  | ⟨.issueToken _ _, _⟩ => true
  | _ => false

end Answered

namespace Pass

/-- The jobs whose statuses a log has stored. -/
def stores (log : List Answered) : List Job :=
  log.filterMap Answered.stored?

/-- The pods of the calls that add a container. -/
def targets (log : List Answered) : List Pod :=
  log.filterMap Answered.target?

/-- The number of tokens asked for. -/
def tokens (log : List Answered) : Nat :=
  log.countP Answered.isToken

/-! ## Outcomes -/

/-- A job as its first pass sets it up. -/
def setUp (now : Stamp) (job : Job) : Job :=
  job.withStatus (job.reported.initialized now)

/-- The status the pods of a pass are managed from. -/
def selected (job : Job) (pods : List Pod) : Job.Status :=
  { job.reported with selectedPods := Progress.count pods.length }

/-- The claims and the last trouble after some pods were tried. -/
def settle (container : String) :
    List ((Pod × Nat) × Except Failure Unit) → StringMap String → Option String → StringMap String × Option String
  | [], active, trouble => (active, trouble)
  | (e, .ok ()) :: rest, active, trouble => settle container rest (active.insert e.1.name container) trouble
  | (e, .error f) :: rest, active, _ => settle container rest active (some (injectionMessage e.1 f))

/-- The plan of a job for its pods. -/
def planFor (job : Job) (pods : List Pod) (container : String) : Plan :=
  Plan.of job.reported.activePods pods container

/-- The pods a pass tries: a job that is done with gets no containers. -/
def attempted (job : Job) (pods : List Pod) (container : String) : List (Pod × Nat) :=
  if job.isTerminal then [] else (planFor job pods container).create

/-- The status a pass leaves, from its claims and its last trouble. -/
def managed (now : Stamp) (job : Job) (pods : List Pod) (active : StringMap String) (trouble : Option String) :
    Job.Status :=
  let next := settled now job (selected job pods)
  { next with lastError := trouble }.project next.selectedPods active now

/-- What a pass does once its pods were tried. -/
def conclude (now : Stamp) (job : Job) (pods : List Pod) (out : StringMap String × Option String) : Pass Next :=
  let next := managed now job pods out.1 out.2
  (store job next).bind fun _ => (tellCompleted job next).bind fun _ => .done (.after (Requeue.interval next.phase))

/-- What a pass does with the pods it has resolved. -/
def serve (now : Stamp) (space name uid : String) (job : Job) (tool : Tool.Spec) (pods : List Pod) : Pass Next :=
  (conflict? job space pods).bind fun
    | some c => makeWay now job (selected job pods) c
    | none => manage now job tool pods (Job.containerName name uid) (selected job pods)

/-- What a pass does with a job it has read or set up. -/
def work (now : Stamp) (space name uid : String) (job : Job) : Pass Next :=
  (resolveTool job space).attempt.bind fun
    | .error f => abandon now job f
    | .ok tool => (Targets.resolve space job.spec.targets.selector).attempt.bind fun
      | .error f => abandon now job f
      | .ok pods => serve now space name uid job tool pods

/-! ## Stages -/

section
variable (now : Stamp) (space name : String)

/-- The job was read, stands, and has an identity. -/
structure Read (log : List Answered) (read : Job) (uid : String) : Prop where
  first : ∃ rest, log = ⟨.getJob space name, Except.ok (some read)⟩ :: rest
  stands : read.metadata.isDeleting = false
  identity : read.metadata.uid = some uid

/-- The pass works on the job it has read, or on what was stored when it set that up. -/
structure Works (log : List Answered) (read : Job) (uid : String) (job : Job) : Prop
    extends Read space name log read uid where
  origin : (read.phase ≠ none ∧ job = read ∧ stores log = []) ∨
    (read.phase = none ∧ Saw log (.replaceStatus (setUp now read)) (Except.ok job) ∧ stores log = [setUp now read])

/-- The tool of the job has an entry that allows the namespace. -/
structure Equipped (log : List Answered) (read : Job) (uid : String) (job : Job) (tool : Tool.Spec) : Prop
    extends Works now space name log read uid job where
  found : ∃ entry : Tool, Saw log (.findTool job.spec.tool.name space) (Except.ok (some entry)) ∧ entry.spec = tool
  allowed : tool.allows space = true

/-- The pods of the job: none without a selector, else those of the list whose labels the selector accepts. -/
structure Resolved (log : List Answered) (read : Job) (uid : String) (job : Job) (tool : Tool.Spec)
    (pods : List Pod) : Prop extends Equipped now space name log read uid job tool where
  resolved : (job.spec.targets.selector = none ∧ pods = []) ∨
    ∃ selector compiled listed, job.spec.targets.selector = some selector ∧
      Selector.compile selector = .ok compiled ∧ Saw log (.listPods space compiled.query) (Except.ok listed) ∧
      pods = listed.filter fun p => compiled.accepts p.labels

/-- No other job is in the way: the job is done with, or none of the listed jobs claims one of its pods. -/
structure Cleared (log : List Answered) (read : Job) (uid : String) (job : Job) (tool : Tool.Spec)
    (pods : List Pod) : Prop extends Resolved now space name log read uid job tool pods where
  clear : job.isTerminal = true ∨
    ∃ others, Saw log (.listJobs space) (Except.ok others) ∧ Conflict.detect job (targetNames pods) others = none

/-- The pods before this turn were tried, the rest is still to be. -/
structure Turn (log : List Answered) (read : Job) (uid : String) (job : Job) (tool : Tool.Spec) (pods : List Pod)
    (before rest : List (Pod × Nat)) : Prop extends Cleared now space name log read uid job tool pods where
  goesOn : job.isTerminal = false
  place : (planFor job pods (Job.containerName name uid)).create = before ++ rest
  added : (targets log).Sublist (before.map (·.1))
  spent : tokens log ≤ before.length

/-- When a pass over a job makes a call. -/
inductive Due : List Answered → Call → Prop
  | getJob : Due [] (.getJob space name)
  | setUp {log : List Answered} {read : Job} {uid : String} :
      Read space name log read uid → read.phase = none → stores log = [] → Due log (.replaceStatus (setUp now read))
  | findTool {log : List Answered} {read job : Job} {uid : String} :
      Works now space name log read uid job → Due log (.findTool job.spec.tool.name space)
  | listPods {log : List Answered} {read job : Job} {uid : String} {tool : Tool.Spec} {selector : Selector}
      {compiled : Selector.Compiled} :
      Equipped now space name log read uid job tool → job.spec.targets.selector = some selector →
      Selector.compile selector = .ok compiled → Due log (.listPods space compiled.query)
  | abandon {log : List Answered} {read job : Job} {uid : String} {f : Failure} :
      Works now space name log read uid job → f.isConfiguration = true →
      Due log (.replaceStatus (job.withStatus (job.reported.markFailed f.message now)))
  | listJobs {log : List Answered} {read job : Job} {uid : String} {tool : Tool.Spec} {pods : List Pod} :
      Resolved now space name log read uid job tool pods → job.isTerminal = false → Due log (.listJobs space)
  | makeWay {log : List Answered} {read job : Job} {uid : String} {tool : Tool.Spec} {pods : List Pod}
      {others : List Job} {c : Conflict} :
      Resolved now space name log read uid job tool pods → job.isTerminal = false →
      Saw log (.listJobs space) (Except.ok others) → Conflict.detect job (targetNames pods) others = some c →
      Due log (.replaceStatus (job.withStatus ((selected job pods).markConflicted c now)))
  | issueToken {log : List Answered} {read job : Job} {uid : String} {tool : Tool.Spec} {pods : List Pod}
      {before rest : List (Pod × Nat)} {entry : Pod × Nat} {window lifetime : Duration} :
      Turn now space name log read uid job tool pods before (entry :: rest) →
      job.spec.output.mode = .collector → Duration.parse job.spec.tool.duration = .ok window →
      Token.lifetime? window = some lifetime → Due log (.issueToken job.name lifetime)
  | addContainer {log : List Answered} {read job : Job} {uid : String} {tool : Tool.Spec} {pods : List Pod}
      {before rest : List (Pod × Nat)} {entry : Pod × Nat} {credentials : Option Collector} :
      Cleared now space name log read uid job tool pods → job.isTerminal = false →
      (planFor job pods (Job.containerName name uid)).create = before ++ entry :: rest →
      (targets log).Sublist (before.map (·.1)) →
      Due log (.addContainer entry.1
        (Attachment.container job tool entry.1 (Job.containerName name uid) credentials))
  | store {log : List Answered} {read job : Job} {uid : String} {tool : Tool.Spec} {pods : List Pod}
      {results : List ((Pod × Nat) × Except Failure Unit)} {active : StringMap String} {trouble : Option String} :
      Cleared now space name log read uid job tool pods →
      results.map (·.1) = attempted job pods (Job.containerName name uid) →
      settle (Job.containerName name uid) results (planFor job pods (Job.containerName name uid)).active none =
        (active, trouble) →
      job.status ≠ some (managed now job pods active trouble) →
      Due log (.replaceStatus (job.withStatus (managed now job pods active trouble)))
  | publish {log : List Answered} (e : Event) : Due log (.publish e)

end

/-! ## Facts stay -/

section
variable {now : Stamp} {space name uid : String} {log more : List Answered} {read job : Job} {tool : Tool.Spec}
  {pods : List Pod}

theorem stores_append : stores (log ++ more) = stores log ++ stores more :=
  List.filterMap_append

theorem targets_append : targets (log ++ more) = targets log ++ targets more :=
  List.filterMap_append

theorem tokens_append : tokens (log ++ more) = tokens log + tokens more :=
  List.countP_append

theorem stores_concat {a : Answered} (h : a.stored? = none) : stores (log ++ [a]) = stores log := by
  simp [stores, h]

theorem targets_concat {a : Answered} (h : a.target? = none) : targets (log ++ [a]) = targets log := by
  simp [targets, h]

theorem tokens_concat {a : Answered} (h : a.isToken = false) : tokens (log ++ [a]) = tokens log := by
  simp [tokens, h]

theorem Read.append (h : Read space name log read uid) : Read space name (log ++ more) read uid := by
  obtain ⟨rest, rfl⟩ := h.first
  exact ⟨⟨rest ++ more, rfl⟩, h.stands, h.identity⟩

theorem Works.append (h : Works now space name log read uid job) (hs : stores more = []) :
    Works now space name (log ++ more) read uid job := by
  refine ⟨h.toRead.append, ?_⟩
  rw [stores_append, hs, List.append_nil]
  exact h.origin.imp id fun ⟨hp, hj, hl⟩ => ⟨hp, hj.append, hl⟩

theorem Equipped.append (h : Equipped now space name log read uid job tool) (hs : stores more = []) :
    Equipped now space name (log ++ more) read uid job tool := by
  obtain ⟨entry, he, ht⟩ := h.found
  exact ⟨h.toWorks.append hs, ⟨entry, he.append, ht⟩, h.allowed⟩

theorem Resolved.append (h : Resolved now space name log read uid job tool pods) (hs : stores more = []) :
    Resolved now space name (log ++ more) read uid job tool pods := by
  refine ⟨h.toEquipped.append hs, h.resolved.imp id ?_⟩
  rintro ⟨selector, compiled, listed, hsel, hc, hl, hp⟩
  exact ⟨selector, compiled, listed, hsel, hc, hl.append, hp⟩

theorem Cleared.append (h : Cleared now space name log read uid job tool pods) (hs : stores more = []) :
    Cleared now space name (log ++ more) read uid job tool pods := by
  refine ⟨h.toResolved.append hs, h.clear.imp id ?_⟩
  rintro ⟨others, hl, hd⟩
  exact ⟨others, hl.append, hd⟩

theorem phase_reported (j : Job) : j.reported.phase = j.phase := by
  unfold Job.reported Job.phase
  cases j.status <;> rfl

/-- Settling a status changes its conditions and clears its trouble. -/
theorem settled_eq (now : Stamp) (job : Job) (next : Job.Status) :
    ∃ conditions, settled now job next = { next with conditions := conditions, lastError := none } := by
  simp only [settled, Job.Status.clearConflict]
  split
  · exact ⟨_, rfl⟩
  · split
    · exact ⟨_, rfl⟩
    · exact ⟨_, rfl⟩

@[simp] theorem phase_settled (next : Job.Status) : (settled now job next).phase = next.phase := by
  obtain ⟨conditions, h⟩ := settled_eq now job next
  rw [h]

@[simp] theorem selectedPods_settled (next : Job.Status) :
    (settled now job next).selectedPods = next.selectedPods := by
  obtain ⟨conditions, h⟩ := settled_eq now job next
  rw [h]

@[simp] theorem activePods_settled (next : Job.Status) : (settled now job next).activePods = next.activePods := by
  obtain ⟨conditions, h⟩ := settled_eq now job next
  rw [h]

/-- The phase a pass leaves: running with a claim, completed without one, and as it was without pods. -/
theorem phase_managed (active : StringMap String) (trouble : Option String) :
    (managed now job pods active trouble).phase =
      if 0 < Progress.count active.size then some .running
      else if 0 < Progress.count pods.length then some .completed else job.reported.phase := by
  simp only [managed, Job.Status.project, selectedPods_settled, selected]
  split
  · simp
  · split
    · simp
    · simp

end

/-! ## Spec lemmas, one for each step -/

section
variable {now : Stamp} {space name uid : String} {log : List Answered} {read job : Job} {tool : Tool.Spec}
  {pods : List Pod}

theorem meets_abandon {f : Failure} (h : Works now space name log read uid job) :
    (abandon now job f).Meets (Due now space name) (fun _ _ => True) log := by
  unfold abandon
  split
  · next hf =>
    refine meets_bind.2 (meets_attempt.2 (And.intro (.abandon h hf) ?_))
    rintro (e | j)
    · exact And.intro (.publish _) fun _ => trivial
    · exact And.intro (.publish _) fun _ => trivial
  · exact trivial

theorem meets_makeWay {others : List Job} {c : Conflict} (h : Resolved now space name log read uid job tool pods)
    (ht : job.isTerminal = false) (ho : Saw log (.listJobs space) (Except.ok others))
    (hc : Conflict.detect job (targetNames pods) others = some c) :
    (makeWay now job (selected job pods) c).Meets (Due now space name) (fun _ _ => True) log := by
  refine meets_bind.2 (And.intro (.makeWay h ht ho hc) ?_)
  rintro (e | j)
  · exact trivial
  · exact And.intro (.publish _) fun _ => trivial

/-- What a turn with a pod adds to a log: it stores nothing, makes one call at most to add a container, to this pod,
and asks for one token at most. -/
structure Spends (entry : Pod × Nat) (more : List Answered) : Prop where
  stored : stores more = []
  added : (targets more).Sublist [entry.1]
  asked : tokens more ≤ 1

theorem Spends.publish {entry : Pod × Nat} {more : List Answered} (h : Spends entry more) (e : Event)
    (u : (Call.publish e).Reply) : Spends entry (more ++ [⟨.publish e, u⟩]) :=
  ⟨(stores_concat rfl).trans h.stored, by rw [targets_concat rfl]; exact h.added,
    by rw [tokens_concat rfl]; exact h.asked⟩

theorem Turn.next {before rest : List (Pod × Nat)} {entry : Pod × Nat} {more : List Answered}
    (h : Turn now space name log read uid job tool pods before (entry :: rest)) (hm : Spends entry more) :
    Turn now space name (log ++ more) read uid job tool pods (before ++ [entry]) rest := by
  refine ⟨h.toCleared.append hm.stored, h.goesOn, by rw [h.place, List.append_assoc]; rfl, ?_, ?_⟩
  · rw [targets_append, List.map_append]
    exact h.added.append hm.added
  · rw [tokens_append, List.length_append, List.length_singleton]
    exact Nat.add_le_add h.spent hm.asked

theorem meets_credentials {before rest : List (Pod × Nat)} {entry : Pod × Nat} {output : Job.CollectorOutput}
    {window : Duration} {ends : Outcome (Option Collector) → List Answered → Prop}
    (h : Turn now space name log read uid job tool pods before (entry :: rest))
    (hm : job.spec.output.mode = .collector) (hw : Duration.parse job.spec.tool.duration = .ok window)
    (he : ∀ o more, Spends entry more → targets more = [] → ends o (log ++ more)) :
    (credentials job.name output window).Meets (Due now space name) ends log := by
  unfold credentials
  cases hl : Token.lifetime? window with
  | none =>
    have := he (.crashed Token.overflowMessage) [] ⟨rfl, List.nil_sublist _, Nat.zero_le _⟩ rfl
    rwa [List.append_nil] at this
  | some lifetime =>
    refine meets_bind.2 (And.intro (.issueToken h hm hw hl) fun r => ?_)
    have spends : Spends entry [⟨.issueToken job.name lifetime, r⟩] := ⟨rfl, List.nil_sublist _, Nat.le_refl 1⟩
    rcases r with e | t
    · exact he _ _ spends rfl
    · exact he _ _ spends rfl

theorem meets_collector {before rest : List (Pod × Nat)} {entry : Pod × Nat}
    {ends : Outcome (Option Collector) → List Answered → Prop}
    (h : Turn now space name log read uid job tool pods before (entry :: rest))
    (he : ∀ o more, Spends entry more → targets more = [] → ends o (log ++ more)) :
    (collector job job.name).Meets (Due now space name) ends log := by
  have stay : ∀ o, ends o log := fun o => by
    simpa using he o [] ⟨rfl, List.nil_sublist _, Nat.zero_le _⟩ rfl
  unfold collector
  split
  · exact stay (.done _)
  · exact stay (.done _)
  · next hm =>
    split
    · exact stay (.failed _)
    · split
      · exact stay (.failed _)
      · next hw => exact meets_credentials h hm hw he

/-- **One pod.**  The calls of a trial are due, and they are spent on its pod. -/
theorem meets_inject {before rest : List (Pod × Nat)} {entry : Pod × Nat}
    {ends : Outcome Unit → List Answered → Prop}
    (h : Turn now space name log read uid job tool pods before (entry :: rest))
    (he : ∀ o more, Spends entry more → ends o (log ++ more)) :
    (inject job tool (Job.containerName name uid) entry.1).Meets (Due now space name) ends log := by
  refine meets_bind.2 (meets_collector h fun o more hm ht => ?_)
  cases o with
  | failed f => exact he _ _ hm
  | crashed m => exact he _ _ hm
  | done credentials =>
    -- the token was asked for in this turn, if at all: the pods before are still the only ones called
    have ha : (targets (log ++ more)).Sublist (before.map (·.1)) := by
      rw [targets_append, ht, List.append_nil]
      exact h.added
    refine meets_bind.2 (And.intro (.addContainer (h.toCleared.append hm.stored) h.goesOn h.place ha) fun r => ?_)
    have spends : Spends entry (more ++ [⟨.addContainer entry.1 _, r⟩]) := by
      refine ⟨(stores_concat rfl).trans hm.stored, ?_, by rw [tokens_concat rfl]; exact hm.asked⟩
      rw [targets_append, ht]
      exact .refl _
    rw [List.append_assoc]
    rcases r with e | u
    · exact he _ _ spends
    · refine And.intro (.publish _) fun r => ?_
      show ends _ (log ++ (more ++ [_]) ++ [_])
      rw [List.append_assoc]
      exact he _ _ (spends.publish _ r)

/-- **All pods.**  Trial by trial, in the order of the plan. -/
theorem meets_injectAll {before rest : List (Pod × Nat)} {active : StringMap String} {trouble : Option String}
    {ends : Outcome (StringMap String × Option String) → List Answered → Prop}
    (h : Turn now space name log read uid job tool pods before rest)
    (hd : ∀ results more, results.map (·.1) = rest → stores more = [] →
      ends (.done (settle (Job.containerName name uid) results active trouble)) (log ++ more))
    (hc : ∀ m more, ends (.crashed m) (log ++ more)) :
    (injectAll job tool (Job.containerName name uid) rest active trouble).Meets (Due now space name) ends log := by
  induction rest generalizing log before active trouble with
  | nil =>
    have := hd [] [] rfl rfl
    rwa [List.append_nil] at this
  | cons entry rest ih =>
    refine meets_bind.2 (meets_attempt.2 (meets_inject h fun o more hm => ?_))
    cases o with
    | crashed m => exact hc m more
    | done u =>
      refine ih (h.next hm) (fun results more' hr hs => ?_) fun m more' => ?_
      · rw [List.append_assoc]
        exact hd ((entry, .ok ()) :: results) _ (by rw [List.map_cons, hr])
          (by rw [stores_append, hm.stored, hs]; rfl)
      · rw [List.append_assoc]
        exact hc m _
    | failed f =>
      refine meets_bind.2 (And.intro (.publish _) fun u => ?_)
      rw [List.append_assoc]
      refine ih (h.next (hm.publish _ u)) (fun results more' hr hs => ?_) fun m more' => ?_
      · rw [List.append_assoc]
        exact hd ((entry, .error f) :: results) _ (by rw [List.map_cons, hr])
          (by rw [stores_append, (hm.publish _ u).stored, hs]; rfl)
      · rw [List.append_assoc]
        exact hc m _

theorem manage_eq (now : Stamp) (job : Job) (tool : Tool.Spec) (pods : List Pod) (container : String) :
    manage now job tool pods container (selected job pods) =
      (injectAll job tool container (attempted job pods container) (planFor job pods container).active none).bind
        (conclude now job pods) := by
  have hplan : Plan.of (settled now job (selected job pods)).activePods pods container =
      planFor job pods container := by
    rw [activePods_settled]
    rfl
  simp only [manage, hplan]
  rfl

theorem meets_conclude {results : List ((Pod × Nat) × Except Failure Unit)}
    (h : Cleared now space name log read uid job tool pods)
    (hr : results.map (·.1) = attempted job pods (Job.containerName name uid)) :
    (conclude now job pods (settle (Job.containerName name uid) results
      (planFor job pods (Job.containerName name uid)).active none)).Meets (Due now space name) (fun _ _ => True)
      log := by
  generalize ho : settle (Job.containerName name uid) results _ none = out
  have tell : ∀ log', Meets (Due now space name) (fun _ _ => True)
      ((tellCompleted job (managed now job pods out.1 out.2)).bind fun _ =>
        .done (Next.after (Requeue.interval (managed now job pods out.1 out.2).phase))) log' := by
    intro log'
    unfold tellCompleted
    split
    · exact meets_bind.2 (And.intro (.publish _) fun _ => trivial)
    · exact trivial
  unfold conclude store
  simp only
  split
  · exact tell _
  · next hne =>
    refine meets_bind.2 (meets_bind.2 (And.intro (.store h hr ho hne) ?_))
    rintro (e | j)
    · exact trivial
    · exact tell _

theorem meets_manage (h : Cleared now space name log read uid job tool pods) (hu : targets log = [])
    (hk : tokens log = 0) :
    (manage now job tool pods (Job.containerName name uid) (selected job pods)).Meets (Due now space name)
      (fun _ _ => True) log := by
  rw [manage_eq]
  refine meets_bind.2 ?_
  cases ht : job.isTerminal with
  | true =>
    have hnone : attempted job pods (Job.containerName name uid) = [] := by simp [attempted, ht]
    rw [hnone]
    have hr : ([] : List ((Pod × Nat) × Except Failure Unit)).map (·.1) =
        attempted job pods (Job.containerName name uid) := hnone.symm
    have concluded := meets_conclude h hr
    exact concluded
  | false =>
    have hall : attempted job pods (Job.containerName name uid) =
        (planFor job pods (Job.containerName name uid)).create := by simp [attempted, ht]
    have first : Turn now space name log read uid job tool pods []
        (planFor job pods (Job.containerName name uid)).create :=
      ⟨h, ht, rfl, by rw [hu]; exact .refl _, by rw [hk]; exact Nat.zero_le _⟩
    rw [hall]
    refine meets_injectAll first (fun results more hr hs => ?_) fun m more => trivial
    exact meets_conclude (h.append hs) (hr.trans hall.symm)

/-- What calls add to a log that look something up. -/
structure Quiet (more : List Answered) : Prop where
  stored : stores more = []
  added : targets more = []
  asked : tokens more = 0

theorem Quiet.nil : Quiet [] := ⟨rfl, rfl, rfl⟩

theorem meets_resolveTool (h : Works now space name log read uid job)
    {ends : Outcome Tool.Spec → List Answered → Prop}
    (hf : ∀ f more, Quiet more → ends (.failed f) (log ++ more))
    (hd : ∀ tool more, Quiet more → Equipped now space name (log ++ more) read uid job tool →
      ends (.done tool) (log ++ more)) :
    (resolveTool job space).Meets (Due now space name) ends log := by
  refine meets_bind.2 (And.intro (.findTool h) ?_)
  rintro (e | found)
  · exact hf _ _ ⟨rfl, rfl, rfl⟩
  · cases found with
    | none => exact hf _ _ ⟨rfl, rfl, rfl⟩
    | some entry =>
      show Meets _ ends (if entry.spec.allows space then pure entry.spec else Pass.fail _) _
      split
      · next ha => exact hd _ _ ⟨rfl, rfl, rfl⟩ ⟨h.append rfl, ⟨entry, saw_append_self _ _, rfl⟩, ha⟩
      · exact hf _ _ ⟨rfl, rfl, rfl⟩

theorem meets_resolve (h : Equipped now space name log read uid job tool)
    {ends : Outcome (List Pod) → List Answered → Prop}
    (hf : ∀ f more, Quiet more → ends (.failed f) (log ++ more))
    (hd : ∀ pods more, Quiet more → Resolved now space name (log ++ more) read uid job tool pods →
      ends (.done pods) (log ++ more)) :
    (Targets.resolve space job.spec.targets.selector).Meets (Due now space name) ends log := by
  cases hsel : job.spec.targets.selector with
  | none => simpa [Meets] using hd [] [] .nil ⟨h.append rfl, .inl ⟨hsel, rfl⟩⟩
  | some selector =>
    cases hc : Selector.compile selector with
    | error f =>
      have := hf (.invalidSelector f.message) [] .nil
      simpa [Targets.resolve, hc, Meets] using this
    | ok compiled =>
      simp only [Targets.resolve, hc]
      refine meets_bind.2 (And.intro (.listPods h hsel hc) ?_)
      rintro (e | listed)
      · exact hf _ _ ⟨rfl, rfl, rfl⟩
      · exact hd _ _ ⟨rfl, rfl, rfl⟩
          ⟨h.append rfl, .inr ⟨selector, compiled, listed, hsel, hc, saw_append_self _ _, rfl⟩⟩

theorem meets_serve (h : Resolved now space name log read uid job tool pods) (hu : targets log = [])
    (hk : tokens log = 0) :
    (serve now space name uid job tool pods).Meets (Due now space name) (fun _ _ => True) log := by
  unfold serve conflict?
  cases ht : job.isTerminal with
  | true => exact meets_manage ⟨h, .inl ht⟩ hu hk
  | false =>
    refine meets_bind.2 (meets_bind.2 (And.intro (.listJobs h ht) ?_))
    rintro (e | others)
    · exact trivial
    · have saw : Saw (log ++ [⟨.listJobs space, Except.ok others⟩]) (.listJobs space) (Except.ok others) :=
        saw_append_self _ _
      show Meets (Due now space name) (fun _ _ => True)
        (match Conflict.detect job (targetNames pods) others with
          | some c => makeWay now job (selected job pods) c
          | none => manage now job tool pods (Job.containerName name uid) (selected job pods)) _
      split
      · next c hc => exact meets_makeWay (h.append rfl) ht saw hc
      · next hc =>
        refine meets_manage ⟨h.append rfl, .inr ⟨others, saw, hc⟩⟩ ?_ ?_
        · exact (targets_concat rfl).trans hu
        · exact (tokens_concat rfl).trans hk

theorem meets_work (h : Works now space name log read uid job) (hu : targets log = []) (hk : tokens log = 0) :
    (work now space name uid job).Meets (Due now space name) (fun _ _ => True) log := by
  refine meets_bind.2 (meets_attempt.2 (meets_resolveTool h (fun f more hq => ?_) fun tool more hq he => ?_))
  · exact meets_abandon (h.append hq.stored)
  refine meets_bind.2 (meets_attempt.2 (meets_resolve he (fun f more' hq' => ?_) fun pods more' hq' hr => ?_))
  · exact meets_abandon (he.toWorks.append hq'.stored)
  apply meets_serve hr
  · rw [targets_append, targets_append, hu, hq.added, hq'.added]
    rfl
  · rw [tokens_append, tokens_append, hk, hq.asked, hq'.asked]

/-- **The whole pass.**  Whatever the replies, each call is due when it is made. -/
theorem meets_reconcile : (reconcile now space name).Meets (Due now space name) (fun _ _ => True) [] := by
  refine meets_bind.2 (And.intro .getJob ?_)
  rintro (e | found)
  · exact trivial
  cases found with
  | none => exact trivial
  | some read =>
    show Meets _ _ (if read.metadata.isDeleting = true then _ else _) _
    split
    · exact trivial
    · next hd =>
      cases hu : read.metadata.uid with
      | none => exact trivial
      | some uid =>
        have hr : Read space name [⟨.getJob space name, Except.ok (some read)⟩] read uid :=
          ⟨⟨[], rfl⟩, by simpa using hd, hu⟩
        refine meets_bind.2 ?_
        unfold initialized
        split
        · next hp =>
          have hp : read.phase = none := by simpa using hp
          refine And.intro (.setUp hr hp rfl) ?_
          rintro (e | job)
          · exact trivial
          · exact meets_work ⟨hr.append, .inr ⟨hp, saw_append_self _ _, rfl⟩⟩ rfl rfl
        · next hp =>
          have hp : read.phase ≠ none := by simpa using hp
          exact meets_work ⟨hr, .inl ⟨hp, rfl, rfl⟩⟩ rfl rfl

theorem due_of_call {c : Call} {next : c.Reply → Pass Next}
    (h : (reconcile now space name).Goes log (.call c next)) : Due now space name log c :=
  meets_reconcile.due_of_call h

theorem due_of_goes {a : Answered} {more : List Answered} {q : Pass Next}
    (h : (reconcile now space name).Goes (log ++ a :: more) q) : Due now space name log a.call :=
  meets_reconcile.due_of_goes h

end

/-! ## A job to look at -/

namespace Sample

def metadata (name uid : String) : Metadata :=
  { Metadata.empty with
    name := some name, space := some "shop", uid := some uid, resourceVersion := some "1" }

/-- A job for every pod of its namespace, set up and without a claim. -/
def job : Job :=
  ⟨metadata "trace" "7f9c", ⟨⟨some ⟨.empty, []⟩, none⟩, ⟨"perf", "30s", none, none⟩, .stay⟩,
    some { Job.Status.initial with phase := some .pending }⟩

/-- A pod without an ephemeral container. -/
def pod : Pod :=
  ⟨metadata "cart" "11aa", some ⟨[], none, none, none, []⟩, none⟩

/-- The registry entry of the job's tool, for every namespace. -/
def tool : Tool :=
  ⟨metadata "perf-config" "22bb", ⟨"perf", "perf:1", .none, [], none, none, [], none⟩, none⟩

def now : Stamp := ⟨0, 0⟩

/-- The container the job adds to the pod. -/
def container : EphemeralContainer :=
  Attachment.container job tool.spec pod (Job.containerName "trace" "7f9c") none

/-- The log of a pass over the job up to that container. -/
def log : List Answered :=
  [⟨.getJob "shop" "trace", Except.ok (some job)⟩, ⟨.findTool "perf" "shop", Except.ok (some tool)⟩,
    ⟨.listPods "shop" "", Except.ok [pod]⟩, ⟨.listJobs "shop", Except.ok [job]⟩]

theorem goes_to_container :
    ∃ next, (reconcile now "shop" "trace").Goes log (.call (.addContainer pod container) next) := by
  apply Exists.intro
  apply Goes.call (c := .getJob "shop" "trace") (Except.ok (some job))
  apply Goes.call (c := .findTool "perf" "shop") (Except.ok (some tool))
  apply Goes.call (c := .listPods "shop" "") (Except.ok [pod])
  apply Goes.call (c := .listJobs "shop") (Except.ok [job])
  exact .stay _

end Sample

end Pass

end ProfilingOperator
