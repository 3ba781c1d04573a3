import ProfilingOperator.Proofs.Serving

/-!
# How a pass over a job ends

A pass that ends has a log that falls into parts, one for each of its steps: the job is opened, its tool and its pods
are looked up, a conflict is looked for, and then the pass makes way or manages the containers.  The log of the
management falls into one part for each pod that was tried, and the calls that close the pass.

    Resolution.goes : a pass whose steps up to its pods went well comes to serve the job
    ends_manage : the management tries its pods one after the other, and closes the pass
    exit_of_ends : the ways in which a pass ends
    status_of_done : what is stored of the job in the end
-/

namespace ProfilingOperator

namespace Pass

/-! ## Parts of a log -/

/-- The steps of a pass up to its pods, each of which has ended with its value. -/
structure Resolution (now : Stamp) (space name : String) (log : List Answered) (read : Job) (uid : String)
    (job : Job) (tool : Tool.Spec) (pods : List Pod) : Prop where
  stands : read.metadata.isDeleting = false
  identity : read.metadata.uid = some uid
  steps : ∃ opening search lookup, (initialized now read).Ends opening (.done job) ∧
    (resolveTool job space).Ends search (.done tool) ∧
    (Targets.resolve space job.spec.targets.selector).Ends lookup (.done pods) ∧
    log = ⟨.getJob space name, Except.ok (some read)⟩ :: (opening ++ (search ++ lookup))

/-- The job of a pass was read, and set up if no pass had seen it. -/
structure Opening (now : Stamp) (space name : String) (log : List Answered) (read : Job) (uid : String) (job : Job) :
    Prop where
  stands : read.metadata.isDeleting = false
  identity : read.metadata.uid = some uid
  steps : ∃ setup, (initialized now read).Ends setup (.done job) ∧
    log = ⟨.getJob space name, Except.ok (some read)⟩ :: setup

def failureEvent (job : Job) (f : Failure) : Event :=
  ⟨.warning, "ReconcileFailed", Event.reconcile, some f.message, job.reference⟩

def conflictEvent (job : Job) (c : Conflict) : Event :=
  ⟨.warning, "ConflictDetected", Event.reconcile, some c.message, job.reference⟩

def troubleEvent (job : Job) (pod : Pod) (f : Failure) : Event :=
  ⟨.warning, "InjectionFailed", Event.inject, some (injectionMessage pod f), job.reference⟩

def completionEvent (job : Job) (status : Job.Status) : Event :=
  ⟨.normal, "ProfilingCompleted", Event.reconcile,
    some ("Profiling finished on " ++ toString status.selectedPods ++ " pods"), job.reference⟩

/-- A job with a failure recorded. -/
def failing (now : Stamp) (job : Job) (f : Failure) : Job :=
  job.withStatus (job.reported.markFailed f.message now)

/-- The calls of a pass that gives up.  A configuration error is recorded, as far as that succeeds, and told of. -/
inductive Abandons (now : Stamp) (job : Job) (f : Failure) : List Answered → Prop
  | silent : f.isConfiguration = false → Abandons now job f []
  | recorded (r : Except Failure Job) : f.isConfiguration = true →
      Abandons now job f [⟨.replaceStatus (failing now job f), r⟩, ⟨.publish (failureEvent job f), ()⟩]

/-- The calls of a pass that makes way, with a status.  The pass fails if it cannot be written. -/
inductive MakesWay (now : Stamp) (job : Job) (status : Job.Status) (c : Conflict) :
    List Answered → Outcome Next → Prop
  | told (stored : Job) : MakesWay now job status c
      [⟨.replaceStatus (job.withStatus (status.markConflicted c now)), Except.ok stored⟩,
        ⟨.publish (conflictEvent job c), ()⟩] (.done (.after Requeue.conflict))
  | refused (f : Failure) : MakesWay now job status c
      [⟨.replaceStatus (job.withStatus (status.markConflicted c now)), Except.error f⟩] (.failed f)

/-- What is asked for when a pod is tried: a token, its container, and that users are told of it. -/
def Trial (pod : Pod) : Call → Prop
  | .issueToken _ _ => True
  | .addContainer p _ => p = pod
  | .publish e => e.reason = "ContainerInjected"
  | _ => False

/-- The event a call has published. -/
def published? : Answered → Option Event
  | ⟨.publish e, _⟩ => some e
  | _ => none

def events (log : List Answered) : List Event :=
  log.filterMap published?

/-- Pods were tried one after the other, each to its end, whatever came of those before.  A failure is told of. -/
inductive Tried (job : Job) (tool : Tool.Spec) (container : String) :
    List (Pod × Except Failure Unit) → List Answered → Prop
  | nil : Tried job tool container [] []
  | added {pod : Pod} {tries : List (Pod × Except Failure Unit)} {log rest : List Answered} :
      (inject job tool container pod).Ends log (.done ()) → Tried job tool container tries rest →
      Tried job tool container ((pod, .ok ()) :: tries) (log ++ rest)
  | failed {pod : Pod} {f : Failure} {tries : List (Pod × Except Failure Unit)} {log rest : List Answered} :
      (inject job tool container pod).Ends log (.failed f) → Tried job tool container tries rest →
      Tried job tool container ((pod, .error f) :: tries)
        (log ++ ⟨.publish (troubleEvent job pod f), ()⟩ :: rest)

/-- The calls that close a pass with a status: it is written unless it is the one that was read, and a completion is
told of.  The pass fails if the write does. -/
inductive Closes (job : Job) (status : Job.Status) : List Answered → Outcome Next → Prop
  | kept {told : List Answered} : job.status = some status → (tellCompleted job status).Ends told (.done ()) →
      Closes job status told (.done (.after (Requeue.interval status.phase)))
  | written {stored : Job} {told : List Answered} : job.status ≠ some status →
      (tellCompleted job status).Ends told (.done ()) →
      Closes job status (⟨.replaceStatus (job.withStatus status), Except.ok stored⟩ :: told)
        (.done (.after (Requeue.interval status.phase)))
  | refused {f : Failure} : job.status ≠ some status →
      Closes job status [⟨.replaceStatus (job.withStatus status), Except.error f⟩] (.failed f)

/-- Results go to the collector, and no token outlives the window that is asked for. -/
def Untokened (job : Job) : Prop :=
  job.spec.output.mode = .collector ∧
    ∃ window, Duration.parse job.spec.tool.duration = .ok window ∧ Token.lifetime? window = none

/-- The container of a job was called for in a pod, and this went well. -/
def Added (job : Job) (tool : Tool.Spec) (container : String) (pod : Pod) (log : List Answered) : Prop :=
  ∃ access, ⟨.addContainer pod (Attachment.container job tool pod container access), Except.ok ()⟩ ∈ log

/-- How the trial of a pod ends: it stops short only for want of a token, and goes well only with a container added. -/
structure TrialEnds (job : Job) (tool : Tool.Spec) (container : String) (pod : Pod) (o : Outcome Unit)
    (log : List Answered) : Prop where
  stops : ∀ m, o = .crashed m → Untokened job
  adds : o = .done () → Added job tool container pod log

/-- The status the management of containers leaves after some pods were tried. -/
def concluded (now : Stamp) (job : Job) (pods : List Pod) (container : String)
    (results : List ((Pod × Nat) × Except Failure Unit)) : Job.Status :=
  let out := settle container results (planFor job pods container).active none
  managed now job pods out.1 out.2

/-- The ways in which a pass ends, each with all its calls. -/
inductive Exit (now : Stamp) (space name : String) : List Answered → Outcome Next → Prop
  /-- The job could not be read. -/
  | unread (f : Failure) : Exit now space name [⟨.getJob space name, Except.error f⟩] (.failed f)
  | gone {found : Option Job} : (∀ read, found = some read → read.metadata.isDeleting = true) →
      Exit now space name [⟨.getJob space name, Except.ok found⟩] (.done .onChange)
  | nameless {read : Job} : read.metadata.isDeleting = false → read.metadata.uid = none →
      Exit now space name [⟨.getJob space name, Except.ok (some read)⟩] (.failed (.missingUid name))
  /-- The job could not be set up. -/
  | unset {read : Job} {uid : String} (f : Failure) : read.metadata.isDeleting = false →
      read.metadata.uid = some uid → read.phase = none →
      Exit now space name [⟨.getJob space name, Except.ok (some read)⟩,
        ⟨.replaceStatus (setUp now read), Except.error f⟩] (.failed f)
  | toolless {opening search record : List Answered} {read job : Job} {uid : String} {f : Failure} :
      Opening now space name opening read uid job → (resolveTool job space).Ends search (.failed f) →
      Abandons now job f record → Exit now space name (opening ++ (search ++ record)) (.failed f)
  | podless {opening search lookup record : List Answered} {read job : Job} {uid : String} {tool : Tool.Spec}
      {f : Failure} :
      Opening now space name opening read uid job → (resolveTool job space).Ends search (.done tool) →
      (Targets.resolve space job.spec.targets.selector).Ends lookup (.failed f) → Abandons now job f record →
      Exit now space name (opening ++ (search ++ (lookup ++ record))) (.failed f)
  /-- The other jobs could not be listed. -/
  | unlisted {before check : List Answered} {read job : Job} {uid : String} {tool : Tool.Spec} {pods : List Pod}
      {f : Failure} :
      Resolution now space name before read uid job tool pods → (conflict? job space pods).Ends check (.failed f) →
      Exit now space name (before ++ check) (.failed f)
  | madeWay {before check rest : List Answered} {read job : Job} {uid : String} {tool : Tool.Spec} {pods : List Pod}
      {c : Conflict} {o : Outcome Next} :
      Resolution now space name before read uid job tool pods → (conflict? job space pods).Ends check (.done (some c)) →
      MakesWay now job (selected job pods) c rest o → Exit now space name (before ++ (check ++ rest)) o
  | managed {before check tried ending : List Answered} {read job : Job} {uid : String} {tool : Tool.Spec}
      {pods : List Pod} {results : List ((Pod × Nat) × Except Failure Unit)} {o : Outcome Next} :
      Resolution now space name before read uid job tool pods → (conflict? job space pods).Ends check (.done none) →
      results.map (·.1) = attempted job pods (Job.containerName name uid) →
      Tried job tool (Job.containerName name uid) (results.map fun r => (r.1.1, r.2)) tried →
      Closes job (concluded now job pods (Job.containerName name uid) results) ending o →
      Exit now space name (before ++ (check ++ (tried ++ ending))) o
  /-- The token that a container needs cannot be had. -/
  | cutShort {before check rest : List Answered} {read job : Job} {uid : String} {tool : Tool.Spec}
      {pods : List Pod} {message : String} :
      Resolution now space name before read uid job tool pods → (conflict? job space pods).Ends check (.done none) →
      (manage now job tool pods (Job.containerName name uid) (selected job pods)).Ends rest (.crashed message) →
      Exit now space name (before ++ (check ++ rest)) (.crashed message)

/-- The tool of a job whose look-up has found an entry, or none. -/
def admitted (job : Job) (space : String) : Option Tool → Except Failure Tool.Spec
  | none => .error (.toolNotFound job.spec.tool.name (Tool.entryName job.spec.tool.name))
  | some entry =>
    if entry.spec.allows space then .ok entry.spec else .error (.namespaceNotAllowed space job.spec.tool.name)

/-- What a pass does with a job it has found. -/
def opened (now : Stamp) (space name : String) : Option Job → Pass Next
  | none => .done .onChange
  | some read =>
    if read.metadata.isDeleting then .done .onChange
    else match read.metadata.uid with
      | none => .fail (.missingUid name)
      | some uid => (initialized now read).bind (work now space name uid)

/-! ## Lemmas -/

section
variable {now : Stamp} {space name uid container : String} {log rest : List Answered} {read job : Job}
  {tool : Tool.Spec} {pods : List Pod} {next : Next} {o : Outcome Next}

/-! ### Events -/

theorem events_append : events (log ++ rest) = events log ++ events rest :=
  List.filterMap_append

theorem mem_events_iff {e : Event} : e ∈ events log ↔ ∃ u, Saw log (.publish e) u := by
  constructor
  · intro he
    obtain ⟨⟨call, r⟩, ha, hcall⟩ := List.mem_filterMap.1 he
    cases call with
    | publish event =>
      cases hcall
      exact ⟨r, ha⟩
    | _ => cases hcall
  · rintro ⟨u, hsaw⟩
    exact List.mem_filterMap.2 ⟨_, hsaw, rfl⟩

/-! ### Opening and looking up -/

theorem reconcile_eq : reconcile now space name = (getJob space name).bind (opened now space name) := rfl

theorem opened_eq (hstands : read.metadata.isDeleting = false) (huid : read.metadata.uid = some uid) :
    opened now space name (some read) = (initialized now read).bind (work now space name uid) := by
  simp only [opened, hstands, huid]
  rfl

theorem Resolution.goes (h : Resolution now space name log read uid job tool pods) :
    (reconcile now space name).Goes log (serve now space name uid job tool pods) := by
  obtain ⟨opening, search, lookup, hopening, hsearch, hlookup, rfl⟩ := h.steps
  rw [reconcile_eq]
  refine Goes.call (c := .getJob space name) (Except.ok (some read)) ?_
  show (opened now space name (some read)).Goes _ _
  rw [opened_eq h.stands h.identity]
  have hwork : ((initialized now read).bind (work now space name uid)).Goes opening (work now space name uid job) :=
    Goes.bind hopening _
  exact hwork.trans (Goes.trans (Goes.bind (Goes.attempt hsearch) _) (Goes.bind (Goes.attempt hlookup) _))

/-- The tool a job may use, from what its look-up found. -/
theorem resolveTool_eq : resolveTool job space =
    .call (.findTool job.spec.tool.name space) fun r => ofReply (Except.bind r (admitted job space)) := by
  refine congrArg (Pass.call (.findTool job.spec.tool.name space)) (funext fun r => ?_)
  rcases r with f | found
  · rfl
  cases found with
  | none => rfl
  | some entry =>
    show (if entry.spec.allows space = true then Pass.done entry.spec else Pass.fail _) =
      ofReply (if entry.spec.allows space = true then .ok entry.spec else .error _)
    split
    · rfl
    · rfl

theorem ends_resolveTool {o : Outcome Tool.Spec} :
    (resolveTool job space).Ends log o ↔
      ∃ r : Except Failure (Option Tool),
        log = [⟨.findTool job.spec.tool.name space, r⟩] ∧ o = .ofReply (r.bind (admitted job space)) := by
  rw [resolveTool_eq]
  exact ends_reply

/-- Targets are resolved without a call, or by one list that is filtered once more. -/
theorem ends_resolve {selector : Option Selector} {o : Outcome (List Pod)} :
    (Targets.resolve space selector).Ends log o ↔
      (selector = none ∧ log = [] ∧ o = .done []) ∨
      (∃ s f, selector = some s ∧ Selector.compile s = .error f ∧ log = [] ∧
        o = .failed (.invalidSelector f.message)) ∨
      ∃ (s : Selector) (compiled : Selector.Compiled) (r : Except Failure (List Pod)), selector = some s ∧
        Selector.compile s = .ok compiled ∧ log = [⟨.listPods space compiled.query, r⟩] ∧
        o = .ofReply (r.map fun l => l.filter fun p => compiled.accepts p.labels) := by
  cases selector with
  | none => simp [Targets.resolve, ends_done]
  | some s =>
    cases hc : Selector.compile s with
    | error f => simp [Targets.resolve, hc, ends_fail]
    | ok compiled =>
      have hcall : Targets.resolve space (some s) = .call (.listPods space compiled.query) fun r =>
          ofReply (Except.map (fun l => l.filter fun p => compiled.accepts p.labels) r) := by
        simp only [Targets.resolve, hc]
        refine congrArg (Pass.call (.listPods space compiled.query)) (funext fun r => ?_)
        cases r <;> rfl
      rw [hcall]
      constructor
      · intro h
        obtain ⟨r, hlog, ho⟩ := ends_reply.1 h
        exact .inr (.inr ⟨s, compiled, r, rfl, hc, hlog, ho⟩)
      · rintro (⟨hnone, -⟩ | ⟨s', f, hs, hf, -⟩ | ⟨s', compiled', r, hs, hok, hlog, ho⟩)
        · cases hnone
        · cases hs
          rw [hc] at hf
          cases hf
        · cases hs
          obtain rfl := Except.ok.inj (hc.symm.trans hok)
          exact ends_reply.2 ⟨r, hlog, ho⟩

/-- A conflict is looked for by one list of the jobs, unless the job is done with. -/
theorem ends_conflict? {o : Outcome (Option Conflict)} :
    (conflict? job space pods).Ends log o ↔
      (job.isTerminal = true ∧ log = [] ∧ o = .done none) ∨
      (job.isTerminal = false ∧ ∃ r : Except Failure (List Job), log = [⟨.listJobs space, r⟩] ∧
        o = .ofReply (r.map (Conflict.detect job (targetNames pods)))) := by
  unfold conflict?
  cases ht : job.isTerminal with
  | true => simp [ends_done]
  | false =>
    have hcall : ((listJobs space).bind fun others => .done (Conflict.detect job (targetNames pods) others)) =
        .call (.listJobs space) fun r => ofReply (Except.map (Conflict.detect job (targetNames pods)) r) := by
      refine congrArg (Pass.call (.listJobs space)) (funext fun r => ?_)
      cases r <;> rfl
    show ((listJobs space).bind fun others => .done (Conflict.detect job (targetNames pods) others)).Ends log o ↔ _
    rw [hcall]
    simp only [Bool.false_eq_true, false_and, false_or, true_and]
    exact ends_reply

theorem ends_initialized {o : Outcome Job} :
    (initialized now read).Ends log o ↔
      (read.phase ≠ none ∧ log = [] ∧ o = .done read) ∨
      (read.phase = none ∧ ∃ r : Except Failure Job, log = [⟨.replaceStatus (setUp now read), r⟩] ∧
        o = .ofReply r) := by
  unfold initialized
  cases hphase : read.phase with
  | none =>
    simp only [ne_eq, not_true_eq_false, false_and, false_or, true_and]
    exact ends_reply
  | some p => simp [ends_done]

theorem looks_of_resolveTool {o : Outcome Tool.Spec} (h : (resolveTool job space).Ends log o) :
    ∀ a ∈ log, a.call.isLookup = true := by
  obtain ⟨r, rfl, -⟩ := ends_resolveTool.1 h
  exact List.forall_mem_singleton.2 rfl

theorem looks_of_resolve {selector : Option Selector} {o : Outcome (List Pod)}
    (h : (Targets.resolve space selector).Ends log o) : ∀ a ∈ log, a.call.isLookup = true := by
  rcases ends_resolve.1 h with ⟨-, rfl, -⟩ | ⟨s, f, -, -, rfl, -⟩ | ⟨s, compiled, r, -, -, rfl, -⟩
  · exact fun a ha => absurd ha List.not_mem_nil
  · exact fun a ha => absurd ha List.not_mem_nil
  · exact List.forall_mem_singleton.2 rfl

theorem looks_of_conflict? {o : Outcome (Option Conflict)} (h : (conflict? job space pods).Ends log o) :
    ∀ a ∈ log, a.call.isLookup = true := by
  rcases ends_conflict?.1 h with ⟨-, rfl, -⟩ | ⟨-, r, rfl, -⟩
  · exact fun a ha => absurd ha List.not_mem_nil
  · exact List.forall_mem_singleton.2 rfl

theorem quiet_conflict? {o : Outcome (Option Conflict)} (h : (conflict? job space pods).Ends log o) :
    ∀ a ∈ log, a.call.isStore = false :=
  fun a ha => Call.isStore_of_isLookup (looks_of_conflict? h a ha)

/-- Looking something up stores nothing, adds nothing and asks for nothing. -/
theorem quiet_of_looks (h : ∀ a ∈ log, a.call.isLookup = true) : Quiet log := by
  have hidle : ∀ a : Answered, a.call.isLookup = true → a.stored? = none ∧ a.target? = none ∧ a.isToken = false := by
    rintro ⟨call, r⟩ hcall
    cases call <;> first | exact ⟨rfl, rfl, rfl⟩ | cases hcall
  refine ⟨List.filterMap_eq_nil_iff.2 fun a ha => (hidle a (h a ha)).1,
    List.filterMap_eq_nil_iff.2 fun a ha => (hidle a (h a ha)).2.1, List.countP_eq_zero.2 fun a ha => ?_⟩
  rw [(hidle a (h a ha)).2.2]
  exact Bool.false_ne_true

theorem events_of_looks (h : ∀ a ∈ log, a.call.isLookup = true) : events log = [] := by
  refine List.filterMap_eq_nil_iff.2 ?_
  rintro ⟨call, r⟩ ha
  have hcall : call.isLookup = true := h _ ha
  cases call with
  | publish => cases hcall
  | _ => rfl

/-- The opening of a job adds nothing and tells of nothing. -/
theorem Opening.events_eq (h : Opening now space name log read uid job) : events log = [] := by
  obtain ⟨setup, hsetup, rfl⟩ := h.steps
  rcases ends_initialized.1 hsetup with ⟨-, rfl, -⟩ | ⟨-, r, rfl, -⟩
  · rfl
  · rfl

theorem Opening.targets_eq (h : Opening now space name log read uid job) : targets log = [] := by
  obtain ⟨setup, hsetup, rfl⟩ := h.steps
  rcases ends_initialized.1 hsetup with ⟨-, rfl, -⟩ | ⟨-, r, rfl, -⟩
  · rfl
  · rfl

/-! ### Giving up and making way -/

/-- A pass that gives up fails with what made it do so, whatever becomes of the record. -/
theorem ends_abandon {f : Failure} (h : (abandon now job f).Ends log o) : o = .failed f ∧ Abandons now job f log := by
  unfold abandon at h
  split at h
  · next hf =>
    obtain ⟨r, rest, rfl, hrest⟩ := ends_call.1 h
    -- the reply is looked at by nothing
    have htold : ((publish (failureEvent job f)).bind fun _ => (Pass.fail f : Pass Next)).Ends rest o := by
      cases r <;> exact hrest
    obtain ⟨u, last, rfl, hlast⟩ := ends_call.1 htold
    obtain ⟨rfl, rfl⟩ := ends_fail.1 hlast
    exact ⟨rfl, .recorded r hf⟩
  · next hf =>
    obtain ⟨rfl, rfl⟩ := ends_fail.1 h
    exact ⟨rfl, .silent (by simpa using hf)⟩

theorem ends_makeWay {status : Job.Status} {c : Conflict} (h : (makeWay now job status c).Ends log o) :
    MakesWay now job status c log o := by
  obtain ⟨r, rest, rfl, hrest⟩ := ends_call.1 h
  cases r with
  | error f =>
    obtain ⟨rfl, rfl⟩ := ends_fail.1 hrest
    exact .refused f
  | ok stored =>
    obtain ⟨u, last, rfl, hlast⟩ := ends_call.1 hrest
    obtain ⟨rfl, rfl⟩ := ends_done.1 hlast
    exact .told stored

theorem Abandons.targets_eq {f : Failure} (h : Abandons now job f log) : targets log = [] := by
  cases h with
  | silent => rfl
  | recorded => rfl

theorem MakesWay.targets_eq {status : Job.Status} {c : Conflict} (h : MakesWay now job status c log o) :
    targets log = [] := by
  cases h with
  | told => rfl
  | refused => rfl

/-! ### Managing containers -/

theorem Trial.quiet {pod : Pod} {c : Call} (h : Trial pod c) : c.isStore = false := by
  cases c with
  | replaceStatus => exact h.elim
  | _ => rfl

theorem TrialEnds.failed (pod : Pod) (f : Failure) (log : List Answered) :
    TrialEnds job tool container pod (.failed f) log :=
  ⟨fun m hm => (by cases hm), fun hdone => (by cases hdone)⟩

/-- **One pod.**  What a trial may call, and how it can end. -/
theorem meets_trial {pod : Pod} :
    (inject job tool container pod).Meets (fun _ c => Trial pod c) (TrialEnds job tool container pod) log := by
  have add : ∀ access log, Meets (fun _ c => Trial pod c) (TrialEnds job tool container pod)
      ((addContainer pod (Attachment.container job tool pod container access)).bind fun _ =>
        publish ⟨.normal, "ContainerInjected", Event.inject,
          some ("Added " ++ container ++ " to pod " ++ pod.name), job.reference⟩) log := by
    intro access log
    refine meets_bind.2 (And.intro rfl ?_)
    rintro (e | u)
    · exact .failed pod e _
    · exact And.intro rfl fun _ => ⟨fun m hm => (by cases hm),
        fun _ => ⟨access, List.mem_append_left _ (List.mem_append_right _ List.mem_cons_self)⟩⟩
  -- the three modes of output: only the collector needs a token before the container is added
  refine meets_bind.2 ?_
  unfold collector
  split
  · exact add none log
  · exact add none log
  · next hmode =>
    split
    · exact .failed pod _ log
    · split
      · exact .failed pod _ log
      · next window hwindow =>
        unfold credentials
        split
        · next hlife => exact ⟨fun _ _ => ⟨hmode, window, hwindow, hlife⟩, fun hdone => (by cases hdone)⟩
        · refine meets_bind.2 (And.intro trivial ?_)
          rintro (e | token)
          · exact .failed pod e _
          · exact add _ _

theorem ends_inject {pod : Pod} {o : Outcome Unit} (h : (inject job tool container pod).Ends log o) :
    (∀ a ∈ log, Trial pod a.call) ∧ TrialEnds job tool container pod o log := by
  have hmeets : (inject job tool container pod).Meets (fun _ c => Trial pod c) (TrialEnds job tool container pod) [] :=
    meets_trial
  exact ⟨hmeets.calls_of_goes h, hmeets.ends_of_ends h⟩

section
variable {tries : List (Pod × Except Failure Unit)}

/-- A call that is made while pods are tried is due to one of them, or tells of its failure. -/
theorem Tried.origin (h : Tried job tool container tries log) {a : Answered} (ha : a ∈ log) :
    ∃ t ∈ tries, Trial t.1 a.call ∨ ∃ f, t.2 = .error f ∧ a.call = .publish (troubleEvent job t.1 f) := by
  induction h with
  | nil => exact absurd ha List.not_mem_nil
  | added hinject _ ih =>
    rcases List.mem_append.1 ha with ha | ha
    · exact ⟨_, List.mem_cons_self, .inl ((ends_inject hinject).1 a ha)⟩
    · obtain ⟨t, ht, horigin⟩ := ih ha
      exact ⟨t, List.mem_cons_of_mem _ ht, horigin⟩
  | failed hinject _ ih =>
    rcases List.mem_append.1 ha with ha | ha
    · exact ⟨_, List.mem_cons_self, .inl ((ends_inject hinject).1 a ha)⟩
    · rcases List.mem_cons.1 ha with rfl | ha
      · exact ⟨_, List.mem_cons_self, .inr ⟨_, rfl, rfl⟩⟩
      · obtain ⟨t, ht, horigin⟩ := ih ha
        exact ⟨t, List.mem_cons_of_mem _ ht, horigin⟩

/-- Every trial has its part of the log, and a failure is told of right after it. -/
theorem Tried.part (h : Tried job tool container tries log) {pod : Pod} {r : Except Failure Unit}
    (ht : (pod, r) ∈ tries) : ∃ earlier trial later, log = earlier ++ (trial ++ later) ∧
      (inject job tool container pod).Ends trial (.ofReply r) ∧
      ∀ f, r = .error f → troubleEvent job pod f ∈ events later := by
  induction h with
  | nil => exact absurd ht List.not_mem_nil
  | @added _ _ first rest hinject _ ih =>
    rcases List.mem_cons.1 ht with hpod | ht
    · cases hpod
      exact ⟨[], first, rest, rfl, hinject, fun f hf => by cases hf⟩
    · obtain ⟨earlier, trial, later, rfl, hpart⟩ := ih ht
      exact ⟨first ++ earlier, trial, later, by rw [List.append_assoc], hpart⟩
  | @failed p f _ first rest hinject _ ih =>
    rcases List.mem_cons.1 ht with hpod | ht
    · cases hpod
      exact ⟨[], first, _, rfl, hinject, fun f hf => by cases hf; exact List.mem_cons_self⟩
    · obtain ⟨earlier, trial, later, rfl, hpart⟩ := ih ht
      refine ⟨first ++ ⟨.publish (troubleEvent job p f), ()⟩ :: earlier, trial, later, ?_, hpart⟩
      rw [List.append_assoc]
      rfl

theorem Tried.quiet (h : Tried job tool container tries log) : ∀ a ∈ log, a.call.isStore = false := by
  intro a ha
  obtain ⟨t, -, htrial | ⟨f, -, hcall⟩⟩ := h.origin ha
  · exact htrial.quiet
  · rw [hcall]
    rfl

/-- An event while pods are tried tells of a container that was added, or of one that could not be. -/
theorem Tried.tells (h : Tried job tool container tries log) {e : Event} (he : e ∈ events log) :
    e.reason = "ContainerInjected" ∨ ∃ pod f, (pod, .error f) ∈ tries ∧ e = troubleEvent job pod f := by
  obtain ⟨u, he⟩ := mem_events_iff.1 he
  obtain ⟨⟨pod, r⟩, ht, htrial | ⟨f, hf, hcall⟩⟩ := h.origin he
  · exact .inl htrial
  · cases hf
    cases hcall
    exact .inr ⟨pod, f, ht, rfl⟩

/-- A trial goes well only with a container added. -/
theorem Tried.adds (h : Tried job tool container tries log) {pod : Pod} (ht : (pod, .ok ()) ∈ tries) :
    Added job tool container pod log := by
  obtain ⟨earlier, trial, later, rfl, hinject, -⟩ := h.part ht
  obtain ⟨access, hadded⟩ := (ends_inject hinject).2.adds rfl
  exact ⟨access, List.mem_append_right _ (List.mem_append_left _ hadded)⟩

theorem Tried.mem_targets_of_added (h : Tried job tool container tries log) {pod : Pod}
    (ht : (pod, .ok ()) ∈ tries) : pod ∈ targets log := by
  obtain ⟨access, hadded⟩ := h.adds ht
  exact List.mem_filterMap.2 ⟨_, hadded, rfl⟩

theorem Tried.mem_of_targets (h : Tried job tool container tries log) {pod : Pod} (hp : pod ∈ targets log) :
    pod ∈ tries.map (·.1) := by
  obtain ⟨⟨call, r⟩, ha, htarget⟩ := List.mem_filterMap.1 hp
  cases call with
  | addContainer p c =>
    cases htarget
    obtain ⟨t, ht, htrial | ⟨f, -, hcall⟩⟩ := h.origin ha
    · exact List.mem_map.2 ⟨t, ht, Eq.symm htrial⟩
    · cases hcall
  | _ => cases htarget

end

/-- Pods are tried one after the other, until one of them stops the pass short. -/
theorem ends_injectAll {entries : List (Pod × Nat)} {active : StringMap String} {trouble : Option String}
    {o : Outcome (StringMap String × Option String)}
    (h : (injectAll job tool container entries active trouble).Ends log o) :
    (∃ results : List ((Pod × Nat) × Except Failure Unit), results.map (·.1) = entries ∧
      Tried job tool container (results.map fun r => (r.1.1, r.2)) log ∧
      o = .done (settle container results active trouble)) ∨
    ((∃ m, o = .crashed m) ∧ Untokened job) := by
  induction entries generalizing active trouble log with
  | nil =>
    obtain ⟨rfl, rfl⟩ := ends_done.1 h
    exact .inl ⟨[], rfl, .nil, rfl⟩
  | cons entry entries ih =>
    rcases ends_attempt_bind.1 h with ⟨r, first, rest, rfl, hinject, hrest⟩ | ⟨m, rfl, hinject⟩
    · cases r with
      | ok u =>
        rcases ih hrest with ⟨results, hentries, htried, ho⟩ | hcrash
        · refine .inl ⟨(entry, .ok ()) :: results, ?_, htried.added hinject, ho⟩
          rw [List.map_cons, hentries]
        · exact .inr hcrash
      | error f =>
        obtain ⟨u, more, rfl, hmore⟩ := ends_call.1 hrest
        rcases ih hmore with ⟨results, hentries, htried, ho⟩ | hcrash
        · refine .inl ⟨(entry, .error f) :: results, ?_, htried.failed hinject, ho⟩
          rw [List.map_cons, hentries]
        · exact .inr hcrash
    · exact .inr ⟨⟨m, rfl⟩, (ends_inject hinject).2.stops m rfl⟩

theorem ends_tellCompleted {status : Job.Status} {o : Outcome Unit} (h : (tellCompleted job status).Ends log o) :
    o = .done () ∧ ∀ a ∈ log, a = ⟨.publish (completionEvent job status), ()⟩ := by
  unfold tellCompleted at h
  split at h
  · obtain ⟨u, rest, rfl, hdone⟩ := ends_call.1 h
    obtain ⟨rfl, rfl⟩ := ends_done.1 hdone
    exact ⟨rfl, List.forall_mem_singleton.2 rfl⟩
  · obtain ⟨rfl, rfl⟩ := ends_done.1 h
    exact ⟨rfl, fun a ha => absurd ha List.not_mem_nil⟩

theorem quiet_of_tellCompleted {status : Job.Status} {o : Outcome Unit} (h : (tellCompleted job status).Ends log o) :
    ∀ a ∈ log, a.call.isStore = false := by
  intro a ha
  rw [(ends_tellCompleted h).2 a ha]
  rfl

/-- What follows the status of a pass: a completion is told of, and the next pass is asked for. -/
theorem ends_told {status : Job.Status}
    (h : ((tellCompleted job status).bind fun _ => Pass.done (.after (Requeue.interval status.phase))).Ends log o) :
    (tellCompleted job status).Ends log (.done ()) ∧ o = .done (.after (Requeue.interval status.phase)) := by
  rcases ends_bind.1 h with ⟨u, told, rest, rfl, htell, hdone⟩ | ⟨e, -, htell⟩ | ⟨m, -, htell⟩
  · obtain ⟨rfl, rfl⟩ := ends_done.1 hdone
    rw [List.append_nil]
    exact ⟨htell, rfl⟩
  · cases (ends_tellCompleted htell).1
  · cases (ends_tellCompleted htell).1

theorem Closes.targets_eq {status : Job.Status} (h : Closes job status log o) : targets log = [] := by
  have htargets : ∀ {told : List Answered}, (tellCompleted job status).Ends told (.done ()) → targets told = [] :=
    fun htell => List.filterMap_eq_nil_iff.2 fun a ha => by rw [(ends_tellCompleted htell).2 a ha]; rfl
  cases h with
  | kept _ htell => exact htargets htell
  | @written stored told _ htell =>
    have htold : targets told = [] := htargets htell
    exact htold
  | refused => rfl

/-- A pass that is closed tells at most of the completion of its job. -/
theorem Closes.tells {status : Job.Status} (h : Closes job status log o) {e : Event} (he : e ∈ events log) :
    e = completionEvent job status := by
  have htells : ∀ {told : List Answered}, (tellCompleted job status).Ends told (.done ()) → e ∈ events told →
      e = completionEvent job status := by
    intro told htell he
    obtain ⟨u, hsaw⟩ := mem_events_iff.1 he
    cases (ends_tellCompleted htell).2 _ hsaw
    rfl
  cases h with
  | kept _ htell => exact htells htell he
  | @written stored told _ htell =>
    have he : e ∈ events told := he
    exact htells htell he
  | refused => exact absurd he List.not_mem_nil

theorem ends_conclude {out : StringMap String × Option String} (h : (conclude now job pods out).Ends log o) :
    Closes job (managed now job pods out.1 out.2) log o := by
  unfold conclude store at h
  simp only at h
  split at h
  · next hsame =>
    obtain ⟨htell, rfl⟩ := ends_told h
    exact .kept hsame htell
  · next hne =>
    obtain ⟨r, rest, rfl, hstored⟩ := ends_call.1 h
    cases r with
    | error f =>
      obtain ⟨rfl, rfl⟩ := ends_fail.1 hstored
      exact .refused hne
    | ok stored =>
      obtain ⟨htell, rfl⟩ := ends_told hstored
      exact .written hne htell

/-- The management of containers tries its pods one after the other, and closes the pass with a status, unless a pod
stops the pass short. -/
theorem ends_manage (h : (manage now job tool pods container (selected job pods)).Ends log o) :
    (∃ results tried ending, log = tried ++ ending ∧
      results.map (·.1) = attempted job pods container ∧
      Tried job tool container (results.map fun r => (r.1.1, r.2)) tried ∧
      Closes job (concluded now job pods container results) ending o) ∨
    ((∃ m, o = .crashed m) ∧ Untokened job) := by
  -- the trials never fail as a whole: a pod that cannot be served is a value among the results
  rw [manage_eq] at h
  rcases ends_bind.1 h with ⟨out, tried, ending, rfl, hinject, hconclude⟩ | ⟨e, -, hinject⟩ | ⟨m, rfl, hinject⟩
  · rcases ends_injectAll hinject with ⟨results, hentries, htried, hout⟩ | ⟨⟨m, hm⟩, -⟩
    · cases hout
      exact .inl ⟨results, tried, ending, rfl, hentries, htried, ends_conclude hconclude⟩
    · cases hm
  · rcases ends_injectAll hinject with ⟨results, -, -, hout⟩ | ⟨⟨m, hm⟩, -⟩
    · cases hout
    · cases hm
  · rcases ends_injectAll hinject with ⟨results, -, -, hout⟩ | ⟨-, hcrash⟩
    · cases hout
    · exact .inr ⟨⟨m, rfl⟩, hcrash⟩

theorem ends_injectAll_crashed {entries : List (Pod × Nat)} {active : StringMap String} {trouble : Option String}
    {m : String} (h : (injectAll job tool container entries active trouble).Ends log (.crashed m)) :
    (∀ a ∈ log, a.call.isStore = false) ∧ ∃ pod trial, (inject job tool container pod).Ends trial (.crashed m) := by
  induction entries generalizing active trouble log with
  | nil => cases (ends_done.1 h).2
  | cons entry entries ih =>
    rcases ends_attempt_bind.1 h with ⟨r, first, rest, rfl, hinject, hrest⟩ | ⟨m', hm, hinject⟩
    · have hfirst : ∀ a ∈ first, a.call.isStore = false := fun a ha => ((ends_inject hinject).1 a ha).quiet
      cases r with
      | ok u =>
        obtain ⟨hquiet, hcrash⟩ := ih hrest
        exact ⟨List.forall_mem_append.2 ⟨hfirst, hquiet⟩, hcrash⟩
      | error f =>
        obtain ⟨u, more, rfl, hmore⟩ := ends_call.1 hrest
        obtain ⟨hquiet, hcrash⟩ := ih hmore
        exact ⟨List.forall_mem_append.2 ⟨hfirst, List.forall_mem_cons.2 ⟨rfl, hquiet⟩⟩, hcrash⟩
    · cases hm
      exact ⟨fun a ha => ((ends_inject hinject).1 a ha).quiet, entry.1, log, hinject⟩

/-- The management of containers, if it is stopped short, has stored nothing, and is stopped by a trial. -/
theorem ends_manage_crashed {m : String}
    (h : (manage now job tool pods container (selected job pods)).Ends log (.crashed m)) :
    (∀ a ∈ log, a.call.isStore = false) ∧ ∃ pod trial, (inject job tool container pod).Ends trial (.crashed m) := by
  rw [manage_eq] at h
  rcases ends_bind.1 h with ⟨out, first, rest, -, -, hconclude⟩ | ⟨f, hf, -⟩ | ⟨m', hm, hinject⟩
  · cases ends_conclude hconclude
  · cases hf
  · cases hm
    exact ends_injectAll_crashed hinject

/-! ### The whole pass -/

theorem Opening.resolution {opening search lookup : List Answered} (h : Opening now space name opening read uid job)
    (hsearch : (resolveTool job space).Ends search (.done tool))
    (hlookup : (Targets.resolve space job.spec.targets.selector).Ends lookup (.done pods)) :
    Resolution now space name (opening ++ (search ++ lookup)) read uid job tool pods := by
  obtain ⟨setup, hsetup, rfl⟩ := h.steps
  exact ⟨h.stands, h.identity, setup, search, lookup, hsetup, hsearch, hlookup, rfl⟩

theorem Resolution.parts (h : Resolution now space name log read uid job tool pods) :
    ∃ opening search lookup, log = opening ++ (search ++ lookup) ∧
      Opening now space name opening read uid job ∧ (resolveTool job space).Ends search (.done tool) ∧
      (Targets.resolve space job.spec.targets.selector).Ends lookup (.done pods) := by
  obtain ⟨setup, search, lookup, hsetup, hsearch, hlookup, rfl⟩ := h.steps
  exact ⟨_ :: setup, search, lookup, rfl, ⟨h.stands, h.identity, setup, hsetup, rfl⟩, hsearch, hlookup⟩

theorem Resolution.targets_eq (h : Resolution now space name log read uid job tool pods) : targets log = [] := by
  obtain ⟨opening, search, lookup, rfl, hopening, hsearch, hlookup⟩ := h.parts
  rw [targets_append, targets_append, hopening.targets_eq, (quiet_of_looks (looks_of_resolveTool hsearch)).added,
    (quiet_of_looks (looks_of_resolve hlookup)).added]
  rfl

theorem Resolution.events_eq (h : Resolution now space name log read uid job tool pods) : events log = [] := by
  obtain ⟨opening, search, lookup, rfl, hopening, hsearch, hlookup⟩ := h.parts
  rw [events_append, events_append, hopening.events_eq, events_of_looks (looks_of_resolveTool hsearch),
    events_of_looks (looks_of_resolve hlookup)]
  rfl

section
variable {before check tried ending : List Answered} {found : Option Conflict} {status : Job.Status}

/-- A pass that has resolved its pods and found no conflict goes on to manage their containers. -/
theorem Resolution.manages (h : Resolution now space name before read uid job tool pods)
    (hcheck : (conflict? job space pods).Ends check (.done none))
    (hend : (reconcile now space name).Ends (before ++ (check ++ rest)) o) :
    (manage now job tool pods (Job.containerName name uid) (selected job pods)).Ends rest o := by
  have hserve : (serve now space name uid job tool pods).Ends (check ++ rest) o := h.goes.rest hend
  exact (Goes.bind hcheck _).rest hserve

/-- The containers that a pass adds are added while its pods are tried. -/
theorem Resolution.targets_tried (h : Resolution now space name before read uid job tool pods)
    (hcheck : (conflict? job space pods).Ends check (.done found)) (hcloses : Closes job status ending o) :
    targets (before ++ (check ++ (tried ++ ending))) = targets tried := by
  rw [targets_append, targets_append, targets_append, h.targets_eq,
    (quiet_of_looks (looks_of_conflict? hcheck)).added, hcloses.targets_eq, List.append_nil]
  rfl

/-- What a pass tells of, it tells of while its pods are tried, except for the completion of its job. -/
theorem Resolution.mem_events_tried (h : Resolution now space name before read uid job tool pods)
    (hcheck : (conflict? job space pods).Ends check (.done found)) (hcloses : Closes job status ending o) {e : Event}
    (he : e ∈ events (before ++ (check ++ (tried ++ ending)))) :
    e ∈ events tried ∨ e = completionEvent job status := by
  rw [events_append, events_append, events_append, h.events_eq, events_of_looks (looks_of_conflict? hcheck),
    List.nil_append, List.nil_append] at he
  exact (List.mem_append.1 he).imp id hcloses.tells

end

theorem exit_of_serve {before : List Answered} (hr : Resolution now space name before read uid job tool pods)
    (h : (serve now space name uid job tool pods).Ends rest o) : Exit now space name (before ++ rest) o := by
  rcases ends_bind.1 h with ⟨found, check, more, rfl, hcheck, hmore⟩ | ⟨f, rfl, hcheck⟩ | ⟨m, -, hcheck⟩
  · cases found with
    | some c => exact .madeWay hr hcheck (ends_makeWay hmore)
    | none =>
      rcases ends_manage hmore with ⟨results, tried, ending, rfl, hresults, htried, hcloses⟩ | ⟨⟨m, rfl⟩, -⟩
      · exact .managed hr hcheck hresults htried hcloses
      · exact .cutShort hr hcheck hmore
  · exact .unlisted hr hcheck
  · rcases ends_conflict?.1 hcheck with ⟨-, -, ho⟩ | ⟨-, r, -, ho⟩
    · cases ho
    · cases r <;> cases ho

/-- A pass with a job in hand has one of the exits. -/
theorem exit_of_work {opening : List Answered} (hopening : Opening now space name opening read uid job)
    (h : (work now space name uid job).Ends rest o) : Exit now space name (opening ++ rest) o := by
  rcases ends_attempt_bind.1 h with ⟨found, search, later, rfl, hsearch, hlater⟩ | ⟨m, -, hsearch⟩
  · cases found with
    | error f =>
      obtain ⟨rfl, hrecord⟩ := ends_abandon hlater
      exact .toolless hopening hsearch hrecord
    | ok tool =>
      rcases ends_attempt_bind.1 hlater with ⟨found, lookup, more, rfl, hlookup, hmore⟩ | ⟨m, -, hlookup⟩
      · cases found with
        | error f =>
          obtain ⟨rfl, hrecord⟩ := ends_abandon hmore
          exact .podless hopening hsearch hlookup hrecord
        | ok pods =>
          have hexit := exit_of_serve (hopening.resolution hsearch hlookup) hmore
          rwa [List.append_assoc, List.append_assoc] at hexit
      · rcases ends_resolve.1 hlookup with ⟨-, -, ho⟩ | ⟨s, f, -, -, -, ho⟩ | ⟨s, compiled, r, -, -, -, ho⟩
        · cases ho
        · cases ho
        · cases r <;> cases ho
  · obtain ⟨r, -, ho⟩ := ends_resolveTool.1 hsearch
    generalize r.bind (admitted job space) = r at ho
    cases r <;> cases ho

/-- A pass over a job ends in one of these ways, with these calls. -/
theorem exit_of_ends (h : (reconcile now space name).Ends log o) : Exit now space name log o := by
  rw [reconcile_eq] at h
  obtain ⟨r, rest, rfl, hrest⟩ := ends_call.1 h
  rcases r with f | found
  · obtain ⟨rfl, rfl⟩ := ends_fail.1 hrest
    exact .unread f
  replace hrest : (opened now space name found).Ends rest o := hrest
  cases found with
  | none =>
    obtain ⟨rfl, rfl⟩ := ends_done.1 hrest
    exact .gone fun read hread => by cases hread
  | some read =>
    cases hstands : read.metadata.isDeleting with
    | true =>
      simp only [opened, hstands] at hrest
      obtain ⟨rfl, rfl⟩ := ends_done.1 hrest
      exact .gone fun j hj => by cases hj; exact hstands
    | false =>
      cases huid : read.metadata.uid with
      | none =>
        simp only [opened, hstands, huid] at hrest
        obtain ⟨rfl, rfl⟩ := ends_fail.1 hrest
        exact .nameless hstands huid
      | some uid =>
        rw [opened_eq hstands huid] at hrest
        rcases ends_bind.1 hrest with ⟨job, setup, more, rfl, hsetup, hwork⟩ | ⟨f, rfl, hsetup⟩ | ⟨m, -, hsetup⟩
        · exact exit_of_work ⟨hstands, huid, setup, hsetup, rfl⟩ hwork
        · rcases ends_initialized.1 hsetup with ⟨-, -, ho⟩ | ⟨hphase, r, rfl, ho⟩
          · cases ho
          · obtain rfl := ofReply_eq_failed.1 ho.symm
            exact .unset f hstands huid hphase
        · rcases ends_initialized.1 hsetup with ⟨-, -, ho⟩ | ⟨-, r, -, ho⟩
          · cases ho
          · cases r <;> cases ho

/-! ### What is stored -/

open Cluster

variable {c d e : Cluster}

theorem job?_of_serves_getJob {found : Option Job} (h : Serves c (.getJob space name) (Except.ok found) d) :
    c.job? space name = found ∧ d = c := by
  obtain ⟨hfound, hd⟩ := h.performed_of_ne fun f hf => Except.noConfusion rfl rfl (heq_of_eq hf)
  exact ⟨(Except.ok.inj hfound).symm, hd⟩

/-- The job that was read was the one at its address, and the job worked on is there once it was opened. -/
theorem Opening.standing {opening : List Answered} (h : Opening now space name opening read uid job)
    (hs : Served c opening e) : c.job? space name = some read ∧ e.job? space name = some job := by
  obtain ⟨setup, hsetup, rfl⟩ := h.steps
  obtain ⟨c', hget, hset⟩ := hs.uncons
  obtain ⟨hread, hsame⟩ := job?_of_serves_getJob hget
  rw [hsame] at hset
  refine ⟨hread, ?_⟩
  rcases ends_initialized.1 hsetup with ⟨-, rfl, hjob⟩ | ⟨-, r, rfl, hr⟩
  · cases hjob
    rw [served_nil hset rfl]
    exact hread
  · obtain rfl : Except.ok job = r := ofReply_eq_done.1 hr.symm
    obtain ⟨d', hstore, hnil⟩ := hset.uncons
    rw [served_nil hnil rfl]
    obtain ⟨hspace, hname⟩ := isAt_iff.1 (isAt_of_job? hread)
    exact (hstore.job?_of_stored hspace hname).1

/-- An opened job is the one that was read, or what was stored of it when it was set up. -/
theorem Opening.started {opening : List Answered} (h : Opening now space name opening read uid job)
    (hs : Served c opening e) : read.Follows job ∧ ((read.phase ≠ none ∧ job = read) ∨
      (read.phase = none ∧ Saw opening (.replaceStatus (setUp now read)) (Except.ok job) ∧
        job.status = some (read.reported.initialized now))) := by
  obtain ⟨hread, -⟩ := h.standing hs
  obtain ⟨setup, hsetup, rfl⟩ := h.steps
  rcases ends_initialized.1 hsetup with ⟨hphase, rfl, hdone⟩ | ⟨hphase, r, rfl, hdone⟩
  · cases hdone
    exact ⟨.refl _, .inl ⟨hphase, rfl⟩⟩
  · obtain rfl : Except.ok job = r := ofReply_eq_done.1 hdone.symm
    obtain ⟨c', hget, hset⟩ := hs.uncons
    rw [(job?_of_serves_getJob hget).2] at hset
    obtain ⟨d', hstore, -⟩ := hset.uncons
    obtain ⟨hspace, hname⟩ := isAt_iff.1 (isAt_of_job? hread)
    rw [hstore.stored_eq hread hspace hname]
    exact ⟨follows_restatused _ _, .inr ⟨hphase, List.mem_cons_of_mem _ List.mem_cons_self, rfl⟩⟩

/-- Looking something up leaves the jobs as they are. -/
theorem job?_of_looks (h : Served c log d) (hlooks : ∀ a ∈ log, a.call.isLookup = true) :
    d.job? space name = c.job? space name :=
  job?_of_served h fun a ha => Call.isStore_of_isLookup (hlooks a ha)

/-- A job that is served by a pass was the one at its address, and the job worked on is there when its pods are
resolved. -/
theorem Resolution.standing (h : Resolution now space name log read uid job tool pods) (hs : Served c log e) :
    c.job? space name = some read ∧ e.job? space name = some job := by
  obtain ⟨opening, search, lookup, rfl, hopening, hsearch, hlookup⟩ := h.parts
  obtain ⟨d, hopened, hlater⟩ := hs.split
  obtain ⟨d', hsearched, hlooked⟩ := hlater.split
  obtain ⟨hread, hjob⟩ := hopening.standing hopened
  refine ⟨hread, ?_⟩
  rw [job?_of_looks hlooked (looks_of_resolve hlookup), job?_of_looks hsearched (looks_of_resolveTool hsearch), hjob]

/-- A job that is worked on is the one that was read, or what was stored of it when it was set up. -/
theorem Resolution.started {before : List Answered} (h : Resolution now space name before read uid job tool pods)
    (hs : Served c (before ++ rest) d) : read.Follows job ∧ ((read.phase ≠ none ∧ job = read) ∨
      (read.phase = none ∧ job.status = some (read.reported.initialized now))) := by
  obtain ⟨opening, search, lookup, rfl, hopening, -, -⟩ := h.parts
  obtain ⟨e, hbefore, -⟩ := hs.split
  obtain ⟨e', hopened, -⟩ := hbefore.split
  obtain ⟨hfollows, hread | ⟨hphase, -, hset⟩⟩ := hopening.started hopened
  · exact ⟨hfollows, .inl hread⟩
  · exact ⟨hfollows, .inr ⟨hphase, hset⟩⟩

theorem Resolution.phase_ne_none {before : List Answered} (h : Resolution now space name before read uid job tool pods)
    (hs : Served c (before ++ rest) d) : job.phase ≠ none := by
  obtain ⟨-, ⟨hphase, rfl⟩ | ⟨-, hset⟩⟩ := h.started hs
  · exact hphase
  · rw [Job.phase, hset]
    exact Option.some_ne_none _

/-- The job that is worked on is still there when its pods have been tried. -/
theorem Resolution.standing_tried {before check tried ending : List Answered} {found : Option Conflict}
    {tries : List (Pod × Except Failure Unit)} (h : Resolution now space name before read uid job tool pods)
    (hcheck : (conflict? job space pods).Ends check (.done found)) (htried : Tried job tool container tries tried)
    (hs : Served c (before ++ (check ++ (tried ++ ending))) d) :
    ∃ e, e.job? space name = some job ∧ Served e ending d := by
  obtain ⟨e, hbefore, hlater⟩ := hs.split
  obtain ⟨e', hchecked, hlater⟩ := hlater.split
  obtain ⟨e'', htries, hending⟩ := hlater.split
  refine ⟨e'', ?_, hending⟩
  rw [job?_of_served htries htried.quiet, job?_of_looks hchecked (looks_of_conflict? hcheck)]
  exact (h.standing hbefore).2

/-- A status that was sent and told to be stored is there in the end, if nothing was sent after it. -/
theorem status_of_stored {status : Job.Status} {stored : Job} {more : List Answered}
    (hs : Served e (⟨.replaceStatus (job.withStatus status), Except.ok stored⟩ :: more) d)
    (hj : e.job? space name = some job) (hquiet : ∀ a ∈ more, a.call.isStore = false) :
    (d.job? space name).bind Job.status = some status := by
  obtain ⟨e', hstore, hmore⟩ := hs.uncons
  obtain ⟨hspace, hname⟩ := isAt_iff.1 (isAt_of_job? hj)
  obtain ⟨hjob, hstatus⟩ := hstore.job?_of_stored hspace hname
  rw [job?_of_served hmore hquiet, hjob]
  exact hstatus

/-- The job after its pass was closed has the status that closed it. -/
theorem Closes.leaves {status : Job.Status} (h : Closes job status log (.done next)) (hs : Served e log d)
    (hj : e.job? space name = some job) :
    ∃ cur, d.job? space name = some cur ∧ cur.status = some status ∧ job.Follows cur := by
  cases h with
  | kept hsame htell =>
    rw [job?_of_served hs (quiet_of_tellCompleted htell)]
    exact ⟨job, hj, hsame, .refl _⟩
  | @written stored told hne htell =>
    obtain ⟨e', hstore, htold⟩ := hs.uncons
    obtain ⟨hspace, hname⟩ := isAt_iff.1 (isAt_of_job? hj)
    obtain ⟨hstored, hstatus⟩ := hstore.job?_of_stored hspace hname
    refine ⟨stored, (job?_of_served htold (quiet_of_tellCompleted htell)).trans hstored, hstatus, ?_⟩
    rw [hstore.stored_eq hj hspace hname]
    exact follows_restatused _ _

/-- What is stored of the job by a pass that has managed its pods. -/
theorem Resolution.leaves {before check tried ending : List Answered} {found : Option Conflict} {status : Job.Status}
    {tries : List (Pod × Except Failure Unit)} (h : Resolution now space name before read uid job tool pods)
    (hcheck : (conflict? job space pods).Ends check (.done found)) (htried : Tried job tool container tries tried)
    (hcloses : Closes job status ending (.done next)) (hs : Served c (before ++ (check ++ (tried ++ ending))) d) :
    ∃ cur, d.job? space name = some cur ∧ cur.status = some status ∧ job.Follows cur := by
  obtain ⟨e, hjob, hending⟩ := h.standing_tried hcheck htried hs
  exact hcloses.leaves hending hjob

theorem Closes.stored {status : Job.Status} (h : Closes job status log (.done next)) (hs : Served e log d)
    (hj : e.job? space name = some job) : (d.job? space name).bind Job.status = some status := by
  obtain ⟨cur, hcur, hstatus, -⟩ := h.leaves hs hj
  rw [hcur]
  exact hstatus

theorem phase_concluded_ne_none {results : List ((Pod × Nat) × Except Failure Unit)} (h : job.phase ≠ none) :
    (concluded now job pods container results).phase ≠ none := by
  rw [concluded, phase_managed, phase_reported]
  split
  · exact Option.some_ne_none _
  · split
    · exact Option.some_ne_none _
    · exact h

theorem Closes.asks {status : Job.Status} (h : Closes job status log (.done next)) :
    next = .after (Requeue.interval status.phase) := by
  cases h with
  | kept => rfl
  | written => rfl

/-- What is stored of a job after a pass over it that ends with a value: the conflict it was found in, or what came of
the management of its containers. -/
theorem status_of_done (hs : Served c log d) (h : (reconcile now space name).Ends log (.done next))
    (hj : c.job? space name = some read) (hstands : read.metadata.isDeleting = false) :
    ∃ uid job tool pods before rest status, log = before ++ rest ∧
      Resolution now space name before read uid job tool pods ∧
      (d.job? space name).bind Job.status = some status ∧
      ((next = .after Requeue.conflict ∧ ∃ con, status = (selected job pods).markConflicted con now) ∨
        (next = .after (Requeue.interval status.phase) ∧ ∃ results,
          results.map (·.1) = attempted job pods (Job.containerName name uid) ∧
          status = concluded now job pods (Job.containerName name uid) results)) := by
  -- what was read is what was there, and it is worked on until the status is sent
  have hread : ∀ {before check more : List Answered} {read' : Job} {uid : String} {job : Job} {tool : Tool.Spec}
      {pods : List Pod} {found : Option Conflict}, log = before ++ (check ++ more) →
      Resolution now space name before read' uid job tool pods →
      (conflict? job space pods).Ends check (.done found) →
      read' = read ∧ ∃ e, e.job? space name = some job ∧ Served e more d := by
    rintro before check more read' uid job tool pods found rfl hr hcheck
    obtain ⟨e, hbefore, hlater⟩ := hs.split
    obtain ⟨e', hchecked, hmore⟩ := hlater.split
    obtain ⟨hread, hjob⟩ := hr.standing hbefore
    refine ⟨Option.some.inj (hread.symm.trans hj), e', ?_, hmore⟩
    rw [job?_of_looks hchecked (looks_of_conflict? hcheck), hjob]
  cases exit_of_ends h with
  | @gone found hdeleting =>
    obtain ⟨c', hget, -⟩ := hs.uncons
    rw [hdeleting read ((job?_of_serves_getJob hget).1.symm.trans hj)] at hstands
    cases hstands
  | @madeWay before check rest read' job uid tool pods con o hr hcheck hway =>
    obtain ⟨rfl, e, hjob, hrest⟩ := hread rfl hr hcheck
    cases hway with
    | told stored =>
      refine ⟨uid, job, tool, pods, before, _, _, rfl, hr, status_of_stored hrest hjob ?_, .inl ⟨rfl, con, rfl⟩⟩
      exact List.forall_mem_singleton.2 rfl
  | @managed before check tried ending read' job uid tool pods results o hr hcheck hresults htried hcloses =>
    obtain ⟨rfl, e, hjob, hrest⟩ := hread rfl hr hcheck
    obtain ⟨e', htries, hending⟩ := hrest.split
    have hjob' : e'.job? space name = some job := by rw [job?_of_served htries htried.quiet, hjob]
    exact ⟨uid, job, tool, pods, before, _, _, rfl, hr, hcloses.stored hending hjob',
      .inr ⟨hcloses.asks, results, hresults, rfl⟩⟩

end

end Pass

end ProfilingOperator
