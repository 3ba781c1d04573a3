import ProfilingOperator.Proofs.Ending

/-!
# What a failed pass leaves

A pass can fail at any of its calls, and of what it was told.  Where a call that fails has no effect, a failed pass
leaves the status of its job as it was read or as it was set up, and at most one thing is added: a configuration error
is recorded.  The failure of the pass is the one that stopped it, whatever became of the record.  Containers were called
for only if the last call, the one that stores the final status, is what failed.

    marked_markFailed : recording a failure changes the last error and one condition
    jobs_of_obeys : where no store succeeds, the jobs stay as they are
    failed_pass_leaves : what is stored, called and told by a pass that fails
-/

namespace ProfilingOperator

/-- The failure a call was answered with. -/
def Answered.failure? : Answered → Option Pass.Failure
  | ⟨.getJob _ _, .error f⟩ => some f
  | ⟨.replaceStatus _, .error f⟩ => some f
  | ⟨.listPods _ _, .error f⟩ => some f
  | ⟨.listJobs _, .error f⟩ => some f
  | ⟨.addContainer _ _, .error f⟩ => some f
  | ⟨.findTool _ _, .error f⟩ => some f
  | ⟨.issueToken _ _, .error f⟩ => some f
  | ⟨.patchToolStatus _ _ _, .error f⟩ => some f
  | _ => none

/-- Whether a call looks for what a job is worked on with, its tool or its pods. -/
def Call.isSearch : Call → Bool
  | .findTool _ _ | .listPods _ _ => true
  | _ => false

namespace Failing

open Pass Cluster

/-! ## Failed passes -/

/-- The calls of a log are answered one after the other, and a cluster is left.  A call that fails has no effect, other
than in `Served`, where its effect may be there and only the reply be lost: the last status of a pass would then be
stored by a pass that fails, and so be neither the one it read nor a record of its failure. -/
inductive Obeys : Cluster → List Answered → Cluster → Prop
  | nil (c : Cluster) : Obeys c [] c
  | refused {c d : Cluster} {log : List Answered} (call : Call) (f : Pass.Failure) :
      Obeys c log d → Obeys c (⟨call, call.failed f⟩ :: log) d
  | performed {c d : Cluster} {log : List Answered} (call : Call) :
      Obeys (c.perform call).2 log d → Obeys c (⟨call, (c.perform call).1⟩ :: log) d

/-- What stops a pass over a job: its last call fails, or tells it something that it cannot go on with. -/
inductive Cause (space name : String) (read : Job) : List Answered → Pass.Failure → Prop
  | refused (earlier : List Answered) {a : Answered} {f : Pass.Failure} :
      a.failure? = some f → Cause space name read (earlier ++ [a]) f
  | nameless : read.metadata.uid = none →
      Cause space name read [⟨.getJob space name, Except.ok (some read)⟩] (.missingUid name)
  | toolless {earlier : List Answered} :
      Cause space name read (earlier ++ [⟨.findTool read.spec.tool.name space, Except.ok none⟩])
        (.toolNotFound read.spec.tool.name (Tool.entryName read.spec.tool.name))
  | forbidden {earlier : List Answered} {entry : Tool} : entry.spec.allows space = false →
      Cause space name read (earlier ++ [⟨.findTool read.spec.tool.name space, Except.ok (some entry)⟩])
        (.namespaceNotAllowed space read.spec.tool.name)
  | unselective {earlier : List Answered} {selector : Selector} {fault : Selector.Fault} :
      read.spec.targets.selector = some selector → Selector.compile selector = .error fault →
      Cause space name read earlier (.invalidSelector fault.message)

/-- The status of a job before it is worked on: that which was read, or that in which the job was set up. -/
inductive Base (now : Stamp) (read : Job) (log : List Answered) : Option Job.Status → Prop
  | asRead : Base now read log read.status
  | setUp {stored : Job} : read.phase = none → Saw log (.replaceStatus (setUp now read)) (Except.ok stored) →
      Base now read log (some (read.reported.initialized now))

/-- A status in which a failure was recorded.  Phase, counts, claims, stamps and all other conditions are as before. -/
structure Marked (f : Pass.Failure) (s t : Job.Status) : Prop where
  untouched : t = { s with conditions := t.conditions, lastError := some f.message }
  failed : ∃ since, Condition.find? t.conditions Progress.failed =
    some ⟨Progress.failed, .holds, "Failed", f.message, since⟩
  others : (t.conditions.filter fun c => c.kind ≠ Progress.failed) =
    s.conditions.filter fun c => c.kind ≠ Progress.failed

/-- What is done with the failure that some steps ended in, over the status there was, and the status that is stored in
the end.  An error of configuration is recorded, and nothing else is. -/
inductive Leaves (f : Pass.Failure) (steps : List Answered) (base : Option Job.Status) :
    List Answered → Option Job.Status → Prop
  | silent : f.isConfiguration = false → Leaves f steps base [] base
  /-- What another call than a search for the tool or the pods was refused with is not recorded, whatever it is. -/
  | refused (earlier : List Answered) {a : Answered} : steps = earlier ++ [a] → a.failure? = some f →
      a.call.isSearch = false → Leaves f steps base [] base
  | recorded {sent stored : Job} {marked : Job.Status} {event : Event} : f.isConfiguration = true →
      sent.status = some marked → Marked f (base.getD .initial) marked → event.reason = "ReconcileFailed" →
      Leaves f steps base [⟨.replaceStatus sent, Except.ok stored⟩, ⟨.publish event, ()⟩] (some marked)
  /-- The record failed, with a failure of its own. -/
  | unrecorded {sent : Job} {marked : Job.Status} {event : Event} (g : Pass.Failure) : f.isConfiguration = true →
      sent.status = some marked → Marked f (base.getD .initial) marked → event.reason = "ReconcileFailed" →
      Leaves f steps base [⟨.replaceStatus sent, Except.error g⟩, ⟨.publish event, ()⟩] base

/-- No event of a log tells of a failed pass. -/
def Discreet (log : List Answered) : Prop :=
  ∀ event ∈ events log, event.reason ≠ "ReconcileFailed"

/-- What a failed pass has done: its steps, the last of which failed, and then the record of the failure. -/
structure Aftermath (now : Stamp) (space name : String) (read : Job) (log : List Answered) (f : Pass.Failure)
    (final : Option Job.Status) (steps record : List Answered) (base : Option Job.Status) : Prop where
  parts : log = steps ++ record
  cause : Cause space name read steps f
  origin : Base now read steps base
  left : Leaves f steps base record final
  /-- Nothing but the record tells of the failure. -/
  discreet : Discreet steps
  /-- Containers were called for only if the status they led to is what could not be stored. -/
  added : targets log ≠ [] → record = [] ∧ ∃ earlier job pods container results,
    steps = earlier ++
      [⟨.replaceStatus (Job.withStatus job (concluded now job pods container results)), Except.error f⟩]

/-! ## Lemmas -/

theorem marked_markFailed (now : Stamp) (f : Pass.Failure) (s : Job.Status) : Marked f s (s.markFailed f.message now) :=
  ⟨rfl, Condition.find?_record_told _ _,
    Condition.filter_record ⟨Progress.failed, .holds, "Failed", f.message, now⟩ s.conditions⟩

section
variable {now : Stamp} {space name uid : String} {log more : List Answered} {read job : Job} {tool : Tool.Spec}
  {pods : List Pod} {f : Pass.Failure} {c d e : Cluster}

/-! ### Calls without effect -/

theorem Obeys.split (h : Obeys c (log ++ more) d) : ∃ e, Obeys c log e ∧ Obeys e more d := by
  induction log generalizing c with
  | nil => exact ⟨c, .nil c, h⟩
  | cons a log ih =>
    cases h with
    | refused call f h =>
      obtain ⟨e, hfirst, hrest⟩ := ih h
      exact ⟨e, hfirst.refused call f, hrest⟩
    | performed call h =>
      obtain ⟨e, hfirst, hrest⟩ := ih h
      exact ⟨e, hfirst.performed call, hrest⟩

theorem Obeys.served (h : Obeys c log d) : Served c log d := by
  induction h with
  | nil c => exact .nil
  | refused call f _ ih => exact .cons (.failed call f) ih
  | performed call _ ih => exact .cons (.performed call) ih

theorem answer_cases (call : Call) (s : Session) :
    (∃ f, (Session.answer call s).1 = call.failed f ∧ (Session.answer call s).2.cluster = s.cluster) ∨
      ((Session.answer call s).1 = (s.cluster.perform call).1 ∧
        (Session.answer call s).2.cluster = (s.cluster.perform call).2) := by
  unfold Session.answer
  split
  · exact .inl ⟨_, rfl, rfl⟩
  · exact .inr ⟨rfl, rfl⟩

/-- A run in a session is one in which a call that fails has no effect. -/
theorem obeys_run {α : Type} (p : Pass α) (s : Session) :
    Obeys s.cluster (p.record Session.answer s) (p.run Session.answer s).2.cluster := by
  induction p generalizing s with
  | done a => exact .nil _
  | fail f => exact .nil _
  | crash m => exact .nil _
  | call call next ih =>
    have hrest := ih (Session.answer call s).1 (Session.answer call s).2
    show Obeys s.cluster (⟨call, (Session.answer call s).1⟩ :: record Session.answer
      (next (Session.answer call s).1) (Session.answer call s).2) _
    rcases answer_cases call s with ⟨f, hreply, hcluster⟩ | ⟨hreply, hcluster⟩
    · rw [hcluster] at hrest
      have hcall := hrest.refused call f
      rw [← hreply] at hcall
      exact hcall
    · rw [hcluster] at hrest
      have hcall := hrest.performed call
      rw [← hreply] at hcall
      exact hcall

/-- Where no store succeeds, the jobs stay as they are. -/
theorem jobs_of_obeys (h : Obeys c log d) (hstores : stores log = []) : d.jobs = c.jobs := by
  induction h with
  | nil c => rfl
  | refused call f _ ih =>
    refine ih ?_
    unfold stores at hstores ⊢
    rw [List.filterMap_cons] at hstores
    split at hstores
    · exact hstores
    · cases hstores
  | @performed c d log call _ ih =>
    have hcons : Answered.stored? ⟨call, (c.perform call).1⟩ = none ∧ stores log = [] := by
      unfold stores at hstores ⊢
      rw [List.filterMap_cons] at hstores
      split at hstores
      · next hnone => exact ⟨hnone, hstores⟩
      · cases hstores
    rw [ih hcons.2]
    cases call with
    | replaceStatus sent =>
      replace hcons : Answered.stored? ⟨.replaceStatus sent, (c.replaceStatus sent).1⟩ = none := hcons.1
      cases hr : (c.replaceStatus sent).1 with
      | ok stored =>
        rw [hr] at hcons
        cases hcons
      | error f => exact congrArg Cluster.jobs (replaceStatus_error hr)
    | _ => exact jobs_perform rfl

theorem job?_of_obeys (h : Obeys c log d) (hstores : stores log = []) : d.job? space name = c.job? space name := by
  unfold job?
  rw [jobs_of_obeys h hstores]

theorem stored?_of_failure? {a : Answered} (h : a.failure? = some f) : a.stored? = none ∧ events [a] = [] := by
  obtain ⟨call, r⟩ := a
  cases call with
  | publish => cases h
  | replaceStatus sent =>
    rcases r with g | stored
    · exact ⟨rfl, rfl⟩
    · cases h
  | _ => exact ⟨rfl, rfl⟩

theorem stores_of_quiet (h : ∀ a ∈ log, a.call.isStore = false) : stores log = [] := by
  refine List.filterMap_eq_nil_iff.2 ?_
  rintro ⟨call, r⟩ ha
  have hcall : call.isStore = false := h _ ha
  cases call with
  | replaceStatus => cases hcall
  | _ => rfl

/-! ### What was told -/

theorem Discreet.append (h : Discreet log) (h' : Discreet more) : Discreet (log ++ more) := by
  intro event he
  rw [events_append] at he
  exact (List.mem_append.1 he).elim (h event) (h' event)

theorem discreet_of_nil (h : events log = []) : Discreet log := by
  rw [Discreet, h]
  exact fun event he => absurd he List.not_mem_nil

/-! ### What the job is worked on with -/

theorem Base.append {base : Option Job.Status} (h : Base now read log base) : Base now read (log ++ more) base := by
  cases h with
  | asRead => exact .asRead
  | setUp hphase hsaw => exact .setUp hphase hsaw.append

/-- Once a job is opened its status is the one that was read or set up. -/
theorem base_of_opening (h : Opening now space name log read uid job) (hs : Served c log e) :
    Base now read log job.status := by
  obtain ⟨-, ⟨-, rfl⟩ | ⟨hphase, hsaw, hstatus⟩⟩ := h.started hs
  · exact .asRead
  · rw [hstatus]
    exact .setUp hphase hsaw

/-! ### What stops a pass -/

theorem cause_of_resolveTool (h : (resolveTool job space).Ends more (.failed f)) (hspec : job.spec = read.spec) :
    Cause space name read (log ++ more) f := by
  obtain ⟨r, rfl, ho⟩ := ends_resolveTool.1 h
  have hf : .error f = r.bind (admitted job space) := ofReply_eq_failed.1 ho.symm
  rw [hspec]
  rcases r with g | found
  · cases hf
    exact .refused _ rfl
  cases found with
  | none =>
    replace hf : Except.error f = admitted job space none := hf
    rw [admitted, hspec] at hf
    cases hf
    exact .toolless
  | some entry =>
    replace hf : Except.error f = admitted job space (some entry) := hf
    rw [admitted, hspec] at hf
    split at hf
    · cases hf
    · next hallowed =>
      cases hf
      exact .forbidden (by simpa using hallowed)

theorem cause_of_resolve (h : (Targets.resolve space job.spec.targets.selector).Ends more (.failed f))
    (hspec : job.spec = read.spec) : Cause space name read (log ++ more) f := by
  rw [hspec] at h
  rcases ends_resolve.1 h with ⟨-, -, ho⟩ | ⟨s, fault, hs, hfault, -, ho⟩ | ⟨s, compiled, r, -, -, rfl, ho⟩
  · cases ho
  · cases ho
    exact .unselective hs hfault
  · rcases r with g | l
    · cases ho
      exact .refused _ rfl
    · cases ho

/-- **The whole exit.**  What the record of a failure leaves of the status that was read. -/
theorem leaves_of_abandons {record : List Answered} (steps : List Answered) (h : Abandons now job f record)
    (hs : Obeys c record d) (hj : c.job? space name = some job) :
    Leaves f steps job.status record ((d.job? space name).bind Job.status) := by
  cases h with
  | silent hf =>
    rw [job?_of_obeys hs rfl, hj]
    exact .silent hf
  | recorded r hf =>
    have hmarked : Marked f (job.status.getD .initial) (job.reported.markFailed f.message now) :=
      marked_markFailed now f job.reported
    cases r with
    | error g =>
      rw [job?_of_obeys hs rfl, hj]
      exact .unrecorded g hf rfl hmarked rfl
    | ok stored =>
      have hstored : (d.job? space name).bind Job.status = some (job.reported.markFailed f.message now) :=
        status_of_stored hs.served hj (List.forall_mem_singleton.2 rfl)
      rw [hstored]
      exact .recorded hf rfl hmarked rfl

theorem base_of_resolution (h : Resolution now space name log read uid job tool pods) (hs : Served c log e) :
    Base now read log job.status := by
  obtain ⟨opening, search, lookup, rfl, hopening, -⟩ := h.parts
  obtain ⟨d, hopened, -⟩ := hs.split
  exact (base_of_opening hopening hopened).append

/-! ### The ways of failing -/

theorem served_read {found : Option Job} (hs : Obeys c (⟨.getJob space name, Except.ok found⟩ :: log) d)
    (hj : c.job? space name = some read) : found = some read := by
  obtain ⟨e, hget, -⟩ := hs.served.uncons
  exact (job?_of_serves_getJob hget).1.symm.trans hj

/-- A pass that has stored nothing. -/
theorem aftermath_of_nothing (hs : Obeys c log d) (hj : c.job? space name = some read) (hstores : stores log = [])
    (hcause : Cause space name read log f) (hleft : Leaves f log read.status [] read.status)
    (hdiscreet : Discreet log) (htargets : targets log = []) :
    Aftermath now space name read log f ((d.job? space name).bind Job.status) log [] read.status := by
  refine ⟨(List.append_nil _).symm, hcause, .asRead, ?_, hdiscreet, fun hne => absurd htargets hne⟩
  rw [job?_of_obeys hs hstores, hj]
  exact hleft

/-- A pass that was stopped before its pods were resolved, and recorded this if it had to. -/
theorem aftermath_of_opening {opening looked record : List Answered} (hs : Obeys c (opening ++ (looked ++ record)) d)
    (hopening : Opening now space name opening read uid job)
    (hlooks : ∀ a ∈ looked, a.call.isLookup = true) (hcause : Cause space name read (opening ++ looked) f)
    (hrecord : Abandons now job f record) :
    Aftermath now space name read (opening ++ (looked ++ record)) f ((d.job? space name).bind Job.status)
      (opening ++ looked) record job.status := by
  obtain ⟨e, hopened, hlater⟩ := hs.split
  obtain ⟨e', hlooked, hrecorded⟩ := hlater.split
  have hjob : e'.job? space name = some job := by
    rw [job?_of_looks hlooked.served hlooks, (hopening.standing hopened.served).2]
  have hrecord' : targets record = [] := by cases hrecord <;> rfl
  refine ⟨(List.append_assoc _ _ _).symm, hcause, (base_of_opening hopening hopened.served).append,
    leaves_of_abandons (opening ++ looked) hrecord hrecorded hjob,
    (discreet_of_nil hopening.events_eq).append (discreet_of_nil (events_of_looks hlooks)), ?_⟩
  rw [targets_append, targets_append, hopening.targets_eq, (quiet_of_looks hlooks).added, hrecord']
  exact fun hne => absurd rfl hne

/-- A pass that was stopped by a call after its pods were resolved. -/
theorem aftermath_of_resolution {before : List Answered} (rest : List Answered) {a : Answered}
    (hs : Obeys c (before ++ (rest ++ [a])) d) (hr : Resolution now space name before read uid job tool pods)
    (hstores : stores rest = []) (hdiscreet : Discreet rest) (hfailed : a.failure? = some f)
    (hsearch : a.call.isSearch = false)
    (hadded : targets (rest ++ [a]) ≠ [] → ∃ container results,
      a = ⟨.replaceStatus (job.withStatus (concluded now job pods container results)), Except.error f⟩) :
    Aftermath now space name read (before ++ (rest ++ [a])) f ((d.job? space name).bind Job.status)
      (before ++ (rest ++ [a])) [] job.status := by
  obtain ⟨hstored, huntold⟩ := stored?_of_failure? hfailed
  obtain ⟨e, hbefore, hlater⟩ := hs.split
  constructor
  · exact (List.append_nil _).symm
  · rw [← List.append_assoc]
    exact .refused _ hfailed
  · exact (base_of_resolution hr hbefore.served).append
  · rw [job?_of_obeys hlater ((stores_concat hstored).trans hstores), (hr.standing hbefore.served).2]
    exact .refused (before ++ rest) (List.append_assoc _ _ _).symm hfailed hsearch
  · exact (discreet_of_nil hr.events_eq).append (hdiscreet.append (discreet_of_nil huntold))
  · rw [targets_append, hr.targets_eq]
    intro hne
    obtain ⟨container, results, rfl⟩ := hadded hne
    exact ⟨rfl, _, job, pods, container, results, (List.append_assoc _ _ _).symm⟩

end

/-- A pass that fails has left the status of its job as it was read or set up, unless the failure is one of
configuration and its record was stored.  Its failure is what stopped it, and nothing but the record is written or told
of it.  Containers were called for only if the status they led to is what could not be stored. -/
theorem failed_pass_leaves {now : Stamp} {space name : String} {c d : Cluster} {log : List Answered}
    {f : Pass.Failure} {read : Job} (hs : Obeys c log d) (hend : (reconcile now space name).Ends log (.failed f))
    (hj : c.job? space name = some read) :
    ∃ steps record base,
      Aftermath now space name read log f ((d.job? space name).bind Job.status) steps record base := by
  -- what was read is what was there
  have hread : ∀ {opening more : List Answered} {read' job : Job} {uid : String}, log = opening ++ more →
      Opening now space name opening read' uid job → read' = read ∧ job.spec = read.spec := by
    rintro opening more read' job uid rfl hopening
    obtain ⟨e, hopened, -⟩ := hs.split
    obtain rfl : read' = read := Option.some.inj ((hopening.standing hopened.served).1.symm.trans hj)
    exact ⟨rfl, (hopening.started hopened.served).1.spec⟩
  cases exit_of_ends hend with
  | unread =>
    exact ⟨_, _, _,
      aftermath_of_nothing hs hj rfl (.refused [] rfl) (.refused [] rfl rfl rfl) (discreet_of_nil rfl) rfl⟩
  | nameless hstands huid =>
    cases served_read hs hj
    exact ⟨_, _, _, aftermath_of_nothing hs hj rfl (.nameless huid) (.silent rfl) (discreet_of_nil rfl) rfl⟩
  | unset _ hstands huid hphase =>
    exact ⟨_, _, _,
      aftermath_of_nothing hs hj rfl (.refused [_] rfl) (.refused [_] rfl rfl rfl) (discreet_of_nil rfl) rfl⟩
  | toolless hopening hsearch hrecord =>
    obtain ⟨rfl, hspec⟩ := hread rfl hopening
    exact ⟨_, _, _, aftermath_of_opening hs hopening (looks_of_resolveTool hsearch)
      (cause_of_resolveTool hsearch hspec) hrecord⟩
  | @podless opening search lookup record _ job uid tool _ hopening hsearch hlookup hrecord =>
    obtain ⟨rfl, hspec⟩ := hread rfl hopening
    have hlooks : ∀ a ∈ search ++ lookup, a.call.isLookup = true := fun a ha =>
      (List.mem_append.1 ha).elim (looks_of_resolveTool hsearch a) (looks_of_resolve hlookup a)
    rw [← List.append_assoc search] at hs ⊢
    refine ⟨_, _, _, aftermath_of_opening hs hopening hlooks ?_ hrecord⟩
    rw [← List.append_assoc]
    exact cause_of_resolve hlookup hspec
  | unlisted hr hcheck =>
    obtain ⟨opening, search, lookup, hparts, hopening, -⟩ := hr.parts
    obtain ⟨rfl, -⟩ := hread (by rw [hparts, List.append_assoc]) hopening
    rcases ends_conflict?.1 hcheck with ⟨-, -, ho⟩ | ⟨-, r, rfl, ho⟩
    · cases ho
    · rcases r with g | others
      · cases ho
        refine ⟨_, _, _, aftermath_of_resolution [] hs hr rfl ?_ rfl rfl ?_⟩
        · exact discreet_of_nil rfl
        · exact fun hne => absurd rfl hne
      · cases ho
  | @madeWay before check rest _ job uid tool pods con _ hr hcheck hway =>
    obtain ⟨opening, search, lookup, hparts, hopening, -⟩ := hr.parts
    obtain ⟨rfl, -⟩ := hread (by rw [hparts, List.append_assoc]) hopening
    have hlooks := looks_of_conflict? hcheck
    cases hway with
    | refused =>
      refine ⟨_, _, _, aftermath_of_resolution _ hs hr (quiet_of_looks hlooks).stored
        (discreet_of_nil (events_of_looks hlooks)) rfl rfl ?_⟩
      rw [targets_concat rfl, (quiet_of_looks hlooks).added]
      exact fun hne => absurd rfl hne
  | @managed before check tried ending _ job uid tool pods results _ hr hcheck hresults htried hcloses =>
    obtain ⟨opening, search, lookup, hparts, hopening, -⟩ := hr.parts
    obtain ⟨rfl, -⟩ := hread (by rw [hparts, List.append_assoc]) hopening
    have hlooks := looks_of_conflict? hcheck
    cases hcloses with
    | refused =>
      rw [← List.append_assoc check] at hs ⊢
      refine ⟨_, _, _,
        aftermath_of_resolution _ hs hr ?_ ?_ rfl rfl fun _ => ⟨Job.containerName name uid, results, rfl⟩⟩
      · rw [stores_append, (quiet_of_looks hlooks).stored, stores_of_quiet htried.quiet]
        rfl
      · refine (discreet_of_nil (events_of_looks hlooks)).append fun event he => ?_
        rcases htried.tells he with hreason | ⟨pod, g, -, rfl⟩
        · rw [hreason]
          decide
        · exact show "InjectionFailed" ≠ "ReconcileFailed" by decide

/-! ## A job without a tool -/

/-- A cluster with a new job whose tool is not registered, in which the second status that is sent is refused. -/
def bare : Session :=
  Session.start ⟨[{ Sample.job with status := none }], [Sample.pod], [], "ops", false⟩
    [(.replaceStatus, [none, some (.api .lineTooLong)])]

/-- The job is set up, and its pass fails for want of the tool, though the record of this fails as well. -/
theorem bare_fails : ∃ steps record base,
    Aftermath Sample.now "shop" "trace" { Sample.job with status := none }
      ((reconcile Sample.now "shop" "trace").record Session.answer bare)
      (.toolNotFound "perf" (Tool.entryName "perf"))
      ((((reconcile Sample.now "shop" "trace").run Session.answer bare).2.cluster.job? "shop" "trace").bind Job.status)
      steps record base := by
  have hend : (reconcile Sample.now "shop" "trace").Ends
      ((reconcile Sample.now "shop" "trace").record Session.answer bare)
      (.failed (.toolNotFound "perf" (Tool.entryName "perf"))) :=
    goes_run Session.answer _ bare
  exact failed_pass_leaves (obeys_run _ bare) hend rfl

end Failing

end ProfilingOperator
