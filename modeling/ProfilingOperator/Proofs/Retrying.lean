import ProfilingOperator.Proofs.Gate
import ProfilingOperator.Proofs.Managing

/-!
# A pass after a container could not be added

A pass tries the pods that lack a container unless its job is done with.  So what becomes of a pod whose container could
not be added depends on the other pods: if one of them is claimed, the job runs, and the next pass tries again; if none
is, the job counts as completed, and no later pass does.

    attempts_iff : a pass tries a pod that lacks its container exactly if the job is not done with
    isTerminal_concluded_iff : a job is done with after some of its pods were tried exactly if it claims none
    retried_iff : after a pass with a failed trial, the next one tries a pod exactly if a claim was stored
-/

namespace ProfilingOperator

namespace Retrying

open Pass Cluster Balance

/-! ## Trials in a log -/

/-- A pod is tried in a log: a container is to be added to it, or it is told of that none could be. -/
def Attempts (job : Job) (log : List Answered) (pod : Pod) : Prop :=
  pod ∈ targets log ∨ ∃ f, troubleEvent job pod f ∈ events log

/-! ## Lemmas -/

section
variable {now : Stamp} {space name uid container m : String} {log before check rest : List Answered}
  {read job cur : Job} {tool : Tool.Spec} {pods : List Pod} {pod : Pod} {next : Next} {o : Outcome Next} {c d : Cluster}

/-! ### Stopping short -/

/-- Whether the credentials of a job cannot be asked for is up to its specification. -/
theorem collector_eq_crash_iff :
    collector job name = .crash m ↔
      m = Token.overflowMessage ∧ job.spec.output.collector.isSome = true ∧ Untokened job := by
  unfold collector credentials Untokened
  cases hmode : job.spec.output.mode with
  | ephemeral => simp
  | volume => simp
  | collector =>
    cases job.spec.output.collector with
    | none => simp
    | some output =>
      cases hwindow : Duration.parse job.spec.tool.duration with
      | error f => simp
      | ok window =>
        cases hlife : Token.lifetime? window with
        | none => simp [hlife, eq_comm]
        | some lifetime => simp [hlife, Bind.bind, Pass.bind, issueToken]

theorem ends_collector_crashed (h : (collector job name).Ends log (.crashed m)) : collector job name = .crash m := by
  unfold collector at h ⊢
  split at h
  · cases (ends_done.1 h).2
  · cases (ends_done.1 h).2
  · split at h
    · cases (ends_fail.1 h).2
    · split at h
      · cases (ends_fail.1 h).2
      · unfold credentials at h ⊢
        split at h
        · cases (ends_crash.1 h).2
          rfl
        · obtain ⟨r, rest, -, hr⟩ := ends_call.1 h
          cases r with
          | error f => cases (ends_fail.1 hr).2
          | ok token => cases (ends_done.1 hr).2

/-- A trial that is stopped short is so before its first call. -/
theorem collector_of_inject (h : (inject job tool container pod).Ends log (.crashed m)) :
    collector job job.name = .crash m := by
  rcases ends_bind.1 h with ⟨access, first, rest, -, -, hadd⟩ | ⟨f, hf, -⟩ | ⟨m', hm, hcrash⟩
  · obtain ⟨r, later, -, hr⟩ := ends_call.1 hadd
    cases r with
    | error f => cases (ends_fail.1 hr).2
    | ok u =>
      obtain ⟨u, last, -, hdone⟩ := ends_call.1 hr
      cases (ends_done.1 hdone).2
  · cases hf
  · cases hm
    exact ends_collector_crashed hcrash

/-- A trial that came to an end was not stopped for want of a token. -/
theorem collector_ne_of_ends {r : Except Pass.Failure Unit}
    (h : (inject job tool container pod).Ends log (.ofReply r)) : collector job job.name ≠ .crash m := by
  intro hcrash
  unfold inject at h
  rw [hcrash] at h
  have ho := (ends_crash.1 h).2
  cases r <;> cases ho

/-! ### One pass -/

theorem mem_create_of_lacking (hpod : pod ∈ pods) (hlacks : Lacking job container pod) :
    ∃ i, (pod, i) ∈ (planFor job pods container).create := by
  obtain ⟨i, hi⟩ := List.mem_iff_getElem?.1 hpod
  refine ⟨i, ?_⟩
  have habsent : pod.observe (Plan.sought job.reported.activePods container pod) = .absent := by
    rw [Pod.observe_eq_absent_iff]
    exact List.any_eq_false.2 fun c hc hname => hlacks c hc (of_decide_eq_true hname)
  rw [planFor, Plan.create_of]
  exact List.mem_filter.2 ⟨List.mk_mem_zipIdx_iff_getElem?.2 hi, decide_eq_true habsent⟩

/-- A pass that comes to its pods, and is not stopped short, tries a pod that lacks its container exactly if the job is
not done with. -/
theorem attempts_iff (hr : Resolution now space name before read uid job tool pods)
    (hcheck : (conflict? job space pods).Ends check (.done none))
    (hend : (reconcile now space name).Ends (before ++ (check ++ rest)) o)
    (hcalm : ∀ m, collector job job.name ≠ .crash m) (hpod : pod ∈ pods)
    (hlacks : Lacking job (Job.containerName name uid) pod) :
    Attempts job (before ++ (check ++ rest)) pod ↔ job.isTerminal = false := by
  have hmanage := hr.manages hcheck hend
  rcases ends_manage hmanage with ⟨results, tried, ending, rfl, hresults, htried, hcloses⟩ | ⟨⟨m, rfl⟩, -⟩
  · rw [attempted] at hresults
    cases hopen : job.isTerminal with
    | true =>
      -- nothing is tried, and to tell of a completion is no trial
      rw [hopen, if_pos rfl, List.map_eq_nil_iff] at hresults
      subst hresults
      refine iff_of_false ?_ (by decide)
      rintro (hadded | ⟨f, htold⟩)
      · rw [hr.targets_tried hcheck hcloses] at hadded
        exact absurd (htried.mem_of_targets hadded) List.not_mem_nil
      · rcases hr.mem_events_tried hcheck hcloses htold with htold | htold
        · rcases htried.tells htold with hreason | ⟨p, f', hmem, -⟩
          · exact absurd hreason (show "InjectionFailed" ≠ "ContainerInjected" by decide)
          · exact absurd hmem List.not_mem_nil
        · exact absurd (congrArg Event.reason htold) (show "InjectionFailed" ≠ "ProfilingCompleted" by decide)
    | false =>
      refine iff_of_true ?_ rfl
      obtain ⟨i, hi⟩ := mem_create_of_lacking hpod hlacks
      rw [hopen, if_neg Bool.false_ne_true] at hresults
      rw [← hresults] at hi
      obtain ⟨⟨e, r⟩, hmem, rfl⟩ := List.mem_map.1 hi
      have ht := List.mem_map_of_mem (f := fun r : (Pod × Nat) × Except Pass.Failure Unit => (r.1.1, r.2)) hmem
      cases r with
      | ok u =>
        refine .inl ?_
        rw [hr.targets_tried hcheck hcloses]
        exact htried.mem_targets_of_added ht
      | error f =>
        refine .inr ⟨f, ?_⟩
        obtain ⟨earlier, trial, later, rfl, -, htold⟩ := htried.part ht
        simp only [events_append, List.mem_append]
        exact .inr (.inr (.inl (.inr (.inr (htold f rfl)))))
  · obtain ⟨-, p, trial, hcrash⟩ := ends_manage_crashed hmanage
    exact absurd (collector_of_inject hcrash) (hcalm m)

/-! ### Two passes -/

/-- A job of which some pods were tried is done with exactly if it claims none of its pods. -/
theorem isTerminal_concluded_iff {results : List ((Pod × Nat) × Except Pass.Failure Unit)}
    (hr : results.map (·.1) = attempted job pods container) (hne : pods ≠ []) (hlength : pods.length < 2 ^ 32)
    (hstatus : cur.status = some (concluded now job pods container results)) :
    cur.isTerminal = false ↔ (concluded now job pods container results).activePods ≠ .empty := by
  have hsize := size_claims_le hr
  have hphase : cur.phase = (concluded now job pods container results).phase := by
    rw [Job.phase, hstatus]
    rfl
  rw [Job.isTerminal, hphase, concluded, phase_managed, activePods_managed, ← StringMap.size_pos_iff]
  generalize (settle container results (planFor job pods container).active none).1 = active at hsize
  rw [Progress.count_of_lt hlength, Progress.count_of_lt (Nat.lt_of_le_of_lt hsize hlength),
    if_pos (List.length_pos_iff.2 hne)]
  split
  · next hlive => exact iff_of_true rfl hlive
  · next hlive => exact iff_of_false (by decide) hlive

/-- A pass that tells of a container that could not be added has managed its pods and tried some of them. -/
theorem managed_of_trouble (hend : (reconcile now space name).Ends log (.done next))
    (htrouble : ∃ event ∈ events log, event.reason = "InjectionFailed") :
    ∃ (read : Job) (uid : String) (job : Job) (tool : Tool.Spec) (pods : List Pod)
      (results : List ((Pod × Nat) × Except Pass.Failure Unit)) (before check tried ending : List Answered),
      log = before ++ (check ++ (tried ++ ending)) ∧ Resolution now space name before read uid job tool pods ∧
      (conflict? job space pods).Ends check (.done none) ∧
      results.map (·.1) = attempted job pods (Job.containerName name uid) ∧ results ≠ [] ∧
      Tried job tool (Job.containerName name uid) (results.map fun r => (r.1.1, r.2)) tried ∧
      Closes job (concluded now job pods (Job.containerName name uid) results) ending (.done next) := by
  obtain ⟨event, hevent, hreason⟩ := htrouble
  cases exit_of_ends hend with
  | gone => exact absurd hevent List.not_mem_nil
  | madeWay hr hcheck hway =>
    cases hway with
    | told stored =>
      rw [events_append, events_append, hr.events_eq, events_of_looks (looks_of_conflict? hcheck)] at hevent
      obtain rfl := List.mem_singleton.1 hevent
      exact absurd hreason (show "ConflictDetected" ≠ "InjectionFailed" by decide)
  | @managed before check tried ending read job uid tool pods results _ hr hcheck hresults htried hcloses =>
    refine ⟨read, uid, job, tool, pods, results, before, check, tried, ending, rfl, hr, hcheck, hresults, ?_, htried,
      hcloses⟩
    rintro rfl
    rcases hr.mem_events_tried hcheck hcloses hevent with htold | rfl
    · cases htried
      exact absurd htold List.not_mem_nil
    · exact absurd hreason (show "ProfilingCompleted" ≠ "InjectionFailed" by decide)

/-- If a trial came to an end, no later pass over the job is stopped short. -/
theorem calm_of_tried {tries : List (Pod × Except Pass.Failure Unit)} (htried : Tried job tool container tries log)
    (hne : tries ≠ []) (hfollows : job.Follows cur) (m : String) : collector cur cur.name ≠ .crash m := by
  intro hcrash
  obtain ⟨⟨p, r⟩, ht⟩ := List.exists_mem_of_ne_nil _ hne
  obtain ⟨earlier, trial, later, -, hinject, -⟩ := htried.part ht
  rw [collector_eq_crash_iff, Untokened, hfollows.spec] at hcrash
  exact collector_ne_of_ends hinject (collector_eq_crash_iff.2 hcrash)

/-- A job that has a phase is worked on as it is. -/
theorem work_eq (h : Resolution now space name before read uid job tool pods) (hs : Served c (before ++ rest) d)
    (hj : c.job? space name = some cur) (hphase : cur.phase ≠ none) : job = cur := by
  obtain ⟨e, hbefore, -⟩ := hs.split
  obtain rfl : read = cur := Option.some.inj ((h.standing hbefore).1.symm.trans hj)
  obtain ⟨-, ⟨-, hjob⟩ | ⟨hnone, -⟩⟩ := h.started hs
  · exact hjob
  · exact absurd hnone hphase

end

/-- After a pass that ends with a value and tells of a container that could not be added, a pass over the job as it was
stored then, once it has resolved its pods and found no conflict, tries a pod that lacks its container exactly if the
first pass has stored a claim, for fewer than `2 ^ 32` pods: they are counted in 32 bits.  The pod may be the one whose
container could not be added, or any other.  Without a claim the job was stored as completed, and nothing is tried. -/
theorem retried_iff {now later : Stamp} {space name : String} {c d c' d' : Cluster}
    {log before' check' rest' : List Answered} {next : Next} {o : Outcome Next} {read' job' : Job} {uid' : String}
    {tool' : Tool.Spec} {pods' : List Pod} {pod : Pod} (hs : Served c log d)
    (hend : (reconcile now space name).Ends log (.done next))
    (htrouble : ∃ event ∈ events log, event.reason = "InjectionFailed")
    (hstored : c'.job? space name = d.job? space name)
    (hs' : Served c' (before' ++ (check' ++ rest')) d')
    (hend' : (reconcile later space name).Ends (before' ++ (check' ++ rest')) o)
    (hr' : Resolution later space name before' read' uid' job' tool' pods')
    (hcheck' : (conflict? job' space pods').Ends check' (.done none)) (hpod : pod ∈ pods')
    (hlacks : Lacking job' (Job.containerName name uid') pod) :
    ∃ read uid job tool pods before rest status, log = before ++ rest ∧
      Resolution now space name before read uid job tool pods ∧
      (d.job? space name).bind Job.status = some status ∧
      (pods.length < 2 ^ 32 →
        (Attempts job' (before' ++ (check' ++ rest')) pod ↔ status.activePods ≠ .empty)) := by
  obtain ⟨read, uid, job, tool, pods, results, before, check, tried, ending, rfl, hr, hcheck, hresults, hne, htried,
    hcloses⟩ := managed_of_trouble hend htrouble
  -- the job as the first pass leaves it
  obtain ⟨cur, hcur, hstatus, hfollows⟩ := hr.leaves hcheck htried hcloses hs
  have hphase : cur.phase ≠ none := by
    rw [Job.phase, hstatus]
    exact phase_concluded_ne_none (hr.phase_ne_none hs)
  refine ⟨read, uid, job, tool, pods, before, _, concluded now job pods (Job.containerName name uid) results, rfl, hr,
    ?_, fun hlength => ?_⟩
  · rw [hcur]
    exact hstatus
  · -- it is what the second pass works on
    obtain rfl := work_eq hr' hs' (hstored.trans hcur) hphase
    have hpods : pods ≠ [] := by
      obtain ⟨r, hmem⟩ := List.exists_mem_of_ne_nil _ hne
      exact List.ne_nil_of_mem (mem_of_attempted (hresults ▸ List.mem_map_of_mem hmem))
    have hcalm := calm_of_tried htried (fun hnil => hne (List.map_eq_nil_iff.1 hnil)) hfollows
    rw [attempts_iff hr' hcheck' hend' hcalm hpod hlacks, isTerminal_concluded_iff hresults hpods hlength hstatus]

/-! ## A pod that is tried again, and one that is not -/

/-- The first pass over the sample job among some pods, in which nothing can be added to the sample pod. -/
def stumbling (pods : List Pod) : Session :=
  Session.start ⟨[Sample.job], pods, [Sample.tool], "ops", false⟩ [(.addContainer "cart", [some (.api .lineTooLong)])]

def firstLog (pods : List Pod) : List Answered :=
  (reconcile Sample.now "shop" "trace").record Session.answer (stumbling pods)

def stumbled (pods : List Pod) : Cluster :=
  ((reconcile Sample.now "shop" "trace").run Session.answer (stumbling pods)).2.cluster

/-- The log of the pass a minute later, in which nothing fails. -/
def secondLog (pods : List Pod) : List Answered :=
  (reconcile ⟨60, 0⟩ "shop" "trace").record Session.answer (Session.start (stumbled pods) [])

/-- What is stored of the job by the first pass. -/
def left (pods : List Pod) : Job :=
  ((stumbled pods).job? "shop" "trace").getD Sample.job

theorem secondLog_parts (pods : List Pod) (n : Nat) :
    (secondLog pods).take 3 ++ (((secondLog pods).drop 3).take n ++ ((secondLog pods).drop 3).drop n) =
      secondLog pods := by
  rw [List.take_append_drop, List.take_append_drop]

theorem exists_second (pods : List Pod) (n : Nat) : ∃ o d,
    (reconcile ⟨60, 0⟩ "shop" "trace").Ends
      ((secondLog pods).take 3 ++ (((secondLog pods).drop 3).take n ++ ((secondLog pods).drop 3).drop n)) o ∧
    Served (stumbled pods)
      ((secondLog pods).take 3 ++ (((secondLog pods).drop 3).take n ++ ((secondLog pods).drop 3).drop n)) d := by
  rw [secondLog_parts]
  exact ⟨_, _, goes_run Session.answer _ _, served_run _ (Session.start (stumbled pods) [])⟩

/-- Two pods that no job claims. -/
def pair : List Pod :=
  [Sample.pod, desk]

theorem resolution_second {pods : List Pod} (h : pods = [Sample.pod] ∨ pods = pair) :
    Resolution ⟨60, 0⟩ "shop" "trace" ((secondLog pods).take 3) (left pods) "7f9c" (left pods) Sample.tool.spec
      (stumbled pods).pods := by
  have hsearch : (resolveTool (left pods) "shop").Ends [⟨.findTool "perf" "shop", Except.ok (some Sample.tool)⟩]
      (.done Sample.tool.spec) := by
    rcases h with rfl | rfl <;> exact Goes.call (c := .findTool "perf" "shop") (Except.ok (some Sample.tool)) (.stay _)
  have hlookup : (Targets.resolve "shop" (left pods).spec.targets.selector).Ends
      [⟨.listPods "shop" "", Except.ok (stumbled pods).pods⟩] (.done (stumbled pods).pods) := by
    rcases h with rfl | rfl <;> exact Goes.call (c := .listPods "shop" "") (Except.ok (stumbled _).pods) (.stay _)
  rcases h with rfl | rfl <;> exact ⟨rfl, rfl, [], _, _, .stay _, hsearch, hlookup, rfl⟩

/-- With a second pod that gets its container, the next pass tries the first once more. -/
theorem pair_is_retried : ∃ read uid job tool pods before rest status, firstLog pair = before ++ rest ∧
    Resolution Sample.now "shop" "trace" before read uid job tool pods ∧
    ((stumbled pair).job? "shop" "trace").bind Job.status = some status ∧
    (pods.length < 2 ^ 32 → (Attempts (left pair)
      ((secondLog pair).take 3 ++ (((secondLog pair).drop 3).take 1 ++ ((secondLog pair).drop 3).drop 1)) Sample.pod ↔
        status.activePods ≠ .empty)) := by
  have hend : (reconcile Sample.now "shop" "trace").Ends (firstLog pair) (.done (.after Requeue.running)) :=
    goes_run Session.answer _ (stumbling pair)
  have htrouble : ∃ event ∈ events (firstLog pair), event.reason = "InjectionFailed" := ⟨_, List.mem_cons_self, rfl⟩
  obtain ⟨o, d, hend', hs'⟩ := exists_second pair 1
  have hcheck : (conflict? (left pair) "shop" (stumbled pair).pods).Ends (((secondLog pair).drop 3).take 1)
      (.done none) :=
    Goes.call (c := .listJobs "shop") (Except.ok [left pair]) (.stay _)
  exact retried_iff (served_run _ (stumbling pair)) hend htrouble rfl hs' hend' (resolution_second (.inr rfl)) hcheck
    List.mem_cons_self (fun c hc => absurd hc List.not_mem_nil)

/-- With a single pod there is no other to be claimed.  The job counts as completed, and the next pass leaves the pod
alone, though it selects it, finds no conflict, and it still lacks its container. -/
theorem lone_pod_is_not_retried :
    Sample.job.isTerminal = false ∧
    ((reconcile Sample.now "shop" "trace").run Session.answer (stumbling [Sample.pod])).1 =
      .done (.after Requeue.finished) ∧
    troubleEvent Sample.job Sample.pod (.api .lineTooLong) ∈ events (firstLog [Sample.pod]) ∧
    (stumbled [Sample.pod]).pods = [Sample.pod] ∧
    Saw (secondLog [Sample.pod]) (.listPods "shop" "") (Except.ok [Sample.pod]) ∧
    (conflict? (left [Sample.pod]) "shop" [Sample.pod]).Ends [] (.done none) ∧
    ¬ Attempts (left [Sample.pod]) (secondLog [Sample.pod]) Sample.pod := by
  refine ⟨rfl, rfl, List.mem_cons_self, rfl, List.mem_cons_of_mem _ (List.mem_cons_of_mem _ List.mem_cons_self),
    .stay _, ?_⟩
  obtain ⟨o, d, hend, -⟩ := exists_second [Sample.pod] 0
  have hcheck : (conflict? (left [Sample.pod]) "shop" [Sample.pod]).Ends (((secondLog [Sample.pod]).drop 3).take 0)
      (.done none) := .stay _
  have hlacks : Lacking (left [Sample.pod]) (Job.containerName "trace" "7f9c") Sample.pod :=
    fun c hc => absurd hc List.not_mem_nil
  have hattempts := attempts_iff (resolution_second (.inl rfl)) hcheck hend (fun m h => by cases h)
    List.mem_cons_self hlacks
  rw [secondLog_parts] at hattempts
  rw [hattempts]
  decide

end Retrying

end ProfilingOperator
