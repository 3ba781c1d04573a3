import ProfilingOperator.Proofs.Balance

/-!
# What the management of containers comes to

A pass that finds no conflict over a job that is not done with tries every pod in which the job's container is not
declared, and no other, in order.  Its status tells exactly of this: it claims the pods in which the container is alive
and those that were given one, counts the others as completed, and remembers the last trouble.

    get?_settle_iff : the claims after some pods were tried
    accounts_concluded : the status that is left accounts for every pod
    managed_outcome : a pass tries the pods that lack a container, accounts for all of them, and closes with that
-/

namespace ProfilingOperator

namespace Pass

open Cluster Balance

/-! ## Accounts -/

/-- An ephemeral container is declared in a pod and has not ended: the first report on it, if there is any, says that it
runs or waits. -/
def Alive (container : String) (p : Pod) : Prop :=
  p.declares container = true ∧ ∀ s, p.ephemeralStatuses.find? (fun s => s.name = container) = some s →
    s.state.any ContainerReport.isLive = true

/-- What is said of a pod whose container could not be added. -/
def trouble? : Pod × Except Failure Unit → Option String
  | (_, .ok ()) => none
  | (pod, .error f) => some (injectionMessage pod f)

/-- A status accounts for the pods of a job of which some were tried. -/
structure Accounts (job : Job) (pods : List Pod) (container : String) (tries : List (Pod × Except Failure Unit))
    (s : Job.Status) : Prop where
  /-- The claims are on the pods in which the container is alive, and on those that were given one. -/
  claims : ∀ k v, s.activePods.get? k = some v ↔
    v = container ∧ ∃ p ∈ pods, p.name = k ∧ (Alive container p ∨ (p, .ok ()) ∈ tries)
  trouble : s.lastError = (tries.filterMap trouble?).getLast?
  /-- The counts, which are kept in 32 bits. -/
  counts : pods.length < 2 ^ 32 →
    s.selectedPods = pods.length ∧ s.completedPods + s.activePods.size = s.selectedPods
  phase : pods.length < 2 ^ 32 → s.phase =
    if 0 < s.activePods.size then some .running else if 0 < pods.length then some .completed else job.phase

/-! ## Lemmas -/

section
variable {now : Stamp} {space name uid container : String} {before check rest : List Answered} {read job : Job}
  {tool : Tool.Spec} {pods : List Pod} {o : Outcome Next}

theorem observe_eq_running_iff {p : Pod} : p.observe container = .running ↔ Alive container p := by
  unfold Pod.observe Alive
  cases hd : p.declares container with
  | false => simp
  | true =>
    cases hs : p.ephemeralStatuses.find? fun s => s.name = container with
    | none => simp
    | some s => cases hlive : s.state.any ContainerReport.isLive <;> simp [hlive]

/-! ### Looking at pods under one name -/

theorem create_of_owned (h : job.Owned container) :
    (planFor job pods container).create.map (·.1) = pods.filter fun p => !p.declares container := by
  have hlacks : Plan.lacks job.reported.activePods container = (fun p => !p.declares container) ∘ Prod.fst := by
    funext e
    show decide (e.1.observe (Plan.sought job.reported.activePods container e.1) = .absent) = !e.1.declares container
    rw [sought_of_owned h]
    cases hd : e.1.declares container with
    | false => simpa using Pod.observe_eq_absent_iff.2 hd
    | true =>
      have hne : e.1.observe container ≠ .absent := fun ha => by
        rw [Pod.observe_eq_absent_iff.1 ha] at hd
        exact Bool.noConfusion hd
      simpa using hne
  unfold planFor
  rw [Plan.create_of, hlacks, ← List.filter_map, List.zipIdx_map_fst]

/-- The claims a plan goes on with are then those on the pods in which the job's container is alive. -/
theorem active_of_owned (h : job.Owned container) {k v : String} :
    (planFor job pods container).active.get? k = some v ↔
      v = container ∧ ∃ p ∈ pods, p.name = k ∧ Alive container p := by
  have hlives : ∀ p, Plan.lives job.reported.activePods container p = true ↔ Alive container p := by
    intro p
    rw [Plan.lives, sought_of_owned h, decide_eq_true_iff, observe_eq_running_iff]
  constructor
  · intro hv
    obtain ⟨p, hp, hk, hsought, hr⟩ := Plan.mem_active hv
    rw [sought_of_owned h] at hsought
    exact ⟨hsought.symm, p, hp, hk, (hlives p).1 hr⟩
  · rintro ⟨rfl, p, hp, rfl, halive⟩
    obtain ⟨v', hv'⟩ := Option.isSome_iff_exists.1 (Plan.contains_active hp ((hlives p).2 halive))
    obtain ⟨q, -, -, hsought, -⟩ := Plan.mem_active hv'
    rw [sought_of_owned h] at hsought
    exact hv'.trans (congrArg some hsought.symm)

/-! ### Settling -/

/-- The claims there are after some pods were tried: those that were there, and those on the pods that got their
container. -/
theorem get?_settle_iff {results : List ((Pod × Nat) × Except Failure Unit)} {active : StringMap String}
    {trouble : Option String} (h : active.Owned container) {k v : String} :
    (settle container results active trouble).1.get? k = some v ↔
      active.get? k = some v ∨ (v = container ∧ ∃ r ∈ results, r.1.1.name = k ∧ r.2 = .ok ()) := by
  induction results generalizing active trouble with
  | nil => simp [settle]
  | cons r results ih =>
    obtain ⟨e, o⟩ := r
    cases o with
    | error f =>
      show (settle container results active (some (injectionMessage e.1 f))).1.get? k = some v ↔ _
      rw [ih h]
      simp
    | ok u =>
      show (settle container results (active.insert e.1.name container) trouble).1.get? k = some v ↔ _
      rw [ih (h.insert _), StringMap.get?_insert]
      by_cases hk : k = e.1.name
      · -- the claim is that of this pod, whether there was one before or not
        subst hk
        rw [if_pos rfl]
        constructor
        · rintro (hv | ⟨hv, r, hr, hname, hok⟩)
          · exact .inr ⟨(Option.some.inj hv).symm, (e, .ok u), List.mem_cons_self, rfl, rfl⟩
          · exact .inr ⟨hv, r, List.mem_cons_of_mem _ hr, hname, hok⟩
        · rintro (hv | ⟨hv, -⟩)
          · exact .inl (congrArg some (h _ _ hv).symm)
          · exact .inl (congrArg some hv.symm)
      · have hne : e.1.name ≠ k := fun he => hk he.symm
        simp [hk, hne]

theorem trouble_settle (results : List ((Pod × Nat) × Except Failure Unit)) (active : StringMap String)
    (trouble : Option String) :
    (settle container results active trouble).2 =
      (((results.map fun r => (r.1.1, r.2)).filterMap trouble?).getLast?).or trouble := by
  induction results generalizing active trouble with
  | nil => rfl
  | cons r results ih =>
    obtain ⟨e, o⟩ := r
    cases o with
    | ok u => exact ih _ _
    | error f =>
      show (settle container results active (some (injectionMessage e.1 f))).2 =
        ((injectionMessage e.1 f :: (results.map fun r => (r.1.1, r.2)).filterMap trouble?).getLast?).or trouble
      rw [ih, List.getLast?_cons]
      cases ((results.map fun r => (r.1.1, r.2)).filterMap trouble?).getLast? <;> rfl

theorem mem_of_attempted {e : Pod × Nat} (h : e ∈ attempted job pods container) : e.1 ∈ pods := by
  unfold attempted at h
  split at h
  · exact absurd h List.not_mem_nil
  · exact (Plan.mem_create h).1

/-- The status a pass concludes with accounts for the outcome of each trial. -/
theorem accounts_concluded {results : List ((Pod × Nat) × Except Failure Unit)} (h : job.Owned container)
    (hr : results.map (·.1) = attempted job pods container) :
    Accounts job pods container (results.map fun r => (r.1.1, r.2)) (concluded now job pods container results) := by
  have howned : (planFor job pods container).active.Owned container := fun k v hv => ((active_of_owned h).1 hv).1
  obtain ⟨phase, conditions, finishedAt, hmanaged⟩ := managed_eq now job pods
    (settle container results (planFor job pods container).active none).1
    (settle container results (planFor job pods container).active none).2
  constructor
  · intro k v
    rw [concluded, activePods_managed, get?_settle_iff howned, active_of_owned h, ← and_or_left]
    refine and_congr Iff.rfl ⟨?_, ?_⟩
    · rintro (⟨p, hp, hk, halive⟩ | ⟨r, hmem, hk, hok⟩)
      · exact ⟨p, hp, hk, .inl halive⟩
      · have hentry : r.1 ∈ attempted job pods container := hr ▸ List.mem_map_of_mem hmem
        refine ⟨r.1.1, mem_of_attempted hentry, hk, .inr (List.mem_map.2 ⟨r, hmem, ?_⟩)⟩
        rw [hok]
    · rintro ⟨p, hp, hk, halive | htry⟩
      · exact .inl ⟨p, hp, hk, halive⟩
      · obtain ⟨⟨e, result⟩, hmem, he⟩ := List.mem_map.1 htry
        cases he
        exact .inr ⟨(e, .ok ()), hmem, hk, rfl⟩
  · rw [concluded, hmanaged]
    exact (trouble_settle results _ none).trans Option.or_none
  · intro hlength
    refine ⟨?_, (balanced_concluded hr hlength).counted⟩
    rw [concluded, hmanaged]
    exact Progress.count_of_lt hlength
  · intro hlength
    rw [concluded, phase_managed, phase_reported, activePods_managed]
    rw [Progress.count_of_lt hlength, Progress.count_of_lt (Nat.lt_of_le_of_lt (size_claims_le hr) hlength)]

/-- A pass that finds no conflict over a job that is not done with, and whose claims are on its own container, tries the
pods that do not declare the container, each of them once and in order.  A try goes well only if the container was
called for in its pod and that call went well.  The pass closes with a status that accounts for all pods, and stops
short only where a token cannot be had. -/
theorem managed_outcome (hr : Resolution now space name before read uid job tool pods)
    (hcheck : (conflict? job space pods).Ends check (.done none)) (hopen : job.isTerminal = false)
    (howned : job.Owned (Job.containerName name uid))
    (hend : (reconcile now space name).Ends (before ++ (check ++ rest)) o) :
    (∃ tries tried ending status, rest = tried ++ ending ∧
      tries.map (·.1) = (pods.filter fun p => !p.declares (Job.containerName name uid)) ∧
      Tried job tool (Job.containerName name uid) tries tried ∧
      (∀ pod, (pod, .ok ()) ∈ tries → Added job tool (Job.containerName name uid) pod tried) ∧
      Accounts job pods (Job.containerName name uid) tries status ∧ Closes job status ending o ∧
      ∀ c d next, o = .done next → Served c (before ++ (check ++ rest)) d →
        (d.job? space name).bind Job.status = some status) ∨
    ((∃ m, o = .crashed m) ∧ Untokened job) := by
  rcases ends_manage (hr.manages hcheck hend) with ⟨results, tried, ending, rfl, hresults, htried, hcloses⟩ | hcrash
  · refine .inl ⟨_, tried, ending, _, rfl, ?_, htried, fun _ => htried.adds, accounts_concluded howned hresults,
      hcloses, ?_⟩
    · have hall : results.map (·.1) = (planFor job pods (Job.containerName name uid)).create := by
        rw [hresults, attempted, hopen]
        rfl
      rw [← create_of_owned howned, ← hall, List.map_map, List.map_map]
      rfl
    · rintro c d next rfl hs
      obtain ⟨e, hjob, hending⟩ := hr.standing_tried hcheck htried hs
      exact hcloses.stored hending hjob
  · exact .inr hcrash

end

/-! ## Three pods to look at -/

namespace Sample

/-- A pod in which the container of the job runs. -/
def lamp : Pod :=
  Pod.addEphemeral ⟨metadata "lamp" "55ee", pod.spec, none⟩ container

/-- The pods of the job: the container is absent from the first two. -/
def room : List Pod :=
  [pod, desk, lamp]

/-- A cluster with the job and its pods, in which nothing can be added to the second. -/
def roomSession : Session :=
  Session.start ⟨[job], room, [tool], "ops", false⟩ [(.addContainer "desk", [some (.api .lineTooLong)])]

/-- The log of a whole pass over the job. -/
def roomLog : List Answered :=
  (reconcile now "shop" "trace").record Session.answer roomSession

theorem resolution_room : Resolution now "shop" "trace" (roomLog.take 3) job "7f9c" job tool.spec room := by
  refine ⟨rfl, rfl, [], [⟨.findTool "perf" "shop", Except.ok (some tool)⟩], [⟨.listPods "shop" "", Except.ok room⟩],
    .stay _, ?_, ?_, rfl⟩
  · exact Goes.call (c := .findTool "perf" "shop") (Except.ok (some tool)) (.stay _)
  · exact Goes.call (c := .listPods "shop" "") (Except.ok room) (.stay _)

end Sample

/-- The pass over the job tries the first two pods of the room, though the second fails, and accounts for all three. -/
theorem room_accounted :
    (∃ tries tried ending status, Sample.roomLog.drop 4 = tried ++ ending ∧
      tries.map (·.1) = (Sample.room.filter fun p => !p.declares (Job.containerName "trace" "7f9c")) ∧
      Tried Sample.job Sample.tool.spec (Job.containerName "trace" "7f9c") tries tried ∧
      (∀ pod, (pod, .ok ()) ∈ tries →
        Added Sample.job Sample.tool.spec (Job.containerName "trace" "7f9c") pod tried) ∧
      Accounts Sample.job Sample.room (Job.containerName "trace" "7f9c") tries status ∧
      Closes Sample.job status ending (.done (.after Requeue.running)) ∧
      ∀ c d next, Outcome.done (Next.after Requeue.running) = .done next →
        Served c (Sample.roomLog.take 3 ++ ((Sample.roomLog.drop 3).take 1 ++ Sample.roomLog.drop 4)) d →
        (d.job? "shop" "trace").bind Job.status = some status) ∨
    ((∃ m, Outcome.done (Next.after Requeue.running) = .crashed m) ∧ Untokened Sample.job) := by
  have hcheck : (conflict? Sample.job "shop" Sample.room).Ends ((Sample.roomLog.drop 3).take 1) (.done none) :=
    Goes.call (c := .listJobs "shop") (Except.ok [Sample.job]) (.stay _)
  have howned : Sample.job.Owned (Job.containerName "trace" "7f9c") := fun k v hv => by cases hv
  have hend : (reconcile Sample.now "shop" "trace").Ends
      (Sample.roomLog.take 3 ++ ((Sample.roomLog.drop 3).take 1 ++ Sample.roomLog.drop 4))
      (.done (.after Requeue.running)) :=
    goes_run Session.answer _ Sample.roomSession
  exact managed_outcome Sample.resolution_room hcheck rfl howned hend

end Pass

end ProfilingOperator
