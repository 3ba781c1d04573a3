import ProfilingOperator.Cluster.Session
import ProfilingOperator.Proofs.Claims

/-!
# Replicas over one job

Any number of passes over one job run side by side and are interleaved call by call.  Each may be cut off at any
point, and each call may fail, with or without its effect.  Between calls pods are reported on, relabelled, deleted
and created again, and the job is edited by its owner.  A container is added only to the very revision of the pod that
was listed, and nobody else declares a container of the job's name.

    inv_step : a step keeps the invariant
    at_most_one_container : no pod ever declares two containers of the job
-/

namespace ProfilingOperator

/-- The number of ephemeral containers of a name that a pod declares. -/
def Pod.declared (container : String) (p : Pod) : Nat :=
  p.ephemeralContainers.countP fun c => c.name = container

/-- What tells the stored states of pods apart. -/
def Pod.revision (p : Pod) : Option String × String × Option String :=
  (p.metadata.space, p.name, p.metadata.resourceVersion)

namespace Replicas

open Pass Cluster

/-! ## Worlds -/

/-- A job, the pods around it, and the passes over the job that are under way. -/
structure World where
  job : Option Job
  pods : List Pod
  /-- Every state a pod was ever stored in. -/
  seen : List Pod
  passes : List (Pass Next)

/-- A pod state is new: no pod was ever stored in this revision. -/
def World.Fresh (w : World) (p : Pod) : Prop :=
  ∀ q ∈ w.seen, q.revision ≠ p.revision

/-- What a call is answered with, and the world after it. -/
inductive Answers (w : World) : (c : Call) → c.Reply → World → Prop
  /-- The call fails and has no effect. -/
  | failed (c : Call) (f : Pass.Failure) : Answers w c (c.failed f) w
  | getJob (space name : String) : Answers w (.getJob space name) (Except.ok w.job) w
  /-- A status is stored, though the reply may be lost. -/
  | replaceStatus {stored next sent : Job} {r : Except Pass.Failure Job} :
      w.job = some stored → next.metadata.uid = stored.metadata.uid → next.status = sent.status →
      (r = .ok next ∨ ∃ f, r = .error f) →
      Answers w (.replaceStatus sent) r { w with job := some next }
  | listPods (space query : String) {l : List Pod} :
      (∀ p ∈ l, p ∈ w.pods) → Answers w (.listPods space query) (Except.ok l) w
  | listJobs (space : String) (r : Except Pass.Failure (List Job)) : Answers w (.listJobs space) r w
  | findTool (tool space : String) (r : Except Pass.Failure (Option Tool)) : Answers w (.findTool tool space) r w
  | issueToken (job : String) (lifetime : Duration) (r : Except Pass.Failure String) :
      Answers w (.issueToken job lifetime) r w
  /-- A container is added to a pod that is still as it was listed, though the reply may be lost. -/
  | addContainer {listed p next : Pod} {c : EphemeralContainer} {before after : List Pod}
      (r : Except Pass.Failure Unit) :
      w.pods = before ++ p :: after → p.revision = listed.revision → w.Fresh next →
      next.ephemeralContainers = (listed.addEphemeral c).ephemeralContainers →
      Answers w (.addContainer listed c) r { w with pods := before ++ next :: after, seen := next :: w.seen }

/-- What can happen next, for a job whose diagnostic containers have a name. -/
inductive Step (space name container : String) (w : World) : World → Prop
  | start (now : Stamp) : Step space name container w { w with passes := reconcile now space name :: w.passes }
  | crash {p : Pass Next} {before after : List (Pass Next)} :
      w.passes = before ++ p :: after → Step space name container w { w with passes := before ++ after }
  | call {c : Call} {next : c.Reply → Pass Next} {before after : List (Pass Next)} {r : c.Reply} {w' : World} :
      w.passes = before ++ .call c next :: after → Answers w c r w' →
      Step space name container w { w' with passes := before ++ next r :: after }
  | editJob {job next : Job} :
      w.job = some job → next.metadata.uid = job.metadata.uid → next.status = job.status →
      Step space name container w { w with job := some next }
  | deleteJob : Step space name container w { w with job := none }
  /-- A pod is changed: its status, its labels, and whatever else does not declare a container of the name. -/
  | changePod {p next : Pod} {before after : List Pod} :
      w.pods = before ++ p :: after → w.Fresh next → next.declared container = p.declared container →
      Step space name container w { w with pods := before ++ next :: after, seen := next :: w.seen }
  | createPod {p : Pod} :
      w.Fresh p → p.declared container = 0 →
      Step space name container w { w with pods := p :: w.pods, seen := p :: w.seen }
  | deletePod {p : Pod} {before after : List Pod} :
      w.pods = before ++ p :: after → Step space name container w { w with pods := before ++ after }

/-- A job without a status, before any pass over it, among pods none of which declares a container of its name. -/
structure Initial (name uid : String) (w : World) : Prop where
  unseen : ∃ job, w.job = some job ∧ job.metadata.uid = some uid ∧ job.status = none
  apart : w.pods.Pairwise fun p q => p.revision ≠ q.revision
  clean : ∀ p ∈ w.pods, p.declared (Job.containerName name uid) = 0
  stored : w.seen = w.pods
  idle : w.passes = []

/-- The worlds that come about. -/
inductive Reachable (space name uid : String) : World → Prop
  | init {w : World} : Initial name uid w → Reachable space name uid w
  | step {w w' : World} :
      Reachable space name uid w → Step space name (Job.containerName name uid) w w' → Reachable space name uid w'

/-! ## The invariant -/

/-- A call was answered by a job of the id whose claims are its own, or by pods as they were stored. -/
def Honest (uid container : String) (seen : List Pod) : Answered → Prop
  | ⟨.getJob _ _, .ok (some job)⟩ => job.metadata.uid = some uid ∧ job.Owned container
  | ⟨.replaceStatus _, .ok job⟩ => job.Owned container
  | ⟨.listPods _ _, .ok l⟩ => ∀ p ∈ l, p ∈ seen
  | _ => True

/-- A pass is under way that was answered honestly so far. -/
def Honored (space name uid : String) (seen : List Pod) (q : Pass Next) : Prop :=
  ∃ now log, (reconcile now space name).Goes log q ∧
    ∀ a ∈ log, Honest uid (Job.containerName name uid) seen a

/-- What holds in every world that comes about. -/
structure Inv (space name uid : String) (w : World) : Prop where
  owned : ∀ job, w.job = some job → job.metadata.uid = some uid ∧ job.Owned (Job.containerName name uid)
  stored : ∀ p ∈ w.pods, p ∈ w.seen
  apart : ∀ p ∈ w.seen, ∀ q ∈ w.seen, p.revision = q.revision → p = q
  once : ∀ p ∈ w.seen, p.declared (Job.containerName name uid) ≤ 1
  passes : ∀ q ∈ w.passes, Honored space name uid w.seen q

/-! ## Lemmas -/

theorem declared_addEphemeral_le (container : String) (p : Pod) (c : EphemeralContainer) :
    (p.addEphemeral c).declared container ≤ p.declared container + 1 := by
  unfold Pod.addEphemeral Pod.declared
  split
  · exact Nat.le_succ _
  · next s hs =>
    simp only [Pod.ephemeralContainers, hs, Option.getD_some, List.countP_append]
    exact Nat.add_le_add_left (List.countP_le_length) _

theorem declared_eq_zero {container : String} {p : Pod} (h : p.observe container = .absent) :
    p.declared container = 0 := by
  have hd := Pod.observe_eq_absent_iff.1 h
  unfold Pod.declares at hd
  unfold Pod.declared
  rw [List.countP_eq_zero]
  intro c hc
  exact List.any_eq_false.1 hd c hc

section
variable {space name uid container : String} {w : World} {now : Stamp} {log : List Answered}

theorem Honest.mono {seen : List Pod} {a : Answered} (p : Pod) (h : Honest uid container seen a) :
    Honest uid container (p :: seen) a := by
  unfold Honest at *
  split at h
  · exact h
  · exact h
  · exact fun q hq => List.mem_cons_of_mem p (h q hq)
  · trivial

theorem Honored.mono {seen : List Pod} {q : Pass Next} (p : Pod) (h : Honored space name uid seen q) :
    Honored space name uid (p :: seen) q := by
  obtain ⟨now, log, hg, ha⟩ := h
  exact ⟨now, log, hg, fun a hm => (ha a hm).mono p⟩

theorem Honored.next {seen : List Pod} {c : Call} {next : c.Reply → Pass Next} {r : c.Reply}
    (h : Honored space name uid seen (.call c next))
    (hr : Honest uid (Job.containerName name uid) seen ⟨c, r⟩) : Honored space name uid seen (next r) := by
  obtain ⟨now, log, hg, ha⟩ := h
  refine ⟨now, log ++ [⟨c, r⟩], hg.append_call r, fun a hm => ?_⟩
  rcases List.mem_append.1 hm with hm | hm
  · exact ha a hm
  · rw [List.mem_singleton.1 hm]
    exact hr

/-! ### What an honored pass knows -/

theorem owned_of_read {seen : List Pod} {read : Job} {id : String}
    (ha : ∀ a ∈ log, Honest uid (Job.containerName name uid) seen a) (h : Read space name log read id) :
    id = uid ∧ read.Owned (Job.containerName name uid) := by
  obtain ⟨rest, hrest⟩ := h.first
  have honest : read.metadata.uid = some uid ∧ read.Owned (Job.containerName name uid) :=
    ha ⟨.getJob space name, Except.ok (some read)⟩ (by rw [hrest]; exact List.mem_cons_self)
  refine ⟨?_, honest.2⟩
  have heq : some id = some uid := h.identity.symm.trans honest.1
  exact Option.some.inj heq

theorem owned_of_works {seen : List Pod} {read job : Job} {id : String}
    (ha : ∀ a ∈ log, Honest uid (Job.containerName name uid) seen a)
    (h : Works now space name log read id job) : id = uid ∧ job.Owned (Job.containerName name uid) := by
  have hread := owned_of_read ha h.toRead
  refine ⟨hread.1, ?_⟩
  rcases h.origin with ⟨-, rfl, -⟩ | ⟨-, hs, -⟩
  · exact hread.2
  · exact ha _ hs

/-- A status a pass is about to store has the job's own claims only. -/
theorem Honored.owned {seen : List Pod} {sent : Job} {next : (Call.replaceStatus sent).Reply → Pass Next}
    (h : Honored space name uid seen (.call (.replaceStatus sent) next)) :
    sent.Owned (Job.containerName name uid) := by
  obtain ⟨now, log, hg, ha⟩ := h
  have hread : ∀ read id, Read space name log read id → read.Owned (Job.containerName name id) := by
    intro read id hr
    obtain ⟨rfl, ho⟩ := owned_of_read ha hr
    exact ho
  have hworks : ∀ read id job, Works now space name log read id job → job.Owned (Job.containerName name id) := by
    intro read id job hw
    obtain ⟨rfl, ho⟩ := owned_of_works ha hw
    exact ho
  obtain ⟨read, id, hr, ho⟩ := owned_of_due (due_of_call hg) hread hworks
  obtain ⟨rfl, -⟩ := owned_of_read ha hr
  exact ho

/-- A pod a pass is about to add a container to was stored without one, when it was listed. -/
theorem Honored.lacks {seen : List Pod} {listed : Pod} {c : EphemeralContainer}
    {next : (Call.addContainer listed c).Reply → Pass Next}
    (h : Honored space name uid seen (.call (.addContainer listed c) next)) :
    listed ∈ seen ∧ c.name = Job.containerName name uid ∧ listed.declared (Job.containerName name uid) = 0 := by
  obtain ⟨now, log, hg, ha⟩ := h
  cases due_of_call hg with
  | @addContainer _ read job id tool pods before rest entry credentials hc ht hplace hadded =>
    obtain ⟨rfl, ho⟩ := owned_of_works ha hc.toWorks
    have hmem : entry ∈ (planFor job pods (Job.containerName name id)).create :=
      hplace ▸ List.mem_append_right _ List.mem_cons_self
    obtain ⟨hpod, habsent⟩ := Plan.mem_create hmem
    -- the claim on the pod, if there is one, is on the job's own container
    have hname : Plan.sought job.reported.activePods (Job.containerName name id) entry.1 =
        Job.containerName name id := by
      unfold Plan.sought
      cases hv : job.reported.activePods.get? entry.1.name with
      | none => rfl
      | some v => exact ho _ _ hv
    rw [hname] at habsent
    refine ⟨?_, rfl, declared_eq_zero habsent⟩
    rcases hc.resolved with ⟨-, hnil⟩ | ⟨selector, compiled, listed, -, -, hl, hp⟩
    · rw [hnil] at hpod
      exact absurd hpod List.not_mem_nil
    · rw [hp] at hpod
      exact ha _ hl _ (List.mem_filter.1 hpod).1

/-! ### Steps -/

/-- A new state of a pod keeps the invariant if it declares one container of the name at most. -/
theorem Inv.see {p : Pod} {pods : List Pod} (h : Inv space name uid w) (hf : w.Fresh p)
    (ho : p.declared (Job.containerName name uid) ≤ 1) (hp : ∀ q ∈ pods, q ∈ w.pods ∨ q = p) :
    Inv space name uid { w with pods := pods, seen := p :: w.seen } := by
  constructor
  · exact h.owned
  · intro q hq
    rcases hp q hq with hq | rfl
    · exact List.mem_cons_of_mem _ (h.stored q hq)
    · exact List.mem_cons_self
  · intro q hq q' hq' he
    rcases List.mem_cons.1 hq with hqp | hqs
    · rcases List.mem_cons.1 hq' with hqp' | hqs'
      · rw [hqp, hqp']
      · rw [hqp] at he
        exact absurd he.symm (hf q' hqs')
    · rcases List.mem_cons.1 hq' with hqp' | hqs'
      · rw [hqp'] at he
        exact absurd he (hf q hqs)
      · exact h.apart q hqs q' hqs' he
  · intro q hq
    rcases List.mem_cons.1 hq with rfl | hq
    · exact ho
    · exact h.once q hq
  · exact fun q hq => (h.passes q hq).mono p

theorem owned_of_status {job next : Job} (hs : next.status = job.status) (h : job.Owned container) :
    next.Owned container := by
  intro k v hv
  rw [Job.reported, hs] at hv
  exact h k v hv

theorem Inv.setJob {job : Job} (h : Inv space name uid w) (hu : job.metadata.uid = some uid)
    (ho : job.Owned (Job.containerName name uid)) : Inv space name uid { w with job := some job } := by
  refine ⟨fun j hj => ?_, h.stored, h.apart, h.once, h.passes⟩
  rw [← Option.some.inj hj]
  exact ⟨hu, ho⟩

theorem Inv.setPasses {passes : List (Pass Next)} (h : Inv space name uid w)
    (hp : ∀ q ∈ passes, Honored space name uid w.seen q) : Inv space name uid { w with passes := passes } :=
  ⟨h.owned, h.stored, h.apart, h.once, hp⟩

/-- The pod a container is added to is, as it is stored, the one that was listed. -/
theorem Inv.listed {listed p : Pod} {c : EphemeralContainer}
    {next : (Call.addContainer listed c).Reply → Pass Next} (h : Inv space name uid w)
    (hq : Pass.call (.addContainer listed c) next ∈ w.passes) (hp : p ∈ w.pods)
    (hr : p.revision = listed.revision) : p = listed :=
  h.apart p (h.stored p hp) listed (h.passes _ hq).lacks.1 hr

/-- An answer keeps the invariant, is an honest one, and leaves the passes as they are. -/
theorem inv_answers {c : Call} {next : c.Reply → Pass Next} {r : c.Reply} {w' : World}
    (h : Inv space name uid w) (hq : Pass.call c next ∈ w.passes) (ha : Answers w c r w') :
    Inv space name uid w' ∧ Honest uid (Job.containerName name uid) w'.seen ⟨c, r⟩ ∧ w'.passes = w.passes := by
  cases ha with
  | failed f =>
    refine ⟨h, ?_, rfl⟩
    cases c <;> exact trivial
  | getJob s n =>
    refine ⟨h, ?_, rfl⟩
    cases hj : w.job with
    | none => trivial
    | some job => exact h.owned job hj
  | replaceStatus hj hu hs hr =>
    have ho := (h.passes _ hq).owned
    have hn := (h.owned _ hj).1
    rcases hr with rfl | ⟨f, rfl⟩
    · exact ⟨h.setJob (hu.trans hn) (owned_of_status hs ho), owned_of_status hs ho, rfl⟩
    · exact ⟨h.setJob (hu.trans hn) (owned_of_status hs ho), trivial, rfl⟩
  | listPods s q hl => exact ⟨h, fun p hp => h.stored p (hl p hp), rfl⟩
  | listJobs s r => exact ⟨h, trivial, rfl⟩
  | findTool t s r => exact ⟨h, trivial, rfl⟩
  | issueToken j l r => exact ⟨h, trivial, rfl⟩
  | @addContainer listed p new c before after r hp hr hf hc =>
    have hlacks := (h.passes _ hq).lacks
    have hone : new.declared (Job.containerName name uid) ≤ 1 := by
      unfold Pod.declared
      rw [hc]
      have hle := declared_addEphemeral_le (Job.containerName name uid) listed c
      rw [hlacks.2.2] at hle
      exact hle
    exact ⟨h.see hf hone fun q hq => mem_of_mem_replaced hp hq, trivial, rfl⟩

theorem inv_init (h : Initial name uid w) : Inv space name uid w := by
  obtain ⟨⟨job, hj, hu, hs⟩, hapart, hclean, hseen, hidle⟩ := h
  constructor
  · intro j hj'
    have hjob : job = j := Option.some.inj (hj.symm.trans hj')
    rw [← hjob]
    refine ⟨hu, fun k v hv => ?_⟩
    rw [Job.reported, hs] at hv
    exact absurd hv (by simp [Job.Status.initial])
  · intro p hp
    rw [hseen]
    exact hp
  · intro p hp q hq he
    rw [hseen] at hp hq
    exact eq_of_pairwise_ne hapart hp hq he
  · intro p hp
    rw [hseen] at hp
    rw [hclean p hp]
    exact Nat.zero_le 1
  · intro q hq
    rw [hidle] at hq
    exact absurd hq List.not_mem_nil

/-- **One step.**  Whoever takes it, the invariant is kept. -/
theorem inv_step {w' : World} (h : Inv space name uid w)
    (hs : Step space name (Job.containerName name uid) w w') : Inv space name uid w' := by
  cases hs with
  | start now =>
    refine h.setPasses fun q hq => ?_
    rcases List.mem_cons.1 hq with rfl | hq
    · exact ⟨now, [], .stay _, fun a ha => absurd ha List.not_mem_nil⟩
    · exact h.passes q hq
  | crash hp => exact h.setPasses fun q hq => h.passes q (mem_of_mem_removed hp hq)
  | @call c next before after r w' hp ha =>
    have hmem : Pass.call c next ∈ w.passes := hp ▸ List.mem_append_right _ List.mem_cons_self
    obtain ⟨hi, hr, hpasses⟩ := inv_answers h hmem ha
    refine hi.setPasses fun q hq => ?_
    rcases mem_of_mem_replaced hp hq with hq | rfl
    · exact hi.passes q (hpasses ▸ hq)
    · exact (hi.passes _ (hpasses ▸ hmem)).next hr
  | editJob hj hu hs =>
    obtain ⟨hn, ho⟩ := h.owned _ hj
    exact h.setJob (hu.trans hn) (owned_of_status hs ho)
  | deleteJob =>
    refine ⟨fun j hj => ?_, h.stored, h.apart, h.once, h.passes⟩
    cases hj
  | @changePod p next before after hp hf hd =>
    have hmem : p ∈ w.pods := hp ▸ List.mem_append_right _ List.mem_cons_self
    have hone : next.declared (Job.containerName name uid) ≤ 1 := by
      rw [hd]
      exact h.once p (h.stored p hmem)
    exact h.see hf hone fun q hq => mem_of_mem_replaced hp hq
  | @createPod p hf hd =>
    have hone : p.declared (Job.containerName name uid) ≤ 1 := by
      rw [hd]
      exact Nat.zero_le 1
    exact h.see hf hone fun q hq => (List.mem_cons.1 hq).symm
  | deletePod hp =>
    exact ⟨h.owned, fun p hm => h.stored p (mem_of_mem_removed hp hm), h.apart, h.once, h.passes⟩

theorem inv_reachable (h : Reachable space name uid w) : Inv space name uid w := by
  induction h with
  | init hi => exact inv_init hi
  | step _ hs ih => exact inv_step ih hs

/-- Whatever passes over a job come about, and whatever happens between their calls, no stored pod declares more than
one container of the job; and a pass adds its container only to a pod that declares none, be it one that ended. -/
theorem at_most_one_container (h : Reachable space name uid w) :
    (∀ p ∈ w.pods, p.declared (Job.containerName name uid) ≤ 1) ∧
    ∀ listed c next w' r, Pass.call (.addContainer listed c) next ∈ w.passes →
      Answers w (.addContainer listed c) r w' →
      w'.pods = w.pods ∨ ∃ before p added after, w.pods = before ++ p :: after ∧
        w'.pods = before ++ added :: after ∧ p.declared (Job.containerName name uid) = 0 ∧
        added.ephemeralContainers = (p.addEphemeral c).ephemeralContainers ∧
        c.name = Job.containerName name uid := by
  have hi := inv_reachable h
  refine ⟨fun p hp => hi.once p (hi.stored p hp), fun listed c next w' r hq ha => ?_⟩
  cases ha with
  | failed f => exact .inl rfl
  | @addContainer _ p new _ before after _ hp hr hf hc =>
    have hmem : p ∈ w.pods := hp ▸ List.mem_append_right _ List.mem_cons_self
    obtain ⟨-, hname, hzero⟩ := (hi.passes _ hq).lacks
    obtain rfl : p = listed := hi.listed hq hmem hr
    exact .inr ⟨before, p, new, after, hp, rfl, hzero, hc, hname⟩

end

/-! ## A world to look at -/

/-- The sample job before any pass over it. -/
def unseenJob : Job :=
  ⟨Sample.job.metadata, Sample.job.spec, none⟩

/-- The unseen job among its pods, before any pass. -/
def unseenWorld : World :=
  ⟨some unseenJob, [Sample.pod], [Sample.pod], []⟩

/-- The container a pass over the unseen job adds. -/
def firstContainer : EphemeralContainer :=
  Attachment.container (setUp Sample.now unseenJob) Sample.tool.spec Sample.pod (Job.containerName "trace" "7f9c") none

/-- The sample pod with that container, in its next revision. -/
def servedPod : Pod :=
  { Sample.pod.addEphemeral firstContainer with
    metadata := { Sample.pod.metadata with resourceVersion := some "2" } }

theorem initial_unseenWorld : Initial "trace" "7f9c" unseenWorld := by
  refine ⟨⟨_, rfl, rfl, rfl⟩, List.pairwise_singleton _ _, fun p hp => ?_, rfl, rfl⟩
  rw [List.mem_singleton.1 hp]
  rfl

/-- A call of the only pass under way is answered. -/
theorem Reachable.answer {space name uid : String} {w w' : World} {c : Call} {next : c.Reply → Pass Next}
    {r : c.Reply} (h : Reachable space name uid { w with passes := [.call c next] })
    (ha : Answers { w with passes := [.call c next] } c r w') :
    Reachable space name uid { w' with passes := [next r] } :=
  h.step (.call (show _ = [] ++ Pass.call c next :: [] from rfl) ha)

theorem reachable_served : ∃ w, Reachable "shop" "trace" "7f9c" w ∧ w.pods = [servedPod] := by
  have h0 : Reachable "shop" "trace" "7f9c" unseenWorld := .init initial_unseenWorld
  have h1 := h0.step (.start Sample.now)
  have h2 := Reachable.answer (c := .getJob "shop" "trace") h1 (.getJob _ _)
  have h3 := Reachable.answer (c := .replaceStatus (setUp Sample.now unseenJob)) h2
    (@Answers.replaceStatus _ unseenJob (setUp Sample.now unseenJob) _ _ rfl rfl rfl (.inl rfl))
  have h4 := Reachable.answer (c := .findTool "perf" "shop") h3 (.findTool _ _ (.ok (some Sample.tool)))
  have h5 := Reachable.answer (c := .listPods "shop" "") (r := Except.ok [Sample.pod]) h4
    (.listPods _ _ fun p hp => hp)
  have h6 := Reachable.answer (c := .listJobs "shop") h5 (.listJobs _ (.ok []))
  have fresh : unseenWorld.Fresh servedPod := by
    intro q hq
    rw [List.mem_singleton.1 hq]
    decide
  have h7 := Reachable.answer (c := .addContainer Sample.pod firstContainer) h6
    (.addContainer (.ok ()) (show _ = [] ++ Sample.pod :: [] from rfl) rfl fresh rfl)
  exact ⟨_, h7, rfl⟩

/-- A world in which the job has its container in the pod comes about, and no second one there. -/
theorem served_once : ∃ w, Reachable "shop" "trace" "7f9c" w ∧ w.pods = [servedPod] ∧
    servedPod.declared (Job.containerName "trace" "7f9c") = 1 ∧
    ∀ p ∈ w.pods, p.declared (Job.containerName "trace" "7f9c") ≤ 1 := by
  obtain ⟨w, hw, hp⟩ := reachable_served
  refine ⟨w, hw, hp, ?_, (at_most_one_container hw).1⟩
  decide

end Replicas

end ProfilingOperator
