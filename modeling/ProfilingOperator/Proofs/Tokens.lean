import Mathlib.Algebra.Group.Int.Defs
import ProfilingOperator.Client.Calls
import ProfilingOperator.Http.Script
import ProfilingOperator.Proofs.Retrying

/-!
# Tokens and the windows they are for

A token is to live for the profiling window and a minute more.  Two things come in between.  A request carries whole
seconds in 64 bits with sign, so a window beyond ten minutes that has a fraction of a second is cut short by it, and one
of `2 ^ 63` seconds or so asks for less than nothing.  And a window within a minute of the longest duration has no
lifetime at all, which stops the pass short before its first container.

    requested_covers_iff : a request covers its window exactly if nothing is cut off and nothing wraps around
    stops_short_iff : a pass stops short exactly if it comes to a pod with such a window
-/

namespace ProfilingOperator

namespace Tokens

open Pass

/-! ## Lifetimes and requests -/

/-- The seconds that a request for a token asks for. -/
def expiry? (r : Http.Request) : Option Int :=
  match r.body.bind fun b => (b.member? "spec").bind (·.member? "expirationSeconds") with
  | some (.num (.whole n)) => some n
  | _ => none

/-- A number of seconds is ten minutes at least, and outlives a window by a minute. -/
structure Covers (window : Duration) (n : Int) : Prop where
  shortest : 600 ≤ n
  outlives : (window.nanoseconds : Int) + 60 * 10 ^ 9 ≤ n * 10 ^ 9

/-- The requests that are made when a token is issued over a link to a server that follows a script. -/
def requests (settings : Settings) (job : String) (lifetime : Duration) (moves : List Http.Script.Move) :
    List Http.Request :=
  (Client.issueToken Http.Script.link settings job lifetime (.start moves)).2.requests

/-- Results go to a collector, and the window and a minute more are no duration. -/
structure Overlong (job : Job) : Prop where
  mode : job.spec.output.mode = .collector
  output : job.spec.output.collector.isSome = true
  window : ∃ window, Duration.parse job.spec.tool.duration = .ok window ∧ 2 ^ 64 ≤ window.seconds + 60

/-! ## Lemmas -/

section
variable {settings : Settings} {name : String} {window lifetime : Duration} {moves : List Http.Script.Move}
  {request : Http.Request}

theorem nanoseconds_longer (a b : Duration) : (a.longer b).nanoseconds = max a.nanoseconds b.nanoseconds := by
  unfold Duration.longer
  split <;> omega

theorem nanoseconds_eq (d : Duration) : d.nanoseconds = d.seconds * 10 ^ 9 + d.subsecond := by
  unfold Duration.seconds Duration.subsecond Duration.perSecond
  omega

theorem seconds_lt (d : Duration) : d.seconds < 2 ^ 64 := by
  have hbound : d.nanoseconds < 2 ^ 64 * 10 ^ 9 := d.bounded
  unfold Duration.seconds Duration.perSecond
  omega

theorem nanoseconds_lifetime (h : Token.lifetime? window = some lifetime) :
    lifetime.nanoseconds = max (window.nanoseconds + 60 * 10 ^ 9) (600 * 10 ^ 9) := by
  obtain ⟨sum, hsum, rfl⟩ := Option.map_eq_some_iff.1 h
  have hnanos : sum.nanoseconds = 60 * 10 ^ 9 + window.nanoseconds := Duration.ofNanoseconds?_eq_some_iff.1 hsum
  rw [nanoseconds_longer, hnanos, Nat.add_comm]
  rfl

/-- A lifetime has the seconds of its window and sixty more, but six hundred at least. -/
theorem seconds_lifetime (h : Token.lifetime? window = some lifetime) :
    lifetime.seconds = max (window.seconds + 60) 600 := by
  unfold Duration.seconds Duration.perSecond
  rw [nanoseconds_lifetime h]
  omega

theorem lifetime?_eq_none_iff_seconds : Token.lifetime? window = none ↔ 2 ^ 64 ≤ window.seconds + 60 := by
  have hbuffer : Token.buffer.nanoseconds = 60 * 10 ^ 9 := rfl
  rw [Token.lifetime?_eq_none_iff, hbuffer]
  unfold Duration.limit Duration.seconds Duration.perSecond UInt64.size
  omega

/-- Seconds that fit 63 bits are asked for as they are, and others come out below zero. -/
theorem requestedSeconds_eq (lifetime : Duration) :
    Token.requestedSeconds lifetime =
      if lifetime.seconds < 2 ^ 63 then (lifetime.seconds : Int) else lifetime.seconds - 2 ^ 64 := by
  have hbound := seconds_lt lifetime
  unfold Token.requestedSeconds UInt64.size
  rw [Int.bmod_def]
  split
  · split
    · omega
    · omega
  · split
    · omega
    · omega

/-- The seconds asked for cover a window exactly if they fit 63 bits and lose no fraction above nine minutes. -/
theorem covers_lifetime_iff (h : Token.lifetime? window = some lifetime) :
    Covers window (Token.requestedSeconds lifetime) ↔
      window.seconds + 60 < 2 ^ 63 ∧ (window.subsecond = 0 ∨ window.nanoseconds ≤ 540 * 10 ^ 9) := by
  have hseconds := seconds_lifetime h
  have hsplit := nanoseconds_eq window
  have hsub : window.subsecond < 10 ^ 9 := Nat.mod_lt _ (by decide)
  rw [requestedSeconds_eq]
  constructor
  · rintro ⟨hshortest, houtlives⟩
    split at hshortest
    · next hfits =>
      rw [if_pos hfits] at houtlives
      omega
    · omega
  · rintro ⟨hfits, hwhole⟩
    rw [if_pos (by omega)]
    constructor
    · omega
    · omega

/-! ### What is sent -/

/-- What is done with an answer sends nothing more. -/
theorem snd_bind_issued {σ : Type} (w : Client.Work σ (Option String)) (name : String) (s : σ) :
    ((w >>= fun token => ExceptT.mk (pure (Client.issued name token)) : Client.Work σ String) s).2 = (w s).2 := by
  show (StateT.bind w (ExceptT.bindCont _) s).2 = _
  unfold StateT.bind
  rcases w s with ⟨r, t⟩
  cases r <;> rfl

/-- The request for a token is made if it can be, and no other. -/
theorem requests_eq :
    requests settings name lifetime moves = (Client.tokenRequest settings lifetime).toOption.toList := by
  unfold requests Client.issueToken
  rw [snd_bind_issued]
  cases Client.tokenRequest settings lifetime with
  | error f => rfl
  | ok r =>
    have hlog : (Http.Script.link r (.start moves)).2.log = [r] := Http.Script.log_link r _
    show (Http.Script.link r (.start moves)).2.log.reverse = [r]
    rw [hlog]
    rfl

theorem body_of_createPartRequest {c : Client.Collection} {item part : String} {body : Json}
    (h : Client.createPartRequest c item part body = .ok request) : request.body = some body := by
  unfold Client.createPartRequest at h
  cases hitem : c.item item (some part) with
  | error f =>
    rw [hitem] at h
    cases h
  | ok path =>
    rw [hitem] at h
    cases htarget : Client.target (Client.withParameters path []) with
    | error f =>
      simp only [Bind.bind, Except.bind, htarget] at h
      cases h
    | ok goal =>
      simp only [Bind.bind, Except.bind, htarget] at h
      cases h
      rfl

theorem expiry?_of_mem (h : request ∈ requests settings name lifetime moves) :
    expiry? request = some (Token.requestedSeconds lifetime) := by
  rw [requests_eq, Option.mem_toList] at h
  have hrequest : Client.tokenRequest settings lifetime = .ok request := by
    cases hr : Client.tokenRequest settings lifetime with
    | error f =>
      rw [hr] at h
      cases h
    | ok r =>
      rw [hr] at h
      exact congrArg Except.ok (Option.some.inj h)
  unfold expiry?
  rw [body_of_createPartRequest hrequest, Option.bind_some, Client.tokenDocument_seconds]

end

/-- The request that is made for a window asks for its lifetime in seconds.  That covers the window exactly if the
seconds fit 63 bits and no fraction of a second is cut off, as is the case with whole seconds and with what is raised to
ten minutes.  What is cut off is less than a second, but seconds beyond 63 bits come out below zero. -/
theorem requested_covers_iff {settings : Settings} {job : String} {window lifetime : Duration}
    {moves : List Http.Script.Move} {request : Http.Request} (hlife : Token.lifetime? window = some lifetime)
    (hsent : request ∈ requests settings job lifetime moves) :
    ∃ n, expiry? request = some n ∧
      (Covers window n ↔
        window.seconds + 60 < 2 ^ 63 ∧ (window.subsecond = 0 ∨ window.nanoseconds ≤ 540 * 10 ^ 9)) ∧
      (window.seconds + 60 < 2 ^ 63 → 600 ≤ n ∧ (window.nanoseconds : Int) + 59 * 10 ^ 9 < n * 10 ^ 9) ∧
      (2 ^ 63 ≤ window.seconds + 60 → n < 0) := by
  refine ⟨_, expiry?_of_mem hsent, covers_lifetime_iff hlife, fun hfits => ?_, fun hwraps => ?_⟩
  · have hseconds := seconds_lifetime hlife
    have hsplit := nanoseconds_eq window
    have hsub : window.subsecond < 10 ^ 9 := Nat.mod_lt _ (by decide)
    rw [requestedSeconds_eq, if_pos (by omega)]
    omega
  · have hseconds := seconds_lifetime hlife
    have hbound := seconds_lt lifetime
    rw [requestedSeconds_eq, if_neg (by omega)]
    omega

/-! ### An hour, and a window with half a second -/

def hour : Duration := .ofSeconds 3600 (by decide)

/-- Ten minutes and half a second. -/
def halved : Duration := ⟨600500000000, by decide⟩

theorem exists_request (lifetime : Duration) : ∃ request, request ∈ requests .usual "trace" lifetime [] := by
  rw [requests_eq]
  exact ⟨_, List.mem_cons_self⟩

/-- The token asked for a window of an hour covers it. -/
theorem hour_is_covered : ∃ lifetime request n, Token.lifetime? hour = some lifetime ∧
    request ∈ requests .usual "trace" lifetime [] ∧ expiry? request = some n ∧ Covers hour n := by
  have hlife : Token.lifetime? hour = some (.ofSeconds 3660 (by decide)) := by decide
  obtain ⟨request, hsent⟩ := exists_request (.ofSeconds 3660 (by decide))
  obtain ⟨n, hn, hcovers, -⟩ := requested_covers_iff hlife hsent
  exact ⟨_, request, n, hlife, hsent, hn, hcovers.2 ⟨by decide, .inl (by decide)⟩⟩

/-- The token for ten minutes and half a second is asked for without the half. -/
theorem half_a_second_is_cut_off : ∃ lifetime request, Token.lifetime? halved = some lifetime ∧
    request ∈ requests .usual "trace" lifetime [] ∧ expiry? request = some 660 ∧ ¬ Covers halved 660 := by
  have hlife : Token.lifetime? halved = some ⟨660500000000, by decide⟩ := rfl
  have hasked : Token.requestedSeconds ⟨660500000000, by decide⟩ = 660 := by decide +kernel
  obtain ⟨request, hsent⟩ := exists_request ⟨660500000000, by decide⟩
  refine ⟨_, request, hlife, hsent, (expiry?_of_mem hsent).trans (congrArg some hasked), fun hcovers => ?_⟩
  have houtlives : (600500000000 : Int) + 60 * 10 ^ 9 ≤ 660 * 10 ^ 9 := hcovers.outlives
  omega

/-! ## Passes that stop short -/

section
variable {now : Stamp} {space name uid container m : String} {log : List Answered} {job : Job} {tool : Tool.Spec}
  {pods : List Pod}

theorem overlong_iff : Overlong job ↔ job.spec.output.collector.isSome = true ∧ Untokened job := by
  constructor
  · rintro ⟨hmode, houtput, window, hwindow, hlong⟩
    exact ⟨houtput, hmode, window, hwindow, lifetime?_eq_none_iff_seconds.2 hlong⟩
  · rintro ⟨houtput, hmode, window, hwindow, hlife⟩
    exact ⟨hmode, houtput, window, hwindow, lifetime?_eq_none_iff_seconds.1 hlife⟩

theorem collector_eq_crash_iff_overlong :
    collector job name = .crash m ↔ m = Token.overflowMessage ∧ Overlong job := by
  rw [Retrying.collector_eq_crash_iff, overlong_iff]

/-- The credentials of a job stop short, if at all, before anything is asked for. -/
theorem ends_collector_crashed_iff :
    (collector job name).Ends log (.crashed m) ↔ log = [] ∧ m = Token.overflowMessage ∧ Overlong job := by
  constructor
  · intro h
    have hcrash := Retrying.ends_collector_crashed h
    rw [hcrash] at h
    exact ⟨(ends_crash.1 h).1, collector_eq_crash_iff_overlong.1 hcrash⟩
  · rintro ⟨rfl, hlong⟩
    rw [collector_eq_crash_iff_overlong.2 hlong]
    exact ends_crash.2 ⟨rfl, rfl⟩

theorem ends_inject_crashed_iff {pod : Pod} :
    (inject job tool container pod).Ends log (.crashed m) ↔ log = [] ∧ m = Token.overflowMessage ∧ Overlong job := by
  constructor
  · intro h
    have hcrash := Retrying.collector_of_inject h
    unfold inject at h
    rw [hcrash] at h
    exact ⟨(ends_crash.1 h).1, collector_eq_crash_iff_overlong.1 hcrash⟩
  · rintro ⟨rfl, hlong⟩
    unfold inject
    rw [collector_eq_crash_iff_overlong.2 hlong]
    exact ends_crash.2 ⟨rfl, rfl⟩

/-- Pods with an overlong window are not tried one after the other: the first of them stops the pass short. -/
theorem ends_injectAll_crashed_iff {entries : List (Pod × Nat)} {active : StringMap String} {trouble : Option String} :
    (injectAll job tool container entries active trouble).Ends log (.crashed m) ↔
      log = [] ∧ m = Token.overflowMessage ∧ Overlong job ∧ entries ≠ [] := by
  cases entries with
  | nil => simp [injectAll, ends_done]
  | cons entry entries =>
    constructor
    · intro h
      obtain ⟨-, pod, trial, htrial⟩ := ends_injectAll_crashed h
      obtain ⟨-, rfl, hlong⟩ := ends_inject_crashed_iff.1 htrial
      -- a trial that comes to an end has its credentials, which this job cannot be given
      rcases ends_attempt_bind.1 h with ⟨r, first, rest, -, hinject, -⟩ | ⟨m', -, hinject⟩
      · exact absurd (collector_eq_crash_iff_overlong.2 ⟨rfl, hlong⟩) (Retrying.collector_ne_of_ends hinject)
      · exact ⟨(ends_inject_crashed_iff.1 hinject).1, rfl, hlong, List.cons_ne_nil _ _⟩
    · rintro ⟨rfl, rfl, hlong, -⟩
      exact ends_attempt_bind.2 (.inr ⟨_, rfl, ends_inject_crashed_iff.2 ⟨rfl, rfl, hlong⟩⟩)

/-- Pods are managed up to a crash exactly if the duration is overlong and there is a pod to try. -/
theorem ends_manage_crashed_iff :
    (manage now job tool pods container (selected job pods)).Ends log (.crashed m) ↔
      log = [] ∧ m = Token.overflowMessage ∧ Overlong job ∧ attempted job pods container ≠ [] := by
  rw [manage_eq]
  constructor
  · intro h
    rcases ends_bind.1 h with ⟨out, first, rest, -, -, hconclude⟩ | ⟨f, hf, -⟩ | ⟨m', hm, hinject⟩
    · cases ends_conclude hconclude
    · cases hf
    · cases hm
      exact ends_injectAll_crashed_iff.1 hinject
  · intro h
    exact ends_bind.2 (.inr (.inr ⟨m, rfl, ends_injectAll_crashed_iff.2 h⟩))

end

/-- The credentials of a job, and with them a pass over it, end with a value or a failure, unless results go to a
collector and the window is within a minute of the longest duration.  Then the credentials stop short, and so does every
pass that comes to a pod to be tried, before its first container. -/
theorem stops_short_iff (now : Stamp) (space name m : String) (log : List Answered) :
    (∀ job : Job, (collector job name).Ends log (.crashed m) ↔
      log = [] ∧ m = Token.overflowMessage ∧ Overlong job) ∧
    ((reconcile now space name).Ends log (.crashed m) ↔
      m = Token.overflowMessage ∧ ∃ before check read uid job tool pods, log = before ++ check ∧
        Resolution now space name before read uid job tool pods ∧
        (conflict? job space pods).Ends check (.done none) ∧
        attempted job pods (Job.containerName name uid) ≠ [] ∧ Overlong job) := by
  refine ⟨fun job => ends_collector_crashed_iff, fun h => ?_, ?_⟩
  · cases exit_of_ends h with
    | @cutShort before check rest read job uid tool pods m hr hcheck hmanage =>
      obtain ⟨rfl, hm, hlong, hsome⟩ := ends_manage_crashed_iff.1 hmanage
      exact ⟨hm, before, check, read, uid, job, tool, pods, by rw [List.append_nil], hr, hcheck, hsome, hlong⟩
    | madeWay _ _ hway => cases hway
    | managed _ _ _ _ hcloses => cases hcloses
  · rintro ⟨rfl, before, check, read, uid, job, tool, pods, rfl, hr, hcheck, hsome, hlong⟩
    have hmanage : (manage now job tool pods (Job.containerName name uid) (selected job pods)).Ends []
        (.crashed Token.overflowMessage) := ends_manage_crashed_iff.2 ⟨rfl, rfl, hlong, hsome⟩
    have hserve : (serve now space name uid job tool pods).Ends (check ++ []) (.crashed Token.overflowMessage) :=
      ends_bind.2 (.inl ⟨none, check, [], rfl, hcheck, hmanage⟩)
    rw [List.append_nil] at hserve
    exact hr.goes.trans hserve

/-! ### A job with the longest window there is -/

/-- The sample job with results for a collector and a window of `2 ^ 64 - 1` seconds. -/
def patient : Job :=
  { Sample.job with
    spec := { Sample.job.spec with
      tool := { Sample.job.spec.tool with duration := "18446744073709551615s" }
      output := { Sample.job.spec.output with mode := .collector, collector := some ⟨"https://collector:8443"⟩ } } }

/-- A pass over this job stops short, with nothing failing in the cluster. -/
theorem patient_stops_short :
    ((reconcile Sample.now "shop" "trace").run Session.answer
      (.start ⟨[patient], [Sample.pod], [Sample.tool], "ops", false⟩ [])).1 = .crashed Token.overflowMessage := by
  rfl

end Tokens

end ProfilingOperator
