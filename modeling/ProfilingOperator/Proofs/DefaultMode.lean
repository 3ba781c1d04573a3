import ProfilingOperator.CommandLine.Invocation
import ProfilingOperator.Proofs.First

/-!
# The mode without a command

A command line without a command runs the controllers, as the `controller` command does.  Their settings are read
behind the command only: there the environment is looked into, and without a command it is not.  So the two come to
the same where the environment names no setting, or names the usual one.

    scan_append : words behind a level that was read to its end go on from there, unless `--` has ended it
    exists_resolveAll_iff, lookup_resolveAll : the parameters of a level are resolved one by one
    parse_append_controller : what the command makes of a command line without one
    default_mode_iff : when it is followed, and when it has the same settings
-/

namespace ProfilingOperator.CommandLine

/-! ## Settings from the environment -/

/-- The variables the settings of the controllers are taken from, with their usual values. -/
def settingVariables : List (String × String) :=
  [("POWERTOOL_SYSTEM_NAMESPACE", Settings.usual.system),
    ("POWERTOOL_COLLECTOR_SERVICE_ACCOUNT", Settings.usual.account),
    ("POWERTOOL_COLLECTOR_AUDIENCE", Settings.usual.audience)]

/-- The value of a variable, or else the usual one. -/
def Env.valueOf (env : Env) (variableName usual : String) : String :=
  (env.lookup variableName).getD usual

/-- What the `controller` command makes of an environment when nothing is said behind it. -/
def Arguments.ofEnv (env : Env) : Arguments :=
  ⟨⟨env.valueOf "POWERTOOL_SYSTEM_NAMESPACE" Settings.usual.system,
    env.valueOf "POWERTOOL_COLLECTOR_SERVICE_ACCOUNT" Settings.usual.account,
    env.valueOf "POWERTOOL_COLLECTOR_AUDIENCE" Settings.usual.audience⟩, false⟩

/-- The environment leaves every setting of the controllers as it usually is. -/
def Env.Usual (env : Env) : Prop :=
  ∀ setting ∈ settingVariables, ∀ v, env.lookup setting.1 = some v → v = setting.2

/-- The environment has no value that a parameter refuses. -/
structure Env.Accepted (env : Env) : Prop where
  kubeconfig : env.lookup "KUBECONFIG" ≠ some ""
  format : ∀ v, env.lookup "POWERTOOL_LOG_FORMAT" = some v → Log.Format.ofWord? v ≠ none

/-! ## One word -/

/-- What a word that neither ends its level nor starts a command makes of a scan. -/
def Level.after (g : Level) (s : Scan) (w : String) : Except Fault Scan :=
  match Word.ofText w with
  | .rest => .ok s
  | .long name attached => g.long s name attached
  | .letters cs => g.letters s cs
  | .plain => if s.awaits then .ok (s.fill w) else .error (g.stray false w)

/-! ## Lemmas -/

section
variable {g : Level} {env : Env} {s t : Scan} {words : List String} {w : String}

/-! ### Reading on -/

theorem bind_eq_ok_iff {ε α β : Type} {x : Except ε α} {f : α → Except ε β} {b : β} :
    x >>= f = .ok b ↔ ∃ a, x = .ok a ∧ f a = .ok b := by
  cases x with
  | error e => simp [bind, Except.bind]
  | ok a => simp [bind, Except.bind]

theorem ofText_eq_rest_iff : Word.ofText w = .rest ↔ w = "--" := by
  constructor
  · intro h
    unfold Word.ofText at h
    split at h
    · next hchars => exact String.toList_injective hchars
    · dsimp only at h
      split at h <;> cases h
    · cases h
    · cases h
  · rintro rfl
    rfl

theorem scan_rest {more : List String} (hcommand : (!s.awaits && g.commands.contains "--") = false) :
    g.scan ("--" :: more) s = match more with | [] => .ok (s, none) | x :: _ => .error (g.stray true x) := by
  rw [Level.scan.eq_def]
  refine if_neg fun htrue => ?_
  rw [hcommand] at htrue
  cases htrue

theorem scan_word {more : List String} (hcommand : (!s.awaits && g.commands.contains w) = false) (hw : w ≠ "--") :
    g.scan (w :: more) s = (g.after s w).bind (g.scan more) := by
  rw [Level.scan.eq_def]
  simp only [hcommand, Bool.false_eq_true, if_false]
  unfold Level.after
  cases hword : Word.ofText w with
  | rest => exact absurd (ofText_eq_rest_iff.1 hword) hw
  | long name attached => rfl
  | letters cs => rfl
  | plain =>
    dsimp only
    split <;> rfl

/-- Words behind a level that was read to its end go on from there, unless `--` has ended it. -/
theorem scan_append (h : g.scan words s = .ok (t, none)) (w : String) (more : List String) :
    g.scan (words ++ w :: more) s =
      if words.getLast? = some "--" then .error (g.stray true w) else g.scan (w :: more) t := by
  induction words generalizing s with
  | nil =>
    obtain ⟨rfl, -⟩ := Prod.mk.inj (Except.ok.inj h)
    rfl
  | cons v words ih =>
    cases hcommand : !s.awaits && g.commands.contains v with
    | true =>
      rw [Level.scan.eq_def] at h
      simp only [hcommand, if_true] at h
      cases h
    | false =>
      rw [List.cons_append]
      by_cases hv : v = "--"
      · subst hv
        rw [scan_rest hcommand] at h ⊢
        cases words with
        | nil => rfl
        | cons x xs => cases h
      · rw [scan_word hcommand hv] at h ⊢
        cases hafter : g.after s v with
        | error f =>
          rw [hafter] at h
          cases h
        | ok u =>
          rw [hafter] at h
          have hlast : (v :: words).getLast? = some "--" ↔ words.getLast? = some "--" := by
            cases words with
            | nil => simpa using hv
            | cons x xs => rw [List.getLast?_cons_cons]
          simp only [hlast]
          exact ih h

/-- What can be settled does not wait for a value. -/
theorem awaits_of_settle (h : s.settle = .ok t) : s.awaits = false := by
  unfold Scan.settle at h
  unfold Scan.awaits
  split at h
  · next hpending => rw [hpending]
  · cases h
  · next hpending => rw [hpending]

/-! ### Values -/

theorem resolveAll_cons_eq_ok_iff {p : Parameter} {ps : List Parameter} {vs : Values} :
    resolveAll env s (p :: ps) = .ok vs ↔ ∃ v rest, p.resolve env s = .ok v ∧ resolveAll env s ps = .ok rest ∧
      vs = match v with | some v => (p.name, v) :: rest | none => rest := by
  rw [resolveAll, bind_eq_ok_iff]
  simp only [bind_eq_ok_iff]
  constructor
  · rintro ⟨v, hv, rest, hrest, h⟩
    exact ⟨v, rest, hv, hrest, (Except.ok.inj h).symm⟩
  · rintro ⟨v, rest, hv, hrest, rfl⟩
    exact ⟨v, hv, rest, hrest, rfl⟩

/-- The parameters of a level have values if each of them has. -/
theorem exists_resolveAll_iff {ps : List Parameter} :
    (∃ vs, resolveAll env s ps = .ok vs) ↔ ∀ p ∈ ps, ∃ v, p.resolve env s = .ok v := by
  induction ps with
  | nil => simp [resolveAll]
  | cons p ps ih =>
    rw [List.forall_mem_cons, ← ih]
    simp only [resolveAll_cons_eq_ok_iff]
    constructor
    · rintro ⟨vs, v, rest, hp, hps, -⟩
      exact ⟨⟨v, hp⟩, ⟨rest, hps⟩⟩
    · rintro ⟨⟨v, hp⟩, ⟨rest, hps⟩⟩
      exact ⟨_, v, rest, hp, hps, rfl⟩

/-- No value goes by a name that is none of the parameters'. -/
theorem lookup_resolveAll_of_notMem {ps : List Parameter} {vs : Values} {name : String}
    (h : resolveAll env s ps = .ok vs) (hname : name ∉ ps.map (·.name)) : vs.lookup name = none := by
  induction ps generalizing vs with
  | nil =>
    obtain rfl := Except.ok.inj h
    rfl
  | cons p ps ih =>
    obtain ⟨v, rest, -, hps, rfl⟩ := resolveAll_cons_eq_ok_iff.1 h
    have hrest : name ∉ ps.map (·.name) := fun hmem => hname (List.mem_cons_of_mem _ hmem)
    cases v with
    | none => exact ih hps hrest
    | some v =>
      have hne : name ≠ p.name := fun heq => hname (heq ▸ List.mem_cons_self)
      rw [lookup_cons_of_ne hne]
      exact ih hps hrest

/-- Of parameters of different names each has the value that it resolves to. -/
theorem lookup_resolveAll {ps : List Parameter} {vs : Values} {p : Parameter} (h : resolveAll env s ps = .ok vs)
    (hnames : (ps.map (·.name)).Nodup) (hp : p ∈ ps) : p.resolve env s = .ok (vs.lookup p.name) := by
  induction ps generalizing vs with
  | nil => cases hp
  | cons q ps ih =>
    obtain ⟨v, rest, hq, hps, rfl⟩ := resolveAll_cons_eq_ok_iff.1 h
    obtain ⟨hother, hdistinct⟩ : q.name ∉ ps.map (·.name) ∧ (ps.map (·.name)).Nodup := List.nodup_cons.1 hnames
    rcases List.mem_cons.1 hp with rfl | hp
    · cases v with
      | none => rw [hq, lookup_resolveAll_of_notMem hps hother]
      | some v => rw [hq, List.lookup_cons_self]
    · have hmem : p.name ∈ ps.map (·.name) := List.mem_map_of_mem hp
      have hne : p.name ≠ q.name := fun heq => hother (heq ▸ hmem)
      rw [ih hps hdistinct hp]
      cases v with
      | none => rfl
      | some v => rw [lookup_cons_of_ne hne]

/-! ### Behind the command -/

/-- A parameter that was not given has the value of its variable, if that is not refused, or else its usual one. -/
theorem resolve_start (p : Parameter) (env : Env) :
    p.resolve env .start =
      match p.env.bind fun name => env.lookup name with
      | some v =>
        match p.refuses v with
        | some f => .error f
        | none => .ok (some ⟨.env, v⟩)
      | none => .ok (p.usual.map fun v => ⟨.usual, v⟩) := rfl

theorem resolve_setting (name variableName usual : String) (env : Env) :
    ∃ v : Value, (setting name variableName usual).resolve env .start = .ok (some v) ∧
      v.text = env.valueOf variableName usual := by
  rw [resolve_start]
  unfold Env.valueOf
  cases hv : env.lookup variableName with
  | none => exact ⟨⟨.usual, usual⟩, by simp [setting, hv], rfl⟩
  | some v => exact ⟨⟨.env, v⟩, by simp [setting, hv, anyText], rfl⟩

theorem exists_resolve_kubeconfig_iff :
    (∃ v, kubeconfigParameter.resolve env .start = .ok v) ↔ env.lookup "KUBECONFIG" ≠ some "" := by
  rw [resolve_start]
  cases hv : env.lookup "KUBECONFIG" with
  | none => simp [kubeconfigParameter, hv]
  | some v => by_cases hempty : v = "" <;> simp [kubeconfigParameter, hv, refusesPath, hempty]

theorem exists_resolve_format_iff :
    (∃ v, formatParameter.resolve env .start = .ok v) ↔
      ∀ v, env.lookup "POWERTOOL_LOG_FORMAT" = some v → Log.Format.ofWord? v ≠ none := by
  rw [resolve_start]
  cases hv : env.lookup "POWERTOOL_LOG_FORMAT" with
  | none => simp [formatParameter, hv]
  | some v => by_cases hunknown : Log.Format.ofWord? v = none <;> simp [formatParameter, hv, refusesFormat, hunknown]

/-- What is read behind the command when nothing is said there. -/
theorem exists_values_iff : (∃ vs, inner.values env .start = .ok vs) ↔ env.Accepted := by
  have hvalues : inner.values env .start = resolveAll env .start inner.parameters := rfl
  rw [hvalues, exists_resolveAll_iff]
  constructor
  · intro h
    exact ⟨exists_resolve_kubeconfig_iff.1 (h _ (by simp [inner])), exists_resolve_format_iff.1 (h _ (by simp [inner]))⟩
  · intro h p hp
    have hsetting : ∀ name variableName usual, ∃ v, (setting name variableName usual).resolve env .start = .ok v := by
      intro name variableName usual
      obtain ⟨v, hv, -⟩ := resolve_setting name variableName usual env
      exact ⟨some v, hv⟩
    simp only [inner, List.mem_cons, List.not_mem_nil, or_false] at hp
    rcases hp with rfl | rfl | rfl | rfl | rfl | rfl | rfl
    · exact hsetting _ _ _
    · exact hsetting _ _ _
    · exact hsetting _ _ _
    · exact ⟨none, rfl⟩
    · exact exists_resolve_kubeconfig_iff.2 h.kubeconfig
    · exact exists_resolve_format_iff.2 h.format
    · exact ⟨none, rfl⟩

theorem argumentsOf_values {vs : Values} (h : inner.values env .start = .ok vs) : argumentsOf vs = .ofEnv env := by
  have hresolved : ∀ p ∈ inner.parameters, p.resolve env .start = .ok (vs.lookup p.name) :=
    fun p hp => lookup_resolveAll h (by decide) hp
  have htext : ∀ name variableName usual, setting name variableName usual ∈ inner.parameters →
      textOf vs (setting name variableName usual) = env.valueOf variableName usual := by
    intro name variableName usual hp
    obtain ⟨v, hv, htext⟩ := resolve_setting name variableName usual env
    rw [hresolved _ hp] at hv
    rw [textOf, Except.ok.inj hv, ← htext]
  have hskip : isSet vs skipFlag = false := by
    have hnone : Except.ok none = Except.ok (vs.lookup skipFlag.name) := hresolved skipFlag (by simp [inner])
    rw [isSet, ← Except.ok.inj hnone]
    rfl
  have hsystem : textOf vs systemParameter = _ := htext _ _ _ (.head _)
  have haccount : textOf vs accountParameter = _ := htext _ _ _ (.tail _ (.head _))
  have haudience : textOf vs audienceParameter = _ := htext _ _ _ (.tail _ (.tail _ (.head _)))
  rw [argumentsOf, hsystem, haccount, haudience, hskip]
  rfl

/-- The settings are the usual ones if the environment leaves them so. -/
theorem ofEnv_eq_usual_iff : Arguments.ofEnv env = .usual ↔ env.Usual := by
  have hvalue : ∀ variableName usual, env.valueOf variableName usual = usual ↔
      ∀ v, env.lookup variableName = some v → v = usual := by
    intro variableName usual
    unfold Env.valueOf
    cases env.lookup variableName <;> simp
  simp [Arguments.ofEnv, Arguments.usual, Env.Usual, settingVariables, ← hvalue, Settings.usual]

/-! ### Command lines -/

theorem awaits_of_values {before : Values} (h : g.values env s = .ok before) : s.awaits = false := by
  obtain ⟨t, hsettle, -⟩ := bind_eq_ok_iff.1 h
  exact awaits_of_settle hsettle

/-- A command line that is followed and has no command is read to its end before one. -/
theorem parse_without_command {i : Invocation} (h : parse env words = .ok i) (hnone : i.command = none) :
    ∃ s before, outer.scan words .start = .ok (s, none) ∧ outer.values env s = .ok before := by
  obtain ⟨⟨s, command⟩, hscan, h⟩ := bind_eq_ok_iff.1 h
  cases command with
  | none =>
    obtain ⟨before, hvalues, -⟩ := bind_eq_ok_iff.1 h
    exact ⟨s, before, hscan, hvalues⟩
  | some command =>
    obtain ⟨behind, -, h⟩ := bind_eq_ok_iff.1 h
    obtain ⟨before, -, h⟩ := bind_eq_ok_iff.1 h
    obtain rfl := Except.ok.inj h
    cases hnone

/-- The command behind a command line without one is read with what is before it, unless `--` is. -/
theorem parse_append_controller {before : Values} (hscan : outer.scan words .start = .ok (s, none))
    (hvalues : outer.values env s = .ok before) :
    parse env (words ++ [controllerCommand]) =
      if words.getLast? = some "--" then .error .unknownArgument
      else (inner.values env .start).map fun behind => invocation before (some behind) := by
  unfold parse
  rw [scan_append hscan]
  split
  · rfl
  · rw [Level.scan_command (awaits_of_values hvalues) (by decide)]
    have hinner : readInner env controllerCommand [] = inner.values env .start := rfl
    dsimp only [bind, Except.bind]
    rw [hinner]
    cases inner.values env .start with
    | error f => rfl
    | ok behind =>
      dsimp only
      rw [hvalues]
      rfl

end

/-! ## The command and the mode without it -/

/-- Of a command line that is followed and has no command, the controllers have their usual settings, whatever the
environment. With the `controller` command behind it, it is followed exactly if no `--` keeps the command from being
one and the environment has no value that is refused; the controllers then have the settings of the environment, and
these are the same exactly if the environment leaves them as they usually are. -/
theorem default_mode_iff {env : Env} {words : List String} {i : Invocation} (h : parse env words = .ok i)
    (hnone : i.command = none) :
    i.arguments = .usual ∧
    ((∃ j, parse env (words ++ [controllerCommand]) = .ok j) ↔ words.getLast? ≠ some "--" ∧ env.Accepted) ∧
    ∀ j, parse env (words ++ [controllerCommand]) = .ok j →
      j.arguments = .ofEnv env ∧ (j.arguments = i.arguments ↔ env.Usual) := by
  obtain ⟨s, before, hscan, hvalues⟩ := parse_without_command h hnone
  have husual := arguments_of_command_none hnone
  have hparse := parse_append_controller hscan hvalues
  refine ⟨husual, ?_, fun j hj => ?_⟩
  · rw [hparse, ← exists_values_iff]
    split
    · next hlast => simp [hlast]
    · next hlast =>
      cases inner.values env .start with
      | error f => simp [Except.map, hlast]
      | ok behind => simp [Except.map, hlast]
  · rw [hparse] at hj
    split at hj
    · cases hj
    · cases hbehind : inner.values env .start with
      | error f =>
        rw [hbehind] at hj
        cases hj
      | ok behind =>
        rw [hbehind] at hj
        obtain rfl := Except.ok.inj hj
        have harguments : (invocation before (some behind)).arguments = .ofEnv env := argumentsOf_values hbehind
        rw [harguments, husual]
        exact ⟨rfl, ofEnv_eq_usual_iff⟩

/-! ## Two environments to look at -/

/-- An environment that says where the kubeconfig is and names the usual audience. -/
def plainly : Env :=
  [("KUBECONFIG", "/etc/kube"), ("POWERTOOL_COLLECTOR_AUDIENCE", "toe-sdk-collector")]

/-- There the command makes no difference to the settings. -/
theorem plainly_the_same :
    ∃ i j, parse plainly ["--log-format", "text"] = .ok i ∧ i.command = none ∧
      parse plainly ["--log-format", "text", "controller"] = .ok j ∧ j.arguments = i.arguments := by
  have hbare : parse plainly ["--log-format", "text"] = .ok ⟨false, some "/etc/kube", .text, none⟩ := by rfl
  obtain ⟨-, hfollowed, hsame⟩ := default_mode_iff hbare rfl
  have haccepted : plainly.Accepted := ⟨by decide, fun v hv => by cases hv⟩
  have husual : plainly.Usual := ofEnv_eq_usual_iff.1 (by decide)
  obtain ⟨j, hj⟩ := hfollowed.2 ⟨by decide, haccepted⟩
  exact ⟨_, j, hbare, rfl, hj, (hsame j hj).2.2 husual⟩

/-- An environment that names another namespace. -/
def elsewhere : Env :=
  [("POWERTOOL_SYSTEM_NAMESPACE", "diag")]

/-- There the controllers have that namespace behind the command, and the usual one without it. -/
theorem bare_ignores_environment :
    ∃ i j, parse elsewhere [] = .ok i ∧ i.command = none ∧ i.printsDefinitions = false ∧
      parse elsewhere ([] ++ [controllerCommand]) = .ok j ∧ j.arguments ≠ i.arguments :=
  ⟨⟨false, none, .json, none⟩,
    ⟨false, none, .json, some ⟨⟨"diag", "toe-collector", "toe-sdk-collector"⟩, false⟩⟩, rfl, rfl, rfl,
    rfl, by decide⟩

end ProfilingOperator.CommandLine
