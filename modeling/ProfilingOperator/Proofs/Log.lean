import ProfilingOperator.Pass.Basic

/-!
# Logs of passes

The log of a pass is the list of its calls with their replies, in order.  `Goes p log q` says that `p` goes on to `q`
when its calls are answered as the log says, so a log is also had of a pass that is cut short.  `Meets` is what a
pass has to be shown to do: every call it makes is due after the log so far, and it ends as it should.

    meets_bind : (p.bind f).Meets due ends log ↔ p.Meets due (andThen due f ends) log
    Meets.due_of_goes : p.Meets due ends [] → p.Goes (log ++ a :: more) q → due log a.call
    ends_bind : a composed pass ends exactly if its first part does, and its second if it comes to that
    goes_run : a run against a handler has a log
-/

namespace ProfilingOperator

/-- A call with the reply it got. -/
structure Answered where
  call : Call
  reply : call.Reply

namespace Pass

/-! ## Logs -/

/-- A pass goes on to another by the calls of a log. -/
inductive Goes {α : Type} : Pass α → List Answered → Pass α → Prop
  | stay (p : Pass α) : Goes p [] p
  | call {c : Call} {next : c.Reply → Pass α} {q : Pass α} {log : List Answered} (r : c.Reply) :
      Goes (next r) log q → Goes (.call c next) (⟨c, r⟩ :: log) q

/-- A log has a reply to a call. -/
def Saw (log : List Answered) (c : Call) (r : c.Reply) : Prop :=
  ⟨c, r⟩ ∈ log

/-- Every call of a pass is due after the log that precedes it, and the pass ends as it should. -/
def Meets {α : Type} (due : List Answered → Call → Prop) (ends : Outcome α → List Answered → Prop) :
    Pass α → List Answered → Prop
  | .done a, log => ends (.done a) log
  | .fail f, log => ends (.failed f) log
  | .crash m, log => ends (.crashed m) log
  | .call c next, log => due log c ∧ ∀ r, Meets due ends (next r) (log ++ [⟨c, r⟩])

/-- How the first part of a composed pass has to end: where it ends with a value, the second part does the rest. -/
def andThen {α β : Type} (due : List Answered → Call → Prop) (f : α → Pass β)
    (ends : Outcome β → List Answered → Prop) : Outcome α → List Answered → Prop
  | .done a, log => (f a).Meets due ends log
  | .failed e, log => ends (.failed e) log
  | .crashed m, log => ends (.crashed m) log

/-- How a pass has to end whose failure is a value. -/
def caught {α : Type} (ends : Outcome (Except Failure α) → List Answered → Prop) :
    Outcome α → List Answered → Prop
  | .done a, log => ends (.done (.ok a)) log
  | .failed e, log => ends (.done (.error e)) log
  | .crashed m, log => ends (.crashed m) log

/-- The calls a run makes against a handler, with their replies. -/
def record {σ α : Type} (handle : Handler σ) : Pass α → σ → List Answered
  | .done _, _ => []
  | .fail _, _ => []
  | .crash _, _ => []
  | .call c next, s => ⟨c, (handle c s).1⟩ :: record handle (next (handle c s).1) (handle c s).2

/-- A pass that has ended. -/
def ofOutcome {α : Type} : Outcome α → Pass α
  | .done a => .done a
  | .failed f => .fail f
  | .crashed m => .crash m

/-- A pass ends in an outcome by the calls of a log. -/
def Ends {α : Type} (p : Pass α) (log : List Answered) (o : Outcome α) : Prop :=
  p.Goes log (ofOutcome o)

/-- How a pass ends with a reply. -/
def Outcome.ofReply {α : Type} : Except Failure α → Outcome α
  | .ok a => .done a
  | .error f => .failed f

/-- How a pass ends whose failure is a value. -/
def Outcome.caught {α : Type} : Outcome α → Outcome (Except Failure α)
  | .done a => .done (.ok a)
  | .failed f => .done (.error f)
  | .crashed m => .crashed m

/-! ## Lemmas -/

section
variable {α β : Type} {due : List Answered → Call → Prop} {log more : List Answered}

theorem meets_bind {p : Pass α} {f : α → Pass β} {ends : Outcome β → List Answered → Prop} :
    (p.bind f).Meets due ends log ↔ p.Meets due (andThen due f ends) log := by
  induction p generalizing log with
  | done a => exact Iff.rfl
  | fail e => exact Iff.rfl
  | crash m => exact Iff.rfl
  | call c next ih =>
    simp only [bind, Meets]
    exact and_congr Iff.rfl (forall_congr' fun r => ih r)

theorem meets_attempt {p : Pass α} {ends : Outcome (Except Failure α) → List Answered → Prop} :
    p.attempt.Meets due ends log ↔ p.Meets due (caught ends) log := by
  induction p generalizing log with
  | done a => exact Iff.rfl
  | fail e => exact Iff.rfl
  | crash m => exact Iff.rfl
  | call c next ih =>
    simp only [attempt, Meets]
    exact and_congr Iff.rfl (forall_congr' fun r => ih r)

theorem Meets.of_goes {p q : Pass α} {ends : Outcome α → List Answered → Prop} (h : p.Meets due ends log)
    (hg : p.Goes more q) : q.Meets due ends (log ++ more) := by
  induction hg generalizing log with
  | stay p => simpa using h
  | call r _ ih =>
    rw [List.append_cons]
    exact ih (h.2 r)

theorem Goes.split {p q : Pass α} {a : Answered} (h : p.Goes (log ++ a :: more) q) :
    ∃ next, p.Goes log (.call a.call next) ∧ (next a.reply).Goes more q := by
  induction log generalizing p with
  | nil =>
    cases h with
    | call r h => exact ⟨_, .stay _, h⟩
  | cons b log ih =>
    cases h with
    | call r h =>
      obtain ⟨next, hl, hm⟩ := ih h
      exact ⟨next, .call r hl, hm⟩

theorem Goes.append_call {p : Pass α} {c : Call} {next : c.Reply → Pass α} (h : p.Goes log (.call c next))
    (r : c.Reply) : p.Goes (log ++ [⟨c, r⟩]) (next r) := by
  generalize hq : Pass.call c next = q at h
  induction h with
  | stay p =>
    subst hq
    exact .call r (.stay _)
  | call r' _ ih => exact .call r' (ih hq)

theorem Meets.due_of_call {p : Pass α} {ends : Outcome α → List Answered → Prop} {c : Call}
    {next : c.Reply → Pass α} (h : p.Meets due ends []) (hg : p.Goes log (.call c next)) : due log c :=
  (h.of_goes hg).1

/-- Every call of a log was due when it was made. -/
theorem Meets.due_of_goes {p q : Pass α} {ends : Outcome α → List Answered → Prop} {a : Answered}
    (h : p.Meets due ends []) (hg : p.Goes (log ++ a :: more) q) : due log a.call := by
  obtain ⟨next, hl, -⟩ := hg.split
  exact h.due_of_call hl

/-! ### Going on and ending -/

theorem Goes.trans {p q r : Pass α} (h : p.Goes log q) (h' : q.Goes more r) : p.Goes (log ++ more) r := by
  induction h with
  | stay p => exact h'
  | call reply _ ih => exact .call reply (ih h')

/-- A log leaves no choice: from what it has come to, a pass goes on by the rest of the log. -/
theorem Goes.rest {p q r : Pass α} (h : p.Goes log q) (h' : p.Goes (log ++ more) r) : q.Goes more r := by
  induction h with
  | stay p => exact h'
  | call reply _ ih =>
    cases h' with
    | call _ h' => exact ih h'

theorem Goes.bind {p q : Pass α} (h : p.Goes log q) (f : α → Pass β) : (p.bind f).Goes log (q.bind f) := by
  induction h with
  | stay p => exact .stay _
  | call reply _ ih => exact .call reply ih

theorem Goes.attempt {p q : Pass α} (h : p.Goes log q) : p.attempt.Goes log q.attempt := by
  induction h with
  | stay p => exact .stay _
  | call reply _ ih => exact .call reply ih

theorem ends_done {a : α} {o : Outcome α} : (Pass.done a).Ends log o ↔ log = [] ∧ o = .done a := by
  constructor
  · intro h
    unfold Ends at h
    cases o <;> cases h
    exact ⟨rfl, rfl⟩
  · rintro ⟨rfl, rfl⟩
    exact .stay _

theorem ends_fail {f : Failure} {o : Outcome α} :
    (Pass.fail f : Pass α).Ends log o ↔ log = [] ∧ o = .failed f := by
  constructor
  · intro h
    unfold Ends at h
    cases o <;> cases h
    exact ⟨rfl, rfl⟩
  · rintro ⟨rfl, rfl⟩
    exact .stay _

theorem ends_crash {m : String} {o : Outcome α} :
    (Pass.crash m : Pass α).Ends log o ↔ log = [] ∧ o = .crashed m := by
  constructor
  · intro h
    unfold Ends at h
    cases o <;> cases h
    exact ⟨rfl, rfl⟩
  · rintro ⟨rfl, rfl⟩
    exact .stay _

theorem ends_call {c : Call} {next : c.Reply → Pass α} {o : Outcome α} :
    (Pass.call c next).Ends log o ↔ ∃ r rest, log = ⟨c, r⟩ :: rest ∧ (next r).Ends rest o := by
  constructor
  · intro h
    generalize hq : ofOutcome o = q at h
    unfold Ends at h
    rw [hq] at h
    cases h with
    | stay => cases o <;> cases hq
    | call r h =>
      subst hq
      exact ⟨r, _, rfl, h⟩
  · rintro ⟨r, rest, rfl, h⟩
    exact .call r h

theorem ends_ofReply {r : Except Failure α} {o : Outcome α} :
    (ofReply r).Ends log o ↔ log = [] ∧ o = .ofReply r := by
  cases r with
  | ok a => exact ends_done
  | error f => exact ends_fail

theorem ofReply_eq_done {r : Except Failure α} {a : α} : Outcome.ofReply r = .done a ↔ .ok a = r := by
  cases r <;> simp [Outcome.ofReply, eq_comm]

theorem ofReply_eq_failed {r : Except Failure α} {f : Failure} :
    (Outcome.ofReply r : Outcome α) = .failed f ↔ .error f = r := by
  cases r <;> simp [Outcome.ofReply, eq_comm]

/-- A call whose reply ends the pass. -/
theorem ends_reply {c : Call} {f : c.Reply → Except Failure α} {o : Outcome α} :
    (Pass.call c fun r => ofReply (f r)).Ends log o ↔ ∃ r, log = [⟨c, r⟩] ∧ o = .ofReply (f r) := by
  constructor
  · intro h
    obtain ⟨r, rest, rfl, hr⟩ := ends_call.1 h
    obtain ⟨rfl, ho⟩ := ends_ofReply.1 hr
    exact ⟨r, rfl, ho⟩
  · rintro ⟨r, rfl, rfl⟩
    exact .call r (ends_ofReply.2 ⟨rfl, rfl⟩)

/-- A composed pass ends exactly if its first part does, and its second if the first ended with a value. -/
theorem ends_bind {p : Pass α} {f : α → Pass β} {o : Outcome β} :
    (p.bind f).Ends log o ↔
      (∃ a first rest, log = first ++ rest ∧ p.Ends first (.done a) ∧ (f a).Ends rest o) ∨
      (∃ e, o = .failed e ∧ p.Ends log (.failed e)) ∨ ∃ m, o = .crashed m ∧ p.Ends log (.crashed m) := by
  constructor
  · intro h
    induction p generalizing log with
    | done a => exact .inl ⟨a, [], log, rfl, .stay _, h⟩
    | fail e =>
      obtain ⟨rfl, rfl⟩ := ends_fail.1 h
      exact .inr (.inl ⟨e, rfl, .stay _⟩)
    | crash m =>
      obtain ⟨rfl, rfl⟩ := ends_crash.1 h
      exact .inr (.inr ⟨m, rfl, .stay _⟩)
    | call c next ih =>
      obtain ⟨r, later, rfl, hnext⟩ := ends_call.1 h
      rcases ih r hnext with ⟨a, first, rest, rfl, hp, hf⟩ | ⟨e, rfl, hp⟩ | ⟨m, rfl, hp⟩
      · exact .inl ⟨a, _ :: first, rest, rfl, .call r hp, hf⟩
      · exact .inr (.inl ⟨e, rfl, .call r hp⟩)
      · exact .inr (.inr ⟨m, rfl, .call r hp⟩)
  · rintro (⟨a, first, rest, rfl, hp, hf⟩ | ⟨e, rfl, hp⟩ | ⟨m, rfl, hp⟩)
    · exact (Goes.bind hp f).trans hf
    · exact Goes.bind hp f
    · exact Goes.bind hp f

theorem ends_attempt {p : Pass α} {o : Outcome (Except Failure α)} :
    p.attempt.Ends log o ↔ ∃ o', o = o'.caught ∧ p.Ends log o' := by
  constructor
  · intro h
    induction p generalizing log with
    | done a =>
      obtain ⟨rfl, rfl⟩ := ends_done.1 h
      exact ⟨.done a, rfl, .stay _⟩
    | fail e =>
      obtain ⟨rfl, rfl⟩ := ends_done.1 h
      exact ⟨.failed e, rfl, .stay _⟩
    | crash m =>
      obtain ⟨rfl, rfl⟩ := ends_crash.1 h
      exact ⟨.crashed m, rfl, .stay _⟩
    | call c next ih =>
      obtain ⟨r, later, rfl, hnext⟩ := ends_call.1 h
      obtain ⟨o', ho, hp⟩ := ih r hnext
      exact ⟨o', ho, .call r hp⟩
  · rintro ⟨o', rfl, hp⟩
    cases o' <;> exact Goes.attempt hp

/-- What follows a pass whose failure is a value goes on with how the pass ended. -/
theorem ends_attempt_bind {p : Pass α} {f : Except Failure α → Pass β} {o : Outcome β} :
    (p.attempt.bind f).Ends log o ↔
      (∃ r first rest, log = first ++ rest ∧ p.Ends first (.ofReply r) ∧ (f r).Ends rest o) ∨
        ∃ m, o = .crashed m ∧ p.Ends log (.crashed m) := by
  constructor
  · intro h
    rcases ends_bind.1 h with ⟨r, first, rest, rfl, hp, hf⟩ | ⟨e, -, hp⟩ | ⟨m, rfl, hp⟩
    · refine .inl ⟨r, first, rest, rfl, ?_, hf⟩
      obtain ⟨o', ho, hend⟩ := ends_attempt.1 hp
      cases o' <;> cases ho
      · exact hend
      · exact hend
    · obtain ⟨o', ho, -⟩ := ends_attempt.1 hp
      cases o' <;> cases ho
    · obtain ⟨o', ho, hend⟩ := ends_attempt.1 hp
      cases o' <;> cases ho
      exact .inr ⟨m, rfl, hend⟩
  · rintro (⟨r, first, rest, rfl, hp, hf⟩ | ⟨m, rfl, hp⟩)
    · refine ends_bind.2 (.inl ⟨r, first, rest, rfl, ends_attempt.2 ⟨_, ?_, hp⟩, hf⟩)
      cases r <;> rfl
    · exact ends_bind.2 (.inr (.inr ⟨m, rfl, ends_attempt.2 ⟨_, rfl, hp⟩⟩))

theorem Meets.ends_of_ends {p : Pass α} {ends : Outcome α → List Answered → Prop} {o : Outcome α}
    (h : p.Meets due ends log) (hg : p.Ends more o) : ends o (log ++ more) := by
  have hended := h.of_goes hg
  cases o <;> exact hended

/-- A pass all of whose calls are of one sort makes only such calls. -/
theorem Meets.calls_of_goes {p q : Pass α} {sort : Call → Prop} {ends : Outcome α → List Answered → Prop}
    (h : p.Meets (fun _ c => sort c) ends []) (hg : p.Goes log q) : ∀ a ∈ log, sort a.call := by
  intro a ha
  obtain ⟨earlier, later, rfl⟩ := List.append_of_mem ha
  exact h.due_of_goes hg

/-- A run against a handler has a log, and ends as the log has it end. -/
theorem goes_run {σ : Type} (handle : Handler σ) (p : Pass α) (s : σ) :
    p.Goes (p.record handle s) (ofOutcome (p.run handle s).1) := by
  induction p generalizing s with
  | done a => exact .stay _
  | fail f => exact .stay _
  | crash m => exact .stay _
  | call c next ih => exact .call _ (ih _ _)

theorem Saw.append {c : Call} {r : c.Reply} (h : Saw log c r) : Saw (log ++ more) c r :=
  List.mem_append_left more h

theorem saw_append_self (c : Call) (r : c.Reply) : Saw (log ++ [⟨c, r⟩]) c r :=
  List.mem_append_right log List.mem_cons_self

end

end Pass

end ProfilingOperator
