import Mathlib.Data.List.Induction
import ProfilingOperator.Client.Calls
import ProfilingOperator.Proofs.First

/-!
# How a tool is found

The entry of a tool is looked for along an order of scopes, in which the same namespace may come up again: it is
looked into once. Here is said that this makes no difference to what is found.  Looking into a namespace has an
outcome, which is the entry, that there is none, or a failure, and the search ends at the first that is not the
second.

    Looks outcome names reads result : of some namespaces in order some are read, and the last read settles the result
    distinct_search : the namespaces looked into are those of the scopes, each at its first place
    Looks.of_distinct : leaving out what comes up again leaves the result as it is
    found_as_by_visiting : a search reads its namespaces up to the first that settles it, as visiting all scopes would
-/

namespace ProfilingOperator

namespace Registry

/-! ## Looking into namespaces -/

/-- What comes of looking into namespaces in order, when each has its outcome: which of them are read, and the result.
All are read if none has anything to tell; else it is the first that has. -/
inductive Looks {ε α : Type} (outcome : String → Except ε (Option α)) (names : List String) :
    List String → Except ε (Option α) → Prop where
  | nowhere (missing : ∀ n ∈ names, outcome n = .ok none) : Looks outcome names names (.ok none)
  | settled {front back : List String} {n : String} (split : names = front ++ n :: back)
      (missing : ∀ m ∈ front, outcome m = .ok none) (told : outcome n ≠ .ok none) :
      Looks outcome names (front ++ [n]) (outcome n)

/-- The namespaces of an order, scope by scope. -/
def visits (order : List Scope) (own : String) : List String :=
  order.map (Scope.resolve own)

/-- The names of a list, each once and in the order in which they first occur. -/
structure Distinct (l names : List String) : Prop where
  nodup : names.Nodup
  same : ∀ n, n ∈ names ↔ n ∈ l
  ordered : names.Pairwise fun n m => l.idxOf n < l.idxOf m

/-- The state after some namespaces were looked into. -/
def readAll {ε α σ : Type} (look : String → ExceptT ε (StateM σ) (Option α)) (names : List String) (s : σ) : σ :=
  names.foldl (fun s n => (look n s).2) s

/-! ## Lemmas -/

section
variable {ε α σ : Type} {look : String → ExceptT ε (StateM σ) (Option α)} {outcome : String → Except ε (Option α)}
  {l names reads : List String} {result : Except ε (Option α)}

/-- A namespace that has nothing to tell is read first, and makes no difference. -/
theorem Looks.cons {n : String} (hn : outcome n = .ok none) (h : Looks outcome names reads result) :
    Looks outcome (n :: names) (n :: reads) result := by
  cases h with
  | nowhere missing => exact .nowhere (List.forall_mem_cons.2 ⟨hn, missing⟩)
  | @settled front back m split missing told =>
    have hsplit : n :: names = (n :: front) ++ m :: back := congrArg (n :: ·) split
    exact .settled hsplit (List.forall_mem_cons.2 ⟨hn, missing⟩) told

theorem firstFound_cons (n : String) (rest : List String) (s : σ) :
    firstFound look (n :: rest) s = match look n s with
      | (.ok none, t) => firstFound look rest t
      | (settled, t) => (settled, t) := by
  show ExceptT.bind (look n) _ s = _
  unfold ExceptT.bind ExceptT.mk
  show StateT.bind (look n) _ s = _
  unfold StateT.bind
  rcases look n s with ⟨_ | _ | a, t⟩ <;> rfl

/-- A search reads the namespaces up to the first that settles it. -/
theorem exists_looks (h : ∀ n s, (look n s).1 = outcome n) (names : List String) (s : σ) :
    ∃ reads result, firstFound look names s = (result, readAll look reads s) ∧ Looks outcome names reads result := by
  induction names generalizing s with
  | nil => exact ⟨[], .ok none, rfl, .nowhere fun n hn => absurd hn List.not_mem_nil⟩
  | cons n rest ih =>
    rw [firstFound_cons]
    cases hlook : look n s with
    | mk found t =>
      have houtcome : outcome n = found := by rw [← h n s, hlook]
      have hread : readAll look [n] s = t := congrArg Prod.snd hlook
      by_cases hfound : found = .ok none
      · subst hfound
        obtain ⟨reads, result, hrest, hlooks⟩ := ih t
        refine ⟨n :: reads, result, hrest.trans ?_, hlooks.cons houtcome⟩
        rw [← hread]
        rfl
      · refine ⟨[n], found, ?_, ?_⟩
        · rw [hread]
          rcases found with _ | _ | a
          · rfl
          · exact absurd rfl hfound
          · rfl
        · have hsplit : n :: rest = [] ++ n :: rest := rfl
          rw [← houtcome] at hfound ⊢
          exact .settled hsplit (fun m hm => absurd hm List.not_mem_nil) hfound

/-- A name of a list has its place in front of those that come up later. -/
theorem pairwise_idxOf (l : List String) :
    (l.foldl addNew []).Pairwise fun n m => l.idxOf n < l.idxOf m := by
  induction l using List.reverseRecOn with
  | nil => exact .nil
  | append_singleton l x ih =>
    have hmem : ∀ n ∈ l.foldl addNew [], n ∈ l := fun n hn => by simpa using mem_foldl_addNew.1 hn
    have hplace : ∀ n ∈ l.foldl addNew [], (l ++ [x]).idxOf n = l.idxOf n := fun n hn => by
      rw [List.idxOf_append, if_pos (hmem n hn)]
    have hbefore : (l.foldl addNew []).Pairwise fun n m => (l ++ [x]).idxOf n < (l ++ [x]).idxOf m :=
      ih.imp_of_mem fun hn hm hlt => by rwa [hplace _ hn, hplace _ hm]
    rw [List.foldl_append, List.foldl_cons, List.foldl_nil]
    unfold addNew
    split
    · exact hbefore
    · next hnew =>
      have hnew : x ∉ l := fun hx => hnew (List.contains_iff_mem.2 (mem_foldl_addNew.2 (.inr hx)))
      refine List.pairwise_append.2 ⟨hbefore, List.pairwise_singleton _ _, fun n hn m hm => ?_⟩
      rw [List.mem_singleton.1 hm, hplace n hn, List.idxOf_append, if_neg hnew]
      exact Nat.lt_add_left _ (List.idxOf_lt_length_of_mem (hmem n hn))

theorem distinct_search (order : List Scope) (own : String) : Distinct (visits order own) (search order own) where
  nodup := search_nodup order own
  same n := by
    unfold visits
    rw [mem_search_iff, List.mem_map]
  ordered := pairwise_idxOf _

/-- Leaving out what comes up again leaves the result as it is. -/
theorem Looks.of_distinct (hd : Distinct l names) (h : Looks outcome names reads result) :
    ∃ visited, Looks outcome l visited result := by
  cases h with
  | nowhere missing => exact ⟨l, .nowhere fun n hn => missing n ((hd.same n).2 hn)⟩
  | @settled front back n split missing told =>
    have hsome : ∃ m ∈ l, outcome m ≠ .ok none :=
      ⟨n, (hd.same n).1 (split ▸ List.mem_append_right _ List.mem_cons_self), told⟩
    obtain ⟨m, before, after, rfl, hm, hbefore⟩ := exists_first_iff.2 hsome
    -- The first of the list that settles the result is the one that was read last.
    have hmn : m = n := by
      have hmem : m ∈ front ++ n :: back := split ▸ (hd.same m).2 (List.mem_append_right _ List.mem_cons_self)
      rcases List.mem_append.1 hmem with hfront | hrest
      · exact absurd (missing m hfront) hm
      · rcases List.mem_cons.1 hrest with rfl | hback
        · rfl
        · have hlt := (List.pairwise_cons.1 (List.pairwise_append.1 (split ▸ hd.ordered)).2.1).1 m hback
          have hmnot : m ∉ before := fun h => hbefore m h hm
          have hnnot : n ∉ before := fun h => hbefore n h told
          rw [List.idxOf_append, if_neg hnnot, List.idxOf_append, if_neg hmnot, List.idxOf_cons_self] at hlt
          omega
    subst hmn
    exact ⟨_, .settled rfl (fun a ha => not_not.1 (hbefore a ha)) told⟩

end

end Registry

namespace Client

open Registry

/-- A tool is found, where each namespace answers for itself, as by visiting every scope of the order: the first entry
or failure settles it, and there is no entry if none has one.  Of the namespaces that the scopes come to, each once
and at its first place, those up to that one are read and no others. -/
theorem found_as_by_visiting {σ : Type} {link : Http.Link σ} {tool : String}
    {outcome : String → Except Pass.Failure (Option Tool)} (h : ∀ n s, (lookUp link tool n s).1 = outcome n)
    (order : List Scope) (own : String) (s : σ) :
    Distinct (visits order own) (search order own) ∧
    ∃ reads visited result, findTool link order tool own s = (result, readAll (lookUp link tool) reads s) ∧
      Looks outcome (search order own) reads result ∧ Looks outcome (visits order own) visited result := by
  have hdistinct := distinct_search order own
  obtain ⟨reads, result, hfound, hlooks⟩ := exists_looks h (search order own) s
  obtain ⟨visited, hvisited⟩ := hlooks.of_distinct hdistinct
  exact ⟨hdistinct, reads, visited, result, hfound, hlooks, hvisited⟩

/-! ## A server to look at -/

/-- A link that answers a request as it always does, and keeps the requests. -/
def steady (answer : Http.Request → Except String Http.Response) : Http.Link (List Http.Request) :=
  fun r log => (answer r, log ++ [r])

/-- What a steady link tells of a tool does not depend on what was asked before. -/
theorem lookUp_steady (answer : Http.Request → Except String Http.Response) (tool n : String)
    (log : List Http.Request) :
    (lookUp (steady answer) tool n log).1 = (lookUp (steady answer) tool n []).1 := by
  unfold lookUp Exchange.work get? get send
  cases getRequest (tools n) (Tool.entryName tool) <;> rfl

namespace Sample

/-- The path of the entry of the sample tool in a namespace. -/
def address (space : String) : String := (tools space).path ++ "/perf-config"

def missing : Json :=
  .object [("status", some (.str "Failure")), ("reason", some (.str "NotFound")), ("code", some (.nat 404))]

def entry : Tool :=
  ⟨.empty, ⟨"perf", "perf:1", .none, [], none, none, [], none⟩, none⟩

def document : Json :=
  .object [("metadata", some (.object [])),
    ("spec", some (.object [("name", some (.str "perf")), ("image", some (.str "perf:1"))]))]

/-- A server that has no entry in `ops`, has one in `tools`, and does not get through to other namespaces. -/
def server : Http.Link (List Http.Request) :=
  steady fun r =>
    if r.target.path = address "ops" then .ok ⟨404, missing.render⟩
    else if r.target.path = address "tools" then .ok ⟨200, document.render⟩
    else .error "no route"

/-- An order that comes to `ops` three times for a job of `ops`. -/
def order : List Scope :=
  [.space "ops", .ofJob, .space "tools", .space "ops", .space "edge"]

/-- For a job of `ops`, that namespace is asked once and `edge` not at all. -/
theorem found_in_tools :
    (∀ n log, (lookUp server "perf" n log).1 = (lookUp server "perf" n []).1) ∧
    Distinct (visits order "ops") (search order "ops") ∧
    ∃ reads visited result, findTool server order "perf" "ops" [] = (result, readAll (lookUp server "perf") reads []) ∧
      Looks (fun n => (lookUp server "perf" n []).1) (search order "ops") reads result ∧
      Looks (fun n => (lookUp server "perf" n []).1) (visits order "ops") visited result ∧
      result.toOption = some (some entry) ∧
      (readAll (lookUp server "perf") reads []).map (·.target.path) = [address "ops", address "tools"] := by
  have hsteady : ∀ n log, (lookUp server "perf" n log).1 = (lookUp server "perf" n []).1 := lookUp_steady _ "perf"
  have hrun : (findTool server order "perf" "ops" []).1.toOption = some (some entry) ∧
      (findTool server order "perf" "ops" []).2.map (·.target.path) = [address "ops", address "tools"] := by
    decide +kernel
  obtain ⟨hdistinct, reads, visited, result, hfound, hlooks, hvisited⟩ := found_as_by_visiting hsteady order "ops" []
  rw [hfound] at hrun
  exact ⟨hsteady, hdistinct, reads, visited, result, hfound, hlooks, hvisited, hrun⟩

end Sample

end Client

end ProfilingOperator
