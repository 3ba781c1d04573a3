import ProfilingOperator.Pod.Basic
import ProfilingOperator.Job.Basic
import ProfilingOperator.Registry
import ProfilingOperator.Tool.Basic

/-!
# A cluster in memory

The objects a pass acts on: jobs, pods and registry entries, in the order they were put.  An object is found by its
namespace and its name.
-/

namespace ProfilingOperator

/-- The objects of a cluster. -/
structure Cluster where
  jobs : List Job
  pods : List Pod
  tools : List Tool
  /-- The operator's own namespace. -/
  system : String
  /-- Whether a list of jobs ignores the namespace asked for. -/
  listsEverySpace : Bool

/-- Whether an object goes by a name in a namespace. -/
def Metadata.isAt (m : Metadata) (space name : String) : Bool :=
  m.space = some space && m.displayName = name

/-- Whether two objects go by the same name in the same namespace. -/
def Metadata.sameAddress (a b : Metadata) : Bool :=
  a.space = b.space && a.displayName = b.displayName

namespace Cluster

/-! ## Looking up -/

def job? (c : Cluster) (space name : String) : Option Job :=
  c.jobs.find? fun j => j.metadata.isAt space name

/-- The registry entry of a namespace and a name. -/
def tool? (c : Cluster) (space name : String) : Option Tool :=
  c.tools.find? fun t => t.metadata.isAt space name

def podsIn (c : Cluster) (space : String) : List Pod :=
  c.pods.filter fun p => p.metadata.space = some space

/-- The jobs of a namespace, or all of them where lists ignore it. -/
def jobsIn (c : Cluster) (space : String) : List Job :=
  if c.listsEverySpace then c.jobs else c.jobs.filter fun j => j.space = some space

/-- The registry entry of a tool for a job of a namespace. -/
def findTool? (c : Cluster) (tool space : String) : Option Tool :=
  (Registry.search (Registry.usual c.system) space).findSome? fun n => c.tool? n (Tool.entryName tool)

/-! ## Changing -/

/-- Replaces the first element that passes a test. -/
def replaceFirst {α : Type} (test : α → Bool) (f : α → α) : List α → List α
  | [] => []
  | a :: r => if test a then f a :: r else a :: replaceFirst test f r

def putJob (c : Cluster) (j : Job) : Cluster :=
  { c with jobs := (c.jobs.filter fun k => !k.metadata.sameAddress j.metadata) ++ [j] }

def putPod (c : Cluster) (p : Pod) : Cluster :=
  { c with pods := (c.pods.filter fun q => !q.metadata.sameAddress p.metadata) ++ [p] }

/-- Puts a registry entry in place of the one at its address. -/
def putTool (c : Cluster) (t : Tool) : Cluster :=
  { c with tools := (c.tools.filter fun u => !u.metadata.sameAddress t.metadata) ++ [t] }

def deleteJob (c : Cluster) (space name : String) : Cluster :=
  { c with jobs := c.jobs.filter fun j => !j.metadata.isAt space name }

def deletePod (c : Cluster) (space name : String) : Cluster :=
  { c with pods := c.pods.filter fun p => !p.metadata.isAt space name }

/-- Removes the registry entry at an address. -/
def deleteTool (c : Cluster) (space name : String) : Cluster :=
  { c with tools := c.tools.filter fun t => !t.metadata.isAt space name }

/-! ## Reports of nodes -/

/-- A pod whose status reports a state for a container, in place of what it reported before. -/
def reported (state : Option ContainerReport) (p : Pod) (container : String) : Pod :=
  let others := p.ephemeralStatuses.filter fun s => s.name ≠ container
  let rest := match p.status with | some s => s.others | none => []
  ⟨p.metadata, p.spec, some ⟨some (others ++ [⟨container, state, []⟩]), rest⟩⟩

/-- Reports a state for the ephemeral containers of a pod, or for the one of a name, and gives their names. -/
def report (c : Cluster) (space name : String) (container : Option String) (state : Option ContainerReport) :
    List String × Cluster :=
  let test := fun (p : Pod) => p.metadata.isAt space name
  match c.pods.find? test with
  | none => ([], c)
  | some p =>
    let declared := p.ephemeralContainers.map (·.name)
    let names := match container with
      | some n => declared.filter (· = n)
      | none => declared
    (names, { c with pods := replaceFirst test (fun p => names.foldl (reported state) p) c.pods })

/-! ## Lemmas -/

theorem mem_of_mem_replaced {α : Type} {l before after : List α} {a b x : α} (h : l = before ++ a :: after)
    (hx : x ∈ before ++ b :: after) : x ∈ l ∨ x = b := by
  rw [h]
  rcases List.mem_append.1 hx with hx | hx
  · exact .inl (List.mem_append_left _ hx)
  · rcases List.mem_cons.1 hx with hx | hx
    · exact .inr hx
    · exact .inl (List.mem_append_right _ (List.mem_cons_of_mem _ hx))

theorem mem_of_mem_removed {α : Type} {l before after : List α} {a x : α} (h : l = before ++ a :: after)
    (hx : x ∈ before ++ after) : x ∈ l := by
  rw [h]
  rcases List.mem_append.1 hx with hx | hx
  · exact List.mem_append_left _ hx
  · exact List.mem_append_right _ (List.mem_cons_of_mem _ hx)

/-- Elements that a function tells apart are equal if it does not. -/
theorem eq_of_pairwise_ne {α β : Type} {f : α → β} {l : List α} {a b : α}
    (h : l.Pairwise fun a b => f a ≠ f b) (ha : a ∈ l) (hb : b ∈ l) (he : f a = f b) : a = b := by
  have hall := List.Pairwise.forall_of_forall_of_flip (R := fun a b : α => f a = f b → a = b)
    (l := l) (fun a _ _ => rfl) (h.imp fun hne he => absurd he hne) (h.imp fun hne he => absurd he.symm hne)
  exact hall ha hb he

end Cluster

end ProfilingOperator
