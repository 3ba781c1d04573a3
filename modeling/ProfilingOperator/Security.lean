import ProfilingOperator.Pod.Basic
import ProfilingOperator.Tool.Basic

/-!
# Security of diagnostic containers

A diagnostic container runs as the container it is attached to, and what that leaves open as the pod.  A tool that
needs root runs as user 0 and keeps the group alone.  Privileges and capabilities are the policy's.
-/

namespace ProfilingOperator.Security

/-- The capabilities a policy asks for; none when both lists are empty. -/
def capabilities? (policy : Tool.Policy) : Option Capabilities :=
  policy.capabilities.bind fun c =>
    if c.add.isEmpty && c.drop.isEmpty then none
    else some ⟨if c.add.isEmpty then none else some c.add, if c.drop.isEmpty then none else some c.drop⟩

/-- Who the pod says its processes run as. -/
def podIdentity (p : Pod) : Identity :=
  ((p.spec.bind (·.security)).map (·.identity)).getD .none

/-- Who a container says its processes run as. -/
def containerIdentity (c : Option Container) : Identity :=
  ((c.bind (·.security)).map (·.identity)).getD .none

/-- Who the diagnostic container runs as. -/
def identity (policy : Tool.Policy) (p : Pod) (target : Option Container) : Identity :=
  let inherited := (containerIdentity target).orElse (podIdentity p)
  if policy.runAsRoot.getD false then ⟨some 0, inherited.group, some false⟩ else inherited

/-- The security context of a diagnostic container in a pod, attached to a container. -/
def context (policy : Tool.Policy) (p : Pod) (target : Option Container) : SecurityContext :=
  ⟨identity policy p target, policy.privileged, capabilities? policy, []⟩

end ProfilingOperator.Security
