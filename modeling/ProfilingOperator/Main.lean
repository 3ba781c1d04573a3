import ProfilingOperator.Startup

/-!
# The program

Collects what the process finds around it, starts the operator, and prints what comes of that.  It carries no link to
a cluster, so that it ends where the first request would be sent.
-/

open ProfilingOperator

/-- The variables that are set, with their values. -/
def collectEnv : List String → IO (List (String × String))
  | [] => return []
  | name :: rest => do
    let more ← collectEnv rest
    match ← IO.getEnv name with
    | some value => return (name, value) :: more
    | none => return more

/-- The files that can be read, with their texts. -/
def collectFiles : List String → IO (List (String × String))
  | [] => return []
  | path :: rest => do
    let more ← collectFiles rest
    try
      let text ← IO.FS.readFile path
      return (path, text) :: more
    catch _ => return more

def main (words : List String) : IO UInt32 := do
  let env ← collectEnv Startup.looksAt
  let files ← collectFiles (Startup.reads env words)
  let outcome := Startup.run ⟨env, files⟩ words
  IO.print outcome.output
  for record in outcome.logs do
    IO.println (record.line outcome.format)
  IO.eprint outcome.errors
  match outcome.exitCode? with
  | some code => return UInt32.ofNat code
  | none =>
    IO.eprintln "Error: no link to the cluster"
    return 1
