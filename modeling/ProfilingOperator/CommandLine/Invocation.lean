import ProfilingOperator.CommandLine.Level
import ProfilingOperator.Log.Format
import ProfilingOperator.Settings

/-!
# Command line of the operator

The operator prints the definitions of its kinds, or runs its controllers, which is what the `controller` command says
and what it does without a command too.  Where the kubeconfig is and how log lines look may be said before the command
or behind it; the settings of the controllers are said behind it.

    arguments_of_command_none : without a command the controllers have their usual settings
-/

namespace ProfilingOperator.CommandLine

/-- What is said behind the `controller` command. -/
structure Arguments where
  settings : Settings
  /-- Whether definitions are left as they are. -/
  skipInstall : Bool
  deriving DecidableEq, Repr

/-- A command line that is followed. -/
structure Invocation where
  /-- Whether only the definitions are to be printed. -/
  printsDefinitions : Bool
  kubeconfig : Option String
  format : Log.Format
  /-- The command, if one was given. -/
  command : Option Arguments
  deriving DecidableEq, Repr

/-- The usual arguments of the controllers. -/
def Arguments.usual : Arguments := ⟨.usual, false⟩

/-- What the controllers run with. -/
def Invocation.arguments (i : Invocation) : Arguments :=
  i.command.getD .usual

/-! ## Parameters -/

/-- Refuses no value. -/
def anyText (_ : String) : Option Fault := none

/-- Refuses the empty path. -/
def refusesPath (v : String) : Option Fault :=
  if v = "" then some .missingValue else none

/-- Refuses a word that names no shape of log lines. -/
def refusesFormat (v : String) : Option Fault :=
  if (Log.Format.ofWord? v).isNone then some .refusedValue else none

def flag (name : String) : Parameter :=
  ⟨name, none, .flag, anyText, none, none⟩

def helpParameter : Parameter := ⟨"help", some 'h', .help, anyText, none, none⟩

def versionParameter : Parameter := ⟨"version", some 'V', .version, anyText, none, none⟩

/-- Where the kubeconfig is. -/
def kubeconfigParameter : Parameter :=
  ⟨"kubeconfig", none, .value, refusesPath, some "KUBECONFIG", none⟩

/-- How log lines look. -/
def formatParameter : Parameter :=
  ⟨"log-format", none, .value, refusesFormat, some "POWERTOOL_LOG_FORMAT", some Log.Format.json.word⟩

def setting (name variableName value : String) : Parameter :=
  ⟨name, none, .value, anyText, some variableName, some value⟩

def systemParameter : Parameter :=
  setting "system-namespace" "POWERTOOL_SYSTEM_NAMESPACE" Settings.usual.system

def accountParameter : Parameter :=
  setting "collector-service-account" "POWERTOOL_COLLECTOR_SERVICE_ACCOUNT" Settings.usual.account

def audienceParameter : Parameter :=
  setting "collector-audience" "POWERTOOL_COLLECTOR_AUDIENCE" Settings.usual.audience

/-- The flag that has the definitions printed. -/
def definitionsFlag : Parameter := flag "crd"

/-- The flag that leaves the definitions as they are. -/
def skipFlag : Parameter := flag "skip-crd-install"

def controllerCommand : String := "controller"

def helpCommand : String := "help"

/-- The level before the command. -/
def outer : Level :=
  ⟨[definitionsFlag, kubeconfigParameter, formatParameter, helpParameter, versionParameter],
    [controllerCommand, helpCommand]⟩

/-- The level behind the `controller` command. -/
def inner : Level :=
  ⟨[systemParameter, accountParameter, audienceParameter, skipFlag, kubeconfigParameter, formatParameter,
    helpParameter], []⟩

/-! ## Reading -/

/-- The text of a value, or nothing. -/
def textOf (vs : Values) (p : Parameter) : String :=
  match vs.lookup p.name with
  | some v => v.text
  | none => ""

/-- Whether a flag was given. -/
def isSet (vs : Values) (p : Parameter) : Bool :=
  (vs.lookup p.name).isSome

/-- The arguments the inner level was read with. -/
def argumentsOf (vs : Values) : Arguments :=
  ⟨⟨textOf vs systemParameter, textOf vs accountParameter, textOf vs audienceParameter⟩, isSet vs skipFlag⟩

/-- What the values of both levels come to; `behind` are those of the inner one. -/
def invocation (before : Values) (behind : Option Values) : Invocation :=
  let shared := fun (p : Parameter) => Value.shared (before.lookup p.name) (behind.bind (·.lookup p.name))
  ⟨isSet before definitionsFlag, (shared kubeconfigParameter).map (·.text),
    ((shared formatParameter).bind fun v => Log.Format.ofWord? v.text).getD .json,
    behind.map argumentsOf⟩

/-- The fault of asking for help by command: help, unless it is asked for on a command there is none of. -/
def helpFault : List String → Fault
  | [] => .help
  | [w] => if outer.commands.contains w then .help else .unknownCommand
  | _ :: _ :: _ => .unknownCommand

/-- Reads what stands behind a command. -/
def readInner (env : Env) (command : String) (words : List String) : Except Fault Values :=
  if command = helpCommand then .error (helpFault words)
  else do
    let (s, _) ← inner.scan words .start
    inner.values env s

/-- Reads a command line, without the name of the program. -/
def parse (env : Env) (words : List String) : Except Fault Invocation := do
  let (s, command) ← outer.scan words .start
  match command with
  | none => return invocation (← outer.values env s) none
  | some (w, ws) => do
    let behind ← readInner env w ws
    let before ← outer.values env s
    return invocation before (some behind)

/-! ## Lemmas -/

/-- Without a command the controllers have their usual settings. -/
theorem arguments_of_command_none {i : Invocation} (h : i.command = none) : i.arguments = .usual := by
  simp [Invocation.arguments, h]

end ProfilingOperator.CommandLine
