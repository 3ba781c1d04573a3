/-!
# Levels of a command line

A command line is read level by level.  A level has parameters, given as `--name`, `--name value` or `--name=value`
and some by a letter as well, and it may have commands, each of which starts a level of its own.  What comes behind
`--` is neither.  A parameter that is not given is taken from the environment, and else from its usual value.

A value is looked at when the next parameter is met or the line ends, so the fault of what stands behind it may come
first: a parameter nobody knows and a value nobody wants are told of before it.

    scan_command : a command ends its level
-/

namespace ProfilingOperator.CommandLine

/-- Why a command line is not followed. -/
inductive Fault where
  | unknownArgument
  | unknownCommand
  /-- A value is missing, or is empty where it may not be. -/
  | missingValue
  /-- A value is none of those that are known. -/
  | refusedValue
  | repeated
  /-- A value was given to what takes none. -/
  | tooManyValues
  /-- Help was asked for. -/
  | help
  /-- The version was asked for. -/
  | version
  deriving DecidableEq, Repr

/-- What a parameter is for. -/
inductive Action where
  | flag
  | value
  | help
  | version
  deriving DecidableEq, Repr

/-- A parameter of a level. -/
structure Parameter where
  name : String
  letter : Option Char
  action : Action
  /-- Whether a value is refused, and for what. -/
  refuses : String → Option Fault
  /-- The variable of the environment it is taken from. -/
  env : Option String
  /-- Its usual value. -/
  usual : Option String

/-- A level. -/
structure Level where
  parameters : List Parameter
  commands : List String

/-! ## Words -/

/-- The shapes of the words of a command line. -/
inductive Word where
  | rest
  | long (name : String) (attached : Option String)
  | letters (cs : List Char)
  | plain
  deriving DecidableEq, Repr

def Word.ofText (s : String) : Word :=
  match s.toList with
  | ['-', '-'] => .rest
  | '-' :: '-' :: cs =>
    let name := String.ofList (cs.takeWhile fun c => c ≠ '=')
    match cs.dropWhile fun c => c ≠ '=' with
    | [] => .long name none
    | _ :: value => .long name (some (String.ofList value))
  | '-' :: c :: cs => .letters (c :: cs)
  | _ => .plain

/-! ## Reading a level -/

/-- What has been read of a level: the values given, and the parameter met last with its value, if it has one yet. -/
structure Scan where
  given : List (String × String)
  pending : Option (Parameter × Option String)

namespace Scan

def start : Scan := ⟨[], none⟩

/-- Whether the next word is a value. -/
def awaits (s : Scan) : Bool :=
  match s.pending with
  | some (_, none) => true
  | _ => false

/-- Gives a value to a parameter that has none. -/
def store (s : Scan) (p : Parameter) (value : String) : Except Fault Scan :=
  if s.given.any fun g => g.1 = p.name then .error .repeated
  else
    match p.refuses value with
    | some f => .error f
    | none => .ok { s with given := s.given ++ [(p.name, value)] }

/-- Takes the value of the parameter met last. -/
def settle (s : Scan) : Except Fault Scan :=
  match s.pending with
  | none => .ok s
  | some (_, none) => .error .missingValue
  | some (p, some v) => Scan.store ⟨s.given, none⟩ p v

/-- Meets a parameter. -/
def enter (s : Scan) (p : Parameter) (attached : Option String) : Except Fault Scan :=
  match p.action, attached with
  | .value, some v => do (← s.settle).store p v
  | .value, none => do return { ← s.settle with pending := some (p, none) }
  | _, some _ => .error .tooManyValues
  | .flag, none => do (← s.settle).store p "true"
  | .help, none => do
    let _ ← s.settle
    .error .help
  | .version, none => do
    let _ ← s.settle
    .error .version

/-- Gives the parameter met last its value. -/
def fill (s : Scan) (value : String) : Scan :=
  match s.pending with
  | some (p, none) => { s with pending := some (p, some value) }
  | _ => s

end Scan

namespace Level

/-- Meets a parameter by name. -/
def long (g : Level) (s : Scan) (name : String) (attached : Option String) : Except Fault Scan :=
  match g.parameters.find? fun p => p.name = name with
  | some p => s.enter p attached
  | none => .error .unknownArgument

/-- Meets parameters by their letters. -/
def letters (g : Level) (s : Scan) : List Char → Except Fault Scan
  | [] => .ok s
  | c :: cs =>
    match g.parameters.find? fun p => p.letter = some c with
    | some p => do g.letters (← s.enter p none) cs
    | none => .error .unknownArgument

/-- The fault of a word that is neither a parameter nor a command nor a value. -/
def stray (g : Level) (behindRest : Bool) (word : String) : Fault :=
  if behindRest && g.commands.contains word then .unknownArgument
  else if g.commands.isEmpty then .unknownArgument
  else .unknownCommand

/-- Reads a level, up to a command or to the end: what was given, and the command with the words behind it. -/
def scan (g : Level) : List String → Scan → Except Fault (Scan × Option (String × List String))
  | [], s => .ok (s, none)
  | w :: ws, s =>
    if !s.awaits && g.commands.contains w then .ok (s, some (w, ws))
    else
      match Word.ofText w with
      | .rest =>
        match ws with
        | [] => .ok (s, none)
        | x :: _ => .error (g.stray true x)
      | .long name attached => do g.scan ws (← g.long s name attached)
      | .letters cs => do g.scan ws (← g.letters s cs)
      | .plain => if s.awaits then g.scan ws (s.fill w) else .error (g.stray false w)

end Level

/-! ## Values -/

/-- Where a value is from; the later of these is the stronger. -/
inductive Origin where
  | usual
  | env
  | line
  deriving DecidableEq, Repr

def Origin.strength : Origin → Nat
  | .usual => 0
  | .env => 1
  | .line => 2

/-- A value and where it is from. -/
structure Value where
  origin : Origin
  text : String
  deriving DecidableEq, Repr

/-- The variables of the environment. -/
abbrev Env := List (String × String)

def Parameter.resolve (p : Parameter) (env : Env) (s : Scan) : Except Fault (Option Value) :=
  match s.given.lookup p.name with
  | some v => .ok (some ⟨.line, v⟩)
  | none =>
    match p.env.bind fun name => env.lookup name with
    | some v =>
      match p.refuses v with
      | some f => .error f
      | none => .ok (some ⟨.env, v⟩)
    | none => .ok (p.usual.map fun v => ⟨.usual, v⟩)

/-- The values of the parameters of a level, by name. -/
abbrev Values := List (String × Value)

/-- The values of some parameters; the first fault counts. -/
def resolveAll (env : Env) (s : Scan) : List Parameter → Except Fault Values
  | [] => .ok []
  | p :: ps => do
    let v ← p.resolve env s
    let rest ← resolveAll env s ps
    return (match v with | some v => (p.name, v) :: rest | none => rest)

/-- The values a level was read with, when nothing more is to come. -/
def Level.values (g : Level) (env : Env) (s : Scan) : Except Fault Values := do
  resolveAll env (← s.settle) g.parameters

/-- The value of a parameter that two levels share: that of the inner one, unless the outer one is stronger. -/
def Value.shared (outer inner : Option Value) : Option Value :=
  match outer, inner with
  | some o, some i => if i.origin.strength < o.origin.strength then some o else some i
  | some o, none => some o
  | none, i => i

/-! ## Lemmas -/

/-- A command ends its level. -/
theorem Level.scan_command {g : Level} {s : Scan} {w : String} (h : s.awaits = false)
    (hw : g.commands.contains w = true) (ws : List String) : g.scan (w :: ws) s = .ok (s, some (w, ws)) := by
  unfold Level.scan
  simp [h, List.contains_iff_mem.1 hw]

end ProfilingOperator.CommandLine
