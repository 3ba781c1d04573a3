import ProfilingOperator.Log.Format
import ProfilingOperator.Text.Blank

/-!
# Filters of log lines

A filter is a list of directives between commas, each `target[span{field}]=level` with any of its parts left out.
Of the directives that are about a line, the most specific decides: the one with the longest target, then the one
with the most fields, then the last.  A directive about a span says nothing of lines outside of it.
-/

namespace ProfilingOperator.Log

/-- How much is logged, from nothing to everything. -/
inductive Level where
  | off
  | error
  | warn
  | info
  | debug
  | trace
  deriving DecidableEq, Repr

namespace Level

/-- The number of a level; more is logged at a higher one. -/
def number : Level → Nat
  | .off => 0
  | .error => 1
  | .warn => 2
  | .info => 3
  | .debug => 4
  | .trace => 5

def known : List (String × Level) :=
  [("off", .off), ("error", .error), ("warn", .warn), ("info", .info), ("debug", .debug), ("trace", .trace)]

def all : List Level := [.off, .error, .warn, .info, .debug, .trace]

def word : Level → String
  | .off => "OFF"
  | .error => "ERROR"
  | .warn => "WARN"
  | .info => "INFO"
  | .debug => "DEBUG"
  | .trace => "TRACE"

/-- The level digits name, possibly behind a plus sign. -/
def ofDigits? (s : String) : Option Level :=
  let digits := match s.toList with
    | '+' :: cs => cs
    | cs => cs
  if !digits.isEmpty && digits.all Char.isDigit then
    all[digits.foldl (fun n c => n * 10 + (c.toNat - '0'.toNat)) 0]?
  else none

/-- The level a text names: a number or a word, in capitals or not. -/
def ofText? (s : String) : Option Level :=
  (ofDigits? s).or (known.lookup (Format.lowered s))

end Level

/-- One rule of a filter. -/
structure Directive where
  target : Option String
  span : Option String
  /-- The fields a line has to have, and whether a value is asked of them. -/
  fields : List (String × Bool)
  level : Level
  deriving DecidableEq, Repr

abbrev Filter := List Directive

namespace Directive

/-! ## Reading -/

/-- The level behind an equals sign; none is the highest. -/
def levelAfter (s : List Char) : Option Level :=
  if s.isEmpty then some .trace else Level.ofText? (String.ofList s)

/-- The text without the blanks around it. -/
def trimmed (s : List Char) : List Char :=
  ((s.dropWhile Text.isBlank).reverse.dropWhile Text.isBlank).reverse

/-- The place of the first of some marks. -/
def place? (marks : List Char) (s : List Char) : Option Nat :=
  s.findIdx? fun c => marks.contains c

/-- A part of a text, from one place up to before another. -/
def slice (s : List Char) (i j : Nat) : String :=
  String.ofList ((s.drop i).take (j - i))

def field (s : String) : String × Bool :=
  (String.ofList (s.toList.takeWhile fun c => c ≠ '='), s.toList.contains '=')

/-- Whether a directive may start with a character. -/
def startsWell (c : Char) : Bool :=
  c.isAlphanum || c = '-' || c = ':' || c = '_' || 0x80 ≤ c.toNat

/-- Reads what stands behind the span of a directive, from a place on. -/
def readEnd (whole bare : List Char) (i : Nat) (d : Directive) : Option Directive :=
  match bare.drop i with
  | [] => some d
  | '=' :: _ => (levelAfter (whole.drop (i + 1))).map fun l => { d with level := l }
  | _ => none

/-- Reads the span of a directive, from a place on. -/
def readSpan (whole bare : List Char) (i : Nat) (target : Option String) : Option Directive :=
  match place? [']', '\x7b'] (bare.drop i) with
  | none => none
  | some n =>
    let j := i + n
    if bare[j]? = some ']' then readEnd whole bare (j + 1) ⟨target, some (slice whole i j), [], .trace⟩
    else
      let span := if j = i then none else some (slice whole i j)
      match place? ['\x7d'] (bare.drop (j + 1)) with
      | none => none
      | some m =>
        let k := j + 1 + m
        let name := slice whole (j + 1) k
        if name = "" then none
        else if bare[k + 1]? = some ']' then readEnd whole bare (k + 2) ⟨target, span, [field name], .trace⟩
        else none

/-- Reads a directive.  Its marks are looked for in the text without the blanks around it, and the parts are cut at
the same places of the text with them. -/
def parse (whole : List Char) : Option Directive :=
  let bare := trimmed whole
  match bare with
  | [] => none
  | '[' :: _ => readSpan whole bare 1 none
  | c :: _ =>
    if startsWell c then
      match place? ['=', '['] bare with
      | none =>
        match Level.ofText? (String.ofList whole) with
        | some l => some ⟨none, none, [], l⟩
        | none => some ⟨some (String.ofList whole), none, [], .trace⟩
      | some i =>
        let target := some (slice whole 0 i)
        if bare[i]? = some '=' then
          (levelAfter (whole.drop (i + 1))).map fun l => ⟨target, none, [], l⟩
        else readSpan whole bare (i + 1) target
    else none

/-! ## Deciding -/

/-- Whether a directive is about a line outside of all spans. -/
def isAbout (d : Directive) (target : String) (fields : List String) : Bool :=
  d.span.isNone && (d.target.all fun t => t.toList.isPrefixOf target.toList) &&
    d.fields.all fun f => !f.2 && fields.contains f.1

/-- How specific a directive is. -/
def weight (d : Directive) : Nat × Nat :=
  (match d.target with | some t => t.length + 1 | none => 0, d.fields.length)

/-- Whether a directive yields to a later one. -/
def yields (d later : Directive) : Bool :=
  d.weight.1 < later.weight.1 || (d.weight.1 = later.weight.1 && d.weight.2 ≤ later.weight.2)

end Directive

namespace Filter

/-- What is logged where nothing is said. -/
def errorsOnly : Filter := [⟨none, none, [], .error⟩]

/-- The pieces of a text between commas. -/
def pieces : List Char → List (List Char)
  | [] => [[]]
  | c :: cs =>
    if c = ',' then [] :: pieces cs
    else
      match pieces cs with
      | [] => [[c]]
      | p :: ps => (c :: p) :: ps

/-- Reads a filter. -/
def parse (text : String) : Option Filter :=
  (((pieces text.toList).filter fun p => !p.isEmpty).mapM Directive.parse).map fun ds =>
    if ds.isEmpty then errorsOnly else ds

def ofText (text : Option String) (usual : Filter) : Filter :=
  (text.bind parse).getD usual

/-- The directive that decides about a line. -/
def deciding (f : Filter) (target : String) (fields : List String) : Option Directive :=
  (f.filter fun d => d.isAbout target fields).foldl
    (fun best d => match best with | some b => if b.yields d then some d else some b | none => some d) none

/-- Whether a filter lets a line through. -/
def enables (f : Filter) (target : String) (level : Level) (fields : List String) : Bool :=
  match f.deciding target fields with
  | some d => level.number ≤ d.level.number
  | none => false

end Filter

end ProfilingOperator.Log
