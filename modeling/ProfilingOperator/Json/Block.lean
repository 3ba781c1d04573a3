import ProfilingOperator.Json.Printer

/-!
# Block text

A value as an indented document: a member or an element a line, nested ones below it.  Texts stand bare where they
cannot be taken for anything else.
-/

namespace ProfilingOperator.Json

/-- The words that stand for something other than themselves. -/
def reserved : List String := ["true", "false", "null", "yes", "no", "on", "off"]

/-- Whether a text can stand bare. -/
def isBare (s : String) : Bool :=
  match s.toList with
  | [] => false
  | c :: rest =>
    (c.isAlpha || c = '.') && rest.all (fun d => d.isAlphanum || d = '.' || d = '/' || d = '-' || d = '_') &&
      !(reserved.contains (String.ofList (s.toList.map Char.toLower)))

def bareOrQuoted (s : String) : String :=
  if isBare s then s else escape s

/-- The line of a value without parts, or without any. -/
def scalar? : Json → Option String
  | .str s => some (bareOrQuoted s)
  | .arr [] => some "[]"
  | .obj [] => some "\x7b\x7d"
  | .arr _ => none
  | .obj _ => none
  | j => some j.render

/-- Lines a step further in. -/
def indented (lines : List String) : List String :=
  lines.map ("  " ++ ·)

/-- Lines behind the mark of an element. -/
def itemized : List String → List String
  | [] => []
  | l :: rest => ("- " ++ l) :: indented rest

mutual

def blockLines : Json → List String
  | .arr xs => if xs.isEmpty then ["[]"] else elementLines xs
  | .obj ms => if ms.isEmpty then ["\x7b\x7d"] else memberLines ms
  | .str s => [bareOrQuoted s]
  | j => [j.render]

def elementLines : List Json → List String
  | [] => []
  | x :: xs => itemized (blockLines x) ++ elementLines xs

/-- The lines of the members of an object; lists stand no further in than their names. -/
def memberLines : List (String × Json) → List String
  | [] => []
  | (k, v) :: ms =>
    (match scalar? v, v with
      | some s, _ => [bareOrQuoted k ++ ": " ++ s]
      | none, .arr xs => (bareOrQuoted k ++ ":") :: elementLines xs
      | none, v => (bareOrQuoted k ++ ":") :: indented (blockLines v)) ++ memberLines ms

end

/-- A value as a document. -/
def block (j : Json) : String :=
  String.join (j.blockLines.map (· ++ "\n"))

end ProfilingOperator.Json
