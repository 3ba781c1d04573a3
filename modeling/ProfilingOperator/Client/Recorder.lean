import ProfilingOperator.Client.Exchange
import ProfilingOperator.Event
import ProfilingOperator.Settings
import ProfilingOperator.Stamp.Text

/-!
# Recording events

Events are posted to the namespace of the object they are about.  The recorder remembers what it posted: when the same
matter comes up again, the posted event is changed into a series and counted, with the note it was first posted with.
What could not be posted is not remembered, and nobody is told.
-/

namespace ProfilingOperator.Client

/-- An event as it was posted. -/
structure Posted where
  event : Event
  name : String
  time : Stamp
  /-- How often the matter came up and when it last did, once it came up again. -/
  series : Option (Nat × Stamp)

/-- The events posted so far, the last one first. -/
abbrev Recorder := List Posted

namespace Recorder

def version : String := "events.k8s.io/v1"

/-- The namespace of events about objects without one. -/
def defaultSpace : String := "default"

/-- Where an event is kept. -/
def collection (e : Event) : Collection :=
  .inSpace ("/apis/" ++ version) (e.regarding.space.getD defaultSpace) "events"

/-- An event that is posted at a time; its name ends in the time. -/
def first (now : Stamp) (e : Event) : Posted :=
  ⟨e, e.regarding.name.getD Settings.controller ++ "." ++ toString now.nanoseconds, now, none⟩

/-- A posted event whose matter came up again. -/
def again (now : Stamp) (p : Posted) : Posted :=
  { p with series := some (match p.series with | some (n, _) => n + 1 | none => 2, now) }

def seriesJson (s : Nat × Stamp) : Json :=
  .object [("count", some (.nat s.1)), ("lastObservedTime", some (.str s.2.microText))]

def toJson (p : Posted) : Json :=
  .object [("action", some (.str p.event.action)), ("apiVersion", some (.str version)),
    ("eventTime", some (.str p.time.microText)), ("kind", some (.str "Event")),
    ("metadata", some (.object [("name", some (.str p.name)), ("namespace", p.event.regarding.space.map .str)])),
    ("note", p.event.note.map .str), ("reason", some (.str p.event.reason)),
    ("regarding", some p.event.regarding.toJson), ("reportingController", some (.str Settings.controller)),
    ("reportingInstance", some (.str Settings.controller)), ("series", p.series.map seriesJson),
    ("type", some (.str p.event.kind.word))]

/-- Checks that the answer to a posted event is one. -/
def answer : Decode.Reader Unit :=
  Decode.platform "Event" fun s =>
    (Decode.Reading.ok fun _ _ _ _ _ _ _ _ => ())
      |>.and (s.defaulted 0 "apiVersion" (Decode.fixed version) ())
      |>.and (s.defaulted 1 "kind" (Decode.fixed "Event") ())
      |>.and (s.optional 2 "action" Decode.string)
      |>.and (s.defaulted 3 "metadata" Metadata.ofJson .empty)
      |>.and (s.optional 4 "note" Decode.string)
      |>.and (s.optional 5 "reason" Decode.string)
      |>.and (s.optional 6 "regarding" Reference.ofJson)
      |>.and (s.optional 7 "type" Decode.string)

/-- The request that tells of a posted event. -/
def request (p : Posted) : Except Api.Failure Http.Request :=
  match p.series with
  | none => createRequest (collection p.event) (toJson p)
  | some _ => patchRequest (collection p.event) p.name none [] mergeType (toJson p)

/-- What is to be posted for an event. -/
def next (r : Recorder) (now : Stamp) (e : Event) : Posted :=
  match r.find? fun p => p.event.sameMatter e with
  | some p => again now p
  | none => first now e

/-- The recorder after an event was posted. -/
def remember (r : Recorder) (p : Posted) : Recorder :=
  p :: r.filter fun q => !q.event.sameMatter p.event

def publish {σ : Type} (link : Http.Link σ) (now : Stamp) (e : Event) (s : Recorder × σ) : Recorder × σ :=
  let p := next s.1 now e
  match send link answer (request p) s.2 with
  | (.ok (), t) => (remember s.1 p, t)
  | (.error _, t) => (s.1, t)

end Recorder

end ProfilingOperator.Client
