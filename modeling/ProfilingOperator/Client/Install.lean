import ProfilingOperator.Client.Exchange
import ProfilingOperator.Definition
import ProfilingOperator.Settings

/-!
# Installing definitions

The definitions of the operator's kinds are applied one after the other, under the operator's name and over whatever
another owner said.  The first that cannot be applied ends the installation.
-/

namespace ProfilingOperator.Client

def definitions : Collection :=
  ⟨"/apis/" ++ Definition.documentVersion ++ "/customresourcedefinitions"⟩

/-- Checks that the answer to an installation is a definition. -/
def readDefinition : Decode.Reader Unit :=
  Decode.platform Definition.documentKind fun s =>
    (Decode.Reading.ok fun _ _ _ => ())
      |>.and (s.defaulted 0 "apiVersion" (Decode.fixed Definition.documentVersion) ())
      |>.and (s.defaulted 1 "kind" (Decode.fixed Definition.documentKind) ())
      |>.and (s.defaulted 2 "metadata" Metadata.ofJson .empty)

/-- What is said of a definition that could not be applied. -/
def installMessage (d : Definition) (f : Api.Failure) : String :=
  "Failed to install " ++ d.name ++ " CRD: " ++ f.message

def installRequest (d : Definition) : Except Api.Failure Http.Request :=
  patchRequest definitions d.name none [("force", "true"), ("fieldManager", Settings.controller)] applyType d.toJson

/-- Applies definitions in order, up to the first that fails. -/
def installAll {σ : Type} (link : Http.Link σ) : List Definition → σ → Except String Unit × σ
  | [], s => (.ok (), s)
  | d :: rest, s =>
    match send link readDefinition (installRequest d) s with
    | (.ok (), t) => installAll link rest t
    | (.error f, t) => (.error (installMessage d f), t)

/-- Applies the operator's definitions. -/
def install {σ : Type} (link : Http.Link σ) : σ → Except String Unit × σ :=
  installAll link Definition.all

end ProfilingOperator.Client
