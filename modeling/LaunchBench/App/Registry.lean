import LaunchBench.App.Descriptor
import LaunchBench.Host.Errno
import LaunchBench.Threshold
/-!
The registry of applications under test.

A registry is read from a TOML file whose `[[app]]` tables describe one
application each. Names are unique and every application has at least one
page; the first application, in file order, that repeats an earlier name or
has no page is reported, a repeated name before a missing page.

* **`Registry.get?`** finds an application by its exact name.
-/

namespace LaunchBench.App

open LaunchBench.Toml

/-- Why a registry could not be read or an application not found. -/
inductive RegistryError where
  /-- The file could not be read. -/
  | unreadable (file : HostPath) (reason : Host.IoError)
  /-- The file is not a valid registry: the source text and the error in it. -/
  | invalid (file : HostPath) (source : String) (error : Toml.Error)
  /-- Two applications share a name. -/
  | duplicate (name : String)
  /-- An application has no page to check. -/
  | noPages (name : String)
  /-- No application has the name asked for. -/
  | unknown (name : String)
  /-- An application's thresholds could not be read. -/
  | thresholds (e : ThresholdError)

namespace RegistryError

/-- The message of the error. -/
def message : RegistryError → String
  | .unreadable f r => "failed to read " ++ f ++ ": " ++ r.message
  | .invalid f src e => "failed to parse " ++ f ++ ": " ++ e.render src
  | .duplicate n => "duplicate application name: " ++ n
  | .noPages n => "application " ++ n ++ " declares no probe URL"
  | .unknown n => "unknown application: " ++ n
  | .thresholds e => e.message

/-- The name of the error's kind. -/
def kind : RegistryError → String
  | .unreadable .. => "Read"
  | .invalid .. => "Parse"
  | .duplicate .. => "Duplicate"
  | .noPages .. => "NoUrls"
  | .unknown .. => "Unknown"
  | .thresholds .. => "Threshold"

end RegistryError

/-- The applications of a registry, in file order. -/
structure Registry where
  /-- The applications. -/
  apps : List Descriptor
deriving Repr

namespace Registry

/-- The first problem with a list of applications: a repeated name, or one
without pages, whichever the earlier application shows. -/
def firstProblem : List String → List Descriptor → Option RegistryError
  | _, [] => none
  | seen, d :: ds =>
    if seen.contains d.name then some (.duplicate d.name)
    else if d.pages.isEmpty then some (.noPages d.name)
    else firstProblem (d.name :: seen) ds

/-- Reads a registry from its text; `origin` names the file in errors. -/
def parse (content : String) (origin : HostPath) : Except RegistryError Registry :=
  match Toml.parse content with
  | .error e => .error (.invalid origin content e)
  | .ok root =>
    match decodeDescriptors root with
    | .error e => .error (.invalid origin content (e.toError content))
    | .ok apps =>
      match firstProblem [] apps with
      | some p => .error p
      | none => .ok ⟨apps⟩

/-- The application with the given name. -/
def get? (r : Registry) (name : String) : Except RegistryError Descriptor :=
  match r.apps.find? (·.name == name) with
  | some d => .ok d
  | none => .error (.unknown name)

/-- The number of applications. -/
def size (r : Registry) : Nat := r.apps.length

end Registry

end LaunchBench.App
