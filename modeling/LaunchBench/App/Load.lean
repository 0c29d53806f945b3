import LaunchBench.App.Registry
import LaunchBench.Host.FileTree
/-!
Registries and thresholds read from the host.

A registry file is read whole as UTF-8 text and named in its errors by the
path it was read from. An application's thresholds live in `threshold.conf`
in its source directory; a missing file means no thresholds, and every
threshold found can be overridden from the environment.
-/

namespace LaunchBench.App

open Host

/-- The name of an application's threshold file. -/
def thresholdFile : String := "threshold.conf"

/-- Reads the registry at `path`, from the directory `cwd`. -/
def Registry.load (fs : FileTree) (cwd : Location) (path : HostPath) : Except RegistryError Registry :=
  match fs.readTextAt cwd path with
  | .error e => .error (.unreadable path e)
  | .ok text => Registry.parse text path

/-- Reads a threshold file; a missing one gives no thresholds. -/
def loadThresholdFile (fs : FileTree) (cwd : Location) (path : HostPath) :
    Except ThresholdError ThresholdSet :=
  if !fs.existsAt cwd path then .ok .empty
  else match fs.readTextAt cwd path with
    | .error e => .error (.unreadable e)
    | .ok text => ThresholdSet.parse text

/-- An application's thresholds, overridden from the environment `lookup`. -/
def Descriptor.loadThresholds (d : Descriptor) (fs : FileTree) (cwd : Location) (repo : HostPath)
    (lookup : String → Option String) : Except ThresholdError ThresholdSet := do
  let t ← loadThresholdFile fs cwd ((d.sourceDir repo).join thresholdFile)
  ThresholdSet.withEnv t lookup

end LaunchBench.App
