import LaunchBench.Settings.Parse
import LaunchBench.Host.FileTree
/-!
Settings read from a file on the host.

The file is read whole as UTF-8 text and its lines applied in order over the
settings given; a file that cannot be read changes nothing.
-/

namespace LaunchBench

open Host

namespace Settings

/-- Applies the settings file at `path`, read from the directory `cwd`. -/
def loadFile (c : Settings) (fs : FileTree) (cwd : Location) (path : HostPath) :
    Settings × Option SettingsError :=
  match fs.readTextAt cwd path with
  | .error e => (c, some (.unreadable e))
  | .ok text => c.parseContent text

end Settings

end LaunchBench
