import LaunchBench.Cli.Run
import LaunchBench.Host.Setup
/-!
The program's command line.

The program runs on a fresh host of the model, with the arguments it was
given, the environment variables it reads, and the working directory named by
`PWD`. Everything it decides is in `Cli.run`; this layer only collects those
inputs and prints what the run wrote, ending with its exit code. The host's
user database is not read here, so a home directory comes from `HOME` alone.
-/

namespace LaunchBench

/-- The environment variables the program reads or passes on to the commands
it starts. -/
def watchedVariables : List String :=
  ["PATH", "HOME", Cli.configVariable] ++ SettingKey.all.map (·.envName)

end LaunchBench

/-- Runs the program with the process's arguments and environment. -/
def main (args : List String) : IO UInt32 := do
  let env ← LaunchBench.watchedVariables.filterMapM fun n => do
    return (← IO.getEnv n).map ((n, ·))
  let cwd := ((← IO.getEnv "PWD").map LaunchBench.Host.pathParts).getD []
  let (_, out) := LaunchBench.Cli.run (LaunchBench.Host.World.fresh LaunchBench.Host.baseFiles) args env
    none cwd LaunchBench.Probe.Network.down
  IO.print out.stdout
  IO.eprint out.stderr
  return out.code.toUInt32
