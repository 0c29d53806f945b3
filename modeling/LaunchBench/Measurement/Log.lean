import LaunchBench.Measurement
import LaunchBench.Host.FileTree
import LaunchBench.HostPath
/-!
The measurements log: a CSV file on the host that grows by one row per
measurement.

The header is written only when the file does not exist yet, so it is the
header of the first measurement logged; the directories above the file are
made when missing.
-/

namespace LaunchBench

open Host

/-- Appends a measurement to the CSV file at `path`, read from the directory `cwd`. -/
def appendMeasurement (m : Measurement) (fs : FileTree) (cwd : Location) (path : HostPath) :
    Except IoError FileTree := do
  let writeHeader := !fs.existsAt cwd path
  let loc ← (locate cwd path).mapError IoError.os
  let fs ← match HostPath.parent? path with
    | some p =>
      if p.isEmpty then pure fs
      else do
        let ploc ← (locate cwd p).mapError IoError.os
        (fs.mkdirAll ploc).mapError IoError.os
    | none => pure fs
  let text := (if writeHeader then m.headerCsv ++ "\n" else "") ++ m.lineCsv ++ "\n"
  (fs.write loc (Text.utf8Bytes text) true).mapError IoError.os

end LaunchBench
