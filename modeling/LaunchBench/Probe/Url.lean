/-!
Addresses of the pages a probe asks for.

A page's address is the application's base address and the page's path with
exactly one slash between them: every slash at the end of the base and at the
start of the path is dropped, and one is put back.
-/

namespace LaunchBench.Probe

/-- The base address, then one slash, then the path. -/
def joinUrl (base path : String) : String :=
  String.ofList (base.toList.reverse.dropWhile (· == '/')).reverse ++ "/" ++
    String.ofList (path.toList.dropWhile (· == '/'))

example : joinUrl "http://h///" "///x///" = "http://h/x///" := by decide

end LaunchBench.Probe
