/-!
Shell variables.

A shell keeps named variables, some of them exported to the programs it
runs, and the positional parameters `$1`, `$2`, … with the name `$0`. The
special parameters `$$`, `$!` and `$?` come from the shell's process and are
passed next to the variables when words are expanded.

* **`Vars.get?_set`**: a variable reads back what was last set.
-/

namespace LaunchBench.Shell

/-- The variables and parameters of a shell. -/
structure Vars where
  /-- Named variables, each name once. -/
  values : List (String × String)
  /-- The names exported to programs the shell runs. -/
  exported : List String
  /-- The positional parameters. -/
  args : List String
  /-- The name the shell was started as. -/
  arg0 : String
deriving Repr, Inhabited

namespace Vars

/-- The variables of a shell started with an environment: all exported. -/
def ofEnv (env : List (String × String)) (arg0 : String) (args : List String) : Vars :=
  ⟨env, env.map (·.1), args, arg0⟩

/-- The value of a variable. -/
def get? (v : Vars) (name : String) : Option String :=
  (v.values.find? (·.1 == name)).map (·.2)

/-- Sets a variable, keeping its place when it was already set. -/
def set (v : Vars) (name value : String) : Vars :=
  if v.values.any (·.1 == name) then
    { v with values := v.values.map fun (n, x) => if n == name then (n, value) else (n, x) }
  else { v with values := v.values ++ [(name, value)] }

/-- Removes a variable. -/
def unset (v : Vars) (name : String) : Vars :=
  { v with values := v.values.filter (·.1 != name), exported := v.exported.filter (· != name) }

/-- Marks a variable as exported. -/
def markExported (v : Vars) (name : String) : Vars :=
  if v.exported.contains name then v else { v with exported := v.exported ++ [name] }

/-- The environment handed to a program: the exported variables that are set. -/
def environment (v : Vars) : List (String × String) :=
  v.values.filter fun (n, _) => v.exported.contains n

/-- The field separators: `IFS`, or blank, tab and newline when it is unset. -/
def ifs (v : Vars) : String := (v.get? "IFS").getD " \t\n"

theorem get?_set (v : Vars) (name value : String) : (v.set name value).get? name = some value := by
  unfold set get?
  split
  · rename_i h
    obtain ⟨⟨n, x⟩, hmem, hn⟩ := List.any_eq_true.mp h
    have hfind : ∃ p ∈ v.values.map (fun (q : String × String) =>
        if q.1 == name then (q.1, value) else (q.1, q.2)), p.1 == name := by
      refine ⟨if n == name then (n, value) else (n, x), List.mem_map.mpr ⟨(n, x), hmem, rfl⟩, ?_⟩
      simp only at hn
      simp [hn]
    obtain ⟨p, hp, hpn⟩ := hfind
    cases hf : List.find? (fun q => q.1 == name) (v.values.map fun (q : String × String) =>
        if q.1 == name then (q.1, value) else (q.1, q.2)) with
    | none => exact absurd (List.find?_eq_none.mp hf p hp) (by simp [hpn])
    | some q =>
      have hq := List.find?_some hf
      have hmq := List.mem_of_find?_eq_some hf
      obtain ⟨r, _, hr⟩ := List.mem_map.mp hmq
      simp only [beq_iff_eq] at hq
      subst hr
      split at hq <;> simp_all
  · rename_i h
    simp only [Bool.not_eq_true, List.any_eq_false] at h
    rw [List.find?_append]
    have : List.find? (fun q => q.1 == name) v.values = none :=
      List.find?_eq_none.mpr fun q hq => by simpa using h q hq
    simp [this]

end Vars

end LaunchBench.Shell
