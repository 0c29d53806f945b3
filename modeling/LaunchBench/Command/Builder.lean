import LaunchBench.Command.Template
import LaunchBench.Settings.Basic
import LaunchBench.KeyMap
/-!
Building commands from templates.

A command builder holds a host family, template overrides, placeholder values
and extra environment variables. Building a template takes its tokens (the
override, or the built-in list), fills every `{name}` placeholder of every
token from left to right, and fails at the first token that cannot be filled.
On Windows the build tool is started through its `.cmd` wrapper.

* **`fillToken`** fills one token; a `{` without a later `}` is unterminated,
  and a name without a value is unresolved.
-/

namespace LaunchBench

/-- Why a command could not be built. -/
inductive CommandError where
  /-- The template has no tokens. -/
  | empty (template : Template)
  /-- A placeholder names no known value. -/
  | unresolvedPlaceholder (template : Template) (placeholder : String)
  /-- A token opens a placeholder that it never closes. -/
  | unterminated (token : String)
  /-- The mode has no template for the step. -/
  | noTemplateForMode (mode : Mode) (step : String)
  deriving DecidableEq, Repr

namespace CommandError

/-- The error's text. -/
def message : CommandError → String
  | empty t => "command template " ++ t.name ++ " is empty"
  | unresolvedPlaceholder t p =>
    "unresolved placeholder \x7b" ++ p ++ "\x7d in " ++ t.name ++ " template"
  | unterminated tok => "unterminated placeholder in token: " ++ tok
  | noTemplateForMode m step => "mode " ++ m.name ++ " has no " ++ step ++ " step"

end CommandError

/-- The template that builds a mode's artifact, or why there is none. -/
def Template.forBuild (m : Mode) : Except CommandError Template :=
  match Template.forBuild? m with
  | some t => .ok t
  | none => .error (.noTemplateForMode m "build")

/-- A map from names to texts, kept sorted by name. -/
abbrev TextMap := KeyMap String

/-- A fully resolved invocation of an external program. -/
structure Command where
  /-- The program followed by its arguments. -/
  argv : List String
  workdir : HostPath
  /-- Where the program's output and errors are written. -/
  logFile : HostPath
  /-- Extra environment variables, set over the inherited ones. -/
  env : TextMap
  deriving DecidableEq, Repr

namespace Command

/-- The program: the first word. -/
def program? (c : Command) : Option String :=
  c.argv.head?

/-- The command as one line, its words joined by spaces. -/
def display (c : Command) : String :=
  " ".intercalate c.argv

end Command

/-- Assembles commands from templates and placeholder values. -/
structure CommandBuilder where
  os : OsFamily
  overrides : TemplateOverrides := {}
  params : TextMap := .empty
  env : TextMap := .empty
  deriving Repr

namespace CommandBuilder

/-- The architecture name given to templates. -/
def architecture : String := "x86_64"

/-- A builder with only the host family and architecture as placeholder values. -/
def new (os : OsFamily) : CommandBuilder :=
  { os, params := KeyMap.insert (KeyMap.insert .empty "os" os.name) "arch" architecture }

/-- Replaces the template overrides. -/
def withOverrides (b : CommandBuilder) (o : TemplateOverrides) : CommandBuilder :=
  { b with overrides := o }

/-- Sets or replaces a placeholder value. -/
def withParam (b : CommandBuilder) (k v : String) : CommandBuilder :=
  { b with params := KeyMap.insert b.params k v }

/-- Adds an environment variable to every command built. -/
def withEnv (b : CommandBuilder) (k v : String) : CommandBuilder :=
  { b with env := KeyMap.insert b.env k v }

/-- A builder seeded from the settings: overrides, repository, cache, version and port. -/
def ofSettings (c : Settings) (os : OsFamily) : CommandBuilder :=
  ((((new os).withOverrides c.templates).withParam "repo" c.repoDir).withParam "local_repo"
    c.localRepo |>.withParam "version" c.version).withParam "port" (toString c.port)

/-- The tokens of a template: its override, else the built-in ones. -/
def tokens (b : CommandBuilder) (t : Template) : List String :=
  (b.overrides.get t).getD (t.defaultTokens b.os)

/-- Fills the placeholders of a token's characters. `open` holds the name read so far,
last character first, while inside a placeholder. -/
def fillChars (params : TextMap) (t : Template) (token : String) :
    List Char → Option (List Char) → Except CommandError (List Char)
  | [], none => .ok []
  | [], some _ => .error (.unterminated token)
  | c :: rest, none =>
    if c = '{' then fillChars params t token rest (some [])
    else (fillChars params t token rest none).map (c :: ·)
  | c :: rest, some name =>
    if c = '}' then
      let key := String.ofList name.reverse
      match KeyMap.get? params key with
      | none => .error (.unresolvedPlaceholder t key)
      | some v => (fillChars params t token rest none).map (v.toList ++ ·)
    else fillChars params t token rest (some (c :: name))

/-- Fills every placeholder of a token. -/
def fillToken (b : CommandBuilder) (t : Template) (token : String) : Except CommandError String :=
  (fillChars b.params t token token.toList none).map String.ofList

/-- Fills the tokens from left to right, failing at the first that cannot be filled. -/
def fillAll (b : CommandBuilder) (t : Template) : List String → Except CommandError (List String)
  | [] => .ok []
  | tok :: rest => do
    let v ← b.fillToken t tok
    let vs ← b.fillAll t rest
    return v :: vs

/-- Builds a template into a command that runs in `workdir` and writes to `logFile`. -/
def build (b : CommandBuilder) (t : Template) (workdir logFile : HostPath) :
    Except CommandError Command := do
  let toks := b.tokens t
  if toks.isEmpty then throw (.empty t)
  let argv ← b.fillAll t toks
  let argv := match argv with
    | "mvn" :: rest => if b.os.isWindows then "mvn.cmd" :: rest else argv
    | _ => argv
  return { argv, workdir, logFile, env := b.env }

end CommandBuilder

end LaunchBench
