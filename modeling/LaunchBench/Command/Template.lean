import LaunchBench.Platform
/-!
Command templates.

A template is a named list of tokens for one step of a scenario: building,
running, building natively, running natively, running in development mode or
generating a project. Tokens may hold `{name}` placeholders that a command
builder fills in. Each mode has one template to start the application and at
most one to build it.
-/

namespace LaunchBench

/-- The named command templates. -/
inductive Template where
  | build
  | run
  | nativeBuild
  | nativeRun
  | dev
  | generate
  deriving DecidableEq, Repr, Inhabited

namespace Template

/-- The template's name. -/
def name : Template → String
  | build => "build"
  | run => "run"
  | nativeBuild => "native-build"
  | nativeRun => "native-run"
  | dev => "dev"
  | generate => "generate"

/-- All templates. -/
def all : List Template := [build, run, nativeBuild, nativeRun, dev, generate]

/-- The template with a given name. -/
def ofName? (s : String) : Option Template :=
  all.find? fun t => t.name = s

/-- The template that builds the artifact of a mode; the development mode builds nothing. -/
def forBuild? : Mode → Option Template
  | .jvm => some build
  | .native => some nativeBuild
  | .generator => some generate
  | .dev => none

/-- The template that starts the application in a mode. -/
def forRun : Mode → Template
  | .jvm => run
  | .native => nativeRun
  | .dev | .generator => dev

/-- The built-in tokens of a template on a host family. -/
def defaultTokens (os : OsFamily) : Template → List String
  | build =>
    ["mvn", "clean", "package", "-DskipTests", "-Dquarkus.package.output-name=quarkus",
      "-Dmaven.repo.local={local_repo}", "-Dquarkus.version={version}"]
  | run => ["java", "-jar", "target/quarkus-app/quarkus-run.jar"]
  | nativeBuild =>
    ["mvn", "clean", "package", "-Pnative", "-DskipTests",
      "-Dquarkus.package.output-name=quarkus", "-Dmaven.repo.local={local_repo}",
      "-Dquarkus.version={version}"]
  | nativeRun => if os.isWindows then ["target\\quarkus-runner.exe"] else ["./target/quarkus-runner"]
  | dev => ["mvn", "quarkus:dev", "-Dmaven.repo.local={local_repo}", "-Dquarkus.version={version}"]
  | generate =>
    ["mvn", "io.quarkus:quarkus-maven-plugin:{version}:create",
      "-DprojectGroupId=io.quarkus.startstop", "-DprojectArtifactId={app}",
      "-DprojectVersion=1.0.0-SNAPSHOT", "-DplatformArtifactId=quarkus-bom",
      "-Dextensions={extensions}", "-Dmaven.repo.local={local_repo}"]

theorem ofName?_name (t : Template) : ofName? t.name = some t := by
  cases t <;> decide

end Template

/-- Token lists that replace built-in templates; `none` keeps the built-in one. -/
structure TemplateOverrides where
  build : Option (List String) := none
  run : Option (List String) := none
  nativeBuild : Option (List String) := none
  nativeRun : Option (List String) := none
  dev : Option (List String) := none
  generate : Option (List String) := none
  deriving DecidableEq, Repr, Inhabited

namespace TemplateOverrides

/-- The override for one template. -/
def get (o : TemplateOverrides) : Template → Option (List String)
  | .build => o.build
  | .run => o.run
  | .nativeBuild => o.nativeBuild
  | .nativeRun => o.nativeRun
  | .dev => o.dev
  | .generate => o.generate

/-- Replaces the override for one template. -/
def set (o : TemplateOverrides) (t : Template) (v : Option (List String)) : TemplateOverrides :=
  match t with
  | .build => { o with build := v }
  | .run => { o with run := v }
  | .nativeBuild => { o with nativeBuild := v }
  | .nativeRun => { o with nativeRun := v }
  | .dev => { o with dev := v }
  | .generate => { o with generate := v }

@[simp] theorem get_set_self (o : TemplateOverrides) (t : Template) (v : Option (List String)) :
    (o.set t v).get t = v := by
  cases t <;> rfl

end TemplateOverrides

end LaunchBench
