import LaunchBench.Toml.Decode
import LaunchBench.HostPath
/-!
Application descriptors.

An application under test is described by its name, the directory of its
sources in the repository, the pages that prove it is up (the first one is
the readiness check, the others are checked afterwards without timing), the
log lines it is allowed to print, an optional source edit that proves live
reload, and, for generated projects, the extensions to generate it with.

Descriptors are decoded from the `[[app]]` tables of a registry file. A
descriptor refuses keys it does not know; a page and an edit ignore them.
-/

namespace LaunchBench.App

open LaunchBench.Toml

/-- A page the application must serve, and a text its body must contain. -/
structure PageCheck where
  /-- The page's path below the application's address. -/
  path : String
  /-- A text the body must contain. -/
  expected : String
deriving Repr, DecidableEq

/-- A change to one source file during live coding, and the page that shows
the change took effect. -/
structure SourceEdit where
  /-- The file, relative to the application's directory. -/
  file : HostPath
  /-- The text replaced. -/
  before : String
  /-- The text put in its place. -/
  after : String
  /-- The page that shows the change. -/
  path : String
  /-- What the page must contain after the change. -/
  expected : String
deriving Repr, DecidableEq

/-- An application under test. -/
structure Descriptor where
  /-- Its name. -/
  name : String
  /-- Its source directory, relative to the repository. -/
  dir : HostPath
  /-- Pages checked once it runs; the first is the readiness check. -/
  pages : List PageCheck
  /-- Patterns of log lines it may print. -/
  whitelist : List String
  /-- The edit made during live coding, if any. -/
  edit : Option SourceEdit
  /-- Extensions to generate the project with. -/
  extensions : List String
  /-- Whether its sources come from the generator instead of a copy. -/
  generated : Bool
deriving Repr, DecidableEq

namespace Descriptor

/-- The readiness check: the first page. -/
def readiness? (d : Descriptor) : Option PageCheck := d.pages.head?

/-- The pages checked after readiness. -/
def additionalPages (d : Descriptor) : List PageCheck := d.pages.drop 1

/-- The source directory below a repository. -/
def sourceDir (d : Descriptor) (repo : HostPath) : HostPath := repo.join d.dir

end Descriptor

/-- The shape of a page table. -/
def pageShape : RecordShape := ⟨"ProbeUrl", [("path", false), ("expected", false)], false⟩

/-- Decodes a page. -/
def decodePage : Decoder PageCheck := fun n => do
  let g ← pageShape.collect (checksOf [checkWith string, checkWith string]) n
  let p ← required g 0 "path" string
  let e ← required g 1 "expected" string
  .ok ⟨p, e⟩

/-- The shape of an edit table. -/
def editShape : RecordShape :=
  ⟨"ReloadEdit", [("file", false), ("from", false), ("to", false), ("path", false),
    ("expected", false)], false⟩

/-- Decodes a source edit. -/
def decodeEdit : Decoder SourceEdit := fun n => do
  let g ← editShape.collect
    (checksOf [checkWith path, checkWith string, checkWith string, checkWith string,
      checkWith string]) n
  let f ← required g 0 "file" path
  let b ← required g 1 "from" string
  let a ← required g 2 "to" string
  let p ← required g 3 "path" string
  let e ← required g 4 "expected" string
  .ok ⟨f, b, a, p, e⟩

/-- The shape of an application table; it refuses unknown keys. -/
def descriptorShape : RecordShape :=
  ⟨"AppDescriptor", [("name", false), ("dir", false), ("url", true), ("whitelist", true),
    ("reload", true), ("extensions", true), ("generated", true)], true⟩

/-- Decodes an application descriptor. -/
def decodeDescriptor : Decoder Descriptor := fun n => do
  let g ← descriptorShape.collect
    (checksOf [checkWith string, checkWith path, checkWith (list decodePage),
      checkWith (list string), checkWith decodeEdit, checkWith (list string),
      checkWith boolean]) n
  let name ← required g 0 "name" string
  let dir ← required g 1 "dir" path
  let pages ← optional g 2 (list decodePage) []
  let whitelist ← optional g 3 (list string) []
  let edit ← optional g 4 (fun v => (decodeEdit v).map some) none
  let extensions ← optional g 5 (list string) []
  let generated ← optional g 6 boolean false
  .ok ⟨name, dir, pages, whitelist, edit, extensions, generated⟩

/-- The shape of a registry file: a list of applications under `app`. -/
def registryShape : RecordShape := ⟨"RegistryFile", [("app", true)], false⟩

/-- Decodes the applications of a registry file. -/
def decodeDescriptors : Decoder (List Descriptor) := fun n => do
  let g ← registryShape.collect (checksOf [checkWith (list decodeDescriptor)]) n
  optional g 0 (list decodeDescriptor) []

end LaunchBench.App
