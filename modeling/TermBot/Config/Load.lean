import TermBot.Config.Layers
import TermBot.Config.Yaml
import TermBot.Files.Tree

/-!
# Loading configurations

A configuration comes from a file that is named, or from the first one that the search paths have, or
without a file from the defaults and the environment alone. A loader is used for one load after another: the
configurations that it has made and its defaults stand in one memory.
-/

namespace TermBot.Config

/-- The notation of a file. -/
inductive Format where
  | yaml
  | json
  deriving DecidableEq, Repr

/-- The name of a format. -/
def Format.label : Format → String
  | .yaml => "yaml"
  | .json => "json"

/-- The format with a name. -/
def Format.ofName? : String → Option Format
  | "yaml" => some .yaml
  | "json" => some .json
  | _ => none

/-- The format of files with an ending. -/
def Format.ofExtension? : String → Option Format
  | ".yaml" | ".yml" => some .yaml
  | ".json" => some .json
  | _ => none

/-- Why there is no configuration. -/
inductive LoadError where
  | unsupportedFile (extension : String)
  | unsupportedFormat (name : String)
  | notFound (path : String)
  | unreadableFile (e : Files.ReadError)
  | unreadableFound (path : String) (e : Files.ReadError)
  /-- The file at `path`, if it was searched for, does not give a configuration. -/
  | layers (path : Option String) (format : Format) (e : LayerError)
  /-- Without a file there is none. -/
  | bare (e : LayerError)
  deriving DecidableEq, Repr

/-- The wording for a fault of the configuration itself. -/
def invalidMessage (f : ConfigFault) : String := "configuration validation error: " ++ f.message

/-- The wording of an error. -/
def LoadError.message : LoadError → String
  | .unsupportedFile e => "unsupported config file format: " ++ e
  | .unsupportedFormat f => "unsupported config format: " ++ f
  | .notFound p => "configuration file not found: " ++ p
  | .unreadableFile e => "failed to read config file: " ++ e.message
  | .unreadableFound p e => "failed to read config file " ++ p ++ ": " ++ e.message
  | .layers path format e =>
    (match path with
      | some p => "config file " ++ p ++ ": "
      | none => "") ++
    match e with
    | .unreadable => "configuration parse error: " ++ format.label
    | .environment f => "failed to load environment overrides: " ++ f.message
    | .invalid f => invalidMessage f
  | .bare e =>
    match e with
    | .unreadable => ""
    | .environment f => "failed to load config from environment: " ++ f.message
    | .invalid f => invalidMessage f

/-- How configurations are loaded. -/
structure Loader where
  searchPaths : List String := []
  /-- What the names of environment variables start with. -/
  scope : String := "CALBOT"
  env : Environment := fun _ => none
  /-- The configurations made so far. -/
  memory : Memory := { cells := #[standard] }
  /-- Where the defaults are kept; without any they are the standard configuration. -/
  defaults : Option Address := some 0

/-- The draft in a text. -/
def draft? (format : Format) (text : String) : Option Draft :=
  match format with
  | .yaml => Draft.ofYaml? text
  | .json => (Json.read? text).bind Draft.ofJson?

/-- The names of files that are searched for, in order. -/
def fileNames : List String :=
  ["calbot.yaml", "calbot.yml", "config.yaml", "config.yml", "calbot.json", "config.json"]

namespace Loader

/-- The loader with other defaults. -/
def withDefaults (l : Loader) : Option Config → Loader
  | none => { l with defaults := none }
  | some c =>
    let (p, memory) := (Memory.keep c).run l.memory
    { l with memory, defaults := some p }

/-- Makes a configuration that is kept in the memory of the loader. -/
def perform (l : Loader) (make : Loader → Loading LoadError Address) : Except LoadError Config × Loader :=
  let (made, memory) := (make l).run.run l.memory
  (made.map fun p => (memory.at? p).getD {}, { l with memory })

/-- The configuration in a text. -/
def ofText (l : Loader) (path : Option String) (format : Format) (text : String) : Loading LoadError Address :=
  (finish l.defaults (draft? format text) l.env l.scope).adapt (.layers path format)

/-- The configuration in a text whose format has a name. -/
def ofNamedText (l : Loader) (format text : String) : Loading LoadError Address :=
  match Format.ofName? format with
  | some f => l.ofText none f text
  | none => throw (.unsupportedFormat format)

/-- The configuration in a file. -/
def ofFile (l : Loader) (tree : Files.Tree) (path : String) : Loading LoadError Address :=
  let ext := Text.lowerText (Files.extension path)
  match Format.ofExtension? ext with
  | none => throw (.unsupportedFile ext)
  | some f =>
    match tree.read path with
    | .ok text => l.ofText none f text
    | .error .missing => throw (.notFound path)
    | .error e => throw (.unreadableFile e)

/-- The first file that the search paths have. -/
def search? (l : Loader) (tree : Files.Tree) : Option String :=
  (l.searchPaths.flatMap fun dir => fileNames.map (Files.join dir)).find? tree.has

/-- The configuration without a file that is named. -/
def discover (l : Loader) (tree : Files.Tree) : Loading LoadError Address :=
  match l.search? tree with
  | none => (bare l.defaults l.env l.scope).adapt .bare
  | some path =>
    match tree.read path with
    | .error e => throw (.unreadableFound path e)
    | .ok text => l.ofText (some path) ((Format.ofExtension? (Files.extension path)).getD .yaml) text

/-- The configuration in the file of that name, or in one that is searched for. -/
def load (l : Loader) (tree : Files.Tree) (path : String) : Loading LoadError Address :=
  if path = "" then l.discover tree else l.ofFile tree path

end Loader

end TermBot.Config
