/-
Loading settings. From the lowest to the highest the layers are: the defaults, the overlay of the
profile, the main file, the environment variables, and settings that are laid over all of them.

Without a file to load, the main file is the first that is there, by directory, by name and by
extension. The overlay is the file under the same path but for the profile between its name and its
extension.
-/

import BotHost.Settings.Layer
import BotHost.Settings.Profile
import BotHost.Settings.Variable
import BotHost.Text.Path
import BotHost.Toml.Document
import BotHost.Yaml.Value

namespace BotHost

/-- Formats of files. -/
inductive FileFormat where
  | toml
  | yaml
deriving DecidableEq, Repr

namespace FileFormat

def all : List FileFormat := [.toml, .yaml]

def extensions : FileFormat → List String
  | .toml => ["toml"]
  | .yaml => ["yaml", "yml"]

/-- The format that a path's extension stands for. -/
def ofPath? (path : String) : Option FileFormat := do
  let extension ← Path.extension? path
  all.find? fun format => format.extensions.contains extension

/-- Reads a text as a layer. -/
def read? : FileFormat → String → Option Json
  | .toml, text => Toml.read? text
  | .yaml, text => Yaml.read? text

end FileFormat

/-- What loading sees of its surroundings: the environment variables, the current directory, the user's
directory for configurations, and the texts of files by their paths. What becomes of a variable in whose
path a part is empty is up to whoever reads the variables; nothing needs to become of it. -/
structure Surroundings where
  environment : List (String × String)
  directory : String
  configDirectory : Option String
  file? : String → Option String
  oddVariable? : String × String → Option Json := fun _ => none

namespace Surroundings

def textOf? (surroundings : Surroundings) (name : String) : Option String :=
  (surroundings.environment.find? fun entry => entry.1 == name).map Prod.snd

def hasFile (surroundings : Surroundings) (path : String) : Bool :=
  (surroundings.file? path).isSome

end Surroundings

/-- What to load, and from where. -/
structure Loader where
  profile : Profile
  directories : List String := []
  file : Option String := none
  usesVariables : Bool := true
  overrides : List Settings := []

namespace Loader

/-- A loader with the profile and the file that the environment names. -/
def ofSurroundings (surroundings : Surroundings) : Loader where
  profile := ((surroundings.textOf? Variable.profileName).map Profile.ofName).getD .development
  file := surroundings.textOf? Variable.fileName

/-! ### The main file -/

/-- The names of main files without their extensions. -/
def stems : List String := ["blockbot", "config"]

/-- The directories to search. -/
def searched (loader : Loader) (surroundings : Surroundings) : List String :=
  if loader.directories.isEmpty then
    surroundings.directory ::
      (surroundings.configDirectory.map fun directory => Path.join directory "blockbot").toList
  else loader.directories

/-- A place for a main file. -/
structure Candidate where
  directory : String
  stem : String
  format : FileFormat
  extension : String
deriving DecidableEq, Repr

namespace Candidate

def main (candidate : Candidate) : String :=
  Path.join candidate.directory (candidate.stem ++ "." ++ candidate.extension)

def overlay (candidate : Candidate) (profile : Profile) : String :=
  Path.join candidate.directory
    (candidate.stem ++ "." ++ profile.name ++ "." ++ candidate.extension)

end Candidate

/-- The places for a main file in the order of the search. -/
def candidates (directories : List String) : List Candidate :=
  directories.flatMap fun directory =>
    stems.flatMap fun stem =>
      FileFormat.all.flatMap fun format =>
        format.extensions.map fun extension => ⟨directory, stem, format, extension⟩

/-- The first place with a main file. -/
def discover? (loader : Loader) (surroundings : Surroundings) : Option Candidate :=
  (candidates (loader.searched surroundings)).find? fun candidate =>
    surroundings.hasFile candidate.main

/-- The paths that loading may look at. -/
def paths (loader : Loader) (surroundings : Surroundings) : List String :=
  match loader.file with
  | some path => [path]
  | none => (candidates (loader.searched surroundings)).flatMap fun candidate =>
    [candidate.main, candidate.overlay loader.profile]

/-! ### Layers -/

/-- The layer of a file, if the file is there; a layer that cannot be read is nothing. -/
def fileLayer (surroundings : Surroundings) (format : FileFormat) (path : String) :
    List (Option Json) :=
  match surroundings.file? path with
  | some text => [format.read? text]
  | none => []

/-- The layers of the files, lowest first. -/
def fileLayers (loader : Loader) (surroundings : Surroundings) :
    Except SettingsFault (List (Option Json)) :=
  match loader.file with
  | some path =>
    if surroundings.hasFile path then
      match FileFormat.ofPath? path with
      | some format => .ok (fileLayer surroundings format path)
      | none => .error (.unsupportedFormat path)
    else .error (.fileNotFound path)
  | none =>
    match loader.discover? surroundings with
    | some candidate =>
      .ok (fileLayer surroundings candidate.format (candidate.overlay loader.profile) ++
        fileLayer surroundings candidate.format candidate.main)
    | none => .ok []

/-- The layer of the environment variables, each laid over those before it. -/
def variableLayer? (loader : Loader) (surroundings : Surroundings) : Option Json :=
  if loader.usesVariables then
    some (Json.overlayAll
      (surroundings.environment.filterMap (Variable.settings? surroundings.oddVariable?)))
  else none

/-- All layers, lowest first. -/
def layers (loader : Loader) (surroundings : Surroundings) :
    Except SettingsFault (List (Option Json)) :=
  (loader.fileLayers surroundings).map fun files =>
    some (Settings.toJson {}) :: files ++
      (loader.variableLayer? surroundings).toList.map some ++
      loader.overrides.map fun settings => some settings.toJson

/-- Loads settings and checks them. -/
def load (loader : Loader) (surroundings : Surroundings) (now : Moment) :
    Except SettingsFault Settings := do
  let layers ← loader.layers surroundings
  match (layers.mapM id).bind (Settings.ofLayers? now) with
  | none => .error .unreadable
  | some settings =>
    settings.validate
    .ok settings

end Loader

end BotHost
