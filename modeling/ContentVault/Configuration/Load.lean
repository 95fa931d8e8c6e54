import ContentVault.Configuration.Environment
import ContentVault.Configuration.Extraction
import ContentVault.Document.Json
import ContentVault.Document.Toml
import ContentVault.Document.Yaml

/-!
# Loading the configuration

* the layers, each laid over those before it: the defaults, the files in the
  configuration directory, a file that is named explicitly, the environment;
* a file's format is told by its extension;
* a layer that sets one key hides no other key.
-/

namespace ContentVault

/-- The format of a configuration file. -/
inductive FileFormat where
  | toml
  | yaml
  | json
  deriving DecidableEq, Repr

namespace FileFormat

/-- The format of the files with an extension. -/
def ofExtension? (extension : String) : Option FileFormat :=
  let plain := lowercase extension
  if plain = "toml" then some .toml
  else if plain = "yaml" ∨ plain = "yml" then some .yaml
  else if plain = "json" then some .json
  else none

/-- The format of the file at a path. -/
def ofPath? (path : String) : Option FileFormat := do
  let extension ← pathExtension? (Utf8.encode path)
  let text ← Utf8.decode? (ByteArray.mk extension.toArray)
  ofExtension? text

/-- The document that a text spells in a format. -/
def read? : FileFormat → String → Option Document
  | .toml, text => Document.ofToml? text
  | .yaml, text => Document.ofYaml? text
  | .json, text => Document.ofJson? text

end FileFormat

namespace Configuration

/-- The configuration that layers give, the lowest one first. -/
def ofLayers (default : Configuration) (layers : List Document) :
    Except ConfigurationError Configuration := do
  let merged := layers.foldl (fun lower upper => upper.laidOver lower) (.table [])
  let configuration ← ofDocument default merged
  configuration.validate
  return configuration

/-- The content of the regular file at a path. -/
def fileContent? (tree : FileTree) (environment : Environment) (path : String) :
    Option ByteArray :=
  match tree.locate environment.workingDirectory (Utf8.encode path) with
  | .ok names => (tree.contentOf names).toOption
  | .error _ => none

/-- The table that a file holds. -/
def layerOf (format : FileFormat) (path : String) (content : ByteArray) :
    Except ConfigurationError Document :=
  match (Utf8.decode? content).bind format.read? with
  | some (.table entries) => .ok (.table entries)
  | _ => .error (.malformed (path ++ " cannot be read"))

/-- The layer of the file at a path, if there is one. -/
def fileLayer (tree : FileTree) (environment : Environment) (path : String)
    (format : FileFormat) : Except ConfigurationError (List Document) :=
  match fileContent? tree environment path with
  | some content => (layerOf format path content).map fun layer => [layer]
  | none => .ok []

/-- The names of the files in the configuration directory with their formats, the
lowest layer first. -/
def standardFiles : List (String × FileFormat) :=
  [("cairn.toml", .toml), ("cairn.yaml", .yaml), ("cairn.json", .json)]

/-- The format of an explicitly named file, which has to be there. -/
def explicitFormat (tree : FileTree) (environment : Environment) (path : String) :
    Except ConfigurationError FileFormat :=
  match fileContent? tree environment path with
  | none => .error (.fileNotFound path)
  | some _ =>
      match FileFormat.ofPath? path with
      | some format => .ok format
      | none => .error (.unsupportedFormat path)

/-- Load the configuration. -/
def load (tree : FileTree) (environment : Environment) (explicit : Option String) :
    Except ConfigurationError Configuration := do
  let named ← explicit.mapM fun path => do
    return (path, ← explicitFormat tree environment path)
  let standard := standardFiles.map fun (name, format) =>
    (joinPath environment.configurationDirectory name, format)
  let layers ← (standard ++ named.toList).mapM fun (path, format) =>
    fileLayer tree environment path format
  ofLayers (default environment.dataDirectory) (layers.flatten ++ [environment.settings])

end Configuration

end ContentVault
