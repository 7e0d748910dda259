import EntityGateway.Configuration.Codec
import EntityGateway.Configuration.Schema
import EntityGateway.Script.Basic

/-!
# Configuration directories

A configuration directory holds the configuration file and its schema. Reading a directory gives the
settings, or the first thing wrong with them; writing one makes the directory if it is missing.
-/

namespace EntityGateway

/-- The cause for which a configuration cannot be read, used or written. -/
inductive ConfigurationError where
  | unreadable (path : String) (cause : FileError)
  /-- The file does not hold settings; the reader stopped at a line. -/
  | malformed (path : String) (line : Nat)
  | unsupportedVersion (path : String) (version : UInt32)
  | unset (cause : UnsetVariable)
  | unwritable (cause : FileError)
  deriving DecidableEq

namespace Configuration

/-- The name of the configuration file. -/
def fileName : String := "configuration.json"

/-- The name of the file with the schema. -/
def schemaFileName : String := "schema.json"

end Configuration

/-- The message about a cause. -/
def ConfigurationError.message : ConfigurationError → String
  | unreadable path cause => "I/O error: " ++ path ++ ": " ++ cause.message
  | malformed path line =>
    "parse error on " ++ path ++ ":" ++ String.ofList (Nat.toDigits 10 line)
  | unsupportedVersion path version =>
    "unsupported configuration version " ++ String.ofList (Nat.toDigits 10 version.toNat) ++
      " in " ++ path
  | unset cause =>
    "invalid configuration in " ++ Configuration.fileName ++ ": the environment variable " ++
      cause.name ++ " is not set"
  | unwritable cause => "I/O error: " ++ cause.message

/-- The messages about a cause and about what is behind it. -/
def ConfigurationError.chain : ConfigurationError → List String
  | unwritable cause => [(unwritable cause).message, cause.message]
  | e => [e.message]

namespace Settings

/-- The settings in the text of a configuration file. -/
def ofText (path content : String) : Except ConfigurationError Settings :=
  match decodeText decode content with
  | .fault fault => .error (.malformed path (lineOf content (fault.place.getD 0)))
  | .value settings =>
    if settings.version = currentVersion then .ok settings
    else .error (.unsupportedVersion path settings.version)

/-- The text of the configuration file for settings. -/
def fileText (s : Settings) : String :=
  s.toJson.indented ++ "\n"

/-- Reads the settings in a directory. -/
def readFrom (directory : String) : Script (Except ConfigurationError Settings) :=
  let path := FileSystem.join directory Configuration.fileName
  .readFile path fun
    | .error cause => .done (.error (.unreadable path cause))
    | .ok content => .done (ofText path content)

/-- Writes the settings and their schema into a directory. -/
def writeTo (s : Settings) (directory : String) : Script (Except ConfigurationError Unit) :=
  .makeDirectories directory fun
    | .error cause => .done (.error (.unwritable cause))
    | .ok () =>
      .writeFile (FileSystem.join directory Configuration.fileName) s.fileText fun
        | .error cause => .done (.error (.unwritable cause))
        | .ok () =>
          .writeFile (FileSystem.join directory Configuration.schemaFileName)
            (Schema.text ++ "\n") fun written => .done (written.mapError .unwritable)

/-- Resolves the secret of settings from the environment. -/
def resolveFromEnvironment (s : Settings) : Script (Except ConfigurationError Configuration) :=
  match s.dataSource.secret.variable? with
  | none => .done ((s.resolve fun _ => none).mapError .unset)
  | some name => .readVariable name fun value =>
    .done ((s.resolve fun _ => value).mapError .unset)

end Settings

/-- Reads the configuration in a directory. -/
def Configuration.readFrom (directory : String) :
    Script (Except ConfigurationError Configuration) :=
  (Settings.readFrom directory).andThenOk Settings.resolveFromEnvironment

end EntityGateway
