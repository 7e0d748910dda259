import EntityGateway.CommandLine.Arguments
import EntityGateway.Configuration.Files
import EntityGateway.Query.Codec
import EntityGateway.Service.Basic

/-!
# Commands

What each command does, as a script. A command ends with an exit status, with what it prints, and
with what it complains about: the messages of a failure and of the causes behind it, one after the
other.
-/

namespace EntityGateway.CommandLine

/-- How a command ended. -/
structure Outcome where
  /-- Zero for success, one for a failure, two if the words mean nothing. -/
  status : UInt32
  output : String := ""
  complaint : String := ""
  deriving DecidableEq, Repr

/-- A command that succeeded. -/
def succeed (output : String := "") : Script Outcome :=
  .done { status := 0, output }

/-- A command that failed. -/
def fail (chain : List String) : Script Outcome :=
  .done {
    status := 1
    complaint := String.ofList (Text.separated ": ".toList (chain.map String.toList)) }

/-- A value as a command prints it. -/
def printed (j : Json) : String :=
  j.indented ++ "\n"

/-- Writes a new configuration, unless there is one. -/
def create (directory : String) (kind : DataSourceKind) : Script Outcome :=
  .hasEntry (FileSystem.join directory Configuration.fileName) fun
    | true => fail ["a configuration already exists in " ++ directory]
    | false =>
      ((Settings.initial kind).writeTo directory).andThen fun
        | .ok () => succeed
        | .error e => fail e.chain

/-- Makes a call to the service that is configured in a directory, and prints the answer. -/
def callService {α : Type} (directory : String)
    (call : Configuration → Instant → Dialogue ServiceError α) (toJson : α → Json) :
    Script Outcome :=
  (Configuration.readFrom directory).andThen fun
    | .error e => fail e.chain
    | .ok configuration =>
      .readClock fun now =>
        (Script.ofDialogue (call configuration now)).andThen fun
          | .error e => fail e.chain
          | .ok answer => succeed (printed (toJson answer))

/-- Answers the query in a file. -/
def getEntities (directory queryPath : String) : Script Outcome :=
  .readFile queryPath fun
    | .error cause => fail ["unable to read " ++ queryPath, cause.message]
    | .ok content =>
      match decodeText Query.decode content with
      | .fault _ => fail [queryPath ++ " is not a valid query"]
      | .value query =>
        callService directory (fun configuration now => configuration.getEntities now query)
          EntityCollection.toJson

/-- The JSON form of a record that need not exist. -/
def entityJson : Option Entity → Json
  | some entity => entity.toJson
  | none => .null

/-- Fetches a record. -/
def getEntity (directory : String) (reference : EntityReference) : Script Outcome :=
  callService directory (fun configuration now => configuration.getEntity now reference)
    entityJson

/-- Carries out a command in a configuration directory. -/
def runCommand (directory : String) : Command → Script Outcome
  | .create kind => create directory kind
  | .printSchema => succeed (Schema.text ++ "\n")
  | .getEntities queryPath => getEntities directory queryPath
  | .getEntity entity id => getEntity directory ⟨entity, id⟩

/-- The variable that names the configuration directory if no option does. -/
def directoryVariable : String := "VIRTUAL_ENTITY_CONTEXT_PATH"

/-- The configuration directory if nothing names one. -/
def defaultDirectory : String := "."

/-- Words that mean nothing. -/
def misuse (e : UsageError) : Script Outcome :=
  .done { status := 2, complaint := "error: " ++ e.message }

/-- The help text. -/
def helpText : String :=
  "Usage: virtual-entity [--context-path <PATH>] <COMMAND>\n\n" ++
    "Commands: initialize --data-source <document-store|remote-service>, print-schema,\n" ++
    "  get-entities --query <PATH>, get-entity --entity <NAME> --id <ID>\n"

/-- The version of the program. -/
def versionText : String := "virtual-entity 0.1.1\n"

/-- Does what the words on the command line say. -/
def run (words : List String) : Script Outcome :=
  match readArguments words with
  | .error e => misuse e
  | .ok (.inform .help) => succeed helpText
  | .ok (.inform .version) => succeed versionText
  | .ok (.run (some directory) command) => runCommand directory command
  | .ok (.run none command) =>
    .readVariable directoryVariable fun
      | none => runCommand defaultDirectory command
      | some directory =>
        if isPath directory then runCommand directory command
        else misuse (.invalidValue directoryRule.name directory)

end EntityGateway.CommandLine
