import EntityGateway.Configuration.Basic

/-!
# Arguments

What the words on the command line mean. Options stand before or after the name of a command,
according to whether they belong to the program or to the command. An option has a value, in the
next word or after an equals sign, and may be given once. Two hyphens end the options, and no word
may follow them. Words are read from left to right and the first wrong one is reported, unless help
was asked for before it.
-/

namespace EntityGateway.CommandLine

/-- What the program is told to do. -/
inductive Command where
  /-- Write a new configuration. -/
  | create (kind : DataSourceKind)
  | printSchema
  /-- Answer a query that is read from a file. -/
  | getEntities (queryPath : String)
  | getEntity (entity : String) (id : Uuid)
  deriving DecidableEq

/-- The cause for which the words mean nothing. -/
inductive UsageError where
  | unexpectedWord (word : String)
  | repeatedOption (name : String)
  | missingValue (name : String)
  | invalidValue (name value : String)
  | missingOption (name : String)
  | missingCommand
  deriving DecidableEq, Repr

/-- The message about a cause. -/
def UsageError.message : UsageError → String
  | unexpectedWord word => "unexpected argument '" ++ word ++ "' found"
  | repeatedOption name => "the argument '--" ++ name ++ "' cannot be used multiple times"
  | missingValue name => "a value is required for '--" ++ name ++ "' but none was supplied"
  | invalidValue name value => "invalid value '" ++ value ++ "' for '--" ++ name ++ "'"
  | missingOption name => "the required argument '--" ++ name ++ "' was not provided"
  | missingCommand => "a subcommand is required but one was not provided"

/-- What is asked for instead of a command. -/
inductive Information where
  | help
  | version
  deriving DecidableEq, Repr

/-- What the words mean. -/
inductive Invocation where
  | inform (information : Information)
  /-- A command, and the configuration directory if one is named. -/
  | run (directory : Option String) (command : Command)
  deriving DecidableEq

/-- An option that takes a value. -/
structure OptionRule where
  name : String
  /-- The option may have the value. -/
  accepts : String → Bool

/-- A path, which must not be empty. -/
def isPath (value : String) : Bool := !value.isEmpty

/-- The kind of store of a name. -/
def kindOfName? (name : String) : Option DataSourceKind :=
  if name = "document-store" then some .documentStore
  else if name = "remote-service" then some .remoteService
  else none

/-- The option for the configuration directory. -/
def directoryRule : OptionRule := ⟨"context-path", isPath⟩

/-- A word that cannot be the value of an option before it. -/
def looksLikeOption (word : String) : Bool :=
  match word.toList with
  | '-' :: _ :: _ => true
  | _ => false

/-- A word cut at its first equals sign. -/
def cutAtEquals (cs : List Char) : List Char × Option (List Char) :=
  match cs.dropWhile (· ≠ '=') with
  | [] => (cs, none)
  | _ :: value => (cs.takeWhile (· ≠ '='), some value)

/-- What a word is to a program that knows some options. -/
inductive WordKind where
  | inform (information : Information)
  | option (rule : OptionRule) (value : Option String)
  | unknownOption
  /-- The end of the options. -/
  | hyphens
  | plain

/-- The kind of a word. -/
def WordKind.of (rules : List OptionRule) (flags : List (String × Information)) (word : String) :
    WordKind :=
  match flags.find? fun flag => flag.1 = word with
  | some flag => .inform flag.2
  | none =>
    match word.toList with
    | ['-', '-'] => .hyphens
    | '-' :: '-' :: c :: rest =>
      let (name, value) := cutAtEquals (c :: rest)
      match rules.find? fun rule => rule.name = String.ofList name with
      | some rule => .option rule (value.map String.ofList)
      | none => .unknownOption
    | '-' :: _ :: _ => .unknownOption
    | _ => .plain

/-- What was read so far of a list of words. -/
inductive Progress where
  | inform (information : Information)
  /-- The options with their values, and the words from the first that is no option. -/
  | stopped (values : List (String × String)) (rest : List String)

/-- Adds the value of an option. -/
def addValue (values : List (String × String)) (rule : OptionRule) (value : String) :
    Except UsageError (List (String × String)) :=
  if values.any fun entry => entry.1 = rule.name then .error (.repeatedOption rule.name)
  else if rule.accepts value then .ok ((rule.name, value) :: values)
  else .error (.invalidValue rule.name value)

/-- Reads options up to the first word that is none. -/
def readOptions (rules : List OptionRule) (flags : List (String × Information))
    (values : List (String × String)) : List String → Except UsageError Progress
  | [] => .ok (.stopped values [])
  | word :: rest =>
    match WordKind.of rules flags word with
    | .inform information => .ok (.inform information)
    | .unknownOption => .error (.unexpectedWord word)
    | .plain => .ok (.stopped values (word :: rest))
    | .hyphens =>
      match rest with
      | [] => .ok (.stopped values [])
      | word :: _ => .error (.unexpectedWord word)
    | .option rule (some value) =>
      match addValue values rule value with
      | .error e => .error e
      | .ok values => readOptions rules flags values rest
    | .option rule none =>
      match rest with
      | [] => .error (.missingValue rule.name)
      | value :: rest =>
        if looksLikeOption value then .error (.missingValue rule.name)
        else
          match addValue values rule value with
          | .error e => .error e
          | .ok values => readOptions rules flags values rest

/-- The words that ask for help with a command. -/
def helpFlags : List (String × Information) := [("--help", .help), ("-h", .help)]

/-- The words that ask for help or for the version of the program. -/
def programFlags : List (String × Information) :=
  helpFlags ++ [("--version", .version), ("-V", .version)]

/-- The value of an option that must be there. -/
def needed (values : List (String × String)) (name : String) : Except UsageError String :=
  match valueUnder? name values with
  | some value => .ok value
  | none => .error (.missingOption name)

/-- The options of a command, and the command with given values of its options. -/
structure CommandRule where
  name : String
  options : List OptionRule
  build : List (String × String) → Except UsageError Command

/-- The commands. -/
def commandRules : List CommandRule := [
  { name := "initialize"
    options := [⟨"data-source", fun value => (kindOfName? value).isSome⟩]
    build := fun values => do
      let name ← needed values "data-source"
      match kindOfName? name with
      | some kind => pure (.create kind)
      | none => .error (.invalidValue "data-source" name) },
  { name := "print-schema"
    options := []
    build := fun _ => pure .printSchema },
  { name := "get-entities"
    options := [⟨"query", isPath⟩]
    build := fun values => do
      let path ← needed values "query"
      pure (.getEntities path) },
  { name := "get-entity"
    options := [⟨"entity", fun _ => true⟩, ⟨"id", fun value => (Uuid.read? value).isSome⟩]
    build := fun values => do
      let entity ← needed values "entity"
      let text ← needed values "id"
      match Uuid.read? text with
      | some id => pure (.getEntity entity id)
      | none => .error (.invalidValue "id" text) }]

/-- The meaning of the words from the name of a command on. -/
def readCommand (directory : Option String) : List String → Except UsageError Invocation
  | [] => .error .missingCommand
  | name :: rest =>
    if name = "help" then
      match rest with
      | [] => .ok (.inform .help)
      | [word] =>
        if word = "help" ∨ commandRules.any fun rule => rule.name = word then .ok (.inform .help)
        else .error (.unexpectedWord word)
      | _ :: word :: _ => .error (.unexpectedWord word)
    else
      match commandRules.find? fun rule => rule.name = name with
      | none => .error (.unexpectedWord name)
      | some rule =>
        match readOptions rule.options helpFlags [] rest with
        | .error e => .error e
        | .ok (.inform information) => .ok (.inform information)
        | .ok (.stopped _ (word :: _)) => .error (.unexpectedWord word)
        | .ok (.stopped values []) => (rule.build values).map (.run directory)

/-- The meaning of the words on the command line. -/
def readArguments (words : List String) : Except UsageError Invocation :=
  match readOptions [directoryRule] programFlags [] words with
  | .error e => .error e
  | .ok (.inform information) => .ok (.inform information)
  | .ok (.stopped values rest) => readCommand (valueUnder? directoryRule.name values) rest

end EntityGateway.CommandLine
