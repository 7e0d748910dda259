import EntityGateway.CommandLine.Run
import EntityGateway.Proofs.Configuration.Files

/-!
# Sessions in a configuration directory

A session is a sequence of commands in one configuration directory, each with an environment, a
clock and responses of its own, on files that go from one command to the next. Only the command that
creates a configuration writes at all, and it does so only where none is found; so a configuration
that was found once stays as it is for the rest of the session (`session_of_hasEntry`).

The guard looks at the path as it leads before the command. A path through a directory that is
missing leads nowhere then, and somewhere once the directory has been made:
`session_overwrites_behind_missing` is a session that overwrites a configuration in this way.
-/

namespace EntityGateway.CommandLine

open FileSystem

/-- A command with what surrounds it, apart from the files. -/
structure Turn where
  command : Command
  environment : NameMap String
  now : Instant
  responses : List (Option Http.Response)

/-- Carries out a command in a configuration directory. -/
def Turn.carryOut (t : Turn) (directory : String) (fs : FileSystem) :
    Outcome × FileSystem :=
  let run := (runCommand directory t.command).run
    { files := fs, environment := t.environment, now := t.now, responses := t.responses }
  (run.1, run.2.files)

/-- Carries out commands one after the other: how each ended, and what is left on the disk. -/
def session (directory : String) (fs : FileSystem) : List Turn → List Outcome × FileSystem
  | [] => ([], fs)
  | t :: later =>
    let first := t.carryOut directory fs
    let rest := session directory first.2 later
    (first.1 :: rest.1, rest.2)

/-- The command creates a configuration. -/
def Command.IsCreating (c : Command) : Prop :=
  ∃ kind, c = .create kind

variable {directory : String} {fs : FileSystem}

/-! ## Commands that read -/

theorem isReading_fail (chain : List String) : (fail chain).IsReading :=
  .done _

theorem isReading_readFrom (directory : String) :
    (Configuration.readFrom directory).IsReading := by
  refine Script.IsReading.andThenOk ?_ fun s => ?_
  · refine .readFile ?_
    rintro (e | content) <;> exact .done _
  · unfold Settings.resolveFromEnvironment
    split
    · exact .done _
    · exact .readVariable fun _ => .done _

theorem isReading_callService {α : Type}
    (call : Configuration → Instant → Dialogue ServiceError α) (toJson : α → Json) :
    (callService directory call toJson).IsReading := by
  refine (isReading_readFrom directory).andThen ?_
  rintro (e | configuration)
  · exact isReading_fail _
  · refine .readClock fun now => (Script.IsReading.ofDialogue _).andThen ?_
    rintro (e | answer)
    · exact isReading_fail _
    · exact .done _

/-- Every command but the one that creates a configuration only reads. -/
theorem isReading_runCommand {c : Command} (reads : ¬ c.IsCreating) :
    (runCommand directory c).IsReading := by
  cases c with
  | create kind => exact absurd ⟨kind, rfl⟩ reads
  | printSchema => exact .done _
  | getEntities queryPath =>
      refine .readFile ?_
      rintro (e | content)
      · exact isReading_fail _
      · dsimp only
        split
        · exact isReading_fail _
        · exact isReading_callService _ _
  | getEntity entity id => exact isReading_callService _ _

theorem carryOut_of_reading {t : Turn} (reads : ¬ t.command.IsCreating) :
    (t.carryOut directory fs).2 = fs :=
  (isReading_runCommand reads).run_files _

/-! ## The command that creates a configuration -/

/-- Where a configuration is found, none is created. -/
theorem carryOut_of_hasEntry {t : Turn} (creates : t.command.IsCreating)
    (found : fs.hasEntry (join directory Configuration.fileName) = true) :
    (t.carryOut directory fs).1.status = 1 ∧ (t.carryOut directory fs).2 = fs := by
  obtain ⟨kind, created⟩ := creates
  rw [Turn.carryOut, created, runCommand, create, Script.run, found]
  exact ⟨rfl, rfl⟩

/-- If creating succeeds, new settings of the kind were written. -/
theorem exists_written_of_create {kind : DataSourceKind} {w : Script.Surroundings}
    (succeeded : ((create directory kind).run w).1.status = 0) :
    ∃ w', ((Settings.initial kind).writeTo directory).run w = (.ok (), w') ∧
      ((create directory kind).run w).2 = w' := by
  rw [create, Script.run] at succeeded ⊢
  split at succeeded
  · cases succeeded
  · rw [Script.run_andThen] at succeeded ⊢
    cases written : ((Settings.initial kind).writeTo directory).run w with
    | mk result w' =>
        rw [written] at succeeded
        cases result with
        | error e => cases succeeded
        | ok u => exact ⟨w', rfl, rfl⟩

/-! ## Sessions -/

/-- The new configuration of a kind is in the directory. -/
theorem carryOut_of_created {t : Turn} {kind : DataSourceKind} (creates : t.command = .create kind)
    (succeeded : (t.carryOut directory fs).1.status = 0) :
    (t.carryOut directory fs).2.read (join directory Configuration.fileName) =
      .ok (Settings.initial kind).fileText := by
  rw [Turn.carryOut, creates, runCommand] at succeeded ⊢
  obtain ⟨w', written, left⟩ := exists_written_of_create succeeded
  dsimp only
  rw [left]
  exact Settings.read_of_writeTo written

theorem session_append (directory : String) (fs : FileSystem) (before later : List Turn) :
    session directory fs (before ++ later) =
      ((session directory fs before).1 ++
          (session directory (session directory fs before).2 later).1,
        (session directory (session directory fs before).2 later).2) := by
  induction before generalizing fs with
  | nil => rfl
  | cons t before ih =>
      rw [List.cons_append, session, ih]
      rfl

/-- A configuration that is found stays as it is, with all other files, and none is created. -/
theorem session_of_hasEntry
    (found : fs.hasEntry (join directory Configuration.fileName) = true) (turns : List Turn) :
    (session directory fs turns).2 = fs ∧
      List.Forall₂ (fun t outcome => t.command.IsCreating → outcome.status = 1) turns
        (session directory fs turns).1 := by
  induction turns with
  | nil => exact ⟨rfl, .nil⟩
  | cons t later ih =>
      have stays : (t.carryOut directory fs).2 = fs := by
        by_cases creates : t.command.IsCreating
        · exact (carryOut_of_hasEntry creates found).2
        · exact carryOut_of_reading creates
      rw [session]
      dsimp only
      rw [stays]
      exact ⟨ih.1, .cons (fun creates => (carryOut_of_hasEntry creates found).1) ih.2⟩

/-- A configuration that was created stays as it is, and is read as new settings of its kind. -/
theorem session_of_created {t : Turn} {kind : DataSourceKind} (before : List Turn)
    (creates : t.command = .create kind)
    (succeeded : (t.carryOut directory (session directory fs before).2).1.status = 0)
    (later : List Turn) :
    (session directory fs (before ++ t :: later)).2 = (session directory fs (before ++ [t])).2 ∧
      List.Forall₂ (fun t outcome => t.command.IsCreating → outcome.status = 1) later
        (session directory (session directory fs (before ++ [t])).2 later).1 ∧
      ∀ w, w.files = (session directory fs (before ++ t :: later)).2 →
        ((Settings.readFrom directory).run w).1 = .ok (.initial kind) := by
  have content := carryOut_of_created creates succeeded
  have created : (session directory fs (before ++ [t])).2 =
      (t.carryOut directory (session directory fs before).2).2 := by
    rw [session_append]
    rfl
  rw [← created] at content
  obtain ⟨stays, fails⟩ := session_of_hasEntry (hasEntry_of_read content) later
  have left : (session directory fs (before ++ t :: later)).2 =
      (session directory fs (before ++ [t])).2 := by
    rw [← List.singleton_append, ← List.append_assoc, session_append]
    exact stays
  refine ⟨left, fails, fun w same => ?_⟩
  have current : (Settings.initial kind).version = currentVersion := rfl
  rw [left] at same
  rw [← same] at content
  rw [Settings.readFrom_of_read content, if_pos current]

/-- What a session does to a configuration: commands that create none change no file; from the
moment on at which the path of the configuration leads to one, no file changes and creating fails;
and one that is created is read as the new settings of its kind from then on. -/
theorem session_keepsConfiguration (directory : String) (fs : FileSystem) :
    (∀ t : Turn, ¬ t.command.IsCreating → (t.carryOut directory fs).2 = fs) ∧
      (fs.hasEntry (join directory Configuration.fileName) = true → ∀ turns,
        (session directory fs turns).2 = fs ∧
          List.Forall₂ (fun t outcome => t.command.IsCreating → outcome.status = 1) turns
            (session directory fs turns).1) ∧
      ∀ before t later kind, t.command = .create kind →
        (t.carryOut directory (session directory fs before).2).1.status = 0 →
        (session directory fs (before ++ t :: later)).2 =
            (session directory fs (before ++ [t])).2 ∧
          List.Forall₂ (fun t outcome => t.command.IsCreating → outcome.status = 1) later
            (session directory (session directory fs (before ++ [t])).2 later).1 ∧
          ∀ w, w.files = (session directory fs (before ++ t :: later)).2 →
            ((Settings.readFrom directory).run w).1 = .ok (.initial kind) :=
  ⟨fun _ reads => carryOut_of_reading reads, fun found turns => session_of_hasEntry found turns,
    fun before _ later _ creates succeeded => session_of_created before creates succeeded later⟩

/-- A command without an environment, and with nobody to answer its requests. -/
def Turn.alone (c : Command) : Turn where
  command := c
  environment := .empty
  now := .epoch
  responses := []

/-- A disk with a configuration. -/
def configuredDisk : FileSystem where
  entries := [(["etc", "configuration.json"], .file "mine"), (["etc"], .directory)]

/-- A session that begins with a command that cannot find a configuration yet, creates one, and
tries to create another one. -/
theorem session_keepsConfiguration_remoteService :
    ¬ (Turn.alone (.getEntities "query.json")).command.IsCreating ∧
      ((Turn.alone (.getEntities "query.json")).carryOut "etc" configuredDisk).2 =
        configuredDisk ∧
      configuredDisk.hasEntry (join "etc" Configuration.fileName) = true ∧
      (session "etc" configuredDisk [.alone (.create .documentStore)]).2 = configuredDisk ∧
      ((Turn.alone (.create .remoteService)).carryOut "new"
        (session "new" configuredDisk [.alone (.getEntities "query.json")]).2).1.status = 0 ∧
      ∀ w, w.files = (session "new" configuredDisk ([.alone (.getEntities "query.json")] ++
          .alone (.create .remoteService) :: [.alone (.create .documentStore)])).2 →
        ((Settings.readFrom "new").run w).1 = .ok (.initial .remoteService) := by
  have reads : ¬ (Turn.alone (.getEntities "query.json")).command.IsCreating := by
    rintro ⟨kind, same⟩
    cases same
  have found : configuredDisk.hasEntry (join "etc" Configuration.fileName) = true := by decide
  have succeeded : ((Turn.alone (.create .remoteService)).carryOut "new"
      (session "new" configuredDisk [.alone (.getEntities "query.json")]).2).1.status = 0 := rfl
  obtain ⟨keeps, guards, -⟩ := session_keepsConfiguration "etc" configuredDisk
  obtain ⟨-, -, creates⟩ := session_keepsConfiguration "new" configuredDisk
  obtain ⟨-, -, readBack⟩ :=
    creates _ _ [.alone (.create .documentStore)] .remoteService rfl succeeded
  exact ⟨reads, keeps _ reads, found, (guards found _).1, succeeded, readBack⟩

/-- Before the command, the path to the configuration leads nowhere; once the missing directory has
been made, it leads to the configuration that is overwritten. -/
theorem session_overwrites_behind_missing :
    configuredDisk.read "etc/configuration.json" = .ok "mine" ∧
      configuredDisk.locate "etc/missing/../configuration.json" = .error .notFound ∧
      (configuredDisk.makeDirectories "etc/missing/..").2.locate
        "etc/missing/../configuration.json" = .ok ["etc", "configuration.json"] ∧
      ((Turn.alone (.create .documentStore)).carryOut "etc/missing/.." configuredDisk).1.status =
        0 ∧
      (session "etc/missing/.." configuredDisk [.alone (.create .documentStore)]).2.read
        "etc/configuration.json" = .ok (Settings.initial .documentStore).fileText :=
  ⟨by decide, by decide, by decide, rfl, rfl⟩

end EntityGateway.CommandLine
