import EntityGateway.Proofs.Configuration.ReadBack
import EntityGateway.Proofs.Script.FileSystem
import EntityGateway.Proofs.Script.Steps

/-!
# Configurations on the disk

Settings that were written into a directory are read from it: the file with the schema, which is
written after them, lies at another place, and the text of the settings is read as the settings.
`readFrom_writeTo` says so for every directory that can be written to; settings of another version
are written, but not read.
-/

namespace EntityGateway

open FileSystem

/-- The directory can be made, unless it is there, and has room for a configuration: no directory is
in the way of its files. -/
def FileSystem.IsWritable (fs : FileSystem) (directory : String) : Prop :=
  ∃ made, fs.makeDirectories directory = (.ok (), made) ∧
    ∀ name ∈ [Configuration.fileName, Configuration.schemaFileName],
      ∃ place, made.locate (join directory name) = .ok place ∧
        made.find? place ≠ some .directory

/-! ## Writing and reading settings -/

namespace Settings

variable {s : Settings} {directory : String} {w w' : Script.Surroundings}

/-- The last part of the place of a file in a configuration directory. -/
theorem getLast?_of_locate_join {fs : FileSystem} {name : String}
    (plain : name ∈ [Configuration.fileName, Configuration.schemaFileName]) {place : Path}
    (located : fs.locate (join directory name) = .ok place) : place.getLast? = some name := by
  have each : ∀ name ∈ [Configuration.fileName, Configuration.schemaFileName],
      '/' ∉ name.toList ∧ name ≠ "" ∧ name ≠ "." ∧ name ≠ ".." := by decide
  obtain ⟨noSlash, proper⟩ := each name plain
  obtain ⟨parts, cut⟩ := exists_partsOf_join directory noSlash
  unfold locate at located
  split_ifs at located
  rw [cut] at located
  exact getLast?_of_follow proper located

/-- The configuration file and its schema lie at different places. -/
theorem locate_schema_ne {fs : FileSystem} {place : Path}
    (located : fs.locate (join directory Configuration.fileName) = .ok place) :
    fs.locate (join directory Configuration.schemaFileName) ≠ .ok place := by
  intro same
  have configurationName := getLast?_of_locate_join (by simp) located
  have schemaName := getLast?_of_locate_join (by simp) same
  rw [configurationName] at schemaName
  exact absurd (Option.some.inj schemaName) (by decide)

/-- Writing succeeds if the directory can be made and both files can be written. -/
theorem run_writeTo {made files files' : FileSystem}
    (directoryMade : w.files.makeDirectories directory = (.ok (), made))
    (settingsWritten :
      made.write (join directory Configuration.fileName) s.fileText = .ok files)
    (schemaWritten :
      files.write (join directory Configuration.schemaFileName) (Schema.text ++ "\n") =
        .ok files') :
    (s.writeTo directory).run w = (.ok (), { w with files := files' }) := by
  rw [writeTo, Script.run_makeDirectories directoryMade, Script.run_writeFile_ok settingsWritten,
    Script.run_writeFile_ok schemaWritten]
  rfl

/-- What was done to the files if writing succeeded. -/
theorem exists_files_of_writeTo (written : (s.writeTo directory).run w = (.ok (), w')) :
    ∃ made files schema, w.files.makeDirectories directory = (.ok (), made) ∧
      made.write (join directory Configuration.fileName) s.fileText = .ok files ∧
      files.write (join directory Configuration.schemaFileName) schema = .ok w'.files := by
  rw [writeTo] at written
  obtain ⟨made, directoryMade, written⟩ :=
    Script.exists_of_makeDirectories (fun e => ⟨.unwritable e, rfl⟩) written
  obtain ⟨files, settingsWritten, written⟩ :=
    Script.exists_of_writeFile (fun e => ⟨.unwritable e, rfl⟩) written
  obtain ⟨files', schemaWritten, written⟩ :=
    Script.exists_of_writeFile (fun e => ⟨.unwritable e, rfl⟩) written
  cases written
  exact ⟨made, files, _, directoryMade, settingsWritten, schemaWritten⟩

/-- The text of settings that were written is in the configuration file. -/
theorem read_of_writeTo (written : (s.writeTo directory).run w = (.ok (), w')) :
    w'.files.read (join directory Configuration.fileName) = .ok s.fileText := by
  obtain ⟨made, files, schema, -, settingsWritten, schemaWritten⟩ :=
    exists_files_of_writeTo written
  obtain ⟨place, located, free, rfl⟩ := exists_place_of_write settingsWritten
  have stays := locate_put_file free s.fileText located
  calc
    w'.files.read (join directory Configuration.fileName) = _ :=
      read_of_write_elsewhere schemaWritten stays (locate_schema_ne stays)
    _ = .ok s.fileText := read_of_write settingsWritten

/-- Settings are read from a configuration file with their text. -/
theorem readFrom_of_read
    (content : w.files.read (join directory Configuration.fileName) = .ok s.fileText) :
    ((readFrom directory).run w).1 =
      if s.version = currentVersion then .ok s
      else .error (.unsupportedVersion (join directory Configuration.fileName) s.version) := by
  rw [readFrom, Script.run, content]
  dsimp only
  rw [Script.run, ofText_fileText]

/-- Settings written into a directory with room for them are read from it as the same settings,
unless they are of another version, which is refused. -/
theorem readFrom_writeTo (s : Settings) {directory : String} {w : Script.Surroundings}
    (writable : w.files.IsWritable directory) :
    ∃ w', (s.writeTo directory).run w = (.ok (), w') ∧
      ((readFrom directory).run w').1 =
        if s.version = currentVersion then .ok s
        else .error (.unsupportedVersion (join directory Configuration.fileName) s.version) := by
  obtain ⟨made, directoryMade, room⟩ := writable
  obtain ⟨place, located, free⟩ := room Configuration.fileName (by simp)
  obtain ⟨schemaPlace, schemaLocated, schemaFree⟩ := room Configuration.schemaFileName (by simp)
  have settingsWritten := write_of_locate s.fileText located free
  have apart : schemaPlace ≠ place := by
    rintro rfl
    exact locate_schema_ne located schemaLocated
  have stillFree : (made.put place (.file s.fileText)).find? schemaPlace ≠ some .directory := by
    rw [find?_put_of_ne apart]
    exact schemaFree
  have schemaWritten := write_of_locate (Schema.text ++ "\n")
    (locate_put_file free s.fileText schemaLocated) stillFree
  have written := run_writeTo directoryMade settingsWritten schemaWritten
  exact ⟨_, written, readFrom_of_read (read_of_writeTo written)⟩

/-- Settings with texts that look like other parts of the file, with an entity that is kept under
another name than its own, and with optional parts both given and left out. -/
def misleading : Settings where
  version := 1
  dataSource := .remoteService {
    resource := "\"\x7d,\n"
    username := "\u0001\\u0041\u2028"
    password := .plain "\x7b\"variable\": \"HOME\"\x7d"
    tokenEndpoint := none
    clientId := some "" }
  metadata := ⟨.ofList [("", ⟨"book", "\\", "𝔟ooks", "", [⟨"id", "\t", .uniqueidentifier⟩]⟩)]⟩
  maxUrlLength := defaultMaxUrlLength

/-- Surroundings with one directory, in which nothing is. -/
def emptyDirectory : Script.Surroundings where
  files := ⟨[(["etc"], .directory)]⟩
  now := .epoch

theorem readFrom_writeTo_misleading :
    emptyDirectory.files.IsWritable "etc/./new//" ∧
      ∃ w', (misleading.writeTo "etc/./new//").run emptyDirectory = (.ok (), w') ∧
        ((readFrom "etc/./new//").run w').1 = .ok misleading := by
  have writable : emptyDirectory.files.IsWritable "etc/./new//" := by
    refine ⟨⟨[(["etc", "new"], .directory), (["etc"], .directory)]⟩, rfl, ?_⟩
    refine List.forall_mem_cons.mpr ⟨⟨_, rfl, by decide⟩, ?_⟩
    exact List.forall_mem_cons.mpr ⟨⟨_, rfl, by decide⟩, List.forall_mem_nil _⟩
  exact ⟨writable, readFrom_writeTo misleading writable⟩

end Settings

end EntityGateway
