import EntityGateway.Script.Basic

/-!
# Steps of a script

What carrying out a script does to its surroundings. The steps that make directories and write files
are followed one by one; a script without such steps (`IsReading`) leaves the files as they are,
whatever it finds in them, in the environment and in the responses to its requests.
-/

namespace EntityGateway

namespace Script

variable {α β ε : Type} {w : Surroundings} {path content : String} {files files' : FileSystem}

/-! ## Writing -/

theorem run_makeDirectories {next : Except FileError Unit → Script α}
    {answer : Except FileError Unit} (made : w.files.makeDirectories path = (answer, files)) :
    (makeDirectories path next).run w = (next answer).run { w with files } := by
  rw [run, Surroundings.makeDirectories, made]

theorem run_writeFile_ok {next : Except FileError Unit → Script α}
    (written : files.write path content = .ok files') :
    (writeFile path content next).run { w with files } =
      (next (.ok ())).run { w with files := files' } := by
  rw [run, Surroundings.writeFile, written]

theorem run_writeFile_error {next : Except FileError Unit → Script α} {e : FileError}
    (failed : files.write path content = .error e) :
    (writeFile path content next).run { w with files } =
      (next (.error e)).run { w with files } := by
  rw [run, Surroundings.writeFile, failed]

section Succeeded

variable {next : Except FileError Unit → Script (Except ε α)} {a : α} {w' : Surroundings}
  (stops : ∀ e, ∃ e', next (.error e) = done (.error e'))

include stops

/-- A script that stops where no directory can be made has made it, if it succeeded. -/
theorem exists_of_makeDirectories (succeeded : (makeDirectories path next).run w = (.ok a, w')) :
    ∃ made, w.files.makeDirectories path = (.ok (), made) ∧
      (next (.ok ())).run { w with files := made } = (.ok a, w') := by
  cases answered : w.files.makeDirectories path with
  | mk answer made =>
      rw [run_makeDirectories answered] at succeeded
      cases answer with
      | error e =>
          obtain ⟨e', stopped⟩ := stops e
          rw [stopped] at succeeded
          cases succeeded
      | ok u => exact ⟨made, rfl, succeeded⟩

/-- A script that stops where a file cannot be written has written it, if it succeeded. -/
theorem exists_of_writeFile
    (succeeded : (writeFile path content next).run { w with files } = (.ok a, w')) :
    ∃ files', files.write path content = .ok files' ∧
      (next (.ok ())).run { w with files := files' } = (.ok a, w') := by
  cases answer : files.write path content with
  | error e =>
      obtain ⟨e', stopped⟩ := stops e
      rw [run_writeFile_error answer, stopped] at succeeded
      cases succeeded
  | ok files' =>
      rw [run_writeFile_ok answer] at succeeded
      exact ⟨files', rfl, succeeded⟩

end Succeeded

/-- A script that goes on is carried out one part after the other. -/
theorem run_andThen (s : Script α) (f : α → Script β) (w : Surroundings) :
    (s.andThen f).run w = (f (s.run w).1).run (s.run w).2 := by
  induction s generalizing w with
  | done a => rfl
  | readFile path next ih => exact ih _ w
  | hasEntry path next ih => exact ih _ w
  | makeDirectories path next ih => exact ih _ _
  | writeFile path content next ih => exact ih _ _
  | readVariable name next ih => exact ih _ w
  | readClock next ih => exact ih _ w
  | send request next ih => exact ih _ _

/-! ## Reading -/

/-- Whatever its steps bring, the script never makes a directory or writes a file. -/
inductive IsReading : Script α → Prop where
  | done (a : α) : IsReading (done a)
  | readFile {path : String} {next : Except FileError String → Script α}
      (each : ∀ answer, IsReading (next answer)) : IsReading (readFile path next)
  | hasEntry {path : String} {next : Bool → Script α}
      (each : ∀ answer, IsReading (next answer)) : IsReading (hasEntry path next)
  | readVariable {name : String} {next : Option String → Script α}
      (each : ∀ answer, IsReading (next answer)) : IsReading (readVariable name next)
  | readClock {next : Instant → Script α}
      (each : ∀ answer, IsReading (next answer)) : IsReading (readClock next)
  | send {request : Http.Request} {next : Option Http.Response → Script α}
      (each : ∀ answer, IsReading (next answer)) : IsReading (send request next)

namespace IsReading

theorem andThen {s : Script α} {f : α → Script β} (reading : s.IsReading)
    (goesOn : ∀ a, (f a).IsReading) : (s.andThen f).IsReading := by
  induction reading with
  | done a => exact goesOn a
  | readFile _ ih => exact .readFile ih
  | hasEntry _ ih => exact .hasEntry ih
  | readVariable _ ih => exact .readVariable ih
  | readClock _ ih => exact .readClock ih
  | send _ ih => exact .send ih

theorem andThenOk {s : Script (Except ε α)} {f : α → Script (Except ε β)}
    (reading : s.IsReading) (goesOn : ∀ a, (f a).IsReading) : (s.andThenOk f).IsReading := by
  refine reading.andThen ?_
  rintro (e | a)
  · exact .done _
  · exact goesOn a

/-- A dialogue with a store touches no file. -/
theorem ofDialogue (d : Dialogue ε α) : (ofDialogue d).IsReading := by
  induction d with
  | ended outcome => exact .done outcome
  | count counter rest ih => exact ih
  | send purpose request next ih => exact .send ih

/-- A script that only reads leaves the files as they are. -/
theorem run_files {s : Script α} (reading : s.IsReading) (w : Surroundings) :
    (s.run w).2.files = w.files := by
  induction reading generalizing w with
  | done a => rfl
  | readFile _ ih => exact ih _ w
  | hasEntry _ ih => exact ih _ w
  | readVariable _ ih => exact ih _ w
  | readClock _ ih => exact ih _ w
  | @send request next _ ih =>
      have exchanged : (w.exchange request).2.files = w.files := by
        unfold Surroundings.exchange
        split <;> rfl
      exact (ih _ _).trans exchanged

end IsReading

end Script

end EntityGateway
