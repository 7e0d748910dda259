import EntityGateway.Script.FileSystem
import Mathlib.Data.List.Basic
import Mathlib.Tactic.SplitIfs

/-!
# Laws of the file system

Writing a file changes what is at one place, and no directory. So every path that led somewhere
still leads there, the file that was written is read back, and a file that lies elsewhere is read as
before. Two files of different names in one directory lie at different places, however the path of
the directory is written.
-/

namespace EntityGateway.FileSystem

variable {fs fs' : FileSystem} {path other content : String} {place here : Path}

/-! ## Places -/

theorem find?_put_self (visible : place ≠ []) (entry : FileEntry) :
    (fs.put place entry).find? place = some entry := by
  simp [find?, put, visible]

theorem find?_put_of_ne {elsewhere : Path} (different : elsewhere ≠ place) (entry : FileEntry) :
    (fs.put place entry).find? elsewhere = fs.find? elsewhere := by
  unfold find? put
  split
  · rfl
  · rw [List.find?_cons_of_neg (by simpa using Ne.symm different), List.find?_filter]
    congr 2
    funext e
    by_cases here : e.1 = elsewhere <;> simp [here, different]

/-! ## Writing -/

/-- A file that was written lies where its path leads, where no directory is. -/
theorem exists_place_of_write (written : fs.write path content = .ok fs') :
    ∃ place, fs.locate path = .ok place ∧ fs.find? place ≠ some .directory ∧
      fs' = fs.put place (.file content) := by
  unfold write at written
  split at written
  · cases written
  · rename_i place located
    split at written
    · cases written
    · rename_i noDirectory
      exact ⟨place, located, noDirectory, (Except.ok.inj written).symm⟩

theorem write_of_locate (content : String) (located : fs.locate path = .ok place)
    (free : fs.find? place ≠ some .directory) :
    fs.write path content = .ok (fs.put place (.file content)) := by
  rw [write, located]
  dsimp only
  split
  · rename_i directory
    exact absurd directory free
  · rfl

/-- No file lies at the root. -/
theorem ne_nil_of_find? (free : fs.find? place ≠ some .directory) : place ≠ [] := by
  rintro rfl
  exact free rfl

/-- A file in the place of something that is no directory leaves the directories as they are. -/
theorem find?_put_file {elsewhere : Path} (free : fs.find? place ≠ some .directory)
    (content : String) (directory : fs.find? elsewhere = some .directory) :
    (fs.put place (.file content)).find? elsewhere = some .directory := by
  have different : elsewhere ≠ place := by
    rintro rfl
    exact free directory
  rw [find?_put_of_ne different, directory]

/-- A path leads where it led as long as the directories stay. -/
theorem follow_of_directories
    (keeps : ∀ p, fs.find? p = some .directory → fs'.find? p = some .directory)
    {parts : List String} (followed : fs.follow here parts = .ok place) :
    fs'.follow here parts = .ok place := by
  induction parts generalizing here with
  | nil => exact followed
  | cons part rest ih =>
      unfold follow at followed ⊢
      split_ifs at followed ⊢
      · exact ih followed
      · exact ih followed
      · exact followed
      · split at followed
        · rename_i directory
          rw [keeps _ directory]
          exact ih followed
        · cases followed
        · cases followed

theorem locate_put_file (free : fs.find? place ≠ some .directory) (content : String)
    {elsewhere : Path} (located : fs.locate other = .ok elsewhere) :
    (fs.put place (.file content)).locate other = .ok elsewhere := by
  unfold locate at located ⊢
  split_ifs at located ⊢
  exact follow_of_directories (fun _ => find?_put_file free content) located

/-- What can be read is there. -/
theorem hasEntry_of_read (isRead : fs.read path = .ok content) : fs.hasEntry path = true := by
  unfold read at isRead
  unfold hasEntry
  split at isRead
  · cases isRead
  · split at isRead
    · rename_i found
      rw [found]
      rfl
    · cases isRead
    · cases isRead

/-- The file that was written is read back. -/
theorem read_of_write (written : fs.write path content = .ok fs') :
    fs'.read path = .ok content := by
  obtain ⟨place, located, free, rfl⟩ := exists_place_of_write written
  rw [read, locate_put_file free content located]
  dsimp only
  rw [find?_put_self (ne_nil_of_find? free)]

/-- A file that lies elsewhere is read as before. -/
theorem read_of_write_elsewhere (written : fs.write path content = .ok fs')
    {elsewhere : Path} (located : fs.locate other = .ok elsewhere)
    (different : fs.locate path ≠ .ok elsewhere) : fs'.read other = fs.read other := by
  obtain ⟨place, located', free, rfl⟩ := exists_place_of_write written
  have apart : elsewhere ≠ place := by
    rintro rfl
    exact different located'
  rw [read, read, locate_put_file free content located, located]
  dsimp only
  rw [find?_put_of_ne apart]

/-! ## Names in a directory -/

theorem cutAtSlashes_ne_nil (cs : List Char) : cutAtSlashes cs ≠ [] := by
  cases cs with
  | nil => simp [cutAtSlashes]
  | cons c rest =>
      unfold cutAtSlashes
      split
      · simp
      · split <;> simp

/-- Text is cut at a slash, whatever stands before and after it. -/
theorem cutAtSlashes_append_slash (before after : List Char) :
    cutAtSlashes (before ++ '/' :: after) = cutAtSlashes before ++ cutAtSlashes after := by
  induction before with
  | nil =>
      obtain ⟨part, parts, cut⟩ := List.exists_cons_of_ne_nil (cutAtSlashes_ne_nil after)
      simp [cutAtSlashes, cut]
  | cons c before ih =>
      obtain ⟨part, parts, cut⟩ := List.exists_cons_of_ne_nil (cutAtSlashes_ne_nil before)
      rw [List.cons_append, cutAtSlashes, ih, cutAtSlashes, cut]
      dsimp only [List.cons_append]
      split <;> rfl

theorem cutAtSlashes_of_notMem {name : List Char} (plain : '/' ∉ name) :
    cutAtSlashes name = [name] := by
  induction name with
  | nil => rfl
  | cons c rest ih =>
      rw [List.mem_cons, not_or] at plain
      rw [cutAtSlashes, ih plain.2]
      simp [Ne.symm plain.1]

/-- A name without a slash is the last part of the path that it was added to. -/
theorem exists_partsOf_join (directory : String) {name : String} (plain : '/' ∉ name.toList) :
    ∃ parts, partsOf (join directory name) = parts ++ [name] := by
  have last : (cutAtSlashes name.toList).map String.ofList = [name] := by
    simp [cutAtSlashes_of_notMem plain]
  unfold partsOf join
  split_ifs with empty slash
  · exact ⟨[], last⟩
  · obtain ⟨before, written⟩ : ∃ before, directory.toList = before ++ ['/'] :=
      ⟨_, (List.dropLast_append_getLast? _ slash).symm⟩
    refine ⟨(cutAtSlashes before).map String.ofList, ?_⟩
    rw [String.toList_append, written, List.append_assoc, List.singleton_append,
      cutAtSlashes_append_slash, List.map_append, last]
  · refine ⟨(cutAtSlashes directory.toList).map String.ofList, ?_⟩
    have slash : ("/" : String).toList = ['/'] := rfl
    rw [String.toList_append, String.toList_append, slash, List.append_assoc,
      List.singleton_append, cutAtSlashes_append_slash, List.map_append, last]

/-- A name that is no way of saying where to go is the last part of the place it leads to. -/
theorem getLast?_of_follow {parts : List String} {name : String}
    (proper : name ≠ "" ∧ name ≠ "." ∧ name ≠ "..")
    (followed : fs.follow here (parts ++ [name]) = .ok place) : place.getLast? = some name := by
  induction parts generalizing here with
  | nil =>
      simp only [List.nil_append, follow, proper, or_self, if_false, List.isEmpty_nil,
        if_true] at followed
      split_ifs at followed
      cases followed
      simp
  | cons part rest ih =>
      rw [List.cons_append] at followed
      unfold follow at followed
      split_ifs at followed with skipped up long last
      · exact ih followed
      · exact ih followed
      · simp at last
      · split at followed
        · exact ih followed
        · cases followed
        · cases followed

end EntityGateway.FileSystem
