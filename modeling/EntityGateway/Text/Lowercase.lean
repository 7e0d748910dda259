import EntityGateway.Text.CaseTable

/-!
# Full lower-casing

`lowercase` maps a text to lower case by the full Unicode rules. Most characters map to one
character on their own; two do not. A capital dotted `I` becomes two characters, and a capital
sigma becomes a final sigma where it ends a word, which only its neighbours can tell.
-/

namespace EntityGateway.Text

/-- A member of one of the runs of a property table. -/
def inRuns (runs : List (Nat × Nat)) (c : Char) : Bool :=
  runs.any fun (first, last) => first ≤ c.toNat && c.toNat ≤ last

/-- The character is an upper-case, lower-case or title-case letter. -/
def isCased (c : Char) : Bool :=
  inRuns CaseTable.cased c

/-- The character is passed over when the end of a word is looked for. -/
def isCaseIgnorable (c : Char) : Bool :=
  inRuns CaseTable.ignorable c

/-- The lower-case letter of a character, or the character itself. -/
def lowerChar (c : Char) : Char :=
  let row := CaseTable.lowered.find? fun (first, last, step, _) =>
    first ≤ c.toNat && c.toNat ≤ last && (c.toNat - first) % step == 0
  match row with
  | some (_, _, _, shift) => Char.ofNat (Int.toNat (c.toNat + shift))
  | none => c

/-- Going away from a letter, ignorable characters come first and then a cased one: the word goes
on in this direction. -/
def continuesWord (away : List Char) : Bool :=
  match away.dropWhile isCaseIgnorable with
  | c :: _ => isCased c
  | [] => false

/-- Lower-cases a text of which `before`, in reverse order, has already been read. -/
def lowercaseAfter (before : List Char) : List Char → List Char
  | [] => []
  | c :: rest =>
    let lowered :=
      if c = 'Σ' then
        if continuesWord before && !continuesWord rest then ['ς'] else ['σ']
      else if c = 'İ' then ['i', '\u0307']
      else [lowerChar c]
    lowered ++ lowercaseAfter (c :: before) rest

/-- The text in lower case, by the full Unicode rules. -/
def lowercase (s : String) : String :=
  String.ofList (lowercaseAfter [] s.toList)

end EntityGateway.Text
