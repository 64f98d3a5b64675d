import FleetConfig.Toml.Step

/-!
# Blanks, comments and line ends

## Main definitions

* `Toml.skipBlanks`, `Toml.newline?`, `Toml.skipComment` — the trivia of a line.
* `Toml.lineEnd` — the end of a line with an optional comment.
* `Toml.trivia` — trivia over several lines, as arrays allow them.
-/

namespace FleetConfig.Toml

/-- Holds of spaces and tabs. -/
def isBlank (c : Char) : Bool := c == ' ' || c == '\t'

/-- Drops spaces and tabs in front. -/
def skipBlanks (cs : List Char) : List Char := cs.dropWhile isBlank

/-- What follows a line end in front: a line feed, or a carriage return and a line feed. -/
def newline? : List Char → Option (List Char)
  | '\n' :: cs => some cs
  | '\r' :: '\n' :: cs => some cs
  | _ => none

/-- Holds of the characters of comments: all but control characters, and tabs. -/
def isCommentChar (c : Char) : Bool := c == '\t' || (0x20 ≤ c.toNat && c.toNat != 0x7F)

/-- Drops a comment in front, up to the end of its line. -/
def skipComment : List Char → List Char
  | '#' :: cs => cs.dropWhile isCommentChar
  | cs => cs

/-- Reads blanks, an optional comment, and the end of the line or of the text. -/
def lineEnd (cs : List Char) : Step Unit :=
  match skipComment (skipBlanks cs) with
  | [] => .found () []
  | rest =>
    match newline? rest with
    | some rest' => .found () rest'
    | none => .wrong ⟨rest.length⟩

theorem length_lt_of_newline? {cs rest : List Char} (h : newline? cs = some rest) :
    rest.length < cs.length := by
  unfold newline? at h
  split at h
  · cases h
    exact Nat.lt_succ_self _
  · cases h
    simp only [List.length_cons]
    omega
  · cases h

theorem length_skipComment_le (cs : List Char) : (skipComment cs).length ≤ cs.length := by
  unfold skipComment
  split
  · exact Nat.le_succ_of_le (List.dropWhile_sublist _).length_le
  · exact Nat.le_refl _

/-- Drops blanks, comments and line ends. The text is wrong where a comment, or a carriage return,
is not followed by the rest of a line end. -/
def trivia (cs : List Char) : Step Unit :=
  match _h : skipBlanks cs with
  | [] => .found () []
  | c :: rest =>
    if c = '#' || c = '\n' || c = '\r' then
      match _h' : newline? (skipComment (c :: rest)) with
      | some rest' => trivia rest'
      | none => .wrong ⟨(skipComment (c :: rest)).length⟩
    else .found () (c :: rest)
termination_by cs.length
decreasing_by
  have h1 := (List.dropWhile_sublist (l := cs) isBlank).length_le
  have h2 := length_skipComment_le (c :: rest)
  have h3 := length_lt_of_newline? ‹_›
  simp only [skipBlanks] at *
  simp_all only [List.length_cons]
  omega

end FleetConfig.Toml
