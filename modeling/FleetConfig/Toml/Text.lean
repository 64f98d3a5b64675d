import FleetConfig.Number.Digits
import FleetConfig.Toml.Lexical

/-!
# Texts

A text stands in quotes: on one line or, between three quotes, on several. In double quotes a
backslash starts an escape; in single quotes every character stands for itself.

## Main definitions

* `Toml.text` — reads a text of any of the four kinds.
* `Toml.basicText`, `Toml.literalText` — the kinds on one line, which can also be keys.
-/

namespace FleetConfig.Toml

/-! ### Characters -/

/-- Holds of the characters that stand for themselves in double quotes. -/
def isBasicChar (c : Char) : Bool := isCommentChar c && c != '"' && c != '\\'

/-- Holds of the characters that stand in single quotes. -/
def isLiteralChar (c : Char) : Bool := isCommentChar c && c != '\''

/-- The character whose number is written in hexadecimal digits. -/
def charOfDigits? (ds : List Char) : Option Char := do
  let n ← Number.natural? 16 ds
  if 0x10FFFF < n || (0xD800 ≤ n && n ≤ 0xDFFF) then none else some (Char.ofNat n)

/-- The character of so many hexadecimal digits in front. -/
def charCode (count : Nat) (cs : List Char) : Step Char :=
  let ds := cs.take count
  if ds.length < count then .wrong ⟨cs.length⟩
  else
    match charOfDigits? ds with
    | some c => .found c (cs.drop count)
    | none => .wrong ⟨cs.length⟩

/-- The character that a single character after a backslash stands for. -/
def shortEscape? : Char → Option Char
  | 'b' => some '\x08'
  | 'f' => some '\x0c'
  | 'n' => some '\n'
  | 'r' => some '\r'
  | 't' => some '\t'
  | '"' => some '"'
  | '\\' => some '\\'
  | _ => none

/-- The character that an escape stands for, after its backslash. -/
def escape : List Char → Step Char
  | [] => .absent
  | c :: cs =>
    match shortEscape? c with
    | some e => .found e cs
    | none =>
      if c = 'u' then charCode 4 cs
      else if c = 'U' then charCode 8 cs
      else .wrong ⟨cs.length⟩

theorem length_le_of_charCode {count : Nat} {cs rest : List Char} {c : Char}
    (h : charCode count cs = .found c rest) : rest.length ≤ cs.length := by
  simp only [charCode] at h
  split at h
  · cases h
  · split at h
    · cases h
      simp
    · cases h

theorem length_lt_of_escape {cs rest : List Char} {c : Char} (h : escape cs = .found c rest) :
    rest.length < cs.length := by
  cases cs with
  | nil => simp [escape] at h
  | cons a cs =>
    simp only [escape] at h
    split at h
    · cases h
      exact Nat.lt_succ_self _
    · split at h
      · exact Nat.lt_succ_of_le (length_le_of_charCode h)
      · split at h
        · exact Nat.lt_succ_of_le (length_le_of_charCode h)
        · cases h

/-! ### One line -/

/-- Reads a text in double quotes behind the opening quote. -/
def basicBody (cs : List Char) : Step (List Char) :=
  match cs with
  | [] => .wrong ⟨0⟩
  | '"' :: rest => .found [] rest
  | '\\' :: rest =>
    match _h : escape rest with
    | .found c rest' => (basicBody rest').map (c :: ·)
    | .absent => .wrong ⟨rest.length + 1⟩
    | .wrong fault => .wrong fault
  | c :: rest =>
    if isBasicChar c then (basicBody rest).map (c :: ·) else .wrong ⟨rest.length + 1⟩
termination_by cs.length
decreasing_by
  · exact Nat.lt_succ_of_lt (length_lt_of_escape ‹_›)
  · exact Nat.lt_succ_self _

/-- Reads a text in double quotes on one line. -/
def basicText : List Char → Step (List Char)
  | '"' :: cs => basicBody cs
  | _ => .absent

/-- Reads a text in single quotes on one line. -/
def literalText : List Char → Step (List Char)
  | '\'' :: cs =>
    match cs.dropWhile isLiteralChar with
    | '\'' :: rest => .found (cs.takeWhile isLiteralChar) rest
    | rest => .wrong ⟨rest.length⟩
  | _ => .absent

/-! ### Several lines -/

/-- The number of quotes in front, at most five: three that close a text, and two before them. -/
def quotesInFront (q : Char) (cs : List Char) : Nat := ((cs.take 5).takeWhile (· == q)).length

/-- Drops a line end in front, if there is one. -/
def skipNewline (cs : List Char) : List Char := (newline? cs).getD cs

/-- Drops blanks and line ends. -/
def skipSpace (cs : List Char) : List Char :=
  match cs with
  | [] => []
  | '\r' :: '\n' :: rest => skipSpace rest
  | c :: rest => if c = '\n' || isBlank c then skipSpace rest else c :: rest

theorem length_skipSpace_le (cs : List Char) : (skipSpace cs).length ≤ cs.length := by
  fun_induction skipSpace cs with
  | case1 => simp
  | case2 rest ih =>
    simp only [List.length_cons]
    omega
  | case3 c rest _ _ ih =>
    simp only [List.length_cons]
    omega
  | case4 => simp

/-- What follows an escaped line end, after its backslash: the space up to the next character does
not count. -/
def escapedNewline? (cs : List Char) : Option (List Char) :=
  (newline? (skipBlanks cs)).map skipSpace

theorem length_le_of_escapedNewline? {cs rest : List Char} (h : escapedNewline? cs = some rest) :
    rest.length ≤ cs.length := by
  simp only [escapedNewline?, Option.map_eq_some_iff] at h
  obtain ⟨mid, hmid, rfl⟩ := h
  have h1 := length_lt_of_newline? hmid
  have h2 := (List.dropWhile_sublist (l := cs) isBlank).length_le
  have h3 := length_skipSpace_le mid
  simp only [skipBlanks] at h1
  omega

/-- Reads one piece of a text on several lines, but no quote `q`; in double quotes a backslash
starts an escape. -/
def contentPiece (q : Char) (cs : List Char) : Step (List Char) :=
  match cs with
  | [] => .absent
  | c :: rest =>
    if c = q then .absent
    else if c = '\\' && q = '"' then
      match escapedNewline? rest with
      | some rest' => .found [] rest'
      | none => (escape rest).map fun e => [e]
    else if isCommentChar c then .found [c] rest
    else
      match newline? (c :: rest) with
      | some rest' => .found ['\n'] rest'
      | none => .absent

theorem length_lt_of_contentPiece {q : Char} {cs rest piece : List Char}
    (h : contentPiece q cs = .found piece rest) : rest.length < cs.length := by
  cases cs with
  | nil => simp [contentPiece] at h
  | cons c cs =>
    simp only [contentPiece] at h
    split at h
    · cases h
    · split at h
      · split at h
        · cases h
          exact Nat.lt_succ_of_le (length_le_of_escapedNewline? ‹_›)
        · cases he : escape cs with
          | found e r =>
            simp only [he, Step.map] at h
            cases h
            exact Nat.lt_succ_of_lt (length_lt_of_escape he)
          | absent => simp [he, Step.map] at h
          | wrong f => simp [he, Step.map] at h
      · split at h
        · cases h
          exact Nat.lt_succ_self _
        · split at h
          · cases h
            exact length_lt_of_newline? ‹_›
          · cases h

/-- Reads a text on several lines behind its opening quotes. Up to two quotes `q` in a row stand for
themselves. -/
def longBody (q : Char) (cs : List Char) : Step (List Char) :=
  match _h : contentPiece q cs with
  | .found piece rest => (longBody q rest).map (piece ++ ·)
  | .wrong fault => .wrong fault
  | .absent =>
    let n := quotesInFront q cs
    if 3 ≤ n then .found (List.replicate (n - 3) q) (cs.drop n)
    else if n = 0 then .wrong ⟨cs.length⟩
    else
      match _h' : contentPiece q (cs.drop n) with
      | .found piece rest => (longBody q rest).map (List.replicate n q ++ piece ++ ·)
      | .wrong fault => .wrong fault
      | .absent => .wrong ⟨cs.length⟩
termination_by cs.length
decreasing_by
  · exact length_lt_of_contentPiece ‹_›
  · have := length_lt_of_contentPiece ‹_›
    simp only [List.length_drop] at this
    omega

/-- Reads a text, on one line or on several. -/
def text : List Char → Step (List Char)
  | '"' :: '"' :: '"' :: cs => longBody '"' (skipNewline cs)
  | '\'' :: '\'' :: '\'' :: cs => longBody '\'' (skipNewline cs)
  | '"' :: cs => basicBody cs
  | cs => literalText cs

end FleetConfig.Toml
