import Reckoner.Text.Blank

/-! # Files of assignments

A file of assignments binds names to texts, one assignment a line: `NAME=value`, after an
optional `export`, with blanks allowed around the name and the equals sign. A value in quote marks
is taken as it stands and may go over several lines; any other value ends before the first `#`
that has a blank before it, and the blanks at both its ends are dropped. A blank between the equals
sign and a `#` counts too, so nothing but a comment after it is the empty value. A name without an
equals sign is bound to nothing. Blank lines and lines that begin with `#` bind nothing, and
neither does a line that has any other form. One byte order mark may stand before the first line.

Three things are left out: `${NAME}` in a value stands for itself here and not for the value of
that name, a backslash between quote marks escapes nothing, and no warning tells of the lines that
have any other form.
-/

namespace Reckoner.Assignments

/-- A name with the text that is assigned to it, if any. -/
abbrev Binding := String × Option String

/-- Ends every line with one line feed. -/
def unifyLineEnds : List Char → List Char
  | '\r' :: '\n' :: rest => '\n' :: unifyLineEnds rest
  | '\r' :: rest => '\n' :: unifyLineEnds rest
  | c :: rest => c :: unifyLineEnds rest
  | [] => []

/-- Whether a character is a blank within a line. -/
def isGap (c : Char) : Bool :=
  Text.isBlank c && c != '\n'

/-- The text from the next character of the line that is no blank. -/
def skipGap (cs : List Char) : List Char :=
  cs.dropWhile isGap

def skipLine (cs : List Char) : List Char :=
  (cs.dropWhile (· != '\n')).tail

/-- Whether nothing but a comment is left of the line. -/
def lineEnds (cs : List Char) : Bool :=
  match (skipGap cs).head? with
  | none => true
  | some c => c == '\n' || c == '#'

/-- The text after the word `export` and the blanks that follow it. -/
def skipExport (cs : List Char) : List Char :=
  let rest := cs.drop 6
  if cs.take 6 = ['e', 'x', 'p', 'o', 'r', 't'] && rest.head?.any isGap then skipGap rest else cs

/-- The part of a line before the first `#` that has a blank before it. -/
def dropComment : List Char → List Char
  | [] => []
  | c :: rest =>
    if Text.isBlank c && rest.head? == some '#' then [c] else c :: dropComment rest

/-- What a reader found, if it found what it wants, and the text from where it stopped. -/
structure Read (α : Type) where
  found : Option α
  rest : List Char

/-- Reads a name; a comment stands for no name. -/
def readName (cs : List Char) : Read (Option String) :=
  match cs with
  | '#' :: _ => ⟨some none, cs⟩
  | '\x27' :: quoted =>
    let name := quoted.takeWhile (· != '\x27')
    match name, quoted.dropWhile (· != '\x27') with
    | _ :: _, _ :: rest => ⟨some (some (String.ofList name)), rest⟩
    | _, _ => ⟨none, cs⟩
  | _ =>
    let inName := fun c => !(c == '=' || c == '#' || Text.isBlank c)
    match cs.takeWhile inName with
    | [] => ⟨none, cs⟩
    | name => ⟨some (some (String.ofList name)), cs.dropWhile inName⟩

/-- Reads the rest of a line as a value without quote marks. -/
def readPlain (cs : List Char) : Read String :=
  ⟨some (String.ofList (Text.strip (dropComment (cs.takeWhile (· != '\n'))))),
    cs.dropWhile (· != '\n')⟩

/-- Reads a value in quote marks, up to the next `mark`. -/
def readQuoted (mark : Char) (cs : List Char) : Read String :=
  match cs.dropWhile (· != mark) with
  | [] => ⟨none, cs⟩
  | _ :: rest => ⟨some (String.ofList (cs.takeWhile (· != mark))), rest⟩

def readValue (cs : List Char) : Read String :=
  match skipGap cs with
  | '\x27' :: quoted => readQuoted '\x27' quoted
  | '\x22' :: quoted => readQuoted '\x22' quoted
  | _ => readPlain cs

/-- Reads an equals sign and the value after it, if there is one. -/
def readAssigned (cs : List Char) : Read (Option String) :=
  match cs with
  | '=' :: rest =>
    let value := readValue rest
    ⟨value.found.map some, value.rest⟩
  | _ => ⟨some none, cs⟩

/-- Reads one assignment, up to what has to be the end of a line. -/
def readAssignment (cs : List Char) : Read Binding :=
  let name := readName (skipExport cs)
  match name.found with
  | none => ⟨none, name.rest⟩
  | some key =>
    let value := readAssigned (skipGap name.rest)
    match key, value.found with
    | some key, some text =>
      ⟨if lineEnds value.rest then some (key, text) else none, value.rest⟩
    | _, _ => ⟨none, value.rest⟩

theorem length_skipGap_le (cs : List Char) : (skipGap cs).length ≤ cs.length :=
  (List.dropWhile_suffix _).length_le

theorem length_skipExport_le (cs : List Char) : (skipExport cs).length ≤ cs.length := by
  unfold skipExport
  have rest := length_skipGap_le (cs.drop 6)
  rw [List.length_drop] at rest
  dsimp only
  split <;> omega

theorem length_readName_le (cs : List Char) : (readName cs).rest.length ≤ cs.length := by
  unfold readName
  split
  · exact Nat.le_refl _
  · rename_i quoted
    dsimp only
    split
    · rename_i after
      have suffix := (List.dropWhile_suffix (l := quoted) (· != '\x27')).length_le
      rw [after] at suffix
      simp only [List.length_cons] at suffix ⊢
      omega
    · exact Nat.le_refl _
  · dsimp only
    split
    · exact Nat.le_refl _
    · exact (List.dropWhile_suffix _).length_le

theorem length_readQuoted_le (mark : Char) (cs : List Char) :
    (readQuoted mark cs).rest.length ≤ cs.length := by
  unfold readQuoted
  split
  · exact Nat.le_refl _
  · rename_i after
    have suffix := (List.dropWhile_suffix (l := cs) (· != mark)).length_le
    rw [after] at suffix
    simp only [List.length_cons] at suffix ⊢
    omega

theorem length_readValue_le (cs : List Char) : (readValue cs).rest.length ≤ cs.length := by
  have gap := length_skipGap_le cs
  unfold readValue
  split
  · rename_i quoted start
    have value := length_readQuoted_le '\x27' quoted
    rw [start, List.length_cons] at gap
    omega
  · rename_i quoted start
    have value := length_readQuoted_le '\x22' quoted
    rw [start, List.length_cons] at gap
    omega
  · exact (List.dropWhile_suffix _).length_le

theorem length_readAssigned_le (cs : List Char) : (readAssigned cs).rest.length ≤ cs.length := by
  unfold readAssigned
  split
  · rename_i rest
    have value := length_readValue_le rest
    simp only [List.length_cons]
    omega
  · exact Nat.le_refl _

theorem length_readAssignment_le (cs : List Char) :
    (readAssignment cs).rest.length ≤ cs.length := by
  have name := length_readName_le (skipExport cs)
  have start := length_skipExport_le cs
  have gap := length_skipGap_le (readName (skipExport cs)).rest
  have value := length_readAssigned_le (skipGap (readName (skipExport cs)).rest)
  unfold readAssignment
  dsimp only
  split
  · dsimp only
    omega
  · split <;> dsimp only <;> omega

theorem length_skipLine_lt {cs rest : List Char} (within : rest.length ≤ cs.length)
    (nonempty : cs ≠ []) : (skipLine rest).length < cs.length := by
  have suffix := (List.dropWhile_suffix (l := rest) (· != '\n')).length_le
  have positive := List.length_pos_iff.mpr nonempty
  rw [skipLine, List.length_tail]
  omega

/-- The assignments of a text whose lines end in line feeds, in order. -/
def readAll (cs : List Char) : List Binding :=
  match _start : cs.dropWhile Text.isBlank with
  | [] => []
  | c :: rest =>
    let assignment := readAssignment (c :: rest)
    assignment.found.toList ++ readAll (skipLine assignment.rest)
termination_by cs.length
decreasing_by
  have suffix := (List.dropWhile_suffix (l := cs) Text.isBlank).length_le
  rw [_start] at suffix
  exact Nat.lt_of_lt_of_le
    (length_skipLine_lt (length_readAssignment_le (c :: rest)) (by simp)) suffix

/-- The text after its byte order mark, if it begins with one. -/
def skipOrderMark : List Char → List Char
  | '\ufeff' :: rest => rest
  | cs => cs

def read (file : String) : List Binding :=
  readAll (unifyLineEnds (skipOrderMark file.toList))

end Reckoner.Assignments
