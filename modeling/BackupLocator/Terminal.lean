import BackupLocator.Terminal.Fitting
import BackupLocator.Terminal.Markup

/-!
# Text on a terminal

What is printed without colours: markup shows its plain text, and tabs are filled up with blanks. A
line by itself is printed whole, and a cell is fitted into its column. A text that is echoed is
printed as it is, less its control sequences.
-/

namespace BackupLocator.Terminal

/-- The texts of lines, once their styles have been put to use. -/
def shown (lines : List Styled) : Except Failure (List (List Char)) := do
  lines.forM fun line => line.stretches.forM fun s => StyleName.use s.style
  return lines.map (·.text)

/-- What is printed for a text with markup. -/
def printed (s : String) : Except Failure String := do
  let styled ← Markup.read s.toList
  let lines ← shown (styled.lines.map Styled.expandTabs)
  return String.ofList (Text.joinWith '\n' lines)

/-- The cells that a text with markup asks for. -/
def measured (s : String) : Except Failure Nat :=
  (Markup.read s.toList).map Styled.width

/-- The lines that are printed for a text with markup in a column, without the blanks around them.
-/
def printedIn (width : Nat) (breaksLines : Bool) (s : String) : Except Failure (List String) := do
  let styled ← Markup.read s.toList
  let lines ← shown (styled.fit width breaksLines)
  return lines.map fun line => String.ofList (Text.trim Text.isBlank line)

/-! ## Echoed text -/

/-- Whether a character is a parameter of a control sequence: a digit or one of `:;<=>?`. -/
def isParameter (c : Char) : Bool := '0' ≤ c && c ≤ '?'

/-- Whether a character stands between the parameters and the end of a control sequence: a blank
or one of the marks up to the slash. -/
def isIntermediate (c : Char) : Bool := ' ' ≤ c && c ≤ '/'

/-- Whether a character ends a control sequence: a letter, an at sign or a mark near them. -/
def isFinal (c : Char) : Bool := '@' ≤ c && c ≤ '~'

/-- What follows a control sequence, from behind its escape character. -/
def afterSequence? (s : List Char) : Option (List Char) :=
  match s with
  | '[' :: inner =>
    match (inner.dropWhile isParameter).dropWhile isIntermediate with
    | c :: rest => if isFinal c then some rest else none
    | [] => none
  | _ => none

/-- A text without control sequences. Each step takes a character. -/
def stripSequences : Nat → List Char → List Char
  | 0, s => s
  | _, [] => []
  | fuel + 1, c :: s =>
    if c = '\x1b' then
      match afterSequence? s with
      | some rest => stripSequences fuel rest
      | none => c :: stripSequences fuel s
    else c :: stripSequences fuel s

/-- What is printed for a text that is echoed. -/
def echoed (s : String) : String := String.ofList (stripSequences s.length s.toList)

end BackupLocator.Terminal
