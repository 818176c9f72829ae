import BackupLocator.Terminal.Styled
import BackupLocator.Text.Blank

/-!
# Fitting texts into columns

A column has a width. A line that is too long for it is broken in front of a word, if the column
allows that; blanks at the end that do not fit are left out; and what is still too long is cut
short, with an ellipsis at its end.
-/

namespace BackupLocator.Terminal

/-! ## Signs -/

/-- A character with all that is put on it or joined to it, and the cells that they take. -/
structure Sign where
  chars : List Char
  width : Nat
  deriving DecidableEq, Repr

/-- A sign with some more characters, and perhaps more cells. -/
def Sign.extend (s : Sign) (cs : List Char) (added : Nat) : Sign := ⟨s.chars ++ cs, s.width + added⟩

/-- The signs of a text, the last first, behind those in `known`. The character that an emoji mark
can make wide is `last`. -/
def signsFrom (last : Option Char) (known : List Sign) : List Char → List Sign
  | [] => known
  | [c] =>
    match known with
    | [] => [⟨[c], if c = joiner || c = emojiMark then 0 else cellWidth c⟩]
    | sign :: signs =>
      if c = joiner then sign.extend [c] 0 :: signs
      else if c = emojiMark then sign.extend [c] (addedWidth last) :: signs
      else if cellWidth c = 0 then sign.extend [c] 0 :: signs
      else ⟨[c], cellWidth c⟩ :: sign :: signs
  | c :: d :: s =>
    match known with
    | [] =>
      if c = joiner || c = emojiMark || cellWidth c = 0 then signsFrom last [⟨[c], 0⟩] (d :: s)
      else signsFrom (some c) [⟨[c], cellWidth c⟩] (d :: s)
    | sign :: signs =>
      if c = joiner then signsFrom last (sign.extend [c, d] 0 :: signs) s
      else if c = emojiMark then
        signsFrom none (sign.extend [c] (addedWidth last) :: signs) (d :: s)
      else if cellWidth c = 0 then signsFrom last (sign.extend [c] 0 :: signs) (d :: s)
      else signsFrom (some c) (⟨[c], cellWidth c⟩ :: sign :: signs) (d :: s)

/-- The signs of a text. -/
def signs (s : List Char) : List Sign := (signsFrom none [] s).reverse

/-- The characters of the first signs, up to `room` cells. A sign that fits only in part is a blank.
-/
def takeCells (room : Nat) : List Sign → List Char
  | [] => []
  | sign :: signs =>
    if room = 0 then []
    else if sign.width ≤ room then sign.chars ++ takeCells (room - sign.width) signs
    else [' ']

/-! ## Words -/

/-- The words of a text with the blanks around them and their positions, where `start` characters
stand in front. Only the first has blanks before it. Each step takes a word. -/
def wordsFrom : Nat → Nat → List Char → List (Nat × List Char)
  | 0, _, _ => []
  | fuel + 1, start, s =>
    let lead := s.takeWhile Text.isBlank
    let behind := s.drop lead.length
    let body := behind.takeWhile fun c => !Text.isBlank c
    let trail := (behind.drop body.length).takeWhile Text.isBlank
    if body.isEmpty then []
    else
      let word := lead ++ body ++ trail
      (start, word) :: wordsFrom fuel (start + word.length) (s.drop word.length)

/-- A text without the blanks at its end. -/
def withoutTrail (s : List Char) : List Char := (s.reverse.dropWhile Text.isBlank).reverse

/-- The positions at which words begin a new line, where `used` cells of a line are taken. A word
that is wider than a line has a line of its own. -/
def breaksFrom (width used : Nat) : List (Nat × List Char) → List Nat
  | [] => []
  | (start, word) :: words =>
    let length := cells (withoutTrail word)
    if used + length ≤ width then breaksFrom width (used + cells word) words
    else if start ≠ 0 ∧ (width < length ∨ used ≠ 0) then
      start :: breaksFrom width (cells word) words
    else breaksFrom width (if width < length then cells word else used) words

/-- The positions at which a line is broken. -/
def breaks (width : Nat) (s : List Char) : List Nat :=
  breaksFrom width 0 (wordsFrom s.length 0 s)

/-! ## Lines of a column -/

namespace Styled

/-- A line without blanks at its end that make it longer than `width` characters. -/
def cropBlanks (width : Nat) (t : Styled) : Styled :=
  let blanks := t.text.length - (withoutTrail t.text).length
  t.crop (t.text.length - min blanks (t.text.length - width))

/-- A line of no more than `width` cells. One that is longer ends with an ellipsis. -/
def shorten (width : Nat) (t : Styled) : Styled :=
  if cells t.text ≤ width then t
  else
    let text := takeCells (width - 1) (signs t.text) ++ ['…']
    { t.crop text.length with text }

/-- The lines of a text in a column, which breaks long lines if `breaksLines` holds. -/
def fit (width : Nat) (breaksLines : Bool) (t : Styled) : List Styled :=
  t.lines.flatMap fun line =>
    let line := line.expandTabs
    let pieces := if breaksLines then line.cutAt (breaks width line.text) else [line]
    pieces.map fun piece => (piece.cropBlanks width).shorten width

end Styled

end BackupLocator.Terminal
