import BackupLocator.Text.HexDigit
import BackupLocator.Text.Printable

/-!
# Quoted texts

How a text is shown inside a message: between single quotes, or between double ones if it holds a
single quote and no double one. The quote in use and the backslash are escaped, tab, line feed and
carriage return have a letter, and every other character that is not printable is written by its
code point in hexadecimal.
-/

namespace BackupLocator.Text.Quoted

/-- A character by its code point, in two, four or eight digits. -/
def byCodePoint (c : Char) : List Char :=
  let n := c.toNat
  if n < 0x100 then '\\' :: 'x' :: hexDigits 2 n
  else if n < 0x10000 then '\\' :: 'u' :: hexDigits 4 n
  else '\\' :: 'U' :: hexDigits 8 n

/-- The quote that a text stands between. -/
def mark (s : List Char) : Char :=
  if s.contains '\'' && !s.contains '"' then '"' else '\''

/-- One character of a quoted text, where `shown` says which characters stand for themselves. -/
def writeChar (shown : Char → Bool) (quote c : Char) : List Char :=
  if c = quote ∨ c = '\\' then ['\\', c]
  else if c = '\t' then ['\\', 't']
  else if c = '\n' then ['\\', 'n']
  else if c = '\r' then ['\\', 'r']
  else if shown c then [c]
  else byCodePoint c

/-- A text between quotes, where `shown` says which characters stand for themselves. -/
def writeWith (shown : Char → Bool) (s : List Char) : List Char :=
  let quote := mark s
  quote :: s.flatMap (writeChar shown quote) ++ [quote]

/-- A text between quotes, with printable characters as themselves. -/
def write (s : String) : String :=
  String.ofList (writeWith isPrintable s.toList)

end BackupLocator.Text.Quoted
