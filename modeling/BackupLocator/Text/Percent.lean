import BackupLocator.Text.HexDigit
import BackupLocator.Text.Utf8

/-!
# Percent escapes

A percent sign and two hexadecimal digits stand for one byte. Every other character stands for
its own bytes, a percent sign without two digits included.
-/

namespace BackupLocator.Text.Percent

/-- The bytes that an escaped text stands for. -/
def bytes : List Char → List UInt8
  | '%' :: a :: b :: s =>
    match hexValue? a, hexValue? b with
    | some x, some y => UInt8.ofNat (x * 16 + y) :: bytes s
    | _, _ => Utf8.encodeChar '%' ++ bytes (a :: b :: s)
  | c :: s => Utf8.encodeChar c ++ bytes s
  | [] => []

/-- The text that an escaped text stands for; bytes that are not well formed read as replacement
characters. -/
def decode (s : List Char) : List Char := Utf8.decodeLossy (bytes s)

end BackupLocator.Text.Percent
