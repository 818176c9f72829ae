/-!
# Bytes of a text

A character is written as one to four bytes. Reading is a machine that takes one byte at a time;
where the bytes are not well formed it gives up the longest beginning of a character that it has
seen, marks the place, and goes on with the byte that did not fit.
-/

namespace BackupLocator.Text.Utf8

/-- The bytes of one character. -/
def encodeChar (c : Char) : List UInt8 :=
  let n := c.toNat
  if n < 0x80 then [UInt8.ofNat n]
  else if n < 0x800 then [UInt8.ofNat (0xC0 + n / 64), UInt8.ofNat (0x80 + n % 64)]
  else if n < 0x10000 then
    [UInt8.ofNat (0xE0 + n / 4096), UInt8.ofNat (0x80 + n / 64 % 64), UInt8.ofNat (0x80 + n % 64)]
  else
    [UInt8.ofNat (0xF0 + n / 262144), UInt8.ofNat (0x80 + n / 4096 % 64),
      UInt8.ofNat (0x80 + n / 64 % 64), UInt8.ofNat (0x80 + n % 64)]

/-- The bytes of a text. -/
def encode (s : List Char) : List UInt8 := s.flatMap encodeChar

/-- Where the reader stands: between characters, or inside one with `owed` bytes to come, of
which the next lies between `low` and `high`, and the value `seen` of the bits read so far. -/
inductive State where
  | between
  | inside (owed low high seen : Nat)
  deriving DecidableEq, Repr

/-- What the reader makes of the first byte of a character; `none` marks a byte that begins
no character. -/
def first (b : Nat) : State × List (Option Char) :=
  if b < 0x80 then (.between, [some (Char.ofNat b)])
  else if b < 0xC2 then (.between, [none])
  else if b < 0xE0 then (.inside 1 0x80 0xBF (b - 0xC0), [])
  else if b = 0xE0 then (.inside 2 0xA0 0xBF 0, [])
  else if b = 0xED then (.inside 2 0x80 0x9F 0xD, [])
  else if b < 0xF0 then (.inside 2 0x80 0xBF (b - 0xE0), [])
  else if b = 0xF0 then (.inside 3 0x90 0xBF 0, [])
  else if b < 0xF4 then (.inside 3 0x80 0xBF (b - 0xF0), [])
  else if b = 0xF4 then (.inside 3 0x80 0x8F 4, [])
  else (.between, [none])

/-- What the reader makes of one byte: its next state, and the characters and marks it is now
sure of. -/
def step (b : Nat) : State → State × List (Option Char)
  | .between => first b
  | .inside owed low high seen =>
    if low ≤ b ∧ b ≤ high then
      let value := seen * 64 + (b - 0x80)
      if owed ≤ 1 then (.between, [some (Char.ofNat value)])
      else (.inside (owed - 1) 0x80 0xBF value, [])
    else
      let (st, out) := first b
      (st, none :: out)

/-- The characters of a run of bytes, with `none` for each place that is not well formed. -/
def read : State → List UInt8 → List (Option Char)
  | .between, [] => []
  | .inside .., [] => [none]
  | st, b :: bs =>
    let (st', out) := step b.toNat st
    out ++ read st' bs

/-- The text of a run of bytes, with a replacement character for each place that is not well
formed. -/
def decodeLossy (bs : List UInt8) : List Char :=
  (read .between bs).map (·.getD '\ufffd')

/-- The text of a run of bytes, if all of it is well formed. -/
def decode? (bs : List UInt8) : Option (List Char) :=
  (read .between bs).mapM id

end BackupLocator.Text.Utf8
