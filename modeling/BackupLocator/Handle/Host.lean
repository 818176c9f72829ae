import BackupLocator.Text.Cut
import BackupLocator.Text.HexDigit

/-!
# Hosts in brackets

What may stand between the brackets of an authority: an address of eight groups of hexadecimal
digits, of which one run of zero groups may be left out, or an address of a later version.
-/

namespace BackupLocator.Handle.Host

/-- Whether a text is a group of an address: one to four hexadecimal digits. -/
def isGroup (s : List Char) : Bool :=
  s ≠ [] && s.length ≤ 4 && s.all Text.isHexDigit

/-- Whether a text is a number up to 255, without leading zeros. -/
def isOctet (s : List Char) : Bool :=
  s ≠ [] && s.length ≤ 3 && s.all Char.isDigit && (s.length = 1 || s.head? ≠ some '0') &&
    s.foldl (fun n d => n * 10 + (d.toNat - '0'.toNat)) 0 ≤ 255

/-- Whether a text is an address of four numbers. -/
def isFourNumbers (s : List Char) : Bool :=
  let octets := Text.pieces '.' s
  octets.length = 4 && octets.all isOctet

/-- The groups of an address. Four numbers at its end count as two groups. -/
def groups? (s : List Char) : Option (List (List Char)) :=
  let ps := Text.pieces ':' s
  let last := ps.getLast?.getD []
  if ps.length < 3 then none
  else if last.contains '.' then
    if isFourNumbers last then some (ps.dropLast ++ [['0'], ['0']]) else none
  else some ps

/-- Whether the groups of an address are complete, or lack one run of groups. An empty group
inside marks the run; an empty group at an end is right only beside the mark. -/
def areComplete (ps : List (List Char)) : Bool :=
  let inner := (ps.drop 1).dropLast
  match inner.findIdx? List.isEmpty with
  | none => ps.length = 8 && ps.all isGroup
  | some i =>
    let front := ps.take (i + 1)
    let back := ps.drop (i + 2)
    let front := if front = [[]] then [] else front
    let back := if back = [[]] then [] else back
    front.all isGroup && back.all isGroup && front.length + back.length < 8

/-- Whether a text is an address of eight groups, perhaps with a zone behind a percent sign. -/
def isEightGroups (s : List Char) : Bool :=
  let zoneOk := !s.contains '%' ||
    (Text.afterFirst '%' s ≠ [] && !(Text.afterFirst '%' s).contains '%')
  zoneOk && !s.contains '/' &&
    match groups? (Text.beforeFirst '%' s) with
    | some ps => ps.length ≤ 9 && areComplete ps
    | none => false

/-- Whether a text is an address of a later version: `v`, a version in hexadecimal digits, a
point, and something on the same line. -/
def isLaterVersion (s : List Char) : Bool :=
  match s with
  | 'v' :: s =>
    let version := Text.beforeFirst '.' s
    let behind := Text.afterFirst '.' s
    version ≠ [] && version.all Text.isHexDigit && s.contains '.' && behind ≠ [] &&
      !behind.contains '\n'
  | _ => false

/-- Whether a text may stand between brackets. -/
def isAllowed (s : List Char) : Bool :=
  if s.head? = some 'v' then isLaterVersion s else isEightGroups s

end BackupLocator.Handle.Host
