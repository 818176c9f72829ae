import BackupLocator.Failure
import BackupLocator.Handle.Host
import BackupLocator.Text.Percent

/-!
# Directory handles

A handle stands for a directory that a user has chosen. It is a document id, or a content address
that carries one, escaped, in its last segment. A document id is the tag of a volume, and behind
the first colon a path on that volume. The last part of an id, behind its last colon, is its leaf.
-/

namespace BackupLocator.Handle

/-! ## Content addresses -/

/-- What a content address begins with. -/
def scheme : String := "content:"

/-- Whether a handle is a content address. -/
def isAddress (handle : String) : Bool :=
  (scheme ++ "//").toList.isPrefixOf handle.toList

/-- Whether a character is left out of an address wherever it stands. -/
def isIgnored (c : Char) : Bool := c = '\t' || c = '\n' || c = '\r'

/-- Whether a character ends the authority of an address. -/
def endsAuthority (c : Char) : Bool := c = '/' || c = '?' || c = '#'

/-- The code points beyond ASCII that are only another form of a slash, question mark, number
sign, at sign or colon, or hold one in their plain form. -/
def delimiterForms : List Nat :=
  [0x2047, 0x2048, 0x2049, 0x2100, 0x2101, 0x2105, 0x2106, 0x2A74, 0xFE13, 0xFE16, 0xFE55, 0xFE56,
    0xFE5F, 0xFE6B, 0xFF03, 0xFF0F, 0xFF1A, 0xFF1F, 0xFF20]

/-- The host of an authority that holds brackets, if they are right. It is looked for behind the
last at sign. With a `[` there, that is the first character, the host reaches to the next `]`, and
behind that stands nothing or a colon and a port. Without one, the host ends before the colon. This
is the newer of two rules in use: the older one looks only between the first `[` and the next `]`,
whatever stands around them. -/
def bracketedHost? (authority : List Char) : Option (List Char) :=
  let hostAndPort := Text.afterLast '@' authority
  if hostAndPort.contains '[' then
    match hostAndPort with
    | '[' :: rest =>
      match Text.afterFirst ']' rest with
      | [] | ':' :: _ => some (Text.beforeFirst ']' rest)
      | _ => none
    | _ => none
  else some (Text.beforeFirst ':' hostAndPort)

/-- Whether the brackets of an authority are right: there are none, or both kinds occur and the
host is one that may stand in brackets. -/
def areBracketsRight (authority : List Char) : Bool :=
  match authority.contains '[', authority.contains ']' with
  | false, false => true
  | true, true => (bracketedHost? authority).any Host.isAllowed
  | _, _ => false

/-- Whether an authority can be told apart from what follows it. -/
def isAuthority (authority : List Char) : Bool :=
  areBracketsRight authority && authority.all fun c => !delimiterForms.contains c.toNat

/-- The path of an address: what lies between its authority and a question mark or number sign;
`none` if the authority is not right. -/
def pathOfAddress? (address : List Char) : Option (List Char) :=
  let rest := (address.filter (!isIgnored ·)).drop (scheme.length + 2)
  let authority := rest.takeWhile (!endsAuthority ·)
  let behind := rest.dropWhile (!endsAuthority ·)
  if isAuthority authority then some (Text.beforeFirst '?' (Text.beforeFirst '#' behind))
  else none

/-- The last segment of a path that is not empty; empty where there is none. -/
def lastSegment (path : List Char) : List Char :=
  (((Text.pieces '/' path).filter (· ≠ [])).getLast?).getD []

/-! ## Document ids -/

/-- The document id of a handle. -/
def documentId (handle : String) : Except Failure String :=
  if isAddress handle then
    match pathOfAddress? handle.toList with
    | some path => .ok (String.ofList (Text.Percent.decode (lastSegment path)))
    | none => .error .malformed
  else .ok handle

/-- The tag of the volume of a document id. -/
def volumeTag (id : String) : String := String.ofList (Text.beforeFirst ':' id.toList)

/-- The path on its volume of a document id. -/
def relativePath (id : String) : String := String.ofList (Text.afterFirst ':' id.toList)

/-- The leaf of a document id. -/
def leaf (id : String) : String := String.ofList (Text.afterLast ':' id.toList)

/-- The tag of the volume that a handle names. -/
def volume (handle : String) : Except Failure String :=
  (documentId handle).map volumeTag

/-- The tag of the volume that a handle names, and its leaf. -/
def volumeAndLeaf (handle : String) : Except Failure (String × String) :=
  (documentId handle).map fun id =>
    (String.ofList ((Text.cutFirst ':' id.toList).headD []),
      String.ofList ((Text.cutLast ':' id.toList).getLastD []))

end BackupLocator.Handle
