import BackupLocator.Label.NumberSpec
import BackupLocator.Label.Subject

/-!
# Templates

A template is a text with fields in braces; a brace that is written twice stands for itself. A
field names a value, perhaps with positions inside it and properties, and says how that is shown:
`name[position].property!conversion:specification`. A specification may itself hold fields, whose
specifications hold none. A template is read and filled in from left to right, and the first
fault ends it.
-/

namespace BackupLocator.Label.Template

/-- The character that opens a field. -/
def opening : Char := '\x7b'

/-- The character that closes a field. -/
def closing : Char := '\x7d'

/-- A field as it is written. -/
structure Field where
  name : List Char
  conversion : Option Char
  spec : List Char
  deriving DecidableEq, Repr

/-! ## Reading a field -/

/-- The name of a field, the character that ends it, and the rest. What stands in brackets belongs
to the name. -/
def readName (bracketed : Bool) : List Char → Except Failure (List Char × Char × List Char)
  | [] => .error .malformed
  | c :: s =>
    if bracketed then
      (readName (c ≠ ']') s).map fun (name, stop, rest) => (c :: name, stop, rest)
    else if c = opening then .error .malformed
    else if c = closing ∨ c = ':' ∨ c = '!' then .ok ([], c, s)
    else (readName (c = '[') s).map fun (name, stop, rest) => (c :: name, stop, rest)

/-- A specification up to the brace that closes its field, where `depth` fields are open inside
it. -/
def readSpec (depth : Nat) : List Char → Except Failure (List Char × List Char)
  | [] => .error .malformed
  | c :: s =>
    if c = closing then
      match depth with
      | 0 => .ok ([], s)
      | depth + 1 => (readSpec depth s).map fun (spec, rest) => (c :: spec, rest)
    else
      (readSpec (if c = opening then depth + 1 else depth) s).map fun (spec, rest) =>
        (c :: spec, rest)

/-- A field, from behind its opening brace. -/
def readField (s : List Char) : Except Failure (Field × List Char) := do
  let (name, stop, rest) ← readName false s
  if stop = closing then .ok (⟨name, none, []⟩, rest)
  else if stop = ':' then
    let (spec, rest) ← readSpec 0 rest
    .ok (⟨name, none, spec⟩, rest)
  else match rest with
    | conversion :: stop :: rest =>
      if stop = closing then .ok (⟨name, some conversion, []⟩, rest)
      else if stop = ':' then
        let (spec, rest) ← readSpec 0 rest
        .ok (⟨name, some conversion, spec⟩, rest)
      else .error .malformed
    | _ => .error .malformed

/-! ## Finding a value -/

/-- The number that a text of decimal digits makes; `none` for any other text. Digits at its
beginning that make too great a number are a fault in any case. -/
def position? (s : List Char) : Except Failure (Option Nat) :=
  match Spec.readNumber s with
  | (some n, rest) =>
    if Spec.greatestNumber < n then .error .malformed
    else .ok (if rest.isEmpty then some n else none)
  | (none, _) => .ok none

/-- Whether a character belongs to a name, and begins no further step. -/
def isOfName (c : Char) : Bool := c ≠ '.' && c ≠ '['

/-- What a path of positions and properties leads to. Each step takes at least two characters. -/
def follow : Nat → Subject → List Char → Except Failure Subject
  | _, v, [] => .ok v
  | fuel + 1, v, '[' :: s =>
    let key := s.takeWhile (· ≠ ']')
    match s.dropWhile (· ≠ ']') with
    | [] => .error .malformed
    | _ :: rest =>
      if key.isEmpty then .error .malformed
      else match (position? key).bind fun n => v.item n (String.ofList key) with
        | .ok w => follow fuel w rest
        | .error e => .error e
  | fuel + 1, v, '.' :: s =>
    let name := s.takeWhile isOfName
    if name.isEmpty then .error .malformed
    else match v.property? (String.ofList name) with
      | some w => follow fuel w (s.dropWhile isOfName)
      | none => .error .unsupported
  | _, _, _ => .error .malformed

/-- What a field names. Fields without a name and numbered fields name nothing. -/
def find (values : List (String × Json)) (name : List Char) : Except Failure Subject := do
  let first := name.takeWhile isOfName
  let rest := name.dropWhile isOfName
  if first.isEmpty || (← position? first).isSome then .error .outOfRange
  else match Json.lookup (String.ofList first) values with
    | some v => follow rest.length (.value v) rest
    | none => .error (.unknownName (String.ofList first))

/-! ## Showing a value -/

/-- What a field names, after its conversion. A NUL converts nothing. -/
def convert (v : Subject) : Option Char → Except Failure Subject
  | none => .ok v
  | some '\x00' => .ok v
  | some 's' => .ok (.ofText (String.ofList v.shown))
  | some 'r' => .ok (.ofText (String.ofList v.quoted))
  | some 'a' => .ok (.ofText (String.ofList v.quotedAscii))
  | some _ => .error .malformed

/-- What a field names, as a specification wants it. Only texts and numbers can be laid out, and
truth values are numbers. -/
def layOut (v : Subject) (spec : List Char) : Except Failure (List Char) :=
  if spec.isEmpty then .ok v.shown
  else
    let specified (lay : Spec → Except Failure (List Char)) :=
      match Spec.read? spec with
      | some spec => lay spec
      | none => .error .malformed
    match v with
    | .value (.str s) => specified fun spec =>
      match spec.layText? s.toList with
      | some text => .ok text
      | none => .error .malformed
    | .value (.int n) => specified (·.layWhole n)
    | .value (.bool b) => specified (·.layWhole (if b then 1 else 0))
    | .value (.float x) => specified (·.layFloat x)
    | _ => .error .mistyped

/-! ## Filling in -/

/-- Whether a text holds a field's opening brace. -/
def holdsFields (s : List Char) : Bool := s.contains opening

/-- A template filled in, where `depth` says how deep fields may stand in specifications. Each
step takes a character. -/
def fillWithin (values : List (String × Json)) :
    Nat → Nat → List Char → Except Failure (List Char)
  | _, _, [] => .ok []
  | 0, _, _ => .error .malformed
  | fuel + 1, depth, c :: s =>
    if c = opening then
      match s with
      | [] => .error .malformed
      | d :: rest =>
        if d = opening then (fillWithin values fuel depth rest).map (opening :: ·)
        else do
          let (field, rest) ← readField s
          let v ← find values field.name
          let v ← convert v field.conversion
          let spec ← if holdsFields field.spec then
              match depth with
              | 0 => .error .malformed
              | depth + 1 => fillWithin values fuel depth field.spec
            else .ok field.spec
          let text ← layOut v spec
          (fillWithin values fuel depth rest).map (text ++ ·)
    else if c = closing then
      match s with
      | d :: rest =>
        if d = closing then (fillWithin values fuel depth rest).map (closing :: ·)
        else .error .malformed
      | [] => .error .malformed
    else (fillWithin values fuel depth s).map (c :: ·)

/-- A template filled in with values. -/
def fill (values : List (String × Json)) (template : String) : Except Failure String :=
  (fillWithin values template.length 1 template.toList).map String.ofList

end BackupLocator.Label.Template
