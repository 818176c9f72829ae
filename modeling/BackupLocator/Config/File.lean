import BackupLocator.Config
import BackupLocator.FileSystem.Directory
import BackupLocator.FileSystem.File
import BackupLocator.Json.LongNumber
import BackupLocator.Json.Shown
import BackupLocator.Text.Utf8

/-!
# Configuration files

A configuration file is a JSON object with a field for each field of the configuration. Fields
that are missing keep what is configured where nothing is said, and so do all where there is no
file. The place of the default storage is read as it is written, without home directories.
-/

namespace BackupLocator.Config

/-- The configuration file of a home directory. -/
def fileOfHome (home : Path) : Path := (home.child ".backupdir").child "config.json"

/-! ## Loading -/

/-- The place that a field of a file names. -/
def placeOfFile : Json → Except Failure Place
  | .null => .ok .nowhere
  | .str s => .ok (.path (.ofText s))
  | _ => .error .mistyped

/-- The configuration that a JSON value describes. -/
def ofJson : Json → Except Failure Config
  | .obj fields =>
    if areFieldNames fields then
      match Json.lookup placeField fields with
      | none => .ok (withFields fields)
      | some v => (placeOfFile v).map fun place =>
        { withFields fields with storagePlace := place }
    else .error .mistyped
  | _ => .error .unsupported

/-- The JSON value that the bytes of a file stand for. -/
def readValue (content : List UInt8) : Except Failure Json :=
  match Text.Utf8.decode? content with
  | none => .error .notText
  | some text =>
    match Json.parse text with
    | .ok v => .ok v
    | .error .notJson => .error .notJson
    | .error .tooManyDigits => .error .malformed
    | .error .tooDeep => .error .tooDeep

/-- The configuration in a file. -/
def load (fs : FileSystem) (p : Path) : Except Failure Config := do
  if ← fs.isPresent p then
    let content ← fs.read p
    ofJson (← readValue content)
  else return default

/-! ## Saving -/

/-- Whether a value can name a field. Arrays and objects cannot. -/
def isName : Json → Bool
  | .arr _ => false
  | .obj _ => false
  | _ => true

/-- The text of a name. -/
def nameText : Json → String
  | .str s => s
  | v => Json.render .file v

/-- The two values that make a field. -/
def pairOf : Json → Except Failure (Json × Json)
  | .arr [k, v] => .ok (k, v)
  | .arr _ => .error .malformed
  | .obj [(k, _), (l, _)] => .ok (.str k, .str l)
  | .obj _ => .error .malformed
  | .str s =>
    match s.toList with
    | [a, b] => .ok (.str (String.ofList [a]), .str (String.ofList [b]))
    | _ => .error .malformed
  | _ => .error .mistyped

/-- The pairs with a name set to a value: at the place of the name, if an equal one is there, else
at the end. -/
def insertPair (name v : Json) : List (Json × Json) → List (Json × Json)
  | [] => [(name, v)]
  | (k, w) :: pairs =>
    if k.isEqualName name then (k, v) :: pairs else (k, w) :: insertPair name v pairs

/-- The pairs that some items make, behind those that are known. -/
def pairsOf (known : List (Json × Json)) : List Json → Except Failure (List (Json × Json))
  | [] => .ok known
  | item :: items => do
    let (k, v) ← pairOf item
    if isName k then pairsOf (insertPair k v known) items else .error .mistyped

/-- The object that pairs make. -/
def objectOf (pairs : List (Json × Json)) : Json :=
  .obj (pairs.map fun (k, v) => (nameText k, v))

/-- The record that an entry of the volumes makes: an object is one, and so are pairs. -/
def recordOf : Json → Except Failure Json
  | .obj fields => .ok (.obj fields)
  | .arr items => (pairsOf [] items).map objectOf
  | .str s => if s = "" then .ok (.obj []) else .error .malformed
  | _ => .error .mistyped

/-- The place of the default storage as it is saved: always a text. -/
def savedPlace : Place → Json
  | .nowhere => .null
  | .path p => .str p.text
  | .given v => .str (String.ofList v.shown)

/-- The JSON value that describes a configuration. -/
def toJson (c : Config) : Except Failure Json := do
  let volumes ← (← c.volumeEntries).mapM recordOf
  return .obj [
    ("platform_version", c.platformVersion),
    ("package_id", c.packageId),
    ("prefer_removable", c.preferRemovable),
    (placeField, savedPlace c.storagePlace),
    ("volumes", .arr volumes),
    ("sort_candidates", c.sortCandidates)]

/-- The text of a file is written, and the parents of the file are made. A whole number that is too
long stops the writing, and the text in front of it is what the file holds then. -/
def save (c : Config) (fs : FileSystem) (p : Path) : Except Failure String × FileSystem :=
  match fs.makeDirectory p.parent true true with
  | (.error e, fs) => (.error e, fs)
  | (.ok (), fs) =>
    match c.toJson with
    | .error e => (.error e, fs)
    | .ok v =>
      let text := Json.renderStart .file v
      match fs.write p (Text.Utf8.encode text.toList) with
      | .error e => (.error e, fs)
      | .ok fs' => (if v.isWritable then .ok text else .error .malformed, fs')

end BackupLocator.Config
