import BackupLocator.Json
import BackupLocator.Text.Quoted

/-!
# Values inside a text

How a value is shown where a text is put together. A text is shown as it is, and quoted inside
another value.
-/

namespace BackupLocator.Json

mutual

/-- A value with its texts quoted, where `shown` says which characters stand for themselves. -/
def quotedWith (shown : Char → Bool) : Json → List Char
  | .null => "None".toList
  | .bool b => (if b then "True" else "False").toList
  | .int n => (toString n).toList
  | .float x => FloatLayout.plain.text x
  | .str s => Text.Quoted.writeWith shown s.toList
  | .arr [] => "[]".toList
  | .arr (v :: vs) => '[' :: quotedWith shown v ++ quotedItems shown vs ++ [']']
  | .obj [] => ['\x7b', '\x7d']
  | .obj ((k, v) :: fs) =>
    '\x7b' :: Text.Quoted.writeWith shown k.toList ++ ": ".toList ++ quotedWith shown v ++
      quotedFields shown fs ++ ['\x7d']

/-- The items of an array behind the first. -/
def quotedItems (shown : Char → Bool) : List Json → List Char
  | [] => []
  | v :: vs => ", ".toList ++ quotedWith shown v ++ quotedItems shown vs

/-- The fields of an object behind the first. -/
def quotedFields (shown : Char → Bool) : List (String × Json) → List Char
  | [] => []
  | (k, v) :: fs =>
    ", ".toList ++ Text.Quoted.writeWith shown k.toList ++ ": ".toList ++ quotedWith shown v ++
      quotedFields shown fs

end

/-- A value with its texts quoted. -/
def quoted (v : Json) : List Char := quotedWith Text.isPrintable v

/-- A value with its texts quoted, in ASCII. -/
def quotedAscii (v : Json) : List Char :=
  quotedWith (fun c => Text.isPrintable c && c.toNat < 0x80) v

/-- A value as it is shown. -/
def shown : Json → List Char
  | .str s => s.toList
  | v => v.quoted

end BackupLocator.Json
