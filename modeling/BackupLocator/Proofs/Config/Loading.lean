import BackupLocator.Config.File
import BackupLocator.Proofs.Text.Utf8

/-!
# What loading gives

A file that is missing configures nothing, and one that cannot be looked up is a failure. From a
file that is there a value is read, and the value says what the configuration is.
-/

namespace BackupLocator.Config

variable {fs : FileSystem} {file : Path} {v : Json}

theorem load_of_absent (h : fs.isPresent file = .ok false) : load fs file = .ok default := by
  simp only [load, h, bind, Except.bind]
  rfl

theorem load_of_unknown {e : Failure} (h : fs.isPresent file = .error e) :
    load fs file = .error e := by
  simp only [load, h, bind, Except.bind]

theorem load_of_present (h : fs.isPresent file = .ok true) :
    load fs file = fs.read file >>= fun content => readValue content >>= ofJson := by
  simp only [load, h, bind, Except.bind]
  rfl

/-- A file is there, and its bytes stand for a value. -/
def Holds (fs : FileSystem) (file : Path) (v : Json) : Prop :=
  fs.isPresent file = .ok true ∧ ∃ content, fs.read file = .ok content ∧ readValue content = .ok v

theorem Holds.load_eq (h : Holds fs file v) : load fs file = ofJson v := by
  obtain ⟨hpresent, content, hread, hv⟩ := h
  rw [load_of_present hpresent, hread]
  simp only [bind, Except.bind, hv]

/-- The values in a file are nested too deep. -/
def HoldsTooDeep (fs : FileSystem) (file : Path) : Prop :=
  fs.isPresent file = .ok true ∧
    ∃ content, fs.read file = .ok content ∧ readValue content = .error .tooDeep

theorem HoldsTooDeep.load_eq (h : HoldsTooDeep fs file) : load fs file = .error .tooDeep := by
  obtain ⟨hpresent, content, hread, hdeep⟩ := h
  rw [load_of_present hpresent, hread]
  simp only [bind, Except.bind, hdeep]

/-! ## A file by itself -/

/-- A file system with one configuration file, of the given text. -/
def holding (text : String) : FileSystem :=
  FileSystem.empty.add ["config.json"] (.file (Text.Utf8.encode text.toList))

/-- The path of that file. -/
def holdingFile : Path := .ofText "/config.json"

theorem holds_holding {text : String} (h : Json.parse text.toList = .ok v) :
    Holds (holding text) holdingFile v := by
  refine ⟨rfl, _, rfl, ?_⟩
  rw [readValue, Text.Utf8.decode?_encode]
  simp only [h]

theorem load_of_notJson {text : String} (h : Json.parse text.toList = .error .notJson) :
    load (holding text) holdingFile = .error .notJson := by
  have hpresent : (holding text).isPresent holdingFile = .ok true := rfl
  have hread : (holding text).read holdingFile = .ok (Text.Utf8.encode text.toList) := rfl
  have hvalue : readValue (Text.Utf8.encode text.toList) = .error .notJson := by
    rw [readValue, Text.Utf8.decode?_encode]
    simp only [h]
  rw [load_of_present hpresent, hread]
  simp only [bind, Except.bind, hvalue]

end BackupLocator.Config
