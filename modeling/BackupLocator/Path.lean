import BackupLocator.Text.Cut

/-!
# Paths

A path is an anchor and a list of segments. Reading a text drops empty segments and segments `.`;
segments `..` are kept, for only the file system knows what they name. No segment holds a slash,
so a path reads back from its text.
-/

namespace BackupLocator

/-- Where a path begins: at the working directory, or at a root. A root written with exactly two
slashes stays apart from the one written otherwise. -/
inductive Anchor where
  | relative
  | root
  | doubleRoot
  deriving DecidableEq, Repr, Inhabited

namespace Anchor

/-- The anchor of a text: three and more slashes count as one. -/
def ofText : List Char → Anchor
  | '/' :: '/' :: '/' :: _ => .root
  | '/' :: '/' :: _ => .doubleRoot
  | '/' :: _ => .root
  | _ => .relative

/-- The slashes that a text begins with. -/
def text : Anchor → List Char
  | .relative => []
  | .root => ['/']
  | .doubleRoot => ['/', '/']

end Anchor

/-- What can stand between two slashes of a path. -/
def IsSegment (s : String) : Prop := s ≠ "" ∧ s ≠ "." ∧ '/' ∉ s.toList

/-- A path. -/
structure Path where
  anchor : Anchor
  parts : List String
  /-- Every part can stand between two slashes. -/
  segments : ∀ s ∈ parts, IsSegment s
  deriving DecidableEq

namespace Path

/-- The path of no segments at an anchor. -/
def ofAnchor (a : Anchor) : Path := ⟨a, [], by simp⟩

instance : Inhabited Path := ⟨ofAnchor .relative⟩

/-- Two paths are the same if their anchors and parts are. -/
@[ext]
theorem ext {p q : Path} (ha : p.anchor = q.anchor) (hp : p.parts = q.parts) : p = q := by
  cases p
  cases q
  simp_all

/-- The segments of a text. -/
def segmentsOf (s : List Char) : List String :=
  ((Text.pieces '/' s).filter fun p => p ≠ [] ∧ p ≠ ['.']).map String.ofList

theorem isSegment_of_mem_segmentsOf {s : List Char} {w : String} (h : w ∈ segmentsOf s) :
    IsSegment w := by
  simp only [segmentsOf, List.mem_map, List.mem_filter, decide_eq_true_eq] at h
  obtain ⟨p, ⟨hp, hne, hdot⟩, rfl⟩ := h
  refine ⟨fun he => hne ?_, fun he => hdot ?_, ?_⟩
  · simpa using congrArg String.toList he
  · simpa using congrArg String.toList he
  · simpa using Text.not_mem_of_mem_pieces hp

/-- The path that a text names. -/
def ofText (s : String) : Path :=
  ⟨.ofText s.toList, segmentsOf s.toList, fun _ h => isSegment_of_mem_segmentsOf h⟩

/-- The characters of a path; a point for the path of nothing. -/
def chars (p : Path) : List Char :=
  if p.anchor = .relative ∧ p.parts = [] then ['.']
  else p.anchor.text ++ Text.joinWith '/' (p.parts.map String.toList)

/-- The text of a path. -/
def text (p : Path) : String := String.ofList p.chars

/-- Whether a path does not begin at the working directory. -/
def isAbsolute (p : Path) : Bool := p.anchor ≠ .relative

/-- The path `q` as seen from `p`; an absolute `q` stands for itself. -/
def join (p q : Path) : Path :=
  if q.isAbsolute then q
  else ⟨p.anchor, p.parts ++ q.parts, fun s h => by
    rcases List.mem_append.mp h with h | h
    · exact p.segments s h
    · exact q.segments s h⟩

/-- The path that a text names as seen from `p`. -/
def child (p : Path) (name : String) : Path := p.join (ofText name)

/-- The last segment; empty where there is none. -/
def name (p : Path) : String := p.parts.getLast?.getD ""

/-- The path without its last segment. -/
def parent (p : Path) : Path :=
  ⟨p.anchor, p.parts.dropLast, fun s h => p.segments s (List.dropLast_subset _ h)⟩

/-- Whether a NUL stands in a path, which no file system takes. -/
def hasNul (p : Path) : Bool := p.parts.any fun s => s.toList.contains '\x00'

/-- The number of bytes of a path's text. -/
def byteCount (p : Path) : Nat := p.text.utf8ByteSize

/-- The parts, innermost first, that are left when each `..` takes back the part before it. -/
def settle (inner : List String) : List String → List String
  | [] => inner
  | s :: rest => settle (if s = ".." then inner.drop 1 else s :: inner) rest

theorem isSegment_of_mem_settle {inner parts : List String}
    (hi : ∀ s ∈ inner, IsSegment s) (hp : ∀ s ∈ parts, IsSegment s) :
    ∀ s ∈ settle inner parts, IsSegment s := by
  induction parts generalizing inner with
  | nil => simpa [settle] using hi
  | cons w rest ih =>
    refine ih ?_ fun s hs => hp s (List.mem_cons_of_mem w hs)
    intro s hs
    split at hs
    · exact hi s (List.mem_of_mem_drop hs)
    · rcases List.mem_cons.mp hs with rfl | hs
      · exact hp _ List.mem_cons_self
      · exact hi s hs

/-- An absolute path without `..`, by its text alone. -/
def normal (p : Path) : Path :=
  ⟨p.anchor, (settle [] p.parts).reverse, fun s h =>
    isSegment_of_mem_settle (by simp) p.segments s (List.mem_reverse.mp h)⟩

theorem join_of_isAbsolute {p q : Path} (h : q.isAbsolute = true) : p.join q = q := by
  simp [join, h]

theorem anchor_join_of_relative {p q : Path} (h : q.isAbsolute = false) :
    (p.join q).anchor = p.anchor := by
  simp [join, h]

theorem parts_join_of_relative {p q : Path} (h : q.isAbsolute = false) :
    (p.join q).parts = p.parts ++ q.parts := by
  simp [join, h]

end Path

end BackupLocator
