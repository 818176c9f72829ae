import BackupLocator.Failure
import BackupLocator.Json.Shown

/-!
# What a field names

A field of a template names a value, and from there on what stands at a position inside it or a
property of it. A property of a value may be its kind, and a kind has properties too: its name,
a summary, and the kinds that it is a special case of.
-/

namespace BackupLocator.Label

/-- A kind of values. -/
inductive Kind where
  | nothing
  | truth
  | whole
  | floating
  | text
  | array
  | object
  /-- The kind of kinds. -/
  | kind
  /-- The kind of fixed rows. -/
  | row
  /-- The kind that all others are special cases of. -/
  | any
  deriving DecidableEq, Repr

namespace Kind

/-- The name of a kind in templates. -/
def name : Kind → String
  | .nothing => "NoneType"
  | .truth => "bool"
  | .whole => "int"
  | .floating => "float"
  | .text => "str"
  | .array => "list"
  | .object => "dict"
  | .kind => "type"
  | .row => "tuple"
  | .any => "object"

/-- The name of the collection that holds all kinds. -/
def collection : String := "builtins"

/-- What a kind is shown as. -/
def shown (k : Kind) : String := "<class '" ++ k.name ++ "'>"

/-- A kind and those that it is a special case of, the nearest first. -/
def lineage : Kind → List Kind
  | .any => [.any]
  | .truth => [.truth, .whole, .any]
  | k => [k, .any]

/-- The lines of the summary of a kind. -/
def summaryLines : Kind → List String
  | .nothing => []
  | .truth => [
    "bool(x) -> bool",
    "",
    "Returns True when the argument x is true, False otherwise.",
    "The builtins True and False are the only two instances of the class bool.",
    "The class bool is a subclass of the class int, and cannot be subclassed."]
  | .whole => [
    "int([x]) -> integer",
    "int(x, base=10) -> integer",
    "",
    "Convert a number or string to an integer, or return 0 if no arguments",
    "are given.  If x is a number, return x.__int__().  For floating point",
    "numbers, this truncates towards zero.",
    "",
    "If x is not a number or if base is given, then x must be a string,",
    "bytes, or bytearray instance representing an integer literal in the",
    "given base.  The literal can be preceded by '+' or '-' and be surrounded",
    "by whitespace.  The base defaults to 10.  Valid bases are 0 and 2-36.",
    "Base 0 means to interpret the base from the string as an integer literal.",
    ">>> int('0b100', base=0)",
    "4"]
  | .floating => ["Convert a string or number to a floating point number, if possible."]
  | .text => [
    "str(object='') -> str",
    "str(bytes_or_buffer[, encoding[, errors]]) -> str",
    "",
    "Create a new string object from the given object. If encoding or",
    "errors is specified, then the object must expose a data buffer",
    "that will be decoded using the given encoding and error handler.",
    "Otherwise, returns the result of object.__str__() (if defined)",
    "or repr(object).",
    "encoding defaults to sys.getdefaultencoding().",
    "errors defaults to 'strict'."]
  | .array => [
    "Built-in mutable sequence.",
    "",
    "If no argument is given, the constructor creates a new empty list.",
    "The argument must be an iterable if specified."]
  | .object => [
    "dict() -> new empty dictionary",
    "dict(mapping) -> new dictionary initialized from a mapping object's",
    "    (key, value) pairs",
    "dict(iterable) -> new dictionary initialized as if via:",
    "    d = \x7b\x7d",
    "    for k, v in iterable:",
    "        d[k] = v",
    "dict(**kwargs) -> new dictionary initialized with the name=value pairs",
    "    in the keyword argument list.  For example:  dict(one=1, two=2)"]
  | .kind => [
    "type(object) -> the object's type",
    "type(name, bases, dict, **kwds) -> a new type"]
  | .row => [
    "Built-in immutable sequence.",
    "",
    "If no argument is given, the constructor returns an empty tuple.",
    "If iterable is specified the tuple is initialized from iterable's items.",
    "",
    "If the argument is a tuple, the return value is the same object."]
  | .any => [
    "The base class of the class hierarchy.",
    "",
    "When called, it accepts no arguments and returns a new featureless",
    "instance that has no instance attributes and cannot be given any.",
    ""]

/-- The summary of a kind; no value where it has none. -/
def summary (k : Kind) : Json :=
  match k.summaryLines with
  | [] => .null
  | lines => .str (String.ofList (Text.joinWith '\n' (lines.map String.toList)))

/-- The kind of a value. -/
def ofValue : Json → Kind
  | .null => .nothing
  | .bool _ => .truth
  | .int _ => .whole
  | .float _ => .floating
  | .str _ => .text
  | .arr _ => .array
  | .obj _ => .object

end Kind

/-- What a field names. -/
inductive Subject where
  | value (v : Json)
  | kind (k : Kind)
  | kinds (ks : List Kind)

namespace Subject

/-- A text that a field names. -/
def ofText (s : String) : Subject := .value (.str s)

/-- The kind of what a field names. -/
def kindOf : Subject → Kind
  | .value v => .ofValue v
  | .kind _ => .kind
  | .kinds _ => .row

/-! ## Properties -/

/-- A property of a number. A number is its own real part, and a truth value counts as one or
zero. Only a whole number is a fraction of whole numbers. -/
def numberProperty? (v : Json) (name : String) : Option Json :=
  match v, name with
  | .bool b, "real" => some (.int (if b then 1 else 0))
  | .bool b, "numerator" => some (.int (if b then 1 else 0))
  | .bool _, "imag" => some (.int 0)
  | .bool _, "denominator" => some (.int 1)
  | .int n, "real" => some (.int n)
  | .int n, "numerator" => some (.int n)
  | .int _, "imag" => some (.int 0)
  | .int _, "denominator" => some (.int 1)
  | .float x, "real" => some (.float x)
  | .float _, "imag" => some (.float ⟨0⟩)
  | _, _ => none

/-- A property that only kinds have. -/
def kindProperty? (k : Kind) : String → Option Subject
  | "__name__" => some (ofText k.name)
  | "__qualname__" => some (ofText k.name)
  | "__module__" => some (ofText Kind.collection)
  | "__mro__" => some (.kinds k.lineage)
  | "__bases__" => some (.kinds ((k.lineage.drop 1).take 1))
  | "__base__" => some (((k.lineage.drop 1).head?.map Subject.kind).getD (.value .null))
  | _ => none

/-- A property of what a field names. -/
def property? (s : Subject) (name : String) : Option Subject :=
  match s, name with
  | s, "__class__" => some (.kind s.kindOf)
  | .kind k, "__doc__" => some (.value k.summary)
  | s, "__doc__" => some (.value s.kindOf.summary)
  | .kind k, name => kindProperty? k name
  | .value v, name => (numberProperty? v name).map .value
  | .kinds _, _ => none

/-! ## Positions -/

/-- What stands at a numbered position. -/
def at? {α : Type} (items : List α) (n : Nat) : Except Failure α :=
  match items[n]? with
  | some x => .ok x
  | none => .error .outOfRange

/-- What stands at a position: a number for texts, arrays and rows, and a name for objects. -/
def item (s : Subject) (number : Option Nat) (name : String) : Except Failure Subject :=
  match s, number with
  | .value (.str s), some n => (at? s.toList n).map fun c => ofText (String.ofList [c])
  | .value (.arr items), some n => (at? items n).map .value
  | .kinds ks, some n => (at? ks n).map .kind
  | .value (.obj _), some n => .error (.unknownName (toString n))
  | .value (.obj fields), none =>
    match Json.lookup name fields with
    | some v => .ok (.value v)
    | none => .error (.unknownName name)
  | _, _ => .error .mistyped

/-! ## Showing -/

/-- A row of kinds in parentheses. A single one has a comma behind it. -/
def shownRow : List Kind → String
  | [k] => "(" ++ k.shown ++ ",)"
  | ks => "(" ++ ", ".intercalate (ks.map Kind.shown) ++ ")"

/-- What a field names, as it is shown by itself. -/
def shown : Subject → List Char
  | .value v => v.shown
  | .kind k => k.shown.toList
  | .kinds ks => (shownRow ks).toList

/-- What a field names, with its texts quoted. -/
def quoted : Subject → List Char
  | .value v => v.quoted
  | s => s.shown

/-- What a field names, with its texts quoted in ASCII. -/
def quotedAscii : Subject → List Char
  | .value v => v.quotedAscii
  | s => s.shown

end Subject

end BackupLocator.Label
