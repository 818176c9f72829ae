import BackupLocator.Terminal.Literal
import BackupLocator.Terminal.StyleName
import BackupLocator.Terminal.Styled
import BackupLocator.Text.WordChar

/-!
# Markup

A text with markup holds tags in square brackets, which open and close styles, and names of emoji
between colons. What it stands for is a plain text in which each style has its stretch. A tag that
closes what is not open is a fault. A backslash in front of a tag makes it a text like any other.
-/

namespace BackupLocator.Terminal.Markup

/-- A piece of a text with markup. -/
inductive Piece where
  | text (s : List Char)
  | tag (name : List Char) (parameters : Option (List Char))
  deriving DecidableEq, Repr

/-! ## Pieces -/

/-- Whether a character can begin a tag. -/
def beginsTag (c : Char) : Bool := ('a' ≤ c && c ≤ 'z') || c = '#' || c = '/' || c = '@'

/-- The inside of a tag, from behind its opening bracket, and what follows. -/
def readTag? (s : List Char) : Option (List Char × List Char) :=
  let inside := s.takeWhile fun c => c ≠ '[' && c ≠ ']'
  match inside, s.dropWhile fun c => c ≠ '[' && c ≠ ']' with
  | c :: _, ']' :: rest => if beginsTag c then some (inside, rest) else none
  | _, _ => none

/-- The tag of an inside: parameters stand behind the first equals sign. -/
def tagOf (inside : List Char) : Piece :=
  .tag (Text.beforeFirst '=' inside)
    (if inside.contains '=' then some (Text.afterFirst '=' inside) else none)

/-- A text, unless it is empty. -/
def textPiece (s : List Char) : List Piece := if s.isEmpty then [] else [.text s]

/-- What backslashes and a tag behind them are: of each two backslashes one is left, and an odd one
makes the tag a text. -/
def escapedTag (slashes : Nat) (inside : List Char) : List Piece :=
  textPiece (List.replicate (slashes / 2) '\\') ++
    [if slashes % 2 = 1 then .text ('[' :: inside ++ [']']) else tagOf inside]

/-- The pieces of a text, where `seen` is the text before, backwards. Each step takes a
character. -/
def piecesFrom : Nat → List Char → List Char → List Piece
  | 0, seen, _ => textPiece seen.reverse
  | _, seen, [] => textPiece seen.reverse
  | fuel + 1, seen, c :: s =>
    let slashes := (c :: s).takeWhile (· = '\\')
    match (c :: s).dropWhile (· = '\\') with
    | '[' :: behind =>
      match readTag? behind with
      | some (inside, rest) =>
        textPiece seen.reverse ++ escapedTag slashes.length inside ++ piecesFrom fuel [] rest
      | none => piecesFrom fuel ('[' :: slashes ++ seen) behind
    | rest =>
      if slashes.isEmpty then piecesFrom fuel (c :: seen) s
      else piecesFrom fuel (slashes ++ seen) rest

/-- The pieces of a text. -/
def pieces (s : List Char) : List Piece := piecesFrom s.length [] s

/-! ## Emoji -/

/-- The forms in which an emoji can be asked for, and the character that asks for each. -/
def variants : List (List Char × Char) :=
  [("-emoji".toList, '\ufe0f'), ("-text".toList, '\ufe0e')]

/-- The emoji that a name stands for, perhaps in a form of its own. -/
def emojiOf? (name : List Char) : Option (List Char) :=
  match variants.find? fun v => v.1.isSuffixOf name with
  | some (ending, mark) =>
    (emoji? (Text.lower (name.take (name.length - ending.length)))).map (· ++ [mark])
  | none => emoji? (Text.lower name)

/-- A text with the names between colons replaced by emoji. A name that is not known stays, with
both its colons. Each step takes a character. -/
def replaceEmoji : Nat → List Char → List Char
  | 0, s => s
  | _, [] => []
  | fuel + 1, c :: s =>
    if c = ':' then
      let name := s.takeWhile fun d => d ≠ ':' && !Text.isBlank d
      match s.dropWhile fun d => d ≠ ':' && !Text.isBlank d with
      | ':' :: rest =>
        (emojiOf? name).getD (':' :: name ++ [':']) ++ replaceEmoji fuel rest
      | _ => c :: replaceEmoji fuel s
    else c :: replaceEmoji fuel s

/-! ## Texts -/

/-- A text with a bracket for each backslash and bracket. -/
def unescape : List Char → List Char
  | '\\' :: '[' :: s => '[' :: unescape s
  | c :: s => c :: unescape s
  | [] => []

/-- Whether a character is left out: bell, backspace, vertical tab, form feed and carriage return.
-/
def isDropped (c : Char) : Bool :=
  [7, 8, 11, 12, 13].contains c.toNat

/-- What a piece of text shows. -/
def shownText (s : List Char) : List Char :=
  let s := unescape s
  (replaceEmoji s.length s).filter (!isDropped ·)

/-! ## Handlers -/

/-- What the parameters of a handler call it with: what stands in brackets behind its name, nothing
behind a name alone, and parameters without a name as a whole. -/
def handlerArguments (parameters : List Char) : List Char :=
  let parameters := Text.trim Text.isBlank parameters
  match parameters.dropWhile fun c => Text.isWordChar c || c = '.' with
  | [] => "()".toList
  | '(' :: s =>
    if s.getLast? = some ')' && !s.contains '\n' then '(' :: s else parameters
  | _ => parameters

/-- Whether the parameters of a handler can be read. -/
def isHandler (parameters : List Char) : Bool :=
  parameters.isEmpty || Literal.isLiteral (handlerArguments parameters)

/-! ## Styles -/

/-- A style that is open: the normal form of its name, its parameters, and where it was opened. -/
structure OpenStyle where
  name : List Char
  parameters : Option (List Char)
  start : Nat
  deriving DecidableEq, Repr

namespace OpenStyle

/-- Whether a style calls a handler. -/
def isForHandler (s : OpenStyle) : Bool := s.name.head? = some '@'

/-- The stretch of a style up to a position. The words of the style are its name and parameters. -/
def upTo (s : OpenStyle) (stop : Nat) : Stretch :=
  ⟨s.start, stop, s.name ++ (s.parameters.map (' ' :: ·)).getD []⟩

/-- The stretch of a style that is closed. One for a handler has no colours, and its parameters must
be such that they can be read. -/
def close (s : OpenStyle) (stop : Nat) : Except Failure (List Stretch) :=
  if s.isForHandler then
    if isHandler (s.parameters.getD []) then .ok [] else .error .badMarkup
  else .ok [s.upTo stop]

end OpenStyle

/-- What a closing tag closes, and what stays open: the latest style of its name, or without a name
the latest one. -/
def closed (styles : List OpenStyle) (name : List Char) :
    Except Failure (OpenStyle × List OpenStyle) := do
  if name.isEmpty then
    match styles with
    | style :: others => return (style, others)
    | [] => .error .badMarkup
  else
    let name ← StyleName.normal name
    match styles.find? (·.name = name) with
    | some style => return (style, styles.eraseP (·.name = name))
    | none => .error .badMarkup

/-- What pieces stand for behind `length` characters, where `styles` are open, the latest first. -/
def readPieces (length : Nat) (styles : List OpenStyle) : List Piece → Except Failure Styled
  | [] => .ok ⟨[], styles.map (·.upTo length)⟩
  | .text s :: ps => do
    let shown := shownText s
    let styled ← readPieces (length + shown.length) styles ps
    return { styled with text := shown ++ styled.text }
  | .tag ('/' :: name) _ :: ps => do
    let (style, styles) ← closed styles (Text.trim Text.isBlank name)
    let stretches ← style.close length
    let styled ← readPieces length styles ps
    return { styled with stretches := stretches ++ styled.stretches }
  | .tag name parameters :: ps => do
    let name ← StyleName.normal name
    readPieces length (⟨name, parameters, length⟩ :: styles) ps

/-- What a text with markup stands for. -/
def read (s : List Char) : Except Failure Styled := readPieces 0 [] (pieces s)

end BackupLocator.Terminal.Markup
