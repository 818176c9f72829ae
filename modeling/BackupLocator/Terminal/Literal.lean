import BackupLocator.Text.HexDigit
import BackupLocator.Text.WholeNumber

/-!
# Literals

The parameters of a handler are a literal: numbers, texts, bytes, the words for nothing and for the
truth values, and rows, sets and tables of literals. A number may have a sign, and a real number may
have an imaginary one added. Only what cannot change stands in a set or is the key of a table.
-/

namespace BackupLocator.Terminal.Literal

/-- What a literal is made of. -/
inductive Token where
  | number (imaginary : Bool)
  | text (ofBytes : Bool)
  /-- A word or sign for a fixed value. -/
  | constant
  /-- The word that makes a set. -/
  | setWord
  | mark (c : Char)
  /-- The end of a line outside all brackets. -/
  | lineEnd
  deriving DecidableEq, Repr

/-! ## Numbers -/

/-- Whether a character can go on a word or number. -/
def isWordLike (c : Char) : Bool := c.isAlphanum || c = '_' || 0x80 ≤ c.toNat

/-- The digits at the beginning of a text, at least one, with single underscores between them. -/
def digitRun? (isDigit : Char → Bool) : List Char → Option (List Char × List Char)
  | [] => none
  | c :: '_' :: s =>
    if isDigit c then (digitRun? isDigit s).map fun (ds, rest) => (c :: ds, rest) else none
  | c :: s =>
    if isDigit c then
      match digitRun? isDigit s with
      | some (ds, rest) => some (c :: ds, rest)
      | none => some ([c], s)
    else none

/-- The digits of a base that a letter behind a zero stands for. -/
def baseDigits? (c : Char) : Option (Char → Bool) :=
  match c.toLower with
  | 'x' => some Text.isHexDigit
  | 'o' => some fun d => '0' ≤ d && d ≤ '7'
  | 'b' => some fun d => d = '0' || d = '1'
  | _ => none

/-- What follows a fraction, if one begins here. -/
def afterFraction? : List Char → Option (List Char)
  | '.' :: s => some (((digitRun? Char.isDigit s).map (·.2)).getD s)
  | _ => none

/-- What follows an exponent, if one begins here. -/
def afterExponent? (s : List Char) : Option (List Char) :=
  let digits := match s with
    | e :: '+' :: s => if e.toLower = 'e' then s else []
    | e :: '-' :: s => if e.toLower = 'e' then s else []
    | e :: s => if e.toLower = 'e' then s else []
    | [] => []
  (digitRun? Char.isDigit digits).map (·.2)

/-- Whether digits make a whole number: zeros alone, or not too many digits without a zero in
front. -/
def areWhole (ds : List Char) : Bool :=
  ds.all (· = '0') || (ds.head? ≠ some '0' && ds.length ≤ Text.WholeNumber.digitLimit)

/-- A decimal number, and what follows. -/
def readDecimal? (s : List Char) : Option (Token × List Char) :=
  let (whole, rest) := (digitRun? Char.isDigit s).getD ([], s)
  let fraction := afterFraction? rest
  let rest := fraction.getD rest
  let exponent := afterExponent? rest
  let rest := exponent.getD rest
  match rest with
  | 'j' :: rest => some (.number true, rest)
  | 'J' :: rest => some (.number true, rest)
  | _ =>
    if fraction.isSome || exponent.isSome || areWhole whole then some (.number false, rest)
    else none

/-- A number, and what follows, which must not go on it. -/
def readNumber? (s : List Char) : Option (Token × List Char) :=
  let read : Option (Token × List Char) := match s with
    | '0' :: c :: s =>
      match baseDigits? c with
      | some isDigit =>
        let s := match s with
          | '_' :: s => s
          | s => s
        (digitRun? isDigit s).map fun (_, rest) => (.number false, rest)
      | none => readDecimal? ('0' :: c :: s)
    | s => readDecimal? s
  read.filter fun (_, rest) => !rest.head?.any isWordLike

/-! ## Texts -/

/-- How a text is written. -/
structure TextForm where
  isRaw : Bool
  isBytes : Bool
  deriving DecidableEq, Repr

/-- The form that a word in front of a quote asks for. -/
def textForm? (word : List Char) : Option TextForm :=
  match String.ofList (word.map Char.toLower) with
  | "" => some ⟨false, false⟩
  | "u" => some ⟨false, false⟩
  | "r" => some ⟨true, false⟩
  | "b" => some ⟨false, true⟩
  | "br" => some ⟨true, true⟩
  | "rb" => some ⟨true, true⟩
  | _ => none

/-- Whether a text begins with `count` hexadecimal digits that make no greater number than a code
point can be. -/
def holdsCode (count : Nat) (s : List Char) : Bool :=
  let digits := s.take count
  digits.length = count && digits.all Text.isHexDigit &&
    digits.foldl (fun n d => n * 16 + (Text.hexValue? d).getD 0) 0 ≤ 0x10FFFF

/-- Whether a text begins with the name of a character in braces. -/
def holdsName : List Char → Bool
  | '\x7b' :: s =>
    let name := s.takeWhile fun c => c.isAlphanum || c = ' ' || c = '-'
    !name.isEmpty && (s.drop name.length).head? = some '\x7d'
  | _ => false

/-- Whether an escape can stand for something: a letter behind a backslash, and what follows. -/
def isEscapeRight (form : TextForm) (letter : Char) (s : List Char) : Bool :=
  form.isRaw || match letter with
    | 'x' => holdsCode 2 s
    | 'u' => form.isBytes || holdsCode 4 s
    | 'U' => form.isBytes || holdsCode 8 s
    | 'N' => form.isBytes || holdsName s
    | _ => true

/-- What follows a text, from behind its opening quotes. A text in three quotes may hold line ends.
-/
def afterText? (form : TextForm) (quote : Char) (isLong : Bool) : List Char → Option (List Char)
  | [] => none
  | '\\' :: d :: s =>
    if isEscapeRight form d s && !(form.isBytes && 0x80 ≤ d.toNat) then
      afterText? form quote isLong s
    else none
  | c :: s =>
    if c = quote then
      if !isLong then some s
      else if s.take 2 = [quote, quote] then some (s.drop 2)
      else afterText? form quote isLong s
    else if c = '\\' || (c = '\n' && !isLong) || (form.isBytes && 0x80 ≤ c.toNat) then none
    else afterText? form quote isLong s

/-- A text from its first quote on, and what follows. -/
def readText? (form : TextForm) (quote : Char) (s : List Char) : Option (Token × List Char) :=
  let rest := match s with
    | a :: b :: t =>
      if a = quote ∧ b = quote then afterText? form quote true t
      else afterText? form quote false s
    | s => afterText? form quote false s
  rest.map fun rest => (.text form.isBytes, rest)

/-! ## Tokens -/

/-- Whether a character is a quote. -/
def isQuote (c : Char) : Bool := c = '\'' || c = '"'

/-- Whether a character stands between tokens. -/
def isSpace (c : Char) : Bool := c = ' ' || c = '\t' || c = '\x0c'

/-- The token of a word. -/
def wordToken? (word : List Char) : Option Token :=
  match String.ofList word with
  | "None" => some .constant
  | "True" => some .constant
  | "False" => some .constant
  | "set" => some .setWord
  | _ => none

/-- A word, or a text with a word in front of it, and what follows. -/
def readWord? (s : List Char) : Option (Token × List Char) :=
  let word := s.takeWhile fun c => c.isAlphanum || c = '_'
  match s.drop word.length with
  | c :: rest =>
    if isQuote c then
      match textForm? word with
      | some form => readText? form c rest
      | none => none
    else (wordToken? word).map fun t => (t, c :: rest)
  | [] => (wordToken? word).map fun t => (t, [])

/-- The most brackets that may be open. -/
def bracketLimit : Nat := 200

/-- Whether a line begins with a blank and is not empty. A form feed begins the line anew. -/
def isIndented (s : List Char) : Bool :=
  (s.takeWhile isSpace).getLast?.any (· ≠ '\x0c') &&
    match s.dropWhile isSpace with
    | c :: _ => c ≠ '#' && c ≠ '\n'
    | [] => false

/-- How the reading of tokens goes on: with a token or without one, and with some brackets open. -/
structure Step where
  token? : Option Token
  isOpen : Nat
  rest : List Char

/-- One step of reading tokens, where `isOpen` brackets are open. -/
def step? (isOpen : Nat) (c : Char) (s : List Char) : Option Step :=
  let go (r : Option (Token × List Char)) := r.map fun (t, rest) => ⟨some t, isOpen, rest⟩
  if isSpace c then some ⟨none, isOpen, s⟩
  else if c = '#' then some ⟨none, isOpen, s.dropWhile (· ≠ '\n')⟩
  else if c = '\n' then
    if isOpen ≠ 0 then some ⟨none, isOpen, s⟩
    else if isIndented s then none
    else some ⟨some .lineEnd, isOpen, s⟩
  else if c = '\\' then
    match s with
    | '\n' :: d :: s => some ⟨none, isOpen, d :: s⟩
    | _ => none
  else if c = '(' || c = '\x7b' then
    if isOpen < bracketLimit then some ⟨some (.mark c), isOpen + 1, s⟩ else none
  else if c = ')' || c = '\x7d' then
    if isOpen = 0 then none else some ⟨some (.mark c), isOpen - 1, s⟩
  else if [',', ':', '+', '-'].contains c then some ⟨some (.mark c), isOpen, s⟩
  else if c = '.' && s.take 2 = ['.', '.'] then some ⟨some .constant, isOpen, s.drop 2⟩
  else if c.isDigit || (c = '.' && s.head?.any Char.isDigit) then go (readNumber? (c :: s))
  else if c.isAlpha || c = '_' || isQuote c then go (readWord? (c :: s))
  else none

/-- The tokens of a text. Each step takes a character at least. -/
def tokens? : Nat → Nat → List Char → Option (List Token)
  | _, isOpen, [] => if isOpen = 0 then some [] else none
  | 0, _, _ => none
  | fuel + 1, isOpen, c :: s =>
    match step? isOpen c s with
    | some ⟨some t, isOpen, rest⟩ => (tokens? fuel isOpen rest).map (t :: ·)
    | some ⟨none, isOpen, rest⟩ => tokens? fuel isOpen rest
    | none => none

/-! ## Shapes -/

/-- What a part of a literal is, as far as the parts around it ask. -/
inductive Shape where
  | real
  | imaginary
  | signedReal
  | signedImaginary
  /-- The word that makes a set, which is no value by itself. -/
  | setName
  | other (isFixed : Bool)
  deriving DecidableEq, Repr

namespace Shape

/-- Whether a part is a value. -/
def isValue (s : Shape) : Bool := s ≠ .setName

/-- Whether a part is a value that cannot change. -/
def isFixed : Shape → Bool
  | .other isFixed => isFixed
  | .setName => false
  | _ => true

/-- A part behind a sign: a number that has none yet. -/
def signed? : Shape → Option Shape
  | .real => some .signedReal
  | .imaginary => some .signedImaginary
  | _ => none

/-- Whether an imaginary number can be added. -/
def isReal (s : Shape) : Bool := s = .real || s = .signedReal

end Shape

/-- A part and the tokens behind it. -/
abbrev Part := Shape × List Token

/-- A part with the empty brackets behind it that make a set. -/
def called : Part → Part
  | (.setName, .mark '(' :: .mark ')' :: ts) => (.other false, ts)
  | part => part

/-- The texts at the beginning, which count as one. Texts and bytes do not mix. -/
def joinedTexts? (ofBytes : Bool) (ts : List Token) : Option Part :=
  match ts.dropWhile (· = .text ofBytes) with
  | .text _ :: _ => none
  | rest => some (.other true, rest)

mutual

/-- A part without operators. Each call spends one unit of fuel. -/
def operand? : Nat → List Token → Option Part
  | 0, _ => none
  | fuel + 1, ts => match ts with
    | .number true :: ts => some (.imaginary, ts)
    | .number false :: ts => some (.real, ts)
    | .text ofBytes :: ts => joinedTexts? ofBytes ts
    | .constant :: ts => some (.other true, ts)
    | .setWord :: ts => some (called (.setName, ts))
    | .mark '(' :: .mark ')' :: ts => some (.other true, ts)
    | .mark '(' :: ts =>
      match row? fuel ')' ts with
      | some ([shape], false, rest) => some (called (shape, rest))
      | some (shapes, _, rest) =>
        if shapes.all Shape.isValue then some (.other (shapes.all Shape.isFixed), rest) else none
      | none => none
    | .mark '\x7b' :: .mark '\x7d' :: ts => some (.other false, ts)
    | .mark '\x7b' :: ts =>
      match sum? fuel ts with
      | some (key, .mark ':' :: rest) =>
        if key.isFixed then (tableValue? fuel rest).map fun rest => (.other false, rest) else none
      | some (item, .mark '\x7d' :: rest) =>
        if item.isFixed then some (.other false, rest) else none
      | some (item, .mark ',' :: .mark '\x7d' :: rest) =>
        if item.isFixed then some (.other false, rest) else none
      | some (item, .mark ',' :: rest) =>
        match row? fuel '\x7d' rest with
        | some (items, _, rest) =>
          if (item :: items).all Shape.isFixed then some (.other false, rest) else none
        | none => none
      | _ => none
    | _ => none

/-- A part with a sign, or with an imaginary number added to it. -/
def sum? : Nat → List Token → Option Part
  | 0, _ => none
  | fuel + 1, ts =>
    let first := match ts with
      | .mark c :: rest =>
        if c = '+' || c = '-' then
          (operand? fuel rest).bind fun (shape, rest) => shape.signed?.map fun s => (s, rest)
        else operand? fuel ts
      | _ => operand? fuel ts
    match first with
    | some (left, .mark c :: rest) =>
      if c = '+' || c = '-' then
        match operand? fuel rest with
        | some (.imaginary, rest) => if left.isReal then some (.other true, rest) else none
        | _ => none
      else some (left, .mark c :: rest)
    | part => part

/-- The parts up to a closing bracket, at least one, and whether a comma stands behind one. -/
def row? : Nat → Char → List Token → Option (List Shape × Bool × List Token)
  | 0, _, _ => none
  | fuel + 1, close, ts =>
    match sum? fuel ts with
    | some (shape, .mark c :: rest) =>
      if c = close then some ([shape], false, rest)
      else if c = ',' then
        if rest.head? = some (.mark close) then some ([shape], true, rest.drop 1)
        else (row? fuel close rest).map fun (shapes, _, rest) => (shape :: shapes, true, rest)
      else none
    | _ => none

/-- What follows a table, from a value on. -/
def tableValue? : Nat → List Token → Option (List Token)
  | 0, _ => none
  | fuel + 1, ts =>
    match sum? fuel ts with
    | some (value, rest) =>
      if value.isValue then
        match rest with
        | .mark '\x7d' :: rest => some rest
        | .mark ',' :: .mark '\x7d' :: rest => some rest
        | .mark ',' :: rest => tableKey? fuel rest
        | _ => none
      else none
    | none => none

/-- What follows a table, from a key on. -/
def tableKey? : Nat → List Token → Option (List Token)
  | 0, _ => none
  | fuel + 1, ts =>
    match sum? fuel ts with
    | some (key, .mark ':' :: rest) => if key.isFixed then tableValue? fuel rest else none
    | _ => none

end

/-! ## Literals -/

/-- A text with one sort of line ends. -/
def withLineEnds : List Char → List Char
  | '\r' :: '\n' :: s => '\n' :: withLineEnds s
  | '\r' :: s => '\n' :: withLineEnds s
  | c :: s => c :: withLineEnds s
  | [] => []

/-- The tokens without the line ends around them. -/
def withoutLineEnds (ts : List Token) : List Token :=
  ((ts.dropWhile (· = .lineEnd)).reverse.dropWhile (· = .lineEnd)).reverse

/-- Whether tokens make a literal. Parts with commas between them make a row, with or without
brackets around it. At most four calls are spent on a token. -/
def areLiteral (ts : List Token) : Bool :=
  match operand? (4 * ts.length + 8) (.mark '(' :: ts ++ [.mark ')']) with
  | some (shape, []) => !ts.isEmpty && shape.isValue
  | _ => false

/-- Whether a text is a literal. A NUL stands in none. -/
def isLiteral (s : List Char) : Bool :=
  let s := withLineEnds (s.dropWhile fun c => c = ' ' || c = '\t')
  !s.contains '\x00' && (tokens? s.length 0 s).any fun ts => areLiteral (withoutLineEnds ts)

end BackupLocator.Terminal.Literal
