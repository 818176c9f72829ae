/-!
# Words of a command line

Options begin with a hyphen. A long option takes its value behind an equals sign or from the next
word; short options of one letter can stand together, and the first that takes a value takes what
is left of the word, or the next word. All behind a word `--` is no option.
-/

namespace BackupLocator.CommandLine

/-- An option that a command knows, named `ι`. -/
structure OptionForm (ι : Type) where
  id : ι
  /-- Names with two hyphens. -/
  long : List String
  /-- Letters that stand behind one hyphen. -/
  short : List Char
  takesValue : Bool

/-- What is read from words: the options in their order, each with its value, and the words that
are no options. An option that takes no value has an empty one. -/
structure ReadWords (ι : Type) where
  options : List (ι × String)
  others : List String

namespace ReadWords

/-- Nothing but words that are no options. -/
def ofOthers {ι : Type} (words : List String) : ReadWords ι := ⟨[], words⟩

/-- One more word in front that is no option. -/
def withOther {ι : Type} (r : ReadWords ι) (word : String) : ReadWords ι :=
  { r with others := word :: r.others }

/-- The value of an option where it stands last. -/
def last? {ι : Type} [DecidableEq ι] (r : ReadWords ι) (id : ι) : Option String :=
  (r.options.reverse.find? fun o => o.1 = id).map Prod.snd

/-- Whether an option is there. -/
def has {ι : Type} [DecidableEq ι] (r : ReadWords ι) (id : ι) : Bool :=
  r.options.any fun o => o.1 = id

end ReadWords

/-- What a word of options does to the words behind it. -/
inductive Taken (ι : Type) where
  /-- The word holds these options and nothing else. -/
  | whole (options : List (ι × String))
  /-- The last of the options, of that name, takes the next word. -/
  | wanting (options : List (ι × String)) (last : ι)

/-- What letters behind one hyphen are; `none` if one is not known. -/
def readShort {ι : Type} (forms : List (OptionForm ι)) : List Char → Option (Taken ι)
  | [] => some (.whole [])
  | c :: s =>
    match forms.find? fun f => f.short.contains c with
    | none => none
    | some f =>
      if f.takesValue then
        if s.isEmpty then some (.wanting [] f.id)
        else some (.whole [(f.id, String.ofList s)])
      else
        match readShort forms s with
        | some (.whole options) => some (.whole ((f.id, "") :: options))
        | some (.wanting options last) => some (.wanting ((f.id, "") :: options) last)
        | none => none

/-- What a word that begins with a hyphen is; `none` if it is not understood. -/
def readOption {ι : Type} (forms : List (OptionForm ι)) (word : String) : Option (Taken ι) :=
  let name := String.ofList (word.toList.takeWhile (· ≠ '='))
  match forms.find? fun f => f.long.contains name with
  | some f =>
    match word.toList.dropWhile (· ≠ '='), f.takesValue with
    | _ :: value, true => some (.whole [(f.id, String.ofList value)])
    | _ :: _, false => none
    | [], true => some (.wanting [] f.id)
    | [], false => some (.whole [(f.id, "")])
  | none =>
    match word.toList with
    | '-' :: '-' :: _ => none
    | _ :: letters => readShort forms letters
    | [] => none

/-- Whether a word holds options. -/
def isOption (word : String) : Bool :=
  match word.toList with
  | '-' :: _ :: _ => true
  | _ => false

/-- What words are; `none` if they are not understood. With `mixed`, options may stand behind
words that are none. -/
def readWords {ι : Type} (forms : List (OptionForm ι)) (mixed : Bool) :
    List String → Option (ReadWords ι)
  | [] => some (.ofOthers [])
  | word :: words =>
    if word = "--" then some (.ofOthers words)
    else if isOption word then
      match readOption forms word with
      | some (.whole options) =>
        (readWords forms mixed words).map fun r => { r with options := options ++ r.options }
      | some (.wanting options last) =>
        match words with
        | value :: words =>
          (readWords forms mixed words).map fun r =>
            { r with options := options ++ (last, value) :: r.options }
        | [] => none
      | none => none
    else if mixed then (readWords forms mixed words).map (·.withOther word)
    else some (.ofOthers (word :: words))

end BackupLocator.CommandLine
