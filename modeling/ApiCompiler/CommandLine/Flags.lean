/-!
# Flags

Reading the words of a command line as flags and plain words. A word that starts with a dash is a
long flag, perhaps with a value after an equality sign, or short flags run together; a flag that
takes a value takes the rest of its word or the next word. After two dashes all words are plain.
-/

namespace ApiCompiler.CommandLine

/-- A flag, by its long name and perhaps a letter. -/
structure Flag where
  name : String
  letter : Option Char
  takesValue : Bool
deriving Repr, DecidableEq

/-- The flags of a command line in their order, with their values, and the plain words. -/
structure Reading where
  flags : List (String × String)
  words : List String
deriving Repr, DecidableEq

namespace Reading

/-- Whether a flag is given. -/
def has (reading : Reading) (name : String) : Bool :=
  reading.flags.any (·.1 == name)

/-- The value of a flag; where it is given repeatedly, the last one counts. -/
def value? (reading : Reading) (name : String) : Option String :=
  reading.flags.reverse.lookup name

/-- The same with flags before all others. -/
def after (reading : Reading) (flags : List (String × String)) : Reading :=
  { reading with flags := flags ++ reading.flags }

end Reading

/-- What a word gives: flags with their values, and perhaps one that still lacks its value. -/
structure Given where
  flags : List (String × String)
  lacking : Option String
deriving Repr, DecidableEq

/-- The flags of letters that are run together. -/
def readLetters (known : List Flag) : List Char → Option Given
  | [] => some ⟨[], none⟩
  | letter :: rest => do
    let flag ← known.find? (·.letter == some letter)
    if flag.takesValue then
      if rest.isEmpty then return ⟨[], some flag.name⟩
      return ⟨[(flag.name, String.ofList rest)], none⟩
    let given ← readLetters known rest
    return { given with flags := (flag.name, "") :: given.flags }

private def readLong (flag : Flag) (attached : Option String) : Option Given :=
  match flag.takesValue, attached with
  | true, some value => some ⟨[(flag.name, value)], none⟩
  | true, none => some ⟨[], some flag.name⟩
  | false, none => some ⟨[(flag.name, "")], none⟩
  | false, some _ => none

private def splitAttached (word : List Char) : String × Option String :=
  match word.dropWhile (· != '=') with
  | [] => (String.ofList word, none)
  | _ :: value => (String.ofList (word.takeWhile (· != '=')), some (String.ofList value))

/-- The flags of one word that starts with a dash. -/
def readWord (known : List Flag) (word : List Char) : Option Given :=
  let (name, attached) := splitAttached word
  match known.find? (·.name == name) with
  | some flag => readLong flag attached
  | none => if word.take 2 == ['-', '-'] then none else readLetters known (word.drop 1)

private def isFlag (word : List Char) : Bool :=
  word.length > 1 && word.head? == some '-'

/-- The flags and words of a command line, unless there is a flag that is not known, lacks its value
or has one too many. Flags may stand between plain words or all have to stand before them. -/
def read (known : List Flag) (between : Bool) : List String → Option Reading
  | [] => some ⟨[], []⟩
  | word :: rest =>
    if word == "--" then some ⟨[], rest⟩
    else if isFlag word.toList then
      match readWord known word.toList with
      | none => none
      | some ⟨flags, none⟩ => (read known between rest).map (·.after flags)
      | some ⟨flags, some name⟩ =>
        match rest with
        | [] => none
        | value :: rest => (read known between rest).map (·.after (flags ++ [(name, value)]))
    else if between then
      (read known between rest).map fun reading => { reading with words := word :: reading.words }
    else some ⟨[], word :: rest⟩

end ApiCompiler.CommandLine
