import PltKeeper.Text.Blank
import PltKeeper.Text.LetterCase
import PltKeeper.Text.Likeness
import PltKeeper.Text.Quoted

/-!
Reading command line arguments. Options have long names, which may carry a value after an equals
sign, and short ones, which may carry it right behind them; the last of repeated options wins. Two
hyphens end the options. A fault in a name brings up the names that may have been meant.
-/

namespace PltKeeper.Command

/-- An option of a command. -/
structure OptionSpec where
  /-- Its names, as they are shown. -/
  names : List String
  /-- Whether it takes a value. -/
  takesValue : Bool
  deriving DecidableEq, Repr

/-- An option that was given, with its value if it takes one. -/
structure Given where
  spec : OptionSpec
  value : Option String
  deriving DecidableEq, Repr

/-- What is wrong with arguments. -/
inductive UsageFault
  | noSuchOption (name : String) (meant : List String)
  | noSuchCommand (name : String) (meant : List String)
  | commandMissing
  | argumentMissing (option : String)
  | noValueTaken (option : String)
  | extraArguments (arguments : List String)
  | badBoolean (spec : OptionSpec) (value : String)
  deriving DecidableEq, Repr

namespace UsageFault

/-- The texts that are taken for truth values, in order. -/
def booleanTexts : List String :=
  ["", "0", "1", "f", "false", "n", "no", "off", "on", "t", "true", "y", "yes"]

/-- The names that may have been meant, in words. -/
def suggestion : List String → String
  | [] => ""
  | [name] => " Did you mean " ++ Text.quoted name ++ "?"
  | names => " (Did you mean one of: " ++ ", ".intercalate (names.map Text.quoted) ++ "?)"

/-- The fault in words. -/
def message : UsageFault → String
  | noSuchOption name meant => "No such option " ++ Text.quoted name ++ "." ++ suggestion meant
  | noSuchCommand name meant => "No such command " ++ Text.quoted name ++ "." ++ suggestion meant
  | commandMissing => "Missing command."
  | argumentMissing option => "Option " ++ Text.quoted option ++ " requires an argument."
  | noValueTaken option => "Option " ++ Text.quoted option ++ " does not take a value."
  | extraArguments arguments =>
    "Got unexpected extra argument" ++ (if arguments.length = 1 then "" else "s") ++ " (" ++
      " ".intercalate arguments ++ ")"
  | badBoolean spec value =>
    "Invalid value for " ++ " / ".intercalate (spec.names.map fun n => "'" ++ n ++ "'") ++ ": " ++
      Text.quoted value ++ " is not a valid boolean. Recognized values: " ++
      ", ".intercalate booleanTexts

/-- Whether the fault is shown together with how the command is used. -/
def showsUsage : UsageFault → Bool
  | argumentMissing _ | noValueTaken _ => false
  | _ => true

end UsageFault

/-- The truth value that a text stands for; an empty text stands for no. -/
def readBoolean (spec : OptionSpec) (value : String) : Except UsageFault Bool :=
  let word := String.ofList (Text.lowerAscii (Text.strip value.toList))
  if word ∈ ["1", "true", "t", "yes", "y", "on"] then .ok true
  else if word ∈ ["", "0", "false", "f", "no", "n", "off"] then .ok false
  else .error (.badBoolean spec value)

/-- The option of a name. -/
def find? (specs : List OptionSpec) (name : String) : Option OptionSpec :=
  specs.find? fun spec => name ∈ spec.names

/-- The names of options that begin with two hyphens. -/
def longNames (specs : List OptionSpec) : List String :=
  (specs.flatMap (·.names)).filter fun name => ['-', '-'].isPrefixOf name.toList

/-- What an argument that begins with a hyphen gives: options, and perhaps one that wants the next
argument as its value. -/
structure Reading where
  given : List Given
  wants : Option (OptionSpec × String) := none

/-- Reads short options that follow one hyphen. -/
def readShort (specs : List OptionSpec) : List Char → Except UsageFault Reading
  | [] => .ok ⟨[], none⟩
  | c :: rest =>
    let name := String.ofList ['-', c]
    match find? specs name with
    | none => .error (.noSuchOption name [])
    | some spec =>
      if spec.takesValue then
        if rest.isEmpty then .ok ⟨[], some (spec, name)⟩
        else .ok ⟨[⟨spec, some (String.ofList rest)⟩], none⟩
      else do
        let more ← readShort specs rest
        return { more with given := ⟨spec, none⟩ :: more.given }

/-- Reads a long option, with the value after its equals sign if there is one. -/
def readLong (specs : List OptionSpec) (arg : List Char) : Except UsageFault Reading :=
  let name := String.ofList (arg.takeWhile (· ≠ '='))
  let value := (arg.dropWhile (· ≠ '=')).tail
  let hasValue := arg.contains '='
  match find? specs name with
  | none => .error (.noSuchOption name (Text.closest name (longNames specs)))
  | some spec =>
    if spec.takesValue then
      if hasValue then .ok ⟨[⟨spec, some (String.ofList value)⟩], none⟩
      else .ok ⟨[], some (spec, name)⟩
    else if hasValue then .error (.noValueTaken name)
    else .ok ⟨[⟨spec, none⟩], none⟩

/-- Reads an argument that begins with a hyphen. -/
def readOption (specs : List OptionSpec) (arg : String) : Except UsageFault Reading :=
  match arg.toList with
  | '-' :: '-' :: rest => readLong specs ('-' :: '-' :: rest)
  | '-' :: rest => readShort specs rest
  | _ => .ok ⟨[], none⟩

/-- The options given, first one first, and the arguments that are none. With `mixed`, options may
come after those. -/
def readArguments (specs : List OptionSpec) (mixed : Bool)
    (pending : Option (OptionSpec × String)) :
    List String → Except UsageFault (List Given × List String)
  | [] =>
    match pending with
    | some (_, name) => .error (.argumentMissing name)
    | none => .ok ([], [])
  | arg :: rest =>
    match pending with
    | some (spec, _) => do
      let (given, others) ← readArguments specs mixed none rest
      return (⟨spec, some arg⟩ :: given, others)
    | none =>
      if arg = "--" then .ok ([], rest)
      else if arg.toList.head? = some '-' && arg ≠ "-" then do
        let reading ← readOption specs arg
        let (given, others) ← readArguments specs mixed reading.wants rest
        return (reading.given ++ given, others)
      else if mixed then do
        let (given, others) ← readArguments specs mixed none rest
        return (given, arg :: others)
      else .ok ([], arg :: rest)

/-- Whether an option is given. -/
def has (given : List Given) (spec : OptionSpec) : Bool := given.any (·.spec = spec)

/-- The value of an option: the last one given. -/
def valueOf? (given : List Given) (spec : OptionSpec) : Option String :=
  (given.reverse.find? (·.spec = spec)).bind (·.value)

end PltKeeper.Command
