import ApiReference.CommandLine.Basic
import ApiReference.Text.Blank

/-! Reading a command line. Options may stand before and after the name of the subcommand; a level
has its own options and may be given each of them once. The value of an option is checked only when
the next argument is met. -/

namespace ApiReference.CommandLine

inductive Level
  | root | init | config | render | members
  deriving DecidableEq, Repr

inductive Opt
  | config | info | force | json | output
  | module | primary | graphDir | secondary | umbrellaHeader
  | help | version
  deriving DecidableEq, Repr

namespace Opt

def longName : Opt → String
  | config => "config"
  | info => "info"
  | force => "force"
  | json => "json"
  | output => "output"
  | module => "module"
  | primary => "primary"
  | graphDir => "graph-dir"
  | secondary => "secondary"
  | umbrellaHeader => "umbrella-header"
  | help => "help"
  | version => "version"

def letter : Opt → Option Char
  | config => some 'c'
  | force => some 'f'
  | output => some 'o'
  | module => some 'm'
  | help => some 'h'
  | version => some 'V'
  | _ => none

def takesValue : Opt → Bool
  | config | output | module | primary | graphDir | secondary | umbrellaHeader => true
  | _ => false

def takesPath (o : Opt) : Bool := o.takesValue && o != .module

def isRepeatable (o : Opt) : Bool := o == .primary

end Opt

def inputOptions : List Opt := [.module, .primary, .graphDir, .secondary, .umbrellaHeader]

def Level.options : Level → List Opt
  | root => [.config, .info, .help, .version]
  | init => [.config, .info, .force, .help]
  | config => [.config, .info, .help]
  | render => [.config, .info, .output, .json, .help] ++ inputOptions
  | members => [.config, .info, .json, .help] ++ inputOptions

def Level.findLong (level : Level) (name : String) : Option Opt :=
  level.options.find? fun o => o.longName == name

def Level.findLetter (level : Level) (c : Char) : Option Opt :=
  level.options.find? fun o => o.letter == some c

def subcommand? (name : String) : Option Level :=
  match name with
  | "init" => some .init
  | "config" => some .config
  | "render" => some .render
  | "members" => some .members
  | _ => none

structure Given where
  options : List (Opt × String) := []
  -- an option whose value has not been checked, or not even been met
  pending : Option (Opt × Option String) := none
  symbol : Option String := none
  trailing : Bool := false
  deriving DecidableEq, Repr

namespace Given

def has (g : Given) (o : Opt) : Bool := g.options.any (·.1 == o)

def value? (g : Given) (o : Opt) : Option String := (g.options.find? (·.1 == o)).map (·.2)

def values (g : Given) (o : Opt) : List String :=
  (g.options.filter (·.1 == o)).map (·.2)

def take (g : Given) (o : Opt) (value : String) : Except UsageError Given :=
  if g.has o && !o.isRepeatable then .error .repeatedArgument
  else if o.takesPath && value = "" then .error .invalidValue
  else .ok { g with options := g.options ++ [(o, value)] }

def settle (g : Given) : Except UsageError Given :=
  match g.pending with
  | none => .ok g
  | some (_, none) => .error .invalidValue
  | some (o, some value) => ({ g with pending := none }).take o value

def meet (g : Given) (o : Opt) (attached : Option String) : Except UsageError Given := do
  let g ← g.settle
  match o, o.takesValue, attached with
  | .help, _, _ => throw .helpRequested
  | .version, _, _ => throw .versionRequested
  | o, false, _ => g.take o ""
  | o, true, some value => g.take o value
  | o, true, none => pure { g with pending := some (o, none) }

def isWaiting (g : Given) : Bool :=
  match g.pending with
  | some (_, none) => true
  | _ => false

def answer (g : Given) (value : String) : Given :=
  { g with pending := g.pending.map fun (o, _) => (o, some value) }

end Given

def readLong (level : Level) (g : Given) (cs : List Char) : Except UsageError Given := do
  let name := String.ofList (cs.takeWhile (· != '='))
  let attached := match cs.dropWhile (· != '=') with
    | [] => none
    | _ :: value => some (String.ofList value)
  match level.findLong name with
  | none => throw .unknownArgument
  | some o =>
    if !o.takesValue && attached.isSome then throw .unwantedValue
    else g.meet o attached

def readLetters (level : Level) (g : Given) : List Char → Except UsageError Given
  | [] => .ok g
  | c :: rest => do
    match level.findLetter c with
    | none => throw .unknownArgument
    | some o =>
      if o.takesValue then
        match rest with
        | [] => g.meet o none
        | '=' :: value => g.meet o (some (String.ofList value))
        | value => g.meet o (some (String.ofList value))
      else
        let g ← g.meet o none
        readLetters level g rest

def readPlain (level : Level) (g : Given) (word : String) : Except UsageError Given :=
  match level, g.symbol with
  | .members, none => do
    let g ← g.settle
    pure { g with symbol := some word }
  | .root, _ =>
    if g.trailing && (word = "help" || (subcommand? word).isSome) then .error .unknownArgument
    else .error .invalidSubcommand
  | _, _ => .error .unknownArgument

def readWord (level : Level) (g : Given) (word : String) : Except UsageError Given :=
  if g.trailing then readPlain level g word
  else
    match word.toList with
    | ['-', '-'] => .ok { g with trailing := true }
    | '-' :: '-' :: cs => readLong level g cs
    | '-' :: c :: cs => readLetters level g (c :: cs)
    | _ => if g.isWaiting then .ok (g.answer word) else readPlain level g word

def readWords (level : Level) (g : Given) : List String → Except UsageError Given
  | [] => g.settle
  | word :: words => do readWords level (← readWord level g word) words

def readHelp : List String → UsageError
  | [] => .helpRequested
  | [name] =>
    if name = "help" || (subcommand? name).isSome then .helpRequested else .invalidSubcommand
  | _ => .invalidSubcommand

def inputsOf (g : Given) : InputArguments where
  module := g.value? .module
  primary := g.values .primary
  graphDir := g.value? .graphDir
  secondary := g.value? .secondary
  umbrellaHeader := g.value? .umbrellaHeader

def commandOf (level : Level) (g : Given) : Except UsageError Command :=
  match level with
  | .root => .error .missingSubcommand
  | .init => .ok (.init (g.has .force))
  | .config => .ok .config
  | .render => .ok (.render (inputsOf g) (g.value? .output) (g.has .json))
  | .members =>
    match g.symbol with
    | some symbol => .ok (.members symbol (inputsOf g) (g.has .json))
    | none => .error .missingArgument

def readSubcommand (level : Level) (words : List String) : Except UsageError (Given × Command) := do
  let g ← readWords level {} words
  pure (g, ← commandOf level g)

/-- The options up to the name of a subcommand, and that subcommand, which is complete before the
value of the last option in front of it is looked at. -/
def readRoot (g : Given) : List String → Except UsageError (Given × Option (Given × Command))
  | [] => do pure (← g.settle, none)
  | word :: words => do
    if g.trailing || g.isWaiting then readRoot (← readWord .root g word) words
    else if word = "help" then throw (readHelp words)
    else
      match subcommand? word with
      | some level =>
        let inner ← readSubcommand level words
        pure (← g.settle, some inner)
      | none => readRoot (← readWord .root g word) words

def parse (words : List String) : Except UsageError Invocation := do
  match ← readRoot {} words with
  | (g, none) => throw (if g.options.isEmpty then .nothingAsked else .missingSubcommand)
  | (outer, some (inner, command)) =>
    pure
      { config := inner.value? .config <|> outer.value? .config
        info := inner.has .info || outer.has .info
        command }

end ApiReference.CommandLine
