import TypedClient.Settings
import TypedClient.Text.Digit

/-!
# Arguments of the command line

An option is given by its name or by the beginning of it that no other option shares, its value in the
next argument or behind an equals sign; two hyphens behind the sign leave it without one. What looks
like an option cannot be a value, unless it is a negative number or has a blank in it. Arguments that
are no options are refused, and so is everything after two hyphens. `Request.read` says what is asked
for; a request for help is granted as soon as it is reached, and a beginning that several options share
is refused wherever it stands.
-/

namespace TypedClient.CommandLine

/-- The options. -/
inductive Choice where
  | help
  | source
  | dirname
  | package
  | component
  | module
  | header
  | initConfig
  | all
  | verbose
deriving DecidableEq, Repr

namespace Choice

/-- The options with their names. -/
def named : List (String × Choice) :=
  [("--help", .help), ("--source", .source), ("--dirname", .dirname), ("--package", .package),
   ("--component", .component), ("--module", .module), ("--header", .header),
   ("--init-config", .initConfig), ("--all", .all), ("--verbose", .verbose)]

/-- The short name of the option for help. -/
def shortHelp : String := "-h"

/-- Whether an option takes a value. -/
def takesValue : Choice → Bool
  | .source | .dirname | .package | .component | .module | .header => true
  | _ => false

end Choice

/-- What an argument is taken for. -/
inductive Token where
  /-- A value, or an argument that is no option. -/
  | value (s : String)
  /-- An option, with the value behind its equals sign. -/
  | option (choice : Choice) (attached : Option String)
  /-- The short option for help, with what stands behind it. -/
  | shortHelp (attached : Option String)
  /-- Something that looks like an option. -/
  | unknown
  /-- The beginning of several options. -/
  | ambiguous
deriving DecidableEq, Repr

/-- A text before its first equals sign, and after it if there is one. -/
def splitAttached (s : String) : String × Option String :=
  match s.toList.dropWhile (· != '=') with
  | [] => (s, none)
  | _ :: after => (String.ofList (s.toList.takeWhile (· != '=')), some (String.ofList after))

/-- Digits of any script. -/
def areDigits (cs : List Char) : Bool := cs.all fun c => (Text.decimalValue? c).isSome

/-- A text without the line end at its end, if there is one. -/
def dropLineEnd (cs : List Char) : List Char :=
  if cs.getLast? = some '\n' then cs.dropLast else cs

/-- A negative number: a hyphen and digits, with at most one point, behind which there are digits. A
line end behind it does not matter. -/
def isNegativeNumber (s : String) : Bool :=
  match dropLineEnd s.toList with
  | '-' :: rest =>
    let whole := rest.takeWhile (· != '.')
    match rest.dropWhile (· != '.') with
    | [] => !whole.isEmpty && areDigits whole
    | _ :: fraction => areDigits whole && !fraction.isEmpty && areDigits fraction
  | _ => false

/-- What an argument that is not exactly an option is taken for. -/
def Token.ofOther (s : String) : Token :=
  if isNegativeNumber s ∨ s.toList.contains ' ' then .value s else .unknown

/-- The options whose names begin with a text. -/
def optionsFor (beginning : String) : List Choice :=
  (Choice.named.filter fun c => beginning.toList.isPrefixOf c.1.toList).map Prod.snd

/-- What an argument with two hyphens is taken for. -/
def Token.ofLong (s : String) : Token :=
  let (name, attached) := splitAttached s
  match Choice.named.lookup s, Choice.named.lookup name with
  | some c, _ => .option c none
  | none, some c => .option c attached
  | none, none =>
    match optionsFor name with
    | [c] => .option c attached
    | [] => Token.ofOther s
    | _ => .ambiguous

/-- What an argument is taken for. -/
def Token.ofArgument (s : String) : Token :=
  match s.toList with
  | '-' :: '-' :: _ => Token.ofLong s
  | '-' :: 'h' :: rest => .shortHelp (if rest.isEmpty then none else some (String.ofList rest))
  | '-' :: _ :: _ => Token.ofOther s
  | _ => .value s

/-- The tokens of the arguments. After two hyphens on their own there are only values. -/
def tokens : List String → List Token
  | [] => []
  | s :: rest => if s = "--" then .unknown :: rest.map .value else Token.ofArgument s :: tokens rest

/-- What is asked for on the command line. -/
structure Options where
  settings : SettingArguments := {}
  initConfig : Bool := false
  all : Bool := false
  verbose : Bool := false
deriving Repr, Inhabited

/-- What the arguments amount to. -/
inductive Request where
  /-- They are not understood. -/
  | refused
  /-- Help is asked for. -/
  | help
  /-- The tool is to run. -/
  | run (options : Options)
deriving Repr, Inhabited

namespace Options

/-- The options with one of them given, with a value or without. Headers add up; of the others the last
one counts. -/
def withValue (o : Options) (c : Choice) (v : Option String) : Options :=
  let s := o.settings
  match c with
  | .source => { o with settings := { s with source := v } }
  | .dirname => { o with settings := { s with dirname := v } }
  | .package => { o with settings := { s with package := v } }
  | .component => { o with settings := { s with component := v } }
  | .module => { o with settings := { s with module := v } }
  | .header => { o with settings := { s with headers := s.headers ++ [v] } }
  | _ => o

/-- The options with one switched on. -/
def switchOn (o : Options) : Choice → Options
  | .initConfig => { o with initConfig := true }
  | .all => { o with all := true }
  | .verbose => { o with verbose := true }
  | _ => o

end Options

/-- Whether the short option for help is understood with what stands behind it. It may only be repeated,
also behind an equals sign. -/
def grantsHelp : Option String → Bool
  | none => true
  | some attached =>
    let letters := match attached.toList with
      | '=' :: rest => rest
      | cs => cs
    !letters.isEmpty && letters.all (· == 'h')

/-- The value behind an equals sign. Two hyphens there are none. -/
def attachedValue (attached : String) : Option String :=
  if attached = "--" then none else some attached

/-- Reads tokens in order; `clean` says that all of them were understood so far. -/
def readTokens (clean : Bool) (o : Options) : List Token → Request
  | [] => if clean then .run o else .refused
  | .value _ :: rest => readTokens false o rest
  | .unknown :: rest => readTokens false o rest
  | .ambiguous :: _ => .refused
  | .shortHelp attached :: _ =>
    if grantsHelp attached then .help else .refused
  | .option c (some attached) :: rest =>
    if c.takesValue then readTokens clean (o.withValue c (attachedValue attached)) rest else .refused
  | .option c none :: rest =>
    if c.takesValue then
      match rest with
      | .value v :: rest => readTokens clean (o.withValue c (some v)) rest
      | _ => .refused
    else if c = .help then .help
    else readTokens clean (o.switchOn c) rest

/-- The request that the arguments make. -/
def Request.read (arguments : List String) : Request :=
  let ts := tokens arguments
  if ts.contains .ambiguous then .refused else readTokens true {} ts

end TypedClient.CommandLine
