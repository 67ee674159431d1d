import Lexicon.Listing
import Lexicon.Regex.Standard
import Lexicon.RuleSet.Registry

/-! The command line: a rule file and an input file are named, and the tokens of the input are listed. -/
namespace Lexicon.CommandLine

structure Arguments where
  rules : String
  input : String
  deriving DecidableEq, Repr

inductive Request where
  | help
  | list (arguments : Arguments)
  deriving DecidableEq, Repr

/-- What is wrong with the arguments. -/
inductive ArgumentError where
  | unknownOption (argument : String)
  | missingValue (option : String)
  | unexpectedValue (argument : String)
  | emptyValue
  | repeatedOption (option : String)
  | extraArgument (argument : String)
  | missingRules
  | missingInput
  deriving DecidableEq, Repr

namespace ArgumentError

def message : ArgumentError → String
  | unknownOption argument | extraArgument argument => "unexpected argument '" ++ argument ++ "' found"
  | missingValue option => "a value is required for '" ++ option ++ " <RULES>' but none was supplied"
  | unexpectedValue argument => "unexpected value in '" ++ argument ++ "'"
  | emptyValue => "a value is required but none was supplied"
  | repeatedOption option => "the argument '" ++ option ++ " <RULES>' cannot be used multiple times"
  | missingRules => "the following required arguments were not provided: --rules <RULES>"
  | missingInput => "the following required arguments were not provided: <INPUT>"

end ArgumentError

/-- What one argument is. An option may carry its value. -/
inductive Word where
  | help
  | rules (value : Option String)
  /-- Everything behind it is an operand. -/
  | endOfOptions
  | operand (text : String)
  | bad (error : ArgumentError)
  deriving DecidableEq, Repr

namespace Word

/-- An option with a long name; the value follows an equals sign. -/
def ofLong (argument : String) (name : List Char) : Option (List Char) → Word
  | none =>
    if name = "help".toList then help
    else if name = "rules".toList then rules none
    else bad (.unknownOption argument)
  | some value =>
    if name = "help".toList then bad (.unexpectedValue argument)
    else if name = "rules".toList then rules (some (String.ofList value))
    else bad (.unknownOption argument)

/-- What an argument is while options are read. -/
def ofArgument (argument : String) : Word :=
  match argument.toList with
  | ['-', '-'] => endOfOptions
  | '-' :: '-' :: long =>
    match long.dropWhile (· ≠ '=') with
    | [] => ofLong argument long none
    | _ :: value => ofLong argument (long.takeWhile (· ≠ '=')) (some value)
  | ['-', 'r'] => rules none
  | '-' :: 'r' :: '=' :: value => rules (some (String.ofList value))
  | '-' :: 'r' :: value => rules (some (String.ofList value))
  | '-' :: 'h' :: _ => help
  | '-' :: _ :: _ => bad (.unknownOption argument)
  | _ => operand argument

end Word

/-- What the arguments so far have set. -/
structure Setting where
  rules : Option String
  input : Option String
  deriving DecidableEq, Repr

namespace Setting

def setRules (s : Setting) (value : String) : Except ArgumentError Setting :=
  if s.rules.isSome then .error (.repeatedOption "--rules")
  else if value = "" then .error .emptyValue
  else .ok { s with rules := some value }

def setInput (s : Setting) (value : String) : Except ArgumentError Setting :=
  if s.input.isSome then .error (.extraArgument value)
  else if value = "" then .error .emptyValue
  else .ok { s with input := some value }

/-- The request, once all arguments are read. -/
def request : Setting → Except ArgumentError Request
  | ⟨none, _⟩ => .error .missingRules
  | ⟨_, none⟩ => .error .missingInput
  | ⟨some rules, some input⟩ => .ok (.list ⟨rules, input⟩)

/-- Takes all arguments as operands. -/
def operands (s : Setting) : List String → Except ArgumentError Request
  | [] => s.request
  | argument :: rest =>
    match s.setInput argument with
    | .error e => .error e
    | .ok s' => s'.operands rest

/-- Reads the arguments from left to right, up to the first fault or a call for help. -/
def read (s : Setting) : List String → Except ArgumentError Request
  | [] => s.request
  | argument :: rest =>
    match Word.ofArgument argument with
    | .help => .ok .help
    | .bad e => .error e
    | .endOfOptions => s.operands rest
    | .operand text =>
      match s.setInput text with
      | .error e => .error e
      | .ok s' => s'.read rest
    | .rules (some value) =>
      match s.setRules value with
      | .error e => .error e
      | .ok s' => s'.read rest
    | .rules none =>
      match rest with
      | [] => .error (.missingValue "--rules")
      | value :: rest =>
        match Word.ofArgument value with
        | .operand text =>
          match s.setRules text with
          | .error e => .error e
          | .ok s' => s'.read rest
        | _ => .error (.missingValue "--rules")

end Setting

def readArguments (arguments : List String) : Except ArgumentError Request :=
  Setting.read ⟨none, none⟩ arguments

def usage : String := "Usage: patlex --rules <RULES> <INPUT>"

def help : String :=
  "Tokenize a file with the rules in a JSON rule file\n\n" ++ usage ++ "\n\n" ++
  "Arguments:\n  <INPUT>  The file to tokenize\n\n" ++
  "Options:\n  -r, --rules <RULES>  A JSON array of token and skip rules\n" ++
  "  -h, --help           Print help\n"

/-- Why a listing stops early. -/
inductive Error where
  | unreadable (path : String) (error : ReadError)
  | registry (error : RegistryError)
  | scan (error : ScanError)
  deriving DecidableEq

namespace Error

def outline : Error → Outline
  | unreadable path e => e.fileOutline path
  | registry e => .tuple "Registry" [e.outline]
  | scan e => .tuple "Lex" [e.outline]

/-- What is reported of an error. -/
def report (e : Error) : String := "Error: " ++ e.outline.compact ++ "\n"

end Error

/-- The tokens listed, and the error that stopped the listing. -/
abbrev Outcome := List Listed × Option Error

/-- Lists the tokens of what was read at a path. -/
def listInput (registry : Registry Unit String Empty) (path : String) :
    Except ReadError String → Outcome
  | .error e => ([], some (.unreadable path e))
  | .ok text =>
    match (Lexer.ofSource registry none text.toList).listing () with
    | (tokens, e) => (tokens, e.map .scan)

/-- Lists the tokens of the input. The input is read only if the rules make a registry. -/
def run [Regex.Engine] {m : Type → Type} [Monad m] (read : String → m (Except ReadError String))
    (arguments : Arguments) : m Outcome := do
  match (← RuleSet.load read arguments.rules) with
  | .error e => return ([], some (.registry e))
  | .ok rs =>
    match rs.toRegistry with
    | .error e => return ([], some (.registry e))
    | .ok registry => return listInput registry arguments.input (← read arguments.input)

/-- What the program leaves behind. -/
structure Report where
  exitCode : Nat
  output : String
  errors : String
  deriving DecidableEq, Repr

namespace Report

def ofArgumentError (e : ArgumentError) : Report :=
  ⟨2, "", "error: " ++ e.message ++ "\n\n" ++ usage ++ "\n\nFor more information, try '--help'.\n"⟩

def ofOutcome : Outcome → Report
  | (tokens, none) => ⟨0, Listed.lines tokens, ""⟩
  | (tokens, some e) => ⟨1, Listed.lines tokens, e.report⟩

end Report

/-- Reads the arguments and does what they ask for. -/
def respond [Regex.Engine] {m : Type → Type} [Monad m] (read : String → m (Except ReadError String))
    (arguments : List String) : m Report :=
  match readArguments arguments with
  | .error e => return .ofArgumentError e
  | .ok .help => return ⟨0, help, ""⟩
  | .ok (.list arguments) => return .ofOutcome (← run read arguments)

end Lexicon.CommandLine
