import DotQuery.Document
import DotQuery.Text.Natural

/-!
The arguments of the command. A parameter has a long name, most have a short one, and most take a
value, which is the next argument or stands behind an equals sign; behind a short name it may also
follow at once. Only queries may be given more than once. An argument that begins with a hyphen and
is longer is never the value of the one before it. Reading stops where help or the version is asked
for, but what stands before must be in order.
-/

namespace DotQuery

namespace Command

/-- What the command tells of itself. -/
inductive Notice where
  | help
  | version
deriving DecidableEq

inductive Parameter where
  | input
  | query
  | rules
  | output
  | format
  | now
  | threads
  | pretty
  | verbose
  | notice (asked : Notice)
deriving DecidableEq

namespace Parameter

/-- All parameters, in the order in which they are told of. -/
def all : List Parameter :=
  [input, query, rules, output, format, now, threads, pretty, verbose, notice .help,
    notice .version]

def longName : Parameter → String
  | input => "input"
  | query => "query"
  | rules => "rules"
  | output => "output"
  | format => "format"
  | now => "now"
  | threads => "threads"
  | pretty => "pretty"
  | verbose => "verbose"
  | notice .help => "help"
  | notice .version => "version"

def shortName? : Parameter → Option Char
  | input => some 'i'
  | query => some 'q'
  | rules => some 'r'
  | output => some 'o'
  | threads => some 't'
  | verbose => some 'v'
  | notice .help => some 'h'
  | notice .version => some 'V'
  | format | now | pretty => none

def ofLongName? (name : String) : Option Parameter :=
  all.find? fun parameter => parameter.longName = name

def ofShortName? (name : Char) : Option Parameter :=
  all.find? fun parameter => parameter.shortName? = some name

/-- The name of the value of a parameter that takes one. -/
def placeholder? : Parameter → Option String
  | input => some "INPUT"
  | query => some "QUERIES"
  | rules => some "RULES"
  | output => some "OUTPUT"
  | format => some "FORMAT"
  | now => some "NOW"
  | threads => some "THREADS"
  | pretty | verbose | notice _ => none

def takesValue (parameter : Parameter) : Bool :=
  parameter.placeholder?.isSome

def notice? : Parameter → Option Notice
  | notice asked => some asked
  | _ => none

end Parameter

/-- A parameter as it is given, with its value or the empty text. -/
structure Setting where
  parameter : Parameter
  value : String
deriving DecidableEq

def looksLikeParameter (argument : String) : Bool :=
  argument.startsWith "-" && argument != "-"

/-- The notice that is asked for first. -/
def noticeOf? (settings : List Setting) : Option Notice :=
  settings.findSome? fun setting => setting.parameter.notice?

/-- What a group of short names gives. -/
inductive ShortNames where
  | complete (settings : List Setting)
  /-- The last of the names takes the next argument for its value. -/
  | needsValue (settings : List Setting) (parameter : Parameter)

def readShortNames? : List Char → Option ShortNames
  | [] => some (.complete [])
  | name :: rest => do
    let parameter ← Parameter.ofShortName? name
    if parameter.takesValue then
      match rest with
      | [] => return .needsValue [] parameter
      | '=' :: value => return .complete [⟨parameter, String.ofList value⟩]
      | value => return .complete [⟨parameter, String.ofList value⟩]
    else if parameter.notice?.isSome then return .complete [⟨parameter, ""⟩]
    else
      match ← readShortNames? rest with
      | .complete settings => return .complete (⟨parameter, ""⟩ :: settings)
      | .needsValue settings last => return .needsValue (⟨parameter, ""⟩ :: settings) last

/-- A long name, and the value behind its equals sign. -/
def splitLongName (text : List Char) : List Char × Option (List Char) :=
  let name := text.takeWhile (· != '=')
  match text.drop name.length with
  | '=' :: value => (name, some value)
  | _ => (name, none)

/-- The settings that arguments give, up to one that asks for a notice; none if they cannot be
read. -/
def readSettings? : List String → Option (List Setting)
  | [] => some []
  | argument :: rest =>
    match argument.toList with
    | ['-', '-'] => if rest.isEmpty then some [] else none
    | '-' :: '-' :: text => do
      let (name, value) := splitLongName text
      let parameter ← Parameter.ofLongName? (String.ofList name)
      match parameter.takesValue, value, rest with
      | true, some value, rest => return ⟨parameter, String.ofList value⟩ :: (← readSettings? rest)
      | true, none, value :: rest =>
        if looksLikeParameter value then none
        else return ⟨parameter, value⟩ :: (← readSettings? rest)
      | false, none, rest =>
        if parameter.notice?.isSome then return [⟨parameter, ""⟩]
        else return ⟨parameter, ""⟩ :: (← readSettings? rest)
      | _, _, _ => none
    | '-' :: name :: names => do
      match ← readShortNames? (name :: names), rest with
      | .complete settings, rest =>
        if (noticeOf? settings).isSome then return settings
        else return settings ++ (← readSettings? rest)
      | .needsValue settings parameter, value :: rest =>
        if looksLikeParameter value then none
        else return settings ++ ⟨parameter, value⟩ :: (← readSettings? rest)
      | .needsValue _ _, [] => none
    | _ => none

/-- What the command is asked to answer. -/
structure Arguments where
  input : String
  queries : List String
  rules : Option String
  output : String
  format : Option Format
  now : Option String
  /-- How many threads to start; zero leaves their number to the system. -/
  threads : Option Nat
  pretty : Bool
deriving DecidableEq

/-- The values that are given for a parameter. -/
def valuesOf (parameter : Parameter) (settings : List Setting) : List String :=
  (settings.filter fun setting => setting.parameter = parameter).map Setting.value

/-- The value of a parameter that is given at most once; `some none` if it is not given. -/
def optional? (parameter : Parameter) (settings : List Setting) : Option (Option String) :=
  match valuesOf parameter settings with
  | [] => some none
  | [value] => some (some value)
  | _ => none

def path? (text : String) : Option String :=
  if text.isEmpty then none else some text

def threadCount? (text : String) : Option Nat :=
  (Text.natural? text.toList).filter (· < 0x10000000000000000)

/-- Whether a parameter is absent or its value is accepted. -/
def optionalWith? {α : Type} (parse : String → Option α) (parameter : Parameter)
    (settings : List Setting) : Option (Option α) := do
  match ← optional? parameter settings with
  | none => return none
  | some value => return some (← parse value)

/-- The arguments that settings give, none if one of their values is refused; and the arguments are
none if only the input is missing. -/
def Arguments.ofSettings? (settings : List Setting) : Option (Option Arguments) := do
  let input ← optionalWith? path? .input settings
  let rules ← optionalWith? path? .rules settings
  let output ← optionalWith? path? .output settings
  let format ← optionalWith? Format.ofName? .format settings
  let now ← optional? .now settings
  let threads ← optionalWith? threadCount? .threads settings
  let pretty ← optional? .pretty settings
  let _ ← optional? .verbose settings
  return input.map fun input => {
    input := input
    queries := valuesOf .query settings
    rules := rules
    output := output.getD "-"
    format := format
    now := now
    threads := threads
    pretty := pretty.isSome }

inductive Request where
  | answer (args : Arguments)
  | tell (notice : Notice)
deriving DecidableEq

/-- What the command is asked to do; none if it cannot be made out. -/
def Request.read? (arguments : List String) : Option Request := do
  let settings ← readSettings? arguments
  let args ← Arguments.ofSettings? settings
  match noticeOf? settings with
  | some notice => return .tell notice
  | none => args.map .answer

end Command

end DotQuery
