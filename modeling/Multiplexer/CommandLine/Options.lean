import Multiplexer.CommandLine.SocketAddress

/-!
The command line of the server. An option takes its value from the same argument or from the next
one. A value that stands in an argument of its own is looked at only when the next option is met,
or at the end, so that an unknown argument behind it is found first.
-/

namespace Multiplexer

/-- What the command line asks for. -/
structure Options where
  bind : SocketAddress
  workers : Option Nat
  metricsAddress : Option SocketAddress
deriving DecidableEq

/-- The address to accept connections on where none is given. -/
def standardAddress : SocketAddress := .v4 [127, 0, 0, 1] 7878

def Options.standard : Options := ⟨standardAddress, none, none⟩

/-- Why a command line is not carried out. -/
inductive UsageError where
  /-- A value is not what its option takes. -/
  | invalidContent
  | unknownArgument
  /-- An option stands without its value. -/
  | missingValue
  /-- A switch stands with a value. -/
  | unexpectedValue
  /-- An option is given twice. -/
  | repeatedOption
  | helpWanted
  | versionWanted
deriving DecidableEq

def UsageError.message : UsageError → String
  | .invalidContent => "an option has a value that it does not take"
  | .unknownArgument => "an argument was not expected"
  | .missingValue => "an option has no value"
  | .unexpectedValue => "a switch takes no value"
  | .repeatedOption => "an option is given twice"
  | .helpWanted => "the usage is asked for"
  | .versionWanted => "the version is asked for"

/-- An option that takes a value. -/
inductive OptionName where
  | bind
  | workers
  | metricsAddress
deriving DecidableEq

/-- A name that may stand behind dashes. -/
inductive Flag where
  | option (name : OptionName)
  | help
  | version

def Flag.ofLong : String → Option Flag
  | "bind" => some (.option .bind)
  | "workers" => some (.option .workers)
  | "metrics-addr" => some (.option .metricsAddress)
  | "help" => some .help
  | "version" => some .version
  | _ => none

def Flag.ofShort : Char → Option Flag
  | 'b' => some (.option .bind)
  | 'w' => some (.option .workers)
  | 'h' => some .help
  | 'V' => some .version
  | _ => none

/-- A command line that has been read in part: what it asks for so far, the options given, and an
option whose value is still to come or to be looked at. -/
structure PartialOptions where
  options : Options
  given : List OptionName
  pending : Option (OptionName × Option String)

/-- Reads a count below `UInt64.size`, with or without a plus sign. -/
def readCount? (text : String) : Option Nat :=
  let cs := match text.toList with
    | '+' :: cs => cs
    | cs => cs
  match readBounded 10 UInt64.size cs with
  | some (n, []) => some n
  | _ => none

/-- Sets an option to a value. -/
def Options.set? (o : Options) (name : OptionName) (value : String) : Option Options :=
  match name with
  | .bind => (SocketAddress.parse? value).map fun address => { o with bind := address }
  | .workers => (readCount? value).map fun n => { o with workers := some n }
  | .metricsAddress =>
    (SocketAddress.parse? value).map fun address => { o with metricsAddress := some address }

/-- Takes an option with its value. -/
def PartialOptions.accept (p : PartialOptions) (name : OptionName) (value : Option String) :
    Except UsageError PartialOptions :=
  match value with
  | none => .error .missingValue
  | some value =>
    if name ∈ p.given then .error .repeatedOption
    else match p.options.set? name value with
      | some options => .ok { p with options, given := name :: p.given }
      | none => .error .invalidContent

/-- Takes the option that is pending. -/
def PartialOptions.resolve (p : PartialOptions) : Except UsageError PartialOptions :=
  match p.pending with
  | none => .ok p
  | some (name, value) => { p with pending := none }.accept name value

/-- Takes a flag, with the value that is attached to it if there is one. -/
def PartialOptions.takeFlag (p : PartialOptions) (flag : Flag) (attached : Option String) :
    Except UsageError PartialOptions :=
  match flag, attached with
  | .option name, some value => do (← p.resolve).accept name (some value)
  | .option name, none => do
    let p ← p.resolve
    .ok { p with pending := some (name, none) }
  | .help, none | .version, none => do
    discard p.resolve
    .error (match flag with
      | .help => .helpWanted
      | _ => .versionWanted)
  | .help, some _ | .version, some _ => .error .unexpectedValue

/-- Takes an argument with two dashes. -/
def PartialOptions.takeLong (p : PartialOptions) (cs : List Char) :
    Except UsageError PartialOptions :=
  let name := cs.takeWhile (· ≠ '=')
  let attached := match cs.dropWhile (· ≠ '=') with
    | [] => none
    | _ :: value => some (String.ofList value)
  match Flag.ofLong (String.ofList name) with
  | some flag => p.takeFlag flag attached
  | none => .error .unknownArgument

/-- Takes the first letter behind a single dash. What follows a letter with a value is that
value, with or without an equals sign. -/
def PartialOptions.takeShort (p : PartialOptions) : List Char → Except UsageError PartialOptions
  | [] => .ok p
  | c :: cs =>
    match Flag.ofShort c with
    | none => .error .unknownArgument
    | some (.option name) =>
      p.takeFlag (.option name) (match cs with
        | [] => none
        | '=' :: value => some (String.ofList value)
        | value => some (String.ofList value))
    | some flag => p.takeFlag flag none

/-- Takes an argument without dashes, which can only be the value of an option. -/
def PartialOptions.takeValue (p : PartialOptions) (arg : String) :
    Except UsageError PartialOptions :=
  match p.pending with
  | some (name, none) => .ok { p with pending := some (name, some arg) }
  | _ => .error .unknownArgument

/-- Takes one argument, other than the double dash. -/
def PartialOptions.take (p : PartialOptions) (arg : String) : Except UsageError PartialOptions :=
  match arg.toList with
  | '-' :: '-' :: cs => p.takeLong cs
  | '-' :: c :: cs => p.takeShort (c :: cs)
  | _ => p.takeValue arg

/-- Takes all arguments. Nothing may follow a double dash. -/
def PartialOptions.takeAll (p : PartialOptions) : List String → Except UsageError PartialOptions
  | [] => p.resolve
  | ["--"] => p.resolve
  | "--" :: _ => .error .unknownArgument
  | arg :: rest => do (← p.take arg).takeAll rest

/-- What a command line asks for. -/
def Options.parse (args : List String) : Except UsageError Options :=
  (PartialOptions.takeAll ⟨.standard, [], none⟩ args).map PartialOptions.options

/-- How the program is called. -/
def usageText : String :=
  "Stream-multiplexing echo server\n\n" ++
  "Options:\n" ++
  "  -b, --bind <ADDRESS>          Address to accept connections on\n" ++
  "  -w, --workers <COUNT>         Number of accept workers\n" ++
  "      --metrics-addr <ADDRESS>  Address to serve metrics on\n" ++
  "  -h, --help                    Print help\n" ++
  "  -V, --version                 Print version"

def versionText : String := "0.1.0"

end Multiplexer
