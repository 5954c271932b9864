import TunnelRelay.Address

/-!
The command line of the relay.

An option has a short and a long name; its value follows an equals sign, or the short name itself,
or is the next argument. An option is taken in only when something else follows it, so an unknown
argument is reported rather than a bad value in front of it.
-/

namespace TunnelRelay

structure Options where
  config : Option String := none
  listen : Option SocketAddress := none
  verbose : Bool := false
  deriving DecidableEq, Repr

inductive UsageError where
  | invalidValue
  | valueValidation
  | unknownArgument
  | argumentConflict
  | tooManyValues
  | displayHelp
  | displayVersion
  deriving DecidableEq, Repr

/-- Asking for help is no failure. -/
def UsageError.exitCode : UsageError → Nat
  | displayHelp | displayVersion => 0
  | _ => 2

inductive Setting where
  | config
  | listen
  | verbose
  | help
  | version
  deriving DecidableEq, Repr

namespace Setting

def takesValue : Setting → Bool
  | config | listen => true
  | verbose | help | version => false

def ofShort? (char : Char) : Option Setting :=
  match char with
  | 'c' => some config
  | 'l' => some listen
  | 'v' => some verbose
  | 'h' => some help
  | 'V' => some version
  | _ => none

def ofLong? (name : String) : Option Setting :=
  match name with
  | "config" => some config
  | "listen" => some listen
  | "verbose" => some verbose
  | "help" => some help
  | "version" => some version
  | _ => none

end Setting

namespace Options

/-- Takes in an option. A missing value is noticed before a repetition, and a bad one after it. -/
def apply (options : Options) (setting : Setting) (value : Option String) :
    Except UsageError Options :=
  match setting, value with
  | .config, none | .listen, none => .error .invalidValue
  | .config, some path =>
    if options.config.isSome then .error .argumentConflict
    else if path = "" then .error .invalidValue
    else .ok { options with config := some path }
  | .listen, some text =>
    if options.listen.isSome then .error .argumentConflict
    else match SocketAddress.ofText? text with
      | some address => .ok { options with listen := some address }
      | none => .error .valueValidation
  | .verbose, _ =>
    if options.verbose then .error .argumentConflict else .ok { options with verbose := true }
  | .help, _ => .error .displayHelp
  | .version, _ => .error .displayVersion

structure Progress where
  options : Options := {}
  /-- An option that is not taken in yet, and its value if that has been read. -/
  pending : Option (Setting × Option String) := none

namespace Progress

def settle (progress : Progress) : Except UsageError Options :=
  match progress.pending with
  | none => .ok progress.options
  | some (setting, value) => progress.options.apply setting value

def use (progress : Progress) (setting : Setting) (value : Option String) :
    Except UsageError Progress := do
  return { options := ← (← progress.settle).apply setting value }

def await (progress : Progress) (setting : Setting) : Except UsageError Progress := do
  return { options := ← progress.settle, pending := some (setting, none) }

/-- Reads short names behind a hyphen. What follows one that takes a value is the value. -/
def readShort : List Char → Progress → Except UsageError Progress
  | [], progress => .ok progress
  | char :: rest, progress =>
    match Setting.ofShort? char with
    | none => .error .unknownArgument
    | some setting =>
      if setting.takesValue then
        match rest with
        | [] => progress.await setting
        | '=' :: value => progress.use setting (some (String.ofList value))
        | value => progress.use setting (some (String.ofList value))
      else do readShort rest (← progress.use setting none)

def readLong (argument : List Char) (progress : Progress) : Except UsageError Progress :=
  let (name, rest) := argument.span (· != '=')
  match Setting.ofLong? (String.ofList name), rest with
  | none, _ => .error .unknownArgument
  | some setting, [] =>
    if setting.takesValue then progress.await setting else progress.use setting none
  | some setting, _ :: value =>
    if setting.takesValue then progress.use setting (some (String.ofList value))
    else .error .tooManyValues

/-- Reads arguments up to the end. Nothing may follow two hyphens that stand alone. -/
def readAll (isClosed : Bool) : List String → Progress → Except UsageError Options
  | [], progress => progress.settle
  | argument :: rest, progress =>
    if isClosed then .error .unknownArgument
    else match argument.toList, progress.pending with
      | ['-', '-'], _ => readAll true rest progress
      | '-' :: '-' :: long, _ => do readAll false rest (← progress.readLong long)
      | '-' :: char :: short, _ => do readAll false rest (← readShort (char :: short) progress)
      | _, some (setting, none) =>
        readAll false rest { progress with pending := some (setting, some argument) }
      | _, _ => .error .unknownArgument

end Progress

def ofArguments (arguments : List String) : Except UsageError Options :=
  Progress.readAll false arguments {}

end Options

end TunnelRelay
