import GpuDiscovery.Filter

/-!
# Arguments of the probe

The probe takes options and no other arguments. An option with a value takes it from behind an
equals sign or from the next argument, unless that looks like an option; options without a value
take none. Every option may be given once. Arguments are read from left to right, and reading stops
at the first that is wrong or asks for help or the version, so what stands behind it is never
looked at. Two hyphens end the options, and nothing may follow them.
-/

namespace GpuDiscovery

/-- How the probe writes devices. -/
inductive OutputFormat where
  | text
  | json
  deriving DecidableEq, Repr

/-- The format with a given name, which has to be exact. -/
def OutputFormat.ofName? (name : String) : Option OutputFormat :=
  if name = "text" then some .text
  else if name = "json" then some .json
  else none

/-- The options given so far. -/
structure ProbeOptions where
  filter : Option CapabilityFilter
  excludeIntegrated : Bool
  excludeDetachable : Bool
  format : Option OutputFormat
  verbose : Bool
  deriving DecidableEq, Repr

/-- What the arguments ask for. -/
inductive ProbeRequest where
  /-- A discovery. -/
  | discover (options : ProbeOptions)
  /-- The text that explains the options. -/
  | help
  /-- The version. -/
  | version
  /-- Nothing: the arguments are wrong. -/
  | usageError (argument : String)
  deriving DecidableEq, Repr

namespace ProbeOptions

/-- No option is given. -/
def none : ProbeOptions where
  filter := .none
  excludeIntegrated := false
  excludeDetachable := false
  format := .none
  verbose := false

/-- An option that may be given once, with its value. -/
inductive Setting where
  | filter (name : String)
  | excludeIntegrated
  | excludeDetachable
  | format (name : String)
  | verbose

/-- Gives an option that was not given before and has an allowed value. -/
def give? (options : ProbeOptions) : Setting → Option ProbeOptions
  | .filter name =>
    if options.filter.isSome then .none
    else (CapabilityFilter.ofName? name).map fun filter => { options with filter := some filter }
  | .excludeIntegrated =>
    if options.excludeIntegrated then .none else some { options with excludeIntegrated := true }
  | .excludeDetachable =>
    if options.excludeDetachable then .none else some { options with excludeDetachable := true }
  | .format name =>
    if options.format.isSome then .none
    else (OutputFormat.ofName? name).map fun format => { options with format := some format }
  | .verbose =>
    if options.verbose then .none else some { options with verbose := true }

end ProbeOptions

/-- What a single argument is, seen by itself. -/
inductive ArgumentKind where
  /-- The end of the options. -/
  | terminator
  | help
  | version
  /-- An option that is complete. -/
  | setting (setting : ProbeOptions.Setting)
  /-- An option whose value is the next argument. -/
  | needsValue (setting : String → ProbeOptions.Setting)
  /-- Something that looks like an option and is none. -/
  | unknownOption
  /-- Anything else. -/
  | plain

/-- What follows a beginning, as a text. -/
def textAfter? (start argument : String) : Option String :=
  if start.toList.isPrefixOf argument.toList then
    some (String.ofList (argument.toList.drop start.length))
  else none

/-- What an argument is. A single hyphen is no option; of several letters behind one hyphen the
first decides, because none of them takes a value. -/
def argumentKind (argument : String) : ArgumentKind :=
  if argument = "--" then .terminator
  else if argument = "--help" then .help
  else if argument = "--version" then .version
  else if argument = "--filter" then .needsValue .filter
  else if argument = "--format" then .needsValue .format
  else if argument = "--exclude-integrated" then .setting .excludeIntegrated
  else if argument = "--exclude-detachable" then .setting .excludeDetachable
  else if argument = "--verbose" then .setting .verbose
  else match textAfter? "--filter=" argument with
    | some value => .setting (.filter value)
    | none => match textAfter? "--format=" argument with
      | some value => .setting (.format value)
      | none => match argument.toList with
        | '-' :: 'h' :: _ => .help
        | '-' :: 'V' :: _ => .version
        | '-' :: _ :: _ => .unknownOption
        | _ => .plain

/-- Reads arguments, after some that gave options. -/
def readArguments (options : ProbeOptions) : List String → ProbeRequest
  | [] => .discover options
  | argument :: rest =>
    match argumentKind argument, rest with
    | .terminator, [] => .discover options
    | .terminator, next :: _ => .usageError next
    | .help, _ => .help
    | .version, _ => .version
    | .setting setting, rest =>
      match options.give? setting with
      | some options => readArguments options rest
      | none => .usageError argument
    | .needsValue _, [] => .usageError argument
    | .needsValue setting, value :: rest =>
      match argumentKind value with
      -- What looks like an option is never taken for a value, not even the end of the options.
      | .plain =>
        match options.give? (setting value) with
        | some options => readArguments options rest
        | none => .usageError argument
      | _ => .usageError argument
    | .unknownOption, _ | .plain, _ => .usageError argument

/-- What the arguments of the probe ask for. -/
def ProbeRequest.ofArguments (arguments : List String) : ProbeRequest :=
  readArguments .none arguments

end GpuDiscovery
