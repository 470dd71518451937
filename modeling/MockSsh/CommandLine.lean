import MockSsh.Config.Document
import MockSsh.Server
import MockSsh.Toml.Document

/-!
The command line: which arguments there are, what they say, and what the program does with them. An
argument list is read from left to right. Help and version are shown as soon as they are met, and a
mistake before them wins over them. Flags win over the configuration file, which must be usable by
itself.
-/
namespace MockSsh.CommandLine

/-- The environment variable whose log filter wins over the one of the command line. -/
def logVariable : String := "RUST_LOG"

/-- An option that takes a value. -/
inductive Flag
  | config
  | listen
  | channelIds
  | unknownMessages
  | logLevel
deriving DecidableEq, Repr

namespace Flag

/-- Every flag, in the order of the help. -/
def all : List Flag := [config, listen, channelIds, unknownMessages, logLevel]

/-- The name after two dashes. -/
def long : Flag → String
  | config => "config"
  | listen => "listen"
  | channelIds => "channel-ids"
  | unknownMessages => "unknown-messages"
  | logLevel => "log-level"

/-- The letter after one dash. -/
def short? : Flag → Option Char
  | config => some 'c'
  | listen => some 'l'
  | _ => none

/-- What the help calls the value. -/
def valueName : Flag → String
  | config => "CONFIG"
  | listen => "LISTEN"
  | channelIds => "CHANNEL_IDS"
  | unknownMessages => "UNKNOWN_MESSAGES"
  | logLevel => "LOG_LEVEL"

/-- What the help says about the flag. -/
def about : Flag → String
  | config => "Path to a TOML configuration file"
  | listen => "Address to listen on"
  | channelIds => "Local channel id policy"
  | unknownMessages => "Handling of unsupported messages"
  | logLevel => "Log filter used when " ++ logVariable ++ " is not set"

/-- The values that the flag takes, with what the help says about each; none if it takes any. -/
def choices : Flag → List (String × String)
  | channelIds => ChannelPolicy.choices.map fun choice => (choice.flag, choice.help)
  | unknownMessages => UnsupportedPolicy.choices.map fun choice => (choice.flag, choice.help)
  | _ => []

/-- The value of a flag that is not given. -/
def default? : Flag → Option String
  | logLevel => some "info"
  | _ => none

end Flag

/-- What the arguments set. -/
structure Options where
  config : Option String
  listen : Option String
  channelPolicy : Option ChannelPolicy
  unsupportedPolicy : Option UnsupportedPolicy
  logLevel : Option String
deriving DecidableEq, Repr

/-- No argument at all. -/
def Options.empty : Options := ⟨none, none, none, none, none⟩

/-- A mistake in the arguments. -/
inductive UsageFault
  | unknownArgument (argument : String)
  | missingValue (flag : Flag)
  | invalidValue (flag : Flag) (value : String)
  | repeated (flag : Flag)
  | needlessValue (argument : String)
deriving DecidableEq, Repr

/-- The words for a mistake. -/
def UsageFault.message : UsageFault → String
  | unknownArgument argument => s!"unexpected argument '{argument}' found"
  | missingValue flag => s!"a value is required for '--{flag.long}' but none was supplied"
  | invalidValue flag value => s!"invalid value '{value}' for '--{flag.long}'"
  | repeated flag => s!"the argument '--{flag.long}' cannot be used multiple times"
  | needlessValue argument => s!"unexpected value for '{argument}' found"

/-- What the arguments ask for. -/
inductive Request
  | help (long : Bool)
  | version
  | serve (options : Options)
deriving DecidableEq, Repr

/-- Fills a place that may be filled once. -/
def once {α : Type} (flag : Flag) (place : Option α) (value : α) : Except UsageFault (Option α) :=
  match place with
  | some _ => .error (.repeated flag)
  | none => .ok (some value)

/-- A value that must be one of a few. -/
def choice {α : Type} (flag : Flag) (choices : List (Choice α)) (value : String) : Except UsageFault α :=
  match Choice.ofFlag? choices false value with
  | some found => .ok found
  | none => .error (.invalidValue flag value)

/-- Sets a flag. A path must not be empty. -/
def Options.set (options : Options) (flag : Flag) (value : String) :
    Except UsageFault Options :=
  match flag with
  | .config => do
    if value.isEmpty then throw (.missingValue flag) else
      return { options with config := ← once flag options.config value }
  | .listen => return { options with listen := ← once flag options.listen value }
  | .channelIds => do
    let policy ← choice flag ChannelPolicy.choices value
    return { options with channelPolicy := ← once flag options.channelPolicy policy }
  | .unknownMessages => do
    let policy ← choice flag UnsupportedPolicy.choices value
    return { options with unsupportedPolicy := ← once flag options.unsupportedPolicy policy }
  | .logLevel => return { options with logLevel := ← once flag options.logLevel value }

/-- How an argument is to be taken. -/
inductive Word
  | long (name : List Char) (value : Option (List Char))
  | short (letter : Char) (rest : List Char)
  | separator
  | value

/-- The two parts of a long argument: its name, and the value after an equals sign. -/
def longParts (cs : List Char) : List Char × Option (List Char) :=
  match cs.span (· != '=') with
  | (name, []) => (name, none)
  | (name, _ :: value) => (name, some value)

/-- How an argument is to be taken. A single dash is a value. -/
def Word.of (argument : String) : Word :=
  match argument.toList with
  | ['-', '-'] => .separator
  | '-' :: '-' :: rest => .long (longParts rest).1 (longParts rest).2
  | '-' :: letter :: rest => .short letter rest
  | _ => .value

/-- The value written right after a letter; an equals sign between them does not belong to it. -/
def attachedValue? : List Char → Option String
  | [] => none
  | '=' :: rest => some (String.ofList rest)
  | rest => some (String.ofList rest)

/-- Reads arguments, given what was set before and the flag whose value comes next, if one does. -/
def readArguments (options : Options) (awaiting : Option Flag) :
    List String → Except UsageFault Request
  | [] =>
    match awaiting with
    | none => .ok (.serve options)
    | some flag => .error (.missingValue flag)
  | argument :: rest =>
    match awaiting, Word.of argument with
    | some flag, .value => do readArguments (← options.set flag argument) none rest
    | some flag, _ => .error (.missingValue flag)
    | none, .value => .error (.unknownArgument argument)
    | none, .separator =>
      match rest with
      | [] => .ok (.serve options)
      | extra :: _ => .error (.unknownArgument extra)
    | none, .short letter attached =>
      if letter = 'h' then .ok (.help false)
      else if letter = 'V' then .ok .version
      else
        match Flag.all.find? (·.short? == some letter), attachedValue? attached with
        | none, _ => .error (.unknownArgument argument)
        | some flag, none => readArguments options (some flag) rest
        | some flag, some value => do readArguments (← options.set flag value) none rest
    | none, .long name attached =>
      match Flag.all.find? (·.long.toList == name), attached with
      | some flag, none => readArguments options (some flag) rest
      | some flag, some value => do
        readArguments (← options.set flag (String.ofList value)) none rest
      | none, value =>
        if name == "help".toList || name == "version".toList then
          if value.isSome then .error (.needlessValue argument)
          else if name == "help".toList then .ok (.help true)
          else .ok .version
        else
          .error (.unknownArgument argument)

/-- What an argument list asks for. -/
def parse (arguments : List String) : Except UsageFault Request :=
  readArguments .empty none arguments

/-! ## What the program shows -/

/-- The program's name and version. -/
def versionText : String := "mirage-server 0.1.0\n"

/-- The program in one line. -/
def about : String := "Mock SSH server for exercising SSH clients"

/-- An entry of the help: how the option is written, what it is for, its values and its default. -/
structure HelpEntry where
  usage : String
  about : String
  choices : List (String × String)
  default : Option String

/-- How an option is written, the names of all options below each other. -/
def usage (short : Option Char) (long : String) : String :=
  match short with
  | some letter => "  -" ++ String.singleton letter ++ ", --" ++ long
  | none => "      --" ++ long

/-- The entries of the help. -/
def helpEntries (long : Bool) : List HelpEntry :=
  Flag.all.map (fun flag =>
    ⟨usage flag.short? flag.long ++ " <" ++ flag.valueName ++ ">", flag.about, flag.choices,
      flag.default?⟩)
    ++ [⟨usage (some 'h') "help",
        if long then "Print help (see a summary with '-h')"
        else "Print help (see more with '--help')", [], none⟩,
      ⟨usage (some 'V') "version", "Print version", [], none⟩]

/-- The indentation of the text below an option. -/
def indent : String := "          "

/-- An entry of the short help: the text stands on one line. -/
def shortEntry (entry : HelpEntry) : String :=
  let values := if entry.choices.isEmpty then "" else
    " [possible values: " ++ String.intercalate ", " (entry.choices.map Prod.fst) ++ "]"
  let default := match entry.default with
    | some value => " [default: " ++ value ++ "]"
    | none => ""
  entry.usage ++ "\n" ++ indent ++ entry.about ++ values ++ default ++ "\n"

/-- The values of an option, one on a line, with what they mean below each other. -/
def choiceLines (choices : List (String × String)) : String :=
  let width := (choices.map fun choice => choice.1.length).foldl max 0
  String.join (choices.map fun choice =>
    "\n" ++ indent ++ "- " ++ choice.1 ++ ": "
      ++ String.ofList (List.replicate (width - choice.1.length) ' ') ++ choice.2)

/-- An entry of the long help: values and default have paragraphs of their own. -/
def longEntry (entry : HelpEntry) : String :=
  let values := if entry.choices.isEmpty then "" else
    "\n\n" ++ indent ++ "Possible values:" ++ choiceLines entry.choices
  let default := match entry.default with
    | some value => "\n" ++ indent ++ "\n" ++ indent ++ "[default: " ++ value ++ "]"
    | none => ""
  entry.usage ++ "\n" ++ indent ++ entry.about ++ default ++ values ++ "\n"

/-- The help, on a page or with all there is to say. -/
def helpText (long : Bool) : String :=
  let entries := if long then
      String.intercalate "\n" ((helpEntries true).map longEntry)
    else
      String.join ((helpEntries false).map shortEntry)
  about ++ "\n\nUsage: mirage-server [OPTIONS]\n\nOptions:\n" ++ entries

/-! ## What the program does -/

/-- The settings with the flags in place of what they set. -/
def Options.merge (options : Options) (config : Config) : Config :=
  { config with
    listenAddress := options.listen.getD config.listenAddress
    channelPolicy := options.channelPolicy.getD config.channelPolicy
    unsupportedPolicy := options.unsupportedPolicy.getD config.unsupportedPolicy }

/-- The settings that the options call for. `read` gives the text of a file, or why there is none, and
`parse` takes it apart. The settings of a file must be usable before the flags are put in their place. -/
def Options.settings (options : Options) (parse : String → Option Toml.Entries)
    (read : String → Except ReadFault String) : Except ConfigFault Config := do
  let config ← match options.config with
    | none => pure Config.default
    | some path => Config.load parse read path
  (options.merge config).validate

/-- What the program does: it leaves with a code, after showing something, or it serves. -/
inductive Outcome
  | leave (code : Nat) (shown complained : String)
  | serve (server : Server) (logLevel : String)
deriving DecidableEq, Repr

/-- What the program does for some options. -/
def Options.start (options : Options) (machine : Machine) : Outcome :=
  let server : Except Fault Server := match options.settings Toml.parse? machine.read with
    | .error fault => .error (.config fault)
    | .ok config => Server.bind machine config
  match server with
  | .error fault => .leave 1 "" ("Error: " ++ fault.diagnostic ++ "\n")
  | .ok server => .serve server (options.logLevel.getD (Flag.logLevel.default?.getD ""))

/-- What the program does for an argument list. -/
def run (arguments : List String) (machine : Machine) : Outcome :=
  match parse arguments with
  | .error fault => .leave 2 "" ("error: " ++ fault.message ++ "\n")
  | .ok (.help long) => .leave 0 (helpText long) ""
  | .ok .version => .leave 0 versionText ""
  | .ok (.serve options) => options.start machine

end MockSsh.CommandLine
