import CapabilityRegistry.Text.Pieces

/-!
# The command line

Arguments are read from left to right, and the first one that decides the outcome wins: an argument
that cannot be used, or one that asks for the version or for help. Main definition:
`CommandLine.parse`.
-/

namespace CapabilityRegistry.CommandLine

/-- Options that take a value. -/
inductive ValueOption where
  | config
  | registry
  | bindings
  | traversal
  | model
  | logLevel
  deriving DecidableEq, Repr

/-- Options without a value. -/
inductive Switch where
  | check
  | version
  | help
  deriving DecidableEq, Repr

/-- What the options set so far. -/
structure Settings where
  config : Option String := none
  registry : Option String := none
  bindings : Option String := none
  traversal : Option String := none
  model : Option String := none
  /-- The level of log lines. It has no effect on the outputs. -/
  logLevel : Option String := none
  check : Bool := false
  deriving DecidableEq, Repr

/-- What a command line asks for. -/
inductive Request where
  | run (settings : Settings)
  | showVersion
  | showHelp
  /-- Some argument cannot be used. -/
  | unusable
  deriving DecidableEq, Repr

/-- An option as it was written, with the value that is attached to it. -/
inductive Written where
  | valued (option : ValueOption) (attached : Option String)
  | switch (which : Switch)
  deriving DecidableEq, Repr

/-- The option with a long name that takes a value. -/
def ValueOption.ofLong? (name : String) : Option ValueOption :=
  [("config", config), ("registry", registry), ("module", bindings), ("header", traversal),
    ("model-json", model), ("log-level", logLevel)].lookup name

/-- The option with a short name that takes a value. -/
def ValueOption.ofShort? (name : Char) : Option ValueOption :=
  [('c', config), ('r', registry), ('l', logLevel)].lookup name

/-- The option with a long name that takes no value. -/
def Switch.ofLong? (name : String) : Option Switch :=
  [("check", check), ("version", version), ("help", help)].lookup name

/-- The option with a short name that takes no value. -/
def Switch.ofShort? (name : Char) : Option Switch :=
  [('V', version), ('h', help)].lookup name

/-- The option behind two hyphens. A value follows the first equals sign. -/
def long? (cs : List Char) : Option Written :=
  let name := String.ofList (cs.takeWhile (· ≠ '='))
  match cs.dropWhile (· ≠ '=') with
  | [] =>
    match ValueOption.ofLong? name with
    | some option => some (.valued option none)
    | none => (Switch.ofLong? name).map .switch
  | _ :: value => (ValueOption.ofLong? name).map fun option => .valued option (String.ofList value)

/-- The option behind one hyphen. What follows its letter is its value, perhaps behind an equals
sign. -/
def short? (letter : Char) (cs : List Char) : Option Written :=
  match ValueOption.ofShort? letter with
  | some option =>
    some (.valued option (match cs with
      | [] => none
      | '=' :: value => some (String.ofList value)
      | value => some (String.ofList value)))
  | none => (Switch.ofShort? letter).map .switch

/-- The option that an argument is. -/
def written? (argument : String) : Option Written :=
  match argument.toList with
  | '-' :: '-' :: cs => long? cs
  | '-' :: letter :: cs => short? letter cs
  | _ => none

/-- The argument may be the value of the option before it. -/
def isValue (argument : String) : Bool :=
  match argument.toList with
  | '-' :: _ :: _ => false
  | _ => true

/-- Sets a value that is not set. -/
def setOnce (held : Option String) (value : String) : Option (Option String) :=
  match held with
  | none => some (some value)
  | some _ => none

namespace Settings

/-- Sets the value of an option, which may not be set already. Only the level of log lines may be
empty. -/
def set? (settings : Settings) (option : ValueOption) (value : String) : Option Settings :=
  match option with
  | .logLevel => (setOnce settings.logLevel value).map fun logLevel => { settings with logLevel }
  | _ =>
    if value.isEmpty then none
    else
      match option with
      | .config => (setOnce settings.config value).map fun config => { settings with config }
      | .registry => (setOnce settings.registry value).map fun registry => { settings with registry }
      | .bindings => (setOnce settings.bindings value).map fun bindings => { settings with bindings }
      | .traversal =>
        (setOnce settings.traversal value).map fun traversal => { settings with traversal }
      | .model => (setOnce settings.model value).map fun model => { settings with model }
      | .logLevel => none

end Settings

/-- Reads arguments behind those that led to some settings. Two hyphens end the options, and nothing
but options can be used. -/
def parseFrom (settings : Settings) : List String → Request
  | [] => .run settings
  | argument :: rest =>
    if argument = "--" then
      if rest.isEmpty then .run settings else .unusable
    else
      match written? argument with
      | none => .unusable
      | some (.switch .version) => .showVersion
      | some (.switch .help) => .showHelp
      | some (.switch .check) =>
        if settings.check then .unusable else parseFrom { settings with check := true } rest
      | some (.valued option (some value)) =>
        match settings.set? option value with
        | some settings => parseFrom settings rest
        | none => .unusable
      | some (.valued option none) =>
        match rest with
        | [] => .unusable
        | value :: rest =>
          if isValue value then
            match settings.set? option value with
            | some settings => parseFrom settings rest
            | none => .unusable
          else .unusable

/-- What a command line asks for. -/
def parse (arguments : List String) : Request :=
  parseFrom {} arguments

/-- The line that tells the version. -/
def versionLine : String := "vkcaps 0.1.0"

/-- The lines that tell the options. -/
def helpLines : List String :=
  ["Usage: vkcaps [OPTIONS]", "",
    "  -c, --config <PATH>      configuration, vkcaps.toml by default",
    "  -r, --registry <PATH>    registry document",
    "      --module <PATH>      output path of the bindings",
    "      --header <PATH>      output path of the traversal header",
    "      --model-json <PATH>  output path of the model",
    "  -l, --log-level <LEVEL>  level of log lines",
    "      --check              run every stage and print a summary, write nothing",
    "  -h, --help               print the options",
    "  -V, --version            print the version"]

end CapabilityRegistry.CommandLine
