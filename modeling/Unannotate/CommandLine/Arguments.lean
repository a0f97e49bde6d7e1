import Unannotate.CommandLine.Fault
import Unannotate.Files.Path
import Unannotate.StripFlags

/-!
Command line arguments.

Arguments are taken from left to right. An option has its value attached behind an equals sign or in the
next argument. A value in the next argument is checked only when the next option is reached or the
arguments end, so an argument that is not known is reported before it.
-/
set_option autoImplicit false

namespace Unannotate

structure Arguments where
  inputs : List Path := []
  targetDir : Option Path := none
  overwrite : Bool := false
  config : Option Path := none
  names : List String := []
  patterns : List String := []
  /-- Element kinds that names and patterns apply to. -/
  kinds : List String := []
  flags : List StripFlag := []
  list : Bool := false
  quiet : Bool := false
  timing : Bool := false
  otel : Option String := none
  deriving DecidableEq, Repr

/-! ## Options -/

inductive ValueOption
  | input
  | targetDir
  | config
  | name
  | regexp
  | from
  | strip
  | otel
  deriving DecidableEq, Repr

inductive Switch
  | overwrite
  | list
  | quiet
  | timing
  | help
  | version
  deriving DecidableEq, Repr

inductive CommandOption
  | value (option : ValueOption)
  | switch (switch : Switch)
  deriving DecidableEq, Repr

def CommandOption.ofLongName? : String → Option CommandOption
  | "input" => some (.value .input)
  | "target-dir" => some (.value .targetDir)
  | "config" => some (.value .config)
  | "name" => some (.value .name)
  | "regexp" => some (.value .regexp)
  | "from" => some (.value .from)
  | "rewrite" => some (.value .strip)
  | "otel" => some (.value .otel)
  | "overwrite" => some (.switch .overwrite)
  | "list" => some (.switch .list)
  | "quiet" => some (.switch .quiet)
  | "timing" => some (.switch .timing)
  | "help" => some (.switch .help)
  | "version" => some (.switch .version)
  | _ => none

def Switch.ofShortName? : Char → Option Switch
  | 'h' => some .help
  | 'V' => some .version
  | _ => none

namespace Arguments

/-- A path value is not empty. -/
def path (value : String) : Except UsageFault Path :=
  if value = "" then .error .invalidValue else .ok ⟨value⟩

/-- The value of an option that is given at most once. -/
def once {α : Type} (before : Option α) (value : Except UsageFault α) :
    Except UsageFault (Option α) :=
  match before with
  | some _ => .error .argumentConflict
  | none => value.map some

def setValue (arguments : Arguments) (option : ValueOption) (value : String) :
    Except UsageFault Arguments :=
  match option with
  | .input => do return { arguments with inputs := arguments.inputs ++ [← path value] }
  | .targetDir => do return { arguments with targetDir := ← once arguments.targetDir (path value) }
  | .config => do return { arguments with config := ← once arguments.config (path value) }
  | .name => .ok { arguments with names := arguments.names ++ [value] }
  | .regexp => .ok { arguments with patterns := arguments.patterns ++ [value] }
  | .from => .ok { arguments with kinds := arguments.kinds ++ [value] }
  | .strip =>
    match StripFlag.ofSpelling? value with
    | some flag => .ok { arguments with flags := arguments.flags ++ [flag] }
    | none => .error .invalidValue
  | .otel => do return { arguments with otel := ← once arguments.otel (.ok value) }

def setSwitch (arguments : Arguments) : Switch → Except UsageFault Arguments
  | .overwrite =>
    if arguments.overwrite then .error .argumentConflict
    else .ok { arguments with overwrite := true }
  | .list => if arguments.list then .error .argumentConflict else .ok { arguments with list := true }
  | .quiet => if arguments.quiet then .error .argumentConflict else .ok { arguments with quiet := true }
  | .timing =>
    if arguments.timing then .error .argumentConflict else .ok { arguments with timing := true }
  | .help => .error .help
  | .version => .error .version

/-! ## Taking arguments -/

/-- An option that stands without an attached value. -/
structure Pending where
  option : ValueOption
  value : Option String := none

/-- What was taken so far. -/
structure State where
  arguments : Arguments := {}
  pending : Option Pending := none

/-- Gives the pending option its value. -/
def State.settle (state : State) : Except UsageFault Arguments :=
  match state.pending with
  | none => .ok state.arguments
  | some ⟨_, none⟩ => .error .invalidValue
  | some ⟨option, some value⟩ => state.arguments.setValue option value

def State.takeSwitch (state : State) (switch : Switch) : Except UsageFault State := do
  let arguments ← state.settle
  return ⟨← arguments.setSwitch switch, none⟩

/-- The name of an option, and what is attached behind the first equals sign. -/
def splitLong (text : List Char) : String × Option String :=
  let name := text.takeWhile (· ≠ '=')
  match text.drop name.length with
  | [] => (String.ofList name, none)
  | _ :: value => (String.ofList name, some (String.ofList value))

def State.takeLong (state : State) (text : List Char) : Except UsageFault State :=
  let (name, attached) := splitLong text
  match CommandOption.ofLongName? name, attached with
  | none, _ => .error .unknownArgument
  | some (.switch _), some _ => .error .tooManyValues
  | some (.switch switch), none => state.takeSwitch switch
  | some (.value option), some value => do
    let arguments ← state.settle
    return ⟨← arguments.setValue option value, none⟩
  | some (.value option), none => do
    let arguments ← state.settle
    return ⟨arguments, some ⟨option, none⟩⟩

/-- Short options may share one dash. -/
def State.takeShort (state : State) : List Char → Except UsageFault State
  | [] => .ok state
  | name :: rest =>
    match Switch.ofShortName? name with
    | none => .error .unknownArgument
    | some switch => do
      let state ← state.takeSwitch switch
      state.takeShort rest

/-- An argument that is no option has to be the value that an option waits for. -/
def State.takeValue (state : State) (text : String) : Except UsageFault State :=
  match state.pending with
  | some ⟨option, none⟩ => .ok { state with pending := some ⟨option, some text⟩ }
  | _ => .error .unknownArgument

def State.take (state : State) (argument : String) : Except UsageFault State :=
  match argument.toList with
  | '-' :: '-' :: rest => state.takeLong rest
  | '-' :: short :: rest => state.takeShort (short :: rest)
  | _ => state.takeValue argument

/-- Arguments up to the end; nothing may follow a double dash. -/
def takeAll : State → List String → Except UsageFault State
  | state, [] => .ok state
  | state, argument :: rest =>
    if argument = "--" then
      if rest.isEmpty then .ok state else .error .unknownArgument
    else do takeAll (← state.take argument) rest

def parse (arguments : List String) : Except UsageFault Arguments := do
  let state ← takeAll {} arguments
  let arguments ← state.settle
  if arguments.inputs.isEmpty then throw .missingRequiredArgument
  return arguments

end Arguments

end Unannotate
