import Unannotate.CommandLine.Arguments
import Unannotate.Configuration.File
import Unannotate.Files.FileTree

/-!
The settings of a run: rules and flags from the configuration file and from the command line.

The rules of the file come first, then the names, then the patterns. A flag holds when either place sets it.
-/
set_option autoImplicit false

namespace Unannotate.Arguments

/-- The configuration file that is asked for, and its rules. -/
def configurationFile (tree : FileTree) (arguments : Arguments) :
    Except Failure (ConfigurationFile × List Rule) :=
  match arguments.config with
  | none => .ok ({}, [])
  | some path => do
    let data ← match tree.read? path with
      | some data => pure data
      | none => throw ⟨[.reading path.text], .io⟩
    let file ← ConfigurationFile.load path.text data
    let rules ← whileDoing (.configuring path.text) file.toRules
    return (file, rules)

/-- The element kinds that names and patterns apply to, all of them unless some are given. -/
def targets (arguments : Arguments) : Except Failure Targets :=
  if arguments.kinds.isEmpty then .ok .all
  else (Targets.ofNames arguments.kinds).mapError fun fault =>
    .ofCause (.configuration (.targets fault))

/-- The configuration of a run, and whether it overwrites destinations that are up to date. -/
def configuration (tree : FileTree) (arguments : Arguments) :
    Except Failure (Configuration × Bool) := do
  let (file, rules) ← configurationFile tree arguments
  let targets ← arguments.targets
  let names := arguments.names.map fun name => (⟨targets, .literal name⟩ : Rule)
  let patterns ← arguments.patterns.mapM fun text => do
    return (⟨targets, ← Matcher.ofPattern text⟩ : Rule)
  let configuration ← Configuration.build (rules ++ names ++ patterns)
    (.ofList (file.flags ++ arguments.flags))
  return (configuration, arguments.overwrite || file.overwrite)

end Unannotate.Arguments
