import Unannotate.Run

/-!
The command line program.

The files that the arguments mention are loaded into a tree, the run is computed on it, and what the run
wrote is written back.
-/
set_option autoImplicit false

namespace Unannotate.Terminal

/-- The text of a place, from the top. -/
def textOf (place : Place) : String := "/" ++ Path.ofNames place

/-- Puts what stands at a place into a tree; the content of a file only when it is asked for. -/
def loadNode (tree : FileTree) (place : Place) (wanted : Bool) : IO FileTree := do
  let location := (← IO.currentDir) / textOf place
  if !(← location.pathExists) then return tree
  let stamp := (← location.metadata).modified
  let modified := (stamp.sec * 1000000000 + stamp.nsec.toNat).toNat
  if ← location.isDir then
    let tree := tree.insert place .directory
    return { tree with clock := max tree.clock (modified + 1), changes := (place, modified) :: tree.changes }
  let content ← if wanted then IO.FS.readBinFile location else pure .empty
  let tree := tree.insert place (.file content.toList modified)
  return { tree with clock := max tree.clock (modified + 1) }

/-- Everything below a directory. -/
partial def loadBelow (tree : FileTree) (place : Place) : IO FileTree := do
  if !tree.isDirectory place then return tree
  let mut tree := tree
  for entry in ← ((← IO.currentDir) / textOf place).readDir do
    let below := place ++ [entry.fileName]
    tree ← loadNode tree below (ArtifactKind.ofName? entry.fileName).isSome
    tree ← loadBelow tree below
  return tree

/-- What a path leads to, with everything on the way to it and below it. -/
def loadPath (tree : FileTree) (path : Path) : IO FileTree := do
  let mut tree := tree
  let mut place := tree.startOf path
  for piece in path.pieces do
    place := FileTree.step place piece
    if (tree.lookup? place).isNone then tree ← loadNode tree place true
  loadBelow tree place

/-- The tree that the paths of a run are followed in. -/
def loadTree (arguments : Arguments) : IO FileTree := do
  let base := (Path.mk (← IO.currentDir).toString).pieces.filter (!Path.isIdle ·)
  let ways := (List.range (base.length + 1)).map base.take
  let start : FileTree := { entries := ways.map fun place => (place, .directory), base }
  (arguments.config.toList ++ arguments.inputs ++ arguments.targetDir.toList).foldlM loadPath start

/-- Writes what is new in a tree. -/
def storeTree (before after : FileTree) : IO Unit := do
  for (place, node) in after.entries do
    if before.lookup? place ≠ some node then
      match node with
      | .directory => IO.FS.createDirAll (textOf place)
      | .file content _ => IO.FS.writeBinFile (textOf place) (ByteArray.mk content.toArray)

def usage : List String := [
  "Strip annotation references from JVM class files and JAR, WAR, EAR and ZIP archives.", "",
  "Usage: purgeannorefs [OPTIONS] --input <PATH>", "",
  "Options: --input <PATH>, --target-dir <DIR>, --overwrite, --config <FILE>, --name <ANNOTATION>,",
  "  --regexp <PATTERN>, --from <KIND>, --rewrite <FLAG>, --list, --quiet, --timing, --otel <URL>,",
  "  --help, --version"]

/-- What is told instead of a run, and the exit code. -/
def answer : UsageFault → IO UInt32
  | .help => do
    usage.forM IO.println
    return 0
  | .version => do
    IO.println "purgeannorefs 0.1.0"
    return 0
  | fault => do
    IO.eprintln ("error: " ++ fault.label)
    return 2

def perform (arguments : Arguments) : IO UInt32 := do
  let started ← IO.monoMsNow
  let before ← loadTree arguments
  let (after, work) := arguments.run before
  storeTree before after
  for event in work.journal.events do
    if event.isShown arguments.quiet then IO.eprintln event.record
  match work.outcome with
  | .error failure =>
    IO.eprintln ("Error: " ++ failure.message)
    return 1
  | .ok report =>
    report.output.forM IO.println
    (report.closing ((← IO.monoMsNow) - started)).forM IO.eprintln
    return 0

end Unannotate.Terminal

def main (arguments : List String) : IO UInt32 :=
  match Unannotate.Arguments.parse arguments with
  | .error fault => Unannotate.Terminal.answer fault
  | .ok arguments => Unannotate.Terminal.perform arguments
