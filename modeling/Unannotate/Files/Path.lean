/-!
Paths as they were written.

A path keeps its text, which is what messages show. Two paths are compared by their components: repeated
and trailing separators do not count, and neither does a dot between or behind other components; a leading
dot and double dots do count.
-/
set_option autoImplicit false

namespace Unannotate

structure Path where
  text : String
  deriving DecidableEq, Repr

namespace Path

/-- What stands between separators, empty pieces included. -/
def pieces (path : Path) : List String := (path.text.toList.splitOn '/').map String.ofList

def isAbsolute (path : Path) : Bool := path.text.toList.head? == some '/'

/-- Whether a piece leaves a path where it is. -/
def isIdle (piece : String) : Bool := piece == "" || piece == "."

/-- The components; of an absolute path the first one is a separator. -/
def components (path : Path) : List String :=
  let lead := if path.isAbsolute then ["/"] else if path.pieces.head? = some "." then ["."] else []
  lead ++ path.pieces.filter (!isIdle ·)

/-- Whether two paths have the same components. -/
def same (first second : Path) : Bool := first.components == second.components

/-- A relative path behind a directory. -/
def join (directory : Path) (rest : String) : Path :=
  match directory.text.toList.getLast? with
  | none => ⟨rest⟩
  | some '/' => ⟨directory.text ++ rest⟩
  | some _ => ⟨directory.text ++ "/" ++ rest⟩

/-- The text of names below one another. -/
def ofNames (names : List String) : String := "/".intercalate names

/-- The last component, unless it only points to a directory. -/
def fileName? (path : Path) : Option String :=
  match path.components.getLast? with
  | none => none
  | some last => if last = "." ∨ last = ".." ∨ last = "/" then none else some last

/-- Pieces without idle ones at the end; a leading dot stays. -/
def trimEnd (pieces : List String) : List String :=
  match pieces with
  | [] => []
  | first :: rest => first :: (rest.reverse.dropWhile isIdle).reverse

/-- The path without its last component. -/
def parent (path : Path) : Path :=
  match trimEnd (trimEnd path.pieces).dropLast with
  | [""] => ⟨"/"⟩
  | pieces => ⟨ofNames pieces⟩

/-- The steps to the directory of the last component; none for a single component. -/
def parentSteps (path : Path) : List String := if path.parent.text = "" then [] else path.parent.pieces

/-- The names that lead from one path to another one below it. -/
def below? (base path : Path) : Option (List String) :=
  if base.components.isPrefixOf path.components then
    some (path.components.drop base.components.length)
  else none

end Path

end Unannotate
