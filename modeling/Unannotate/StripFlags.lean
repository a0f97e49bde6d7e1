/-!
Hints to drop attributes that have nothing to do with annotations.
-/
set_option autoImplicit false

namespace Unannotate

inductive StripFlag
  /-- Drop source file, method parameter, line number and local variable tables. -/
  | skipDebug
  /-- Drop method bodies. -/
  | skipCode
  /-- Drop stack map frames. -/
  | skipFrames
  /-- Accepted, but frames are always written as they were read. -/
  | expandFrames
  deriving DecidableEq, Repr

namespace StripFlag

def all : List StripFlag := [skipDebug, skipCode, skipFrames, expandFrames]

/-- Spelling in configuration files and on the command line. -/
def spelling : StripFlag → String
  | skipDebug => "skip-debug"
  | skipCode => "skip-code"
  | skipFrames => "skip-frames"
  | expandFrames => "expand-frames"

def ofSpelling? (text : String) : Option StripFlag := all.find? (·.spelling = text)

/-- Name in log records. -/
def label : StripFlag → String
  | skipDebug => "SkipDebug"
  | skipCode => "SkipCode"
  | skipFrames => "SkipFrames"
  | expandFrames => "ExpandFrames"

theorem ofSpelling?_spelling (flag : StripFlag) : ofSpelling? flag.spelling = some flag := by
  cases flag <;> decide

end StripFlag

structure StripFlags where
  skipDebug : Bool := false
  skipCode : Bool := false
  skipFrames : Bool := false
  expandFrames : Bool := false
  deriving DecidableEq, Repr

namespace StripFlags

def insert (flags : StripFlags) : StripFlag → StripFlags
  | .skipDebug => { flags with skipDebug := true }
  | .skipCode => { flags with skipCode := true }
  | .skipFrames => { flags with skipFrames := true }
  | .expandFrames => { flags with expandFrames := true }

def ofList (flags : List StripFlag) : StripFlags := flags.foldl insert {}

def contains (flags : StripFlags) : StripFlag → Bool
  | .skipDebug => flags.skipDebug
  | .skipCode => flags.skipCode
  | .skipFrames => flags.skipFrames
  | .expandFrames => flags.expandFrames

/-- Whether some flag changes the bytes that are written. -/
def stripsAttributes (flags : StripFlags) : Bool :=
  flags.skipDebug || flags.skipCode || flags.skipFrames

/-- Flags that are set but leave the bytes as they are. -/
def inert (flags : StripFlags) : List StripFlag :=
  if flags.expandFrames then [.expandFrames] else []

/-- All flags and their values, as a log record shows them. -/
def description (flags : StripFlags) : String :=
  s!"RewriteFlags \x7b skip_debug: {flags.skipDebug}, skip_code: {flags.skipCode}, " ++
    s!"skip_frames: {flags.skipFrames}, expand_frames: {flags.expandFrames} \x7d"

theorem contains_insert (flags : StripFlags) (added flag : StripFlag) :
    (flags.insert added).contains flag = (flag == added || flags.contains flag) := by
  cases added <;> cases flag <;> rfl

end StripFlags

end Unannotate
