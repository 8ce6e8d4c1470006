import GpuDiscovery.Text.Split

/-!
# Runtime files

Drivers ask for files of theirs to be made available inside virtual machines: a file in the driver
store, and the name it is to have. A driver that gives no name means the file's own name, which is
what follows the last separator of its path.
-/

namespace GpuDiscovery

/-- A file of a driver and the name under which it is provided. -/
structure RuntimeFile where
  sourcePath : String
  destinationName : String
  deriving DecidableEq, Repr

/-- The two lists of runtime files: those of the native word size and those for 32-bit programs. -/
inductive RuntimeFileList where
  | primary
  | wow64
  deriving DecidableEq, Repr

namespace RuntimeFile

/-- Both kinds of slash separate the parts of a path. -/
def isPathSeparator (c : Char) : Bool :=
  c = '\\' || c = '/'

/-- The file name at the end of a path; a path that ends in a separator has an empty one. -/
def fileName (path : String) : String :=
  String.ofList (Text.afterLast isPathSeparator path.toList)

/-- A runtime file; an empty destination stands for the file name of the source. -/
def ofPaths (source destination : String) : RuntimeFile where
  sourcePath := source
  destinationName := if destination.isEmpty then fileName source else destination

/-- The runtime file that a list of strings declares. The first string is the source; the second
is the destination if it is the last one, and means nothing otherwise. -/
def ofStrings? : List String → Option RuntimeFile
  | [] => none
  | [source, destination] => some (ofPaths source destination)
  | source :: _ => some (ofPaths source "")

/-- How a runtime file is written. -/
def text (file : RuntimeFile) : String :=
  file.sourcePath ++ " => " ++ file.destinationName

@[simp] theorem sourcePath_ofPaths (source destination : String) :
    (ofPaths source destination).sourcePath = source := rfl

end RuntimeFile

example : (RuntimeFile.ofPaths "amd/x64\\amdocl64.dll" "").destinationName = "amdocl64.dll" := by
  decide

end GpuDiscovery
