import Formulary.Files.Device
import Formulary.Pdf.Document
import Formulary.Table
import Formulary.Text.Search
import Formulary.Text.Utf8

/-!
A tree of files and directories, and what the program does with it: it reads files, writes files,
makes directories. Some directories and devices stand in every tree. Paths are followed part by
part, as a system follows them. A path that starts with a slash goes down from the root of the
system, any other from the directory in which the program runs.
-/

namespace Formulary.Files

open Text

inductive Content where
  | octets (bytes : List UInt8)
  /-- A document, and the octets that it is written in. -/
  | document (document : Pdf.Document Number.Binary32) (bytes : List UInt8)
deriving DecidableEq, Repr

def Content.bytes : Content → List UInt8
  | octets bytes => bytes
  | document _ bytes => bytes

inductive Node where
  | file (content : Content)
  | directory
  | device (d : Device)
deriving DecidableEq, Repr

/-- Files and directories by path. The directory in which the program runs has the empty path, and
the root of the system the path of one empty part. -/
abbrev Tree := Table Node

/-- What stands in every system, whatever a tree says of it. -/
def standing : List (String × Node) :=
  ["/bin", "/boot", "/dev", "/dev/fd", "/dev/pts", "/dev/shm", "/etc", "/home", "/lib", "/media",
    "/mnt", "/opt", "/proc", "/root", "/run", "/sbin", "/srv", "/sys", "/tmp", "/usr", "/usr/bin",
    "/usr/lib", "/usr/local", "/usr/local/bin", "/usr/sbin", "/usr/share", "/var", "/var/lib",
    "/var/log", "/var/tmp"].map (fun path => (path, Node.directory)) ++
  [("/dev/null", .device .null), ("/dev/full", .device .full), ("/dev/tty", .device .terminal),
    ("/dev/stdin", .device .input), ("/dev/stdout", .device .output),
    ("/dev/stderr", .device .notes), ("/dev/fd/0", .device .input),
    ("/dev/fd/1", .device .output), ("/dev/fd/2", .device .notes)]

/-- Where a path leads. -/
inductive Place where
  | present (path : List String) (node : Node)
  /-- Nothing is there, but the directory it would be in. -/
  | absent (path : List String)
deriving DecidableEq, Repr

def parts (path : String) : List String := (cutAt '/' path.toList).map String.ofList

def joined (path : List String) : String := "/".intercalate path

/-- Whether a part of a path leaves one where one is. -/
def isFiller (part : String) : Bool := part == "" || part == "."

/-- The parts of a path before its last one, and that one; slashes at the end are no part of it. -/
def lastPart? (path : String) : Option (List String × String) :=
  match (parts path).reverse.dropWhile (· == "") with
  | [] => none
  | part :: before => some (before.reverse, part)

/-- The paths that parts lead over, from the longest; the parts are given from the last. -/
def pathsOver : List String → List String
  | [] => []
  | part :: before =>
    if isFiller part then pathsOver before
    else joined (part :: before).reverse :: pathsOver before

/-- The paths above the last part of a path that leads anywhere, from the nearest. -/
def pathsAbove (path : String) : List String :=
  pathsOver (((parts path).reverse.dropWhile isFiller).drop 1)

/-- The longest name of a file or directory, in octets. -/
def longestName : Nat := 255

def longestPath : Nat := 4095

def checkPath (path : String) : Except FileFault Unit :=
  if '\x00' ∈ path.toList then .error .invalidArgument
  else if path.isEmpty then .error .notFound
  else if longestPath < path.utf8ByteSize then .error .nameTooLong
  else .ok ()

namespace Tree

/-- Whether a path of plain parts is known to lead to a directory: the root, the directory in which
the program runs, and those that this one is in. -/
def isGiven (path : List String) : Bool := path == [""] || path.all (· == "..")

/-- What stands at a path of plain parts. -/
def at? (t : Tree) (path : List String) : Option Node :=
  if isGiven path then some .directory
  else findEntry (joined path) standing <|> t.get? (joined path)

/-- The directory that a directory is in. The root is in itself. -/
def above (path : List String) : List String :=
  if path == [""] then path else if isGiven path then path ++ [".."] else path.dropLast

/-- Where a path starts. -/
def origin (path : String) : List String := if path.startsWith "/" then [""] else []

/-- Follows a path from a directory. -/
def walk (t : Tree) (here : List String) : List String → Except FileFault Place
  | [] => .ok (.present here .directory)
  | part :: rest =>
    if isFiller part then walk t here rest
    else if part = ".." then walk t (above here) rest
    else if longestName < part.utf8ByteSize then .error .nameTooLong
    else
      let next := here ++ [part]
      match t.at? next with
      | some .directory => walk t next rest
      | some node => if rest.isEmpty then .ok (.present next node) else .error .notADirectory
      | none => if rest.isEmpty then .ok (.absent next) else .error .notFound

def enter (t : Tree) (here : List String) (path : List String) : Except FileFault (List String) := do
  match ← t.walk here path with
  | .present place .directory => pure place
  | .present _ _ => throw .notADirectory
  | .absent _ => throw .notFound

def locate (t : Tree) (path : String) : Except FileFault Place := do
  checkPath path
  t.walk (origin path) (parts path)

def isDirectory (t : Tree) (path : String) : Bool :=
  match t.locate path with
  | .ok (.present _ .directory) => true
  | _ => false

def isFile (t : Tree) (path : String) : Bool :=
  match t.locate path with
  | .ok (.present _ (.file _)) => true
  | _ => false

def device? (t : Tree) (path : String) : Option Device :=
  match t.locate path with
  | .ok (.present _ (.device d)) => some d
  | _ => none

def read (t : Tree) (path : String) : Except FileFault Content := do
  match ← t.locate path with
  | .present _ (.file content) => pure content
  | .present _ .directory => throw .isADirectory
  | .present _ (.device d) => d.openFault?.elim (pure (.octets [])) throw
  | .absent _ => throw .notFound

def readText (t : Tree) (path : String) : Except FileFault String := do
  let content ← t.read path
  match ofUtf8 content.bytes with
  | .ok s => pure s
  | .error _ => throw .notText

/-- Where a file is written. A path with a slash at its end is none of a file, even where nothing is
there yet. -/
def locateForWriting (t : Tree) (path : String) : Except FileFault (List String) := do
  checkPath path
  if path.endsWith "/" then
    let _ ← (lastPart? path).mapM fun (before, _) => t.enter (origin path) before
    throw .isADirectory
  match ← t.walk (origin path) (parts path) with
  | .present _ .directory => throw .isADirectory
  | .present place _ => pure place
  | .absent place => pure place

/-- Writes a file, in place of the one that is there. A device stays what it is. -/
def write (t : Tree) (path : String) (content : Content) : Except FileFault Tree := do
  match t.device? path with
  | some d => (d.writeFault? content.bytes).elim (pure t) throw
  | none => do
    let place ← t.locateForWriting path
    pure (t.set (joined place) (.file content))

def makeDirectory (t : Tree) (path : String) : Except FileFault Tree := do
  checkPath path
  match lastPart? path with
  | none => throw .exists
  | some (before, part) =>
    let here ← t.enter (origin path) before
    if isFiller part ∨ part = ".." then throw .exists
    if longestName < part.utf8ByteSize then throw .nameTooLong
    if (t.at? (here ++ [part])).isSome then throw .exists
    pure (t.set (joined (here ++ [part])) .directory)

/-- A directory made at a path, where none is there. -/
def withDirectory (t : Tree) (path : String) : Except FileFault Tree :=
  match t.makeDirectory path with
  | .ok t => .ok t
  | .error fault => if t.isDirectory path then .ok t else .error fault

/-- Makes the first directory of some paths, and where the directory that it would be in is not
there, the others before it. -/
def makeFirst (t : Tree) : List String → Except FileFault Tree
  | [] => .ok t
  | path :: above =>
    match t.makeDirectory path with
    | .error .notFound => do
      let t ← t.makeFirst above
      t.withDirectory path
    | _ => t.withDirectory path

/-- Makes a directory, and those it is in, where they are not there. The directories above are told
by the names in the path alone, so that `.` at its end asks for a directory of the name before it to
be there. -/
def makeDirectories (t : Tree) (path : String) : Except FileFault Tree :=
  if path.isEmpty then .ok t else t.makeFirst (path :: pathsAbove path)

/-- A tree with a node where parts lead from a directory, and the directories that they pass. -/
def plantFrom (t : Tree) (node : Node) (here : List String) : List String → Tree
  | [] => t
  | part :: rest =>
    if isFiller part then plantFrom t node here rest
    else if part = ".." then plantFrom t node (above here) rest
    else
      let next := here ++ [part]
      if rest.all isFiller then t.set (joined next) node
      else
        let t := if (t.at? next).isSome then t else t.set (joined next) .directory
        plantFrom t node next rest

/-- A tree with a node at a path, and the directories that the path passes. -/
def plant (t : Tree) (path : String) (node : Node) : Tree :=
  t.plantFrom node (origin path) (parts path)

end Tree

/-- The last part of a path that names something; nothing where the path ends above its start. -/
def fileName (path : String) : String :=
  match ((parts path).filter fun part => part != "" && part != ".").getLast? with
  | some ".." => ""
  | some name => name
  | none => ""

/-- The extension of the name at the end of a path: what stands behind its last dot, if there is a
name before the dot and anything behind it. -/
def extension? (path : String) : Option String :=
  match (cutAt '.' (fileName path).toList).reverse with
  | extension :: before =>
    if extension.isEmpty || before.isEmpty || before == [[]] then none
    else some (String.ofList extension)
  | [] => none

def inDirectory (directory name : String) : String :=
  if name.startsWith "/" ∨ directory.isEmpty then name
  else if directory.endsWith "/" then directory ++ name
  else directory ++ "/" ++ name

end Formulary.Files
