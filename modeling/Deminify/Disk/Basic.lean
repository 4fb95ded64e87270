import Deminify.Failure

/-!
# The disk

Directories and files by their paths. A path is followed part by part, and every part but the last
has to be a directory: the causes of failure are those that a system has, and which of them arises is
decided by the first part that stands in the way.

* `Deminify.Disk`, `Deminify.Disk.find?` – what stands at a path;
* `Deminify.Disk.read`, `Deminify.Disk.write`, `Deminify.Disk.append` – files;
* `Deminify.Disk.makeDirectories` – **a directory with all that it stands in**;
* `Deminify.Disk.below` – what a directory holds, at any depth and in order.
-/

namespace Deminify

/-!
## Paths

A path is a list of parts, from the root of the disk or from the current directory. Empty parts and
single points say nothing and are left out; two points are kept, and so are two slashes at the start
when no third follows them.

* `Deminify.Path`, `Deminify.Path.ofText`, `Deminify.Path.text`;
* `Deminify.Path.name`, `Deminify.Path.suffix`, `Deminify.Path.parent`, `Deminify.Path.join`;
* `Deminify.Path.resolved` – **the path with its double points followed**.
-/

/-- A path on the disk. -/
structure Path where
  absolute : Bool := false
  parts : List String := []
  doubled : Bool := false
  deriving DecidableEq, Repr, Inhabited

namespace Path

/-- The path that a text denotes. -/
def ofText (s : String) : Path where
  absolute := s.startsWith "/"
  parts := (s.splitOn "/").filter fun part => !part.isEmpty && part != "."
  doubled := s.startsWith "//" && !s.startsWith "///"

/-- Whether a text asks for a directory, by a slash at its end or a point behind one. -/
def asksDirectory (s : String) : Bool := s.endsWith "/" || s.endsWith "/."

/-- The text of a path; the current directory is a point. -/
def text (p : Path) : String :=
  let parts := String.intercalate "/" p.parts
  if p.doubled then "//" ++ parts
  else if p.absolute then "/" ++ parts
  else if p.parts.isEmpty then "." else parts

/-- The last part, empty if there is none. -/
def name (p : Path) : String := p.parts.getLast?.getD ""

/-- The end of the last part from its last point on; a point at either end of it starts no suffix. -/
def suffix (p : Path) : String :=
  let reversed := p.name.toList.reverse
  let behind := reversed.takeWhile (· != '.')
  let before := reversed.drop (behind.length + 1)
  if behind.isEmpty || before.isEmpty then "" else String.ofList ('.' :: behind.reverse)

/-- The path without its last part. -/
def parent (p : Path) : Path := { p with parts := p.parts.dropLast }

/-- The second path as seen from the first. -/
def join (p q : Path) : Path := if q.absolute then q else { p with parts := p.parts ++ q.parts }

/-- A path followed by one more part. -/
def child (p : Path) (name : String) : Path := { p with parts := p.parts ++ [name] }

/-- The path with one more part, a double point being followed. Above the current directory double
points are kept, and above the root there is nothing. -/
def step (p : Path) (part : String) : Path :=
  if part != ".." then p.child part
  else if p.parts.isEmpty || p.name == ".." then if p.absolute then p else p.child part
  else p.parent

/-- The path with its double points followed. -/
def resolved (p : Path) : Path := p.parts.foldl step { absolute := p.absolute }

end Path

/-- What stands at a path. -/
inductive Disk.Entry where
  | directory
  | file (octets : ByteArray)
  deriving Inhabited

/-- Directories and files by their paths, in which every double point is followed. The current
directory and the root are always there. -/
structure Disk where
  entries : List (Path × Disk.Entry) := []
  deriving Inhabited

namespace Disk

/-- What stands at a path whose double points are followed. -/
def entry? (d : Disk) (p : Path) : Option Entry :=
  if p.parts.isEmpty then some .directory else d.entries.lookup p

/-- Whether a directory stands at a path whose double points are followed. -/
def holdsDirectory (d : Disk) (p : Path) : Bool :=
  match d.entry? p with
  | some .directory => true
  | _ => false

/-- Sets what stands at a path whose double points are followed. -/
def put (d : Disk) (p : Path) (e : Entry) : Disk :=
  { d with entries := d.entries.filter (fun (q, _) => q != p) ++ [(p, e)] }

/-! ### Following paths -/

/-- The number of octets that a part of a path may have. -/
def longestPart : Nat := 255

/-- The number of octets that a path may have. -/
def longestPath : Nat := 4095

/-- Follows the parts of a path from a directory. What stands in the way is reported for the whole
path. -/
def follow (d : Disk) (whole : Path) : Path → List String → Except Failure Path
  | here, [] => .ok here
  | here, part :: rest =>
    if longestPart < part.utf8ByteSize then .error (.pathTooLong whole.text)
    else if rest.isEmpty then .ok (here.step part)
    else
      let here := here.step part
      match d.entry? here with
      | some .directory => d.follow whole here rest
      | some (.file _) => .error (.notDirectory whole.text)
      | none => .error (.noFile whole.text)

/-- The path with its double points followed, if all that it leads through are directories. -/
def reach (d : Disk) (p : Path) : Except Failure Path :=
  if p.parts.any (·.toList.contains '\x00') then .error .nullInPath
  else if longestPath < p.text.utf8ByteSize then .error (.pathTooLong p.text)
  else d.follow p { absolute := p.absolute } p.parts

/-- What stands at a path. -/
def find? (d : Disk) (p : Path) : Option Entry :=
  match d.reach p with
  | .ok q => d.entry? q
  | .error _ => none

/-- Whether something stands at a path. -/
def exists_ (d : Disk) (p : Path) : Bool := (d.find? p).isSome

/-- Whether a file stands at a path. -/
def isFile (d : Disk) (p : Path) : Bool :=
  match d.find? p with
  | some (.file _) => true
  | _ => false

/-- Whether a directory stands at a path. -/
def isDirectory (d : Disk) (p : Path) : Bool :=
  match d.find? p with
  | some .directory => true
  | _ => false

/-! ### Files -/

/-- The octets of a file. -/
def read (d : Disk) (p : Path) : Except Failure ByteArray := do
  match d.entry? (← d.reach p) with
  | some (.file octets) => return octets
  | some .directory => throw (.isDirectory p.text)
  | none => throw (.noFile p.text)

/-- The text of a file, its lines ending alike. -/
def readText (d : Disk) (p : Path) : Except Failure String := do
  match Text.Utf8.decode (← d.read p).toList with
  | .ok cs => return String.ofList (Text.unifyLines cs)
  | .error fault => throw (.undecodable fault)

/-- Writes a file. -/
def write (d : Disk) (p : Path) (octets : ByteArray) : Except Failure Disk := do
  let q ← d.reach p
  match d.entry? q with
  | some .directory => throw (.isDirectory p.text)
  | _ => return d.put q (.file octets)

/-- Writes a text as a file. -/
def writeText (d : Disk) (p : Path) (text : String) : Except Failure Disk := d.write p text.toUTF8

/-- Writes a text at the end of a file, which is made if need be. -/
def append (d : Disk) (p : Path) (text : String) : Except Failure Disk := do
  let q ← d.reach p
  match d.entry? q with
  | some .directory => throw (.isDirectory p.text)
  | some (.file octets) => return d.put q (.file (octets ++ text.toUTF8))
  | none => return d.put q (.file text.toUTF8)

/-! ### Directories -/

/-- Makes a directory in a directory that is there. -/
def makeDirectory (d : Disk) (p : Path) : Except Failure Disk := do
  let q ← d.reach p
  match d.entry? q with
  | some .directory => return d
  | some (.file _) => throw (.fileExists p.text)
  | none => return d.put q .directory

/-- Makes a directory and, as far as `fuel` goes, those that it stands in. -/
def makeDirectoriesFrom : Nat → Disk → Path → Except Failure Disk
  | 0, d, p => d.makeDirectory p
  | fuel + 1, d, p =>
    match d.makeDirectory p with
    | .error (.noFile _) => do
      let d ← makeDirectoriesFrom fuel d p.parent
      d.makeDirectory p
    | other => other

/-- Makes a directory and those that it stands in. -/
def makeDirectories (d : Disk) (p : Path) : Except Failure Disk :=
  makeDirectoriesFrom p.parts.length d p

/-- The parts by which paths lie below a directory, in order. -/
def below (d : Disk) (p : Path) : List (List String) :=
  match d.reach p with
  | .error _ => []
  | .ok q =>
    let found := d.entries.filterMap fun (r, _) =>
      if r.absolute == q.absolute && q.parts.isPrefixOf r.parts && r.parts.length > q.parts.length then
        some (r.parts.drop q.parts.length)
      else none
    found.mergeSort fun a b => !(b < a)

/-- Whether a directory holds nothing. -/
def isEmptyDirectory (d : Disk) (p : Path) : Bool := (d.below p).isEmpty

/-- All directories, in order. -/
def directories (d : Disk) : List Path :=
  let found := d.entries.filterMap fun (p, e) =>
    match e with
    | .directory => some p
    | .file _ => none
  found.mergeSort fun a b => !(b.parts < a.parts)

/-- The disk that holds a file, and all directories it stands in; or a directory, if no octets are
given. -/
def place (d : Disk) (p : Path) (octets : Option ByteArray) : Disk :=
  let above := (List.range p.parts.length).map fun n => { p with parts := p.parts.take n }
  let d := above.foldl (fun d q => if d.holdsDirectory q then d else d.put q .directory) d
  d.put p ((octets.map Entry.file).getD .directory)

end Disk

end Deminify
