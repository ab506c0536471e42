import AuditReport.Config.Options
import AuditReport.Json.Reader
import AuditReport.Text.BaseName

/-!
# Files

A disk is a listing of directories and files. Places are told from the working directory, or from the
root when they begin with a slash. A path is followed component by component; what lies outside the
listing is not found, except for the root and the directories above the working directory.
-/
namespace AuditReport

inductive DiskNode where
  | directory
  | file (bytes : ByteArray)
  deriving Inhabited

/-- The nodes by the components of their paths. -/
structure Disk where
  nodes : List (List (List Char) × DiskNode)
  deriving Inhabited

namespace Disk

def empty : Disk := ⟨[]⟩

/-- The root, the working directory and what lies above that, which are there on every disk. -/
def isGiven (place : List (List Char)) : Bool :=
  place == [['/']] || place.all (· == ['.', '.'])

def at? (d : Disk) (place : List (List Char)) : Option DiskNode :=
  if isGiven place then some .directory
  else (d.nodes.find? fun n => n.1 == place).map (·.2)

def isAbsolute (path : String) : Bool :=
  path.toList.head? == some '/'

/-- A path with a null character can be used for nothing. -/
def isUsable (path : String) : Bool :=
  !path.toList.contains (Char.ofNat 0)

/-- The components of a path that count, as they are followed from its origin. -/
def components (path : String) : List (List Char) :=
  Text.pathComponents path.toList

/-- The place that a path is followed from. -/
def origin (path : String) : List (List Char) :=
  if isAbsolute path then [['/']] else []

/-- The slashes at the front of a path that count: two if there are just two, else at most one. -/
def leadingSlashes (path : String) : List Char :=
  match path.toList.takeWhile (· == '/') with
  | ['/', '/'] => ['/', '/']
  | slashes => slashes.take 1

/-- The text of a path with these slashes at its front and these components. -/
def pathText (slashes : List Char) (components : List (List Char)) : String :=
  let cs := slashes ++ Text.joinWith '/' components
  if cs.isEmpty then "." else String.ofList cs

/-- The path in its usual form: without empty components and single dots. -/
def usualPath (path : String) : String :=
  pathText (leadingSlashes path) (components path)

def parentPath (path : String) : String :=
  pathText (leadingSlashes path) (components path).dropLast

def childPath (directory name : String) : String :=
  usualPath (usualPath directory ++ "/" ++ name)

/-- The place of a component seen from a directory. Two dots lead up, from the working directory out
of it, and from the root nowhere. -/
def step (place : List (List Char)) (c : List Char) : List (List Char) :=
  if c = ['.', '.'] then
    if place = [['/']] then place
    else if place.getLast? = none || place.getLast? = some ['.', '.'] then place ++ [c]
    else place.dropLast
  else place ++ [c]

def maxComponentBytes : Nat := 255

def maxPathBytes : Nat := 4095

/-- The place that components lead to from a directory. The last component need not exist. -/
def follow (d : Disk) (place : List (List Char)) :
    List (List Char) → Except PathFlaw (List (List Char))
  | [] => .ok place
  | c :: cs =>
    match d.at? place with
    | none => .error .notFound
    | some (.file _) => .error .notDirectory
    | some .directory =>
      if maxComponentBytes < (String.ofList c).utf8ByteSize then .error .nameTooLong
      else follow d (step place c) cs

def locate (d : Disk) (path : String) : Except PathFlaw (List (List Char)) :=
  if maxPathBytes < (usualPath path).utf8ByteSize then .error .nameTooLong
  else d.follow (origin path) (components path)

def read (d : Disk) (path : String) : Except PathFlaw ByteArray := do
  match d.at? (← d.locate path) with
  | none => .error .notFound
  | some .directory => .error .isDirectory
  | some (.file bytes) => return bytes

def put (d : Disk) (place : List (List Char)) (n : DiskNode) : Disk :=
  ⟨(place, n) :: d.nodes.filter fun m => m.1 != place⟩

/-- The disk with a directory at every place on the way to a place. -/
def putParents (d : Disk) (place : List (List Char)) : Disk :=
  (List.range place.length).foldl
    (fun d k => if (d.at? (place.take k)).isSome then d else d.put (place.take k) .directory) d

/-- The disk with a file or directory at a path, and with the directories that lead to it. -/
def install (d : Disk) (path : String) (n : DiskNode) : Disk :=
  let place := (components path).foldl step (origin path)
  (d.putParents place).put place n

/-- Writes a file into a directory that exists. -/
def write (d : Disk) (path : String) (bytes : ByteArray) : Except PathFlaw Disk := do
  let place ← d.locate path
  match d.at? place with
  | some .directory => .error .isDirectory
  | _ =>
    match d.at? place.dropLast with
    | none => .error .notFound
    | some (.file _) => .error .notDirectory
    | some .directory => return d.put place (.file bytes)

/-- Reads a text as a document; a text with an oversized integer or values that lie too deep is none
of either kind. A document has to be whole. -/
def parse (maxDepth : Nat) (malformed : Fault) (s : String) : Except Fault Json :=
  match Json.read maxDepth s with
  | .ok v => if Json.isWhole s then .ok v else .error (.defect .loneSurrogate)
  | .error .malformed => .error malformed
  | .error (.integerTooLong _) => .error (.defect .oversizedInteger)
  | .error .tooDeep => .error (.defect .tooDeep)

def readJson (maxDepth : Nat) (d : Disk) (path : String) : Except Fault Json :=
  match d.read path with
  | .error flaw => .error (.command (.unreadable (usualPath path) flaw))
  | .ok bytes =>
    match String.fromUTF8? bytes with
    | none => .error (.defect .notUtf8)
    | some s => parse maxDepth (.command (.notJson (usualPath path))) s

def projectFile : String := "swclint.json"

/-- The options in what is read as a document. No document and no object counts as one without options. -/
def optionsOf : Except Json.ReadFlaw Json → Except Fault Json.Fields
  | .ok (.obj fs) => .ok fs
  | .error (.integerTooLong _) => .error (.defect .oversizedInteger)
  | .error .tooDeep => .error (.defect .tooDeep)
  | _ => .ok []

/-- The options of the project in a directory, none if its file cannot be read. -/
def projectOptions (maxDepth : Nat) (d : Disk) (root : String) : Except Fault Json.Fields :=
  if !isUsable root then .error (.defect .nullInPath)
  else
    match d.read (childPath root projectFile) with
    | .error _ => .ok []
    | .ok bytes =>
      match String.fromUTF8? bytes with
      | none => .error (.defect .notUtf8)
      | some s => optionsOf (Json.read maxDepth s)

/-- Whether no text in the file at a path has half of a surrogate pair. -/
def isWhole (d : Disk) (path : String) : Bool :=
  match d.read path with
  | .error _ => true
  | .ok bytes => (String.fromUTF8? bytes).all Json.isWhole

/-- The options of the project as a run takes them: they have to be whole. -/
def wholeOptions (maxDepth : Nat) (d : Disk) (root : String) : Except Fault Json.Fields := do
  let fs ← d.projectOptions maxDepth root
  if fs.isEmpty || d.isWhole (childPath root projectFile) then return fs
  else .error (.defect .loneSurrogate)

end Disk
end AuditReport
