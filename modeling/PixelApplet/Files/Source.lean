import PixelApplet.Files.Basic
import PixelApplet.Text.Search

/-!
# File sources

An applet is loaded from a file source: a collection in memory, or a directory of the disk.  Paths
that would leave the directory are treated as missing.
-/

/-! ## A directory tree

The files and directories that a program sees, and the directory in which it works.  A path is
followed segment by segment, as an operating system does: every segment but the last must name a
directory, and so must the last one when more than its name follows.
-/

namespace PixelApplet

/-- A file or a directory; the entries of a directory are in ascending order of their names. -/
inductive DiskNode where
  | file (contents : ByteArray)
  | directory (entries : List (String × DiskNode))

instance : Inhabited DiskNode :=
  ⟨.directory []⟩

namespace DiskNode

/-- Puts a node under a name among others in ascending order. -/
def putEntry (name : String) (node : DiskNode) : List (String × DiskNode) → List (String × DiskNode)
  | [] => [(name, node)]
  | (n, d) :: rest =>
    if name < n then (name, node) :: (n, d) :: rest
    else if name = n then (name, node) :: rest
    else (n, d) :: putEntry name node rest

/-- Puts a node at the end of a chain of names, making directories on the way. -/
def insert (parent : DiskNode) : List String → (node : DiskNode) → DiskNode
  | [], node => node
  | name :: names, node =>
    let entries := match parent with
      | directory entries => entries
      | file _ => []
    let child := (entries.lookup name).getD (directory [])
    directory (putEntry name (insert child names node) entries)

/-- The node at the end of a chain of names. -/
def descend? : List String → DiskNode → Option DiskNode
  | [], node => some node
  | name :: names, directory entries => (entries.lookup name).bind (descend? names)
  | _ :: _, file _ => none

/-- Whether a node is a directory. -/
def isDirectory : DiskNode → Bool
  | directory _ => true
  | file _ => false

end DiskNode

/-- All files and directories, and the names that lead from the root to the working directory. -/
structure Disk where
  root : DiskNode
  home : List String

namespace Disk

/-- A disk with an empty working directory at the end of a chain of names, and nothing else. -/
def under (home : List String) : Disk :=
  ⟨(DiskNode.directory []).insert home (.directory []), home⟩

/-- The names in a slash-separated path that has no special segments. -/
def names (path : String) : List String :=
  ((Text.pieces '/' path.toList).filter (· ≠ [])).map String.ofList

/-- Puts a node at the end of a chain of names that starts at the root. -/
def put (d : Disk) (trail : List String) (node : DiskNode) : Disk :=
  { d with root := d.root.insert trail node }

/-- Writes a file below the working directory, making the directories above it. -/
def writeFile (d : Disk) (path : String) (contents : ByteArray) : Disk :=
  d.put (d.home ++ names path) (.file contents)

/-- Makes an empty directory below the working directory. -/
def makeDirectory (d : Disk) (path : String) : Disk :=
  d.put (d.home ++ names path) (.directory [])

/-- Follows segments from the directory or file that `trail` names, last name first. -/
def follow (d : Disk) : List Path.Segment → (trail : List String) → Except FileFault (List String)
  | [], trail => .ok trail
  | segment :: rest, trail =>
    match d.root.descend? trail.reverse with
    | none => .error .missing
    | some (.file _) => .error .notADirectory
    | some (.directory entries) =>
      if segment = [] ∨ segment = Path.here then follow d rest trail
      else if segment = Path.up then follow d rest trail.tail
      else
        let name := String.ofList segment
        if name.utf8ByteSize > 255 then .error .nameTooLong
        else if (entries.lookup name).isSome then follow d rest (name :: trail)
        else .error .missing

/-- Where a path starts, last name first: at the root, or else in the working directory. -/
def start (d : Disk) (path : String) : List String :=
  if path.toList.head? = some '/' then [] else d.home.reverse

/-- The node that a path names, and the names that lead to it from the root. -/
def resolve (d : Disk) (path : String) : Except FileFault (List String × DiskNode) :=
  if path.toList.contains '\x00' then .error .nulInName
  else if path.isEmpty then .error .missing
  else if path.utf8ByteSize ≥ 4096 then .error .nameTooLong
  else
    match d.follow (Text.pieces '/' path.toList) (d.start path) with
    | .error fault => .error fault
    | .ok trail =>
      match d.root.descend? trail.reverse with
      | some node => .ok (trail.reverse, node)
      | none => .error .missing

/-- The contents of a file. -/
def read (d : Disk) (path : String) : Except FileFault ByteArray :=
  match d.resolve path with
  | .error fault => .error fault
  | .ok (_, .file contents) => .ok contents
  | .ok (_, .directory _) => .error .isADirectory

/-- The entries of a directory in ascending order. -/
def readDirectory (d : Disk) (path : String) : Except FileFault (List DirectoryEntry) :=
  match d.resolve path with
  | .error fault => .error fault
  | .ok (_, .file _) => .error .notADirectory
  | .ok (_, .directory entries) => .ok (entries.map fun (name, node) => ⟨name, node.isDirectory⟩)

/-- Whether a path names anything. -/
def contains (d : Disk) (path : String) : Bool :=
  (d.resolve path).toOption.isSome

/-- Whether a path names a directory. -/
def isDirectory (d : Disk) (path : String) : Bool :=
  match d.resolve path with
  | .ok (_, node) => node.isDirectory
  | .error _ => false

end Disk

end PixelApplet

/-! ## Files in memory

A file collection holds its contents under normalized paths in ascending order.  Directories are not
stored: one exists when some path lies beneath it.
-/

namespace PixelApplet

/-- Contents by normalized path, in ascending order of the paths. -/
structure MemoryFiles where
  files : List (String × ByteArray)

namespace MemoryFiles

/-- The collection without files. -/
def empty : MemoryFiles :=
  ⟨[]⟩

/-- Puts contents under a path among others in ascending order. -/
def insertSorted (path : String) (contents : ByteArray) :
    List (String × ByteArray) → List (String × ByteArray)
  | [] => [(path, contents)]
  | (p, c) :: rest =>
    if path < p then (path, contents) :: (p, c) :: rest
    else if path = p then (path, contents) :: rest
    else (p, c) :: insertSorted path contents rest

/-- Stores contents under the normal form of a path, in place of what was there. -/
def insert (m : MemoryFiles) (path : String) (contents : ByteArray) : MemoryFiles :=
  ⟨insertSorted (Path.clean path) contents m.files⟩

/-- The contents under a path. -/
def read (m : MemoryFiles) (path : String) : Except FileFault ByteArray :=
  let path := Path.clean path
  match m.files.lookup path with
  | some contents => .ok contents
  | none => .error (.absent path)

/-- What a stored path adds to the listing of a directory: the name of a child, and whether more
follows behind it. -/
def childOf? (directory path : String) : Option (String × Bool) :=
  let below :=
    if directory = "." then some path.toList
    else Text.dropStart? (directory.toList ++ ['/']) path.toList
  below.map fun rest =>
    (String.ofList (rest.takeWhile (· ≠ '/')), rest.contains '/')

/-- Notes a child in a listing in ascending order; a later note replaces an earlier one. -/
def noteChild (child : String × Bool) : List DirectoryEntry → List DirectoryEntry
  | [] => [⟨child.1, child.2⟩]
  | entry :: rest =>
    if child.1 < entry.name then ⟨child.1, child.2⟩ :: entry :: rest
    else if child.1 = entry.name then ⟨child.1, child.2⟩ :: rest
    else entry :: noteChild child rest

/-- The entries of a directory in ascending order. -/
def readDirectory (m : MemoryFiles) (path : String) : Except FileFault (List DirectoryEntry) :=
  let directory := Path.clean path
  let entries := (m.files.filterMap fun (p, _) => childOf? directory p).foldl
    (fun listing child => noteChild child listing) []
  if entries.isEmpty && directory ≠ "." then .error (.absent directory) else .ok entries

/-- Whether a path names a file, or a directory with something beneath it. -/
def contains (m : MemoryFiles) (path : String) : Bool :=
  let path := Path.clean path
  if path = "." ∨ (m.files.lookup path).isSome then true
  else
    -- in ascending order, the first path not below `path/` is the only candidate
    let start := path ++ "/"
    match m.files.find? fun (p, _) => ¬ p < start with
    | some (p, _) => (Text.dropStart? start.toList p.toList).isSome
    | none => false

end MemoryFiles

end PixelApplet

/-! ## Sources -/

namespace PixelApplet

/-- Where the files of an applet come from. -/
inductive FileSource where
  | memory (files : MemoryFiles)
  | directory (root : String)

namespace FileSource

/-- A path below a directory. -/
def joined (root relative : String) : String :=
  if root.isEmpty then relative
  else if root.toList.getLast? = some '/' then root ++ relative
  else root ++ "/" ++ relative

/-- The place on the disk that a path below a root names. -/
def place (root path : String) : Except FileFault String :=
  let cleaned := Path.clean path
  if Path.escapes cleaned then .error (.absent cleaned) else .ok (joined root cleaned)

/-- The contents of a file. -/
def read (source : FileSource) (disk : Disk) (path : String) : Except FileFault ByteArray :=
  match source with
  | memory files => files.read path
  | directory root =>
    match place root path with
    | .error fault => .error fault
    | .ok at_ =>
      match disk.read at_ with
      | .error .missing => .error (.absent (Path.clean path))
      | other => other

/-- The entries of a directory in ascending order. -/
def readDirectory (source : FileSource) (disk : Disk) (path : String) :
    Except FileFault (List DirectoryEntry) :=
  match source with
  | memory files => files.readDirectory path
  | directory root =>
    match place root path with
    | .error fault => .error fault
    | .ok at_ => disk.readDirectory at_

/-- Whether a path names anything. -/
def contains (source : FileSource) (disk : Disk) (path : String) : Bool :=
  match source with
  | memory files => files.contains path
  | directory root =>
    match place root path with
    | .error _ => false
    | .ok at_ => disk.contains at_

end FileSource

end PixelApplet
