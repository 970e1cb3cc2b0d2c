import GroupPolicy.Files.System

/-!
# Disks

A disk in memory holds files and directories under absolute names, and has a working directory.
Paths are followed name by name, as far as there are directories. There are regular files and
directories only: no symbolic links, so that a name leads to what is stored under it, and no hard
links, so that every file is at one place.
-/

namespace GroupPolicy

/-- What is at a place of a disk. -/
inductive DiskNode where
  /-- A directory. -/
  | directory
  /-- A file with its contents. -/
  | file (contents : List UInt8)
  deriving DecidableEq

/-- A place of a disk: the names that lead to it from the root. -/
abbrev Place := List String

/-- A disk with regular files and directories, and with no symbolic or hard links. -/
structure Disk where
  /-- What is on the disk, apart from the root. -/
  nodes : List (Place × DiskNode)
  /-- The working directory. -/
  working : Place
  deriving DecidableEq

namespace Disk

/-- The greatest number of bytes in a name. -/
def maxNameBytes : Nat := 255

/-- The number of bytes that a path must not reach. -/
def maxPathBytes : Nat := 4096

/-- A disk with nothing but a working directory. -/
def empty : Disk :=
  { nodes := [(["work"], .directory)], working := ["work"] }

/-- What is at a place. -/
def node? (disk : Disk) (place : Place) : Option DiskNode :=
  if place.isEmpty then some .directory else disk.nodes.lookup place

/-- Puts something at a place, instead of what is there. -/
def put (disk : Disk) (place : Place) (node : DiskNode) : Disk :=
  { disk with nodes := (place, node) :: disk.nodes.filter (·.1 ≠ place) }

/-- Removes what is at a place and below it. -/
def erase (disk : Disk) (place : Place) : Disk :=
  { disk with nodes := disk.nodes.filter fun entry => !place.isPrefixOf entry.1 }

/-- The place that a name leads to from a directory. -/
def step (place : Place) (name : String) : Except FileFailure Place :=
  if name = ".." then .ok place.dropLast
  else if maxNameBytes < name.utf8ByteSize then .error .nameTooLong
  else .ok (place ++ [name])

/-- The place that names lead to. There has to be a directory at every place but the last. -/
def walk (disk : Disk) (place : Place) : List String → Except FileFailure Place
  | [] => .ok place
  | [name] => step place name
  | name :: next :: rest => do
    let inner ← step place name
    match disk.node? inner with
    | some .directory => walk disk inner (next :: rest)
    | some (.file _) => .error .notDirectory
    | none => .error .notFound

/-- Refuses what cannot be a path. -/
def checkPath (path : Path) : Except FileFailure Unit :=
  if path.text.toList.contains '\x00' then .error .invalidPath
  else if maxPathBytes ≤ path.text.utf8ByteSize then .error .nameTooLong
  else .ok ()

/-- Where a path starts. -/
def start (disk : Disk) (path : Path) : Place :=
  if path.isAbsolute then [] else disk.working

/-- The place that a path leads to. -/
def locate (disk : Disk) (path : Path) : Except FileFailure Place := do
  checkPath path
  if path.text.isEmpty then throw .notFound
  disk.walk (disk.start path) path.names

/-- The contents of a file. -/
def readFile (disk : Disk) (path : Path) : Except FileFailure (List UInt8) := do
  match disk.node? (← disk.locate path) with
  | none => throw .notFound
  | some .directory => throw .isDirectory
  | some (.file contents) =>
    if path.endsInDirectory then throw .notDirectory else return contents

/-- The disk after a file was created or got other contents. -/
def writeFile (disk : Disk) (path : Path) (contents : List UInt8) : Except FileFailure Disk := do
  let place ← disk.locate path
  match disk.node? place with
  | some .directory => throw .isDirectory
  | some (.file _) =>
    if path.endsInDirectory then throw .notDirectory else return disk.put place (.file contents)
  | none =>
    if path.endsInDirectory then throw .isDirectory else return disk.put place (.file contents)

/-- The disk after directories were created at the places that names lead to, and whether a file or
a name was in the way. -/
def createAlong (disk : Disk) (place : Place) : List String → Except FileFailure Unit × Disk
  | [] => (.ok (), disk)
  | name :: rest =>
    match step place name with
    | .error failure => (.error failure, disk)
    | .ok inner =>
      match disk.node? inner with
      | some .directory => createAlong disk inner rest
      | some (.file _) => (.error .notDirectory, disk)
      | none => createAlong (disk.put inner .directory) inner rest

/-- The disk after a directory and those above it were created. -/
def createDirectories (disk : Disk) (path : Path) : Except FileFailure Unit × Disk :=
  match checkPath path with
  | .error failure => (.error failure, disk)
  | .ok () => disk.createAlong (disk.start path) path.names

/-- The disk after a file got another path. -/
def rename (disk : Disk) (old new : Path) : Except FileFailure Disk := do
  let contents ← disk.readFile old
  let source ← disk.locate old
  let target ← disk.locate new
  match disk.node? target with
  | some .directory => throw .isDirectory
  | _ =>
    if new.endsInDirectory then throw .notDirectory
    else return (disk.erase source).put target (.file contents)

/-- Whether a path leads to a file. -/
def isFile (disk : Disk) (path : Path) : Bool :=
  (disk.readFile path).isOk

/-- The files below the working directory, under their relative paths. -/
def files (disk : Disk) : List (String × List UInt8) :=
  disk.nodes.filterMap fun (place, node) =>
    match node with
    | .directory => none
    | .file contents =>
      if disk.working.isPrefixOf place then
        some ("/".intercalate (place.drop disk.working.length), contents)
      else none

/-- The result of an access that changes a disk only when it succeeds. -/
def changed (disk : Disk) : Except FileFailure Disk → Except FileFailure Unit × Disk
  | .ok after => (.ok (), after)
  | .error failure => (.error failure, disk)

/-- Puts something at a path, with the directories above it. -/
def install (disk : Disk) (path : Path) : DiskNode → Disk
  | .directory => (disk.createDirectories path).2
  | .file contents =>
    let above := match path.parent? with
      | some parent => (disk.createDirectories parent).2
      | none => disk
    (above.changed (above.writeFile path contents)).2

/-- Removes what is at a path. -/
def remove (disk : Disk) (path : Path) : Disk :=
  match disk.locate path with
  | .ok place => disk.erase place
  | .error _ => disk

/-- Computations on a disk. -/
instance : FileSystem (StateM Disk) where
  readFile path := return (← get).readFile path
  writeFile path contents := modifyGet fun disk => disk.changed (disk.writeFile path contents)
  createDirectories path := modifyGet fun disk => disk.createDirectories path
  rename old new := modifyGet fun disk => disk.changed (disk.rename old new)
  isFile path := return (← get).isFile path

end Disk

end GroupPolicy
