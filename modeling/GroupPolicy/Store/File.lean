import GroupPolicy.Files.System
import GroupPolicy.PolicyFile.Reader
import GroupPolicy.Store.Basic
import GroupPolicy.Tree

/-!
# Stores in policy files

The policies of a section are in one policy file. Opening a store loads the whole file, changes
stay in memory, and a save that has something to save writes a temporary file and puts it in the
place of the old one.
-/

namespace GroupPolicy

/-- The sections of a group policy. -/
inductive PolicySection where
  /-- The policies of the computer. -/
  | machine
  /-- The policies of its users. -/
  | user
  deriving DecidableEq, Repr

namespace PolicySection

/-- The directory of a section under the root of the group policy. -/
def directory : PolicySection → Path
  | machine => ⟨"Machine"⟩
  | user => ⟨"User"⟩

/-- The label of a section. -/
def label : PolicySection → String
  | machine => "machine"
  | user => "user"

/-- The policy file of a section. -/
def policyFile (part : PolicySection) (root : Path) : Path :=
  (root.join part.directory).join ⟨"Registry.pol"⟩

end PolicySection

/-- What a store may be used for. -/
inductive Access where
  /-- Looking at values. -/
  | readOnly
  /-- Looking at values, changing and saving them. -/
  | readWrite
  deriving DecidableEq, Repr

/-- A policy store in a file. -/
structure FileStore where
  /-- The policy file. -/
  path : Path
  /-- What the store may be used for. -/
  access : Access
  /-- The contents, with the changes that are not saved yet. -/
  tree : RegistryTree
  /-- Whether there may be such changes. -/
  dirty : Bool

namespace FileStore

variable {m : Type → Type} [Monad m] [FileSystem m]

/-- The tree of a policy file. -/
def loadTree (bytes : List UInt8) : Except PolicyError RegistryTree := do
  RegistryTree.ofEntries (← PolicyFile.decode bytes)

/-- The tree of what was found at a path; nothing there stands for no values. -/
def treeOf : Except FileFailure (List UInt8) → Except PolicyError RegistryTree
  | .ok bytes => loadTree bytes
  | .error .notFound => .ok .empty
  | .error failure => .error (.io failure)

/-- Opens the policy file at a path. -/
def openFile (path : Path) (access : Access) : ExceptT PolicyError m FileStore :=
  ExceptT.mk do
    let found ← FileSystem.readFile path
    return (treeOf found).map fun tree => { path, access, tree, dirty := false }

/-- Opens the policy file of a section. -/
def openSection (root : Path) (part : PolicySection) (access : Access) :
    ExceptT PolicyError m FileStore :=
  openFile (part.policyFile root) access

/-- Refuses an operation unless the store may be changed. -/
def ensureWritable (store : FileStore) (operation : StoreOperation) : Except PolicyError Unit :=
  match store.access with
  | .readWrite => .ok ()
  | .readOnly => .error (.readOnlyStore operation)

/-- The tree of a store in which a value is created or replaced. -/
def treeAfterSet (store : FileStore) (key name : String) (value : RegistryValue) :
    Except PolicyError RegistryTree := do
  store.ensureWritable .setValue
  store.tree.set key name (.ofValue value)

/-- Creates or replaces a value. -/
def setValue (store : FileStore) (key name : String) (value : RegistryValue) :
    Except PolicyError Unit × FileStore :=
  match store.treeAfterSet key name value with
  | .ok tree => (.ok (), { store with tree, dirty := true })
  | .error error => (.error error, store)

/-- The tree of a store from which a value is removed, and whether it was there. -/
def treeAfterDelete (store : FileStore) (key name : String) :
    Except PolicyError (Bool × RegistryTree) := do
  store.ensureWritable .deleteValue
  store.tree.delete key name

/-- Removes a value if it is there, and says whether it was. -/
def deleteValue (store : FileStore) (key name : String) : Except PolicyError Bool × FileStore :=
  match store.treeAfterDelete key name with
  | .ok (removed, tree) => (.ok removed, { store with tree, dirty := store.dirty || removed })
  | .error error => (.error error, store)

/-- The bytes that a save is to write, or nothing if there is nothing to save. -/
def pending (store : FileStore) : Except PolicyError (Option (List UInt8)) := do
  store.ensureWritable .save
  if store.dirty then return some (← PolicyFile.encode store.tree.entries) else return none

/-- Replaces a file by way of a temporary file beside it. -/
def replaceFile (path : Path) (bytes : List UInt8) : ExceptT PolicyError m Unit := do
  if let some parent := path.parent? then
    FileSystem.attempt (FileSystem.createDirectories parent)
  let temporary := path.withExtension "pol.tmp"
  FileSystem.attempt (FileSystem.writeFile temporary bytes)
  FileSystem.attempt (FileSystem.rename temporary path)

/-- Writes the contents to the file, if there is anything to save. -/
def save (store : FileStore) : m (Except PolicyError Unit × FileStore) := do
  match store.pending with
  | .error error => return (.error error, store)
  | .ok none => return (.ok (), store)
  | .ok (some bytes) =>
    match ← (replaceFile store.path bytes).run with
    | .error error => return (.error error, store)
    | .ok () => return (.ok (), { store with dirty := false })

/-- Computations on a store in a file. -/
instance : PolicyStore (StateT FileStore m) where
  setValue key name value := ExceptT.mk (modifyGet (·.setValue key name value))
  deleteValue key name := ExceptT.mk (modifyGet (·.deleteValue key name))
  save := ExceptT.mk fun store => store.save

end FileStore

end GroupPolicy
