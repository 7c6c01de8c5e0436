import ApiTools.Fault
import ApiTools.Text.CodePoint
import ApiTools.Text.Split

/-!
# Files

Files and directories are found by their paths below a root, which is a directory itself. Two dots
in a path lead back to the directory around the one reached so far, which has to be there. No name
has more than 255 bytes, and no path a null character. A file holds bytes, which need not be a text.
It is written as a whole: its text goes to a fresh file beside it first, and that file then takes its
place. It is removed again if it cannot, and if the text cannot be written to it.

## Main definitions

* `Path` — the names from the root down.
* `FileStore` — files and directories.
* `FileStore.content`, `FileStore.read` — the bytes of a file, and its text.
* `FileStore.makeDirectory` — a directory together with those around it.
* `FileStore.write` — a file written as a whole.
-/

namespace ApiTools

/-- The names from the root down to a file or a directory. -/
abbrev Path := List String

namespace Path

/-- The names in a text, between slashes. A name that is empty or a single dot leads nowhere. -/
def ofText (text : String) : Path :=
  ((Text.split '/' text.toList).map String.ofList).filter fun name => name != "" && name != "."

/-- The written form of a path. -/
def toText (path : Path) : String := "/".intercalate path

/-- The last name of a path. -/
def fileName (path : Path) : String := path.getLast?.getD ""

/-- The directory that a path lies in. -/
def parent (path : Path) : Path := path.dropLast

/-- Where a name leads from a directory. -/
def step (base : Path) (name : String) : Path :=
  if name = ".." then base.parent else base ++ [name]

/-- Whether a name has more bytes than a name may have. -/
def isLong (name : String) : Bool := decide (255 < name.utf8ByteSize)

/-- Whether a path has a null character in it. -/
def hasNull (path : Path) : Bool := path.any fun name => name.toList.contains '\x00'

end Path

/-- What stands at a path. -/
inductive StoreItem where
  /-- A file with its bytes. -/
  | file (content : ByteArray)
  /-- A directory. -/
  | directory

/-- Files and directories below a root. -/
structure FileStore where
  /-- What stands at each path; the first item for a path counts. -/
  items : List (Path × StoreItem)

namespace FileStore

/-- A root with nothing below it. -/
def empty : FileStore := ⟨[]⟩

/-- What stands at a path. -/
def get? (store : FileStore) (path : Path) : Option StoreItem :=
  if path.isEmpty then some .directory else store.items.lookup path

/-- The store without what stands at a path. -/
def erase (store : FileStore) (path : Path) : FileStore := ⟨store.items.filter (·.1 != path)⟩

/-- The store with an item at a path. -/
def put (store : FileStore) (path : Path) (item : StoreItem) : FileStore :=
  ⟨(path, item) :: (store.erase path).items⟩

/-- The paths of all files. -/
def files (store : FileStore) : List Path :=
  store.items.filterMap fun e => match e.2 with
    | .file _ => some e.1
    | .directory => none

/-- What stands at a name in a directory. -/
def find (store : FileStore) (base : Path) (name : String) : Except Fault (Option StoreItem) :=
  if Path.isLong name then .error .nameTooLong else .ok (store.get? (base.step name))

/-! ### Reading -/

/-- What stands at the end of a path from a directory on. Every name but the last one has to be that
of a directory. -/
def follow (store : FileStore) (base : Path) : List String → Except Fault StoreItem
  | [] => .ok .directory
  | name :: names =>
    match store.find base name, names with
    | .error fault, _ => .error fault
    | .ok none, _ => .error .noSuchFile
    | .ok (some item), [] => .ok item
    | .ok (some .directory), names => store.follow (base.step name) names
    | .ok (some (.file _)), _ => .error .notDirectory

/-- The bytes of a file. -/
def content (store : FileStore) (path : Path) : Except Fault ByteArray := do
  if path.hasNull then throw .nullInPath
  match ← store.follow [] path with
  | .file content => return content
  | .directory => throw .isDirectory

/-- The text of a file, whose bytes have to be one in UTF-8. -/
def read (store : FileStore) (path : Path) : Except Fault String := do
  match String.fromUTF8? (← store.content path) with
  | some text => return text
  | none => throw .notDecodable

/-! ### Writing -/

/-- Makes the directories of a path from a directory on, one after the other, as far as they are
missing. The result is where the path leads, with the store afterwards, whether this succeeds or
not. -/
def makeEach (store : FileStore) (base : Path) : List String → Except Fault Path × FileStore
  | [] => (.ok base, store)
  | name :: names =>
    match store.find base name with
    | .error fault => (.error fault, store)
    | .ok (some (.file _)) => (.error .fileExists, store)
    | .ok (some .directory) => store.makeEach (base.step name) names
    | .ok none => (store.put (base.step name) .directory).makeEach (base.step name) names

/-- Makes the directories of a path from the first one that is missing on. No file may stand on the
way there. -/
def makeFrom (store : FileStore) (base : Path) : List String → Except Fault Path × FileStore
  | [] => (.ok base, store)
  | name :: names =>
    match store.find base name, names with
    | .ok (some (.file _)), _ :: _ => (.error .notDirectory, store)
    | .ok (some .directory), names => store.makeFrom (base.step name) names
    | _, _ => store.makeEach base (name :: names)

/-- Makes a directory and those on the way to it, as far as they are missing. -/
def makeDirectory (store : FileStore) (path : Path) : Except Fault Path × FileStore :=
  if path.hasNull then (.error .nullInPath, store) else store.makeFrom [] path

/-- The length of the longest name at the end of a path. -/
def longestName (store : FileStore) : Nat :=
  (store.items.map fun e => e.1.fileName.length).foldl max 0

/-- A path in a directory at which nothing stands: its last name is longer than all others. -/
def freshPath (store : FileStore) (directory : Path) : Path :=
  directory ++ [String.ofList (List.replicate (store.longestName + 1) '_')]

/-- A file takes the place of another one, but not that of a directory. -/
def replace (store : FileStore) (source target : Path) (content : ByteArray) :
    Except Fault FileStore :=
  match store.get? target with
  | some .directory => .error .isDirectory
  | _ => .ok ((store.erase source).put target (.file content))

/-- Bytes written as a whole in a directory, through a fresh file beside their place. Two dots are
the name of no file. -/
def writeBytesIn (store : FileStore) (directory : Path) (name : String) (content : ByteArray) :
    Except Fault Unit × FileStore :=
  let fresh := store.freshPath directory
  let written := store.put fresh (.file content)
  let moved := if name = ".." then .error .busy
    else if Path.hasNull [name] then .error .nullInPath
    else if Path.isLong name then .error .nameTooLong
    else written.replace fresh (directory ++ (if name = "" then [] else [name])) content
  match moved with
  | .ok store => (.ok (), store)
  | .error fault => (.error fault, written.erase fresh)

/-- A file written as a whole in a directory. Nothing goes to its fresh file, which is there by then,
if the text has no bytes. -/
def writeIn (store : FileStore) (directory : Path) (name text : String) :
    Except Fault Unit × FileStore :=
  match Text.bytes? text with
  | some content => store.writeBytesIn directory name content
  | none =>
    let fresh := store.freshPath directory
    (.error .notEncodable, (store.put fresh (.file .empty)).erase fresh)

/-- A file written as a whole, in a directory that is made if it is missing. The store is the one
afterwards, whether this succeeds or not. -/
def write (store : FileStore) (path : Path) (text : String) : Except Fault Unit × FileStore :=
  match store.makeDirectory path.parent with
  | (.error fault, store) => (.error fault, store)
  | (.ok directory, store) => store.writeIn directory path.fileName text

end FileStore

end ApiTools
