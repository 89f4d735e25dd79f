import MediaPaths.Fault
import MediaPaths.Table

/-!
A folder of files in its surroundings, and what reading a path from it gives. The folder has no
folders inside and lies in a folder at the root of the file system. Of the surroundings only what
every system has is known: the usual folders at the root, and the empty file `/dev/null`.
-/
namespace MediaPaths.CommandLine

abbrev Folder := Table ByteArray

inductive FileTree where
  | file (bytes : ByteArray)
  | folder (entries : List (String × FileTree))

namespace FileTree

def text : FileTree → Except ReadFault String
  | .folder _ => .error .isDirectory
  | .file bytes =>
    match String.fromUTF8? bytes with
    | some text => .ok text
    | none => .error .notText

def maxName : Nat := 255

def staysHere (part : String) : Bool := part == "" || part == "."

/-- Follows the parts of a path from a place; `above` holds the folders around it, the nearest
first. The topmost folder is the one above itself. -/
def follow (above : List FileTree) : FileTree → List String → Except ReadFault String
  | place, [] => place.text
  | .file _, _ :: _ => .error .notDirectory
  | .folder entries, part :: rest =>
    if staysHere part then follow above (.folder entries) rest
    else if part = ".." then
      match above with
      | [] => follow [] (.folder entries) rest
      | parent :: above => follow above parent rest
    else if maxName < part.utf8ByteSize then .error .nameTooLong
    else
      match entries.lookup part with
      | none => .error .notFound
      | some place => follow (.folder entries :: above) place rest

def root : FileTree :=
  .folder (("dev", .folder [("null", .file .empty)]) ::
    ["bin", "boot", "etc", "home", "lib", "media", "mnt", "opt", "proc", "root", "run", "sbin",
      "srv", "sys", "tmp", "usr", "var"].map fun name => (name, .folder []))

end FileTree

namespace Folder

def maxPath : Nat := 4095

def tree (folder : Folder) : FileTree :=
  .folder (folder.entries.map fun (name, bytes) => (name, .file bytes))

def read (folder : Folder) (path : String) : Except ReadFault String :=
  let parts := (path.toList.splitOn '/').map String.ofList
  if maxPath < path.utf8ByteSize then .error .nameTooLong
  else
    match path.toList with
    | [] => .error .notFound
    | c :: _ =>
      if c = '/' then FileTree.follow [] FileTree.root parts
      else FileTree.follow [.folder [], FileTree.root] folder.tree parts

end Folder

end MediaPaths.CommandLine
