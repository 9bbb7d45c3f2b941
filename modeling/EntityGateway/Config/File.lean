/-
Files in one folder, and why one of them cannot be read.
-/
import EntityGateway.NameMap
import EntityGateway.Config.Error

namespace EntityGateway

/-- why a file cannot be read -/
inductive FileFault where
  | notFound
  | isFolder
  | notFolder
  | nameTooLong
  | nulInName
  | notText
deriving DecidableEq, Repr

def FileFault.message : FileFault → String
  | .notFound => "No such file or directory (os error 2)"
  | .isFolder => "Is a directory (os error 21)"
  | .notFolder => "Not a directory (os error 20)"
  | .nameTooLong => "File name too long (os error 36)"
  | .nulInName => "file name contained an unexpected NUL byte"
  | .notText => "stream did not contain valid UTF-8"

/-- a folder with files and no further folders -/
structure Folder where
  files : NameMap ByteArray := .empty

namespace Folder

/-- the longest name in bytes -/
def maxName : Nat := 255

/-- the longest path in bytes -/
def maxPath : Nat := 4095

def read (folder : Folder) (path : String) : Except FileFault ByteArray :=
  let parts := (path.splitOn "/").filter fun part => part ≠ "" ∧ part ≠ "."
  if path.toList.contains '\x00' then .error .nulInName
  else if path.isEmpty then .error .notFound
  else if maxPath < path.utf8ByteSize ∨ parts.any (fun part => maxName < part.utf8ByteSize) then .error .nameTooLong
  else
    match parts with
    | [] => .error .isFolder
    | name :: further =>
      match folder.files.get? name with
      | none => .error .notFound
      | some bytes => if further.isEmpty ∧ path.toList.getLast? ≠ some '/' then .ok bytes else .error .notFolder

def readText (folder : Folder) (path : String) : Except ConfigError String :=
  let text : Except FileFault String :=
    match folder.read path with
    | .error fault => .error fault
    | .ok bytes =>
      match String.fromUTF8? bytes with
      | some s => .ok s
      | none => .error .notText
  match text with
  | .ok s => .ok s
  | .error fault => .error (.load (path ++ ": " ++ fault.message))

end Folder

end EntityGateway
