import Lexicon.Text.Bytes
import Lexicon.Text.Outline

/-! Directories of files, and how a path leads to the text of a file. -/
namespace Lexicon

/-- What a name in a directory stands for. -/
inductive FileNode where
  | file (bytes : ByteArray)
  | directory (entries : List (String × FileNode))

/-- Why there is no text at a path. -/
inductive ReadError where
  | notFound
  | notDirectory
  | isDirectory
  | nameTooLong
  | permissionDenied
  /-- The system gives no more than a number and a text. -/
  | other (code : Nat) (details : String)
  | nulInPath
  | notUtf8
  deriving DecidableEq, Repr

namespace ReadError

/-- What the system reports: its number for the fault, the sort of the fault, and a text. -/
def system? : ReadError → Option (Nat × String × String)
  | notFound => some (2, "NotFound", "No such file or directory")
  | permissionDenied => some (13, "PermissionDenied", "Permission denied")
  | notDirectory => some (20, "NotADirectory", "Not a directory")
  | isDirectory => some (21, "IsADirectory", "Is a directory")
  | nameTooLong => some (36, "InvalidFilename", "File name too long")
  | other code details => some (code, "Uncategorized", details)
  | nulInPath | notUtf8 => none

/-- The sort and the text of a fault that is found without the system. -/
def inherent : ReadError → String × String
  | nulInPath => ("InvalidInput", "file name contained an unexpected NUL byte")
  | _ => ("InvalidData", "stream did not contain valid UTF-8")

def message (e : ReadError) : String :=
  match e.system? with
  | some (code, _, details) => details ++ " (os error " ++ toString code ++ ")"
  | none => e.inherent.2

def outline (e : ReadError) : Outline :=
  match e.system? with
  | some (code, sort, details) =>
    .record "Os" [
      .field "code" (.ofNat code), .field "kind" (.atom sort), .field "message" (.ofText details)]
  | none =>
    .record "Error" [.field "kind" (.atom e.inherent.1), .field "message" (.ofText e.inherent.2)]

end ReadError

/-- A path between quotes: apostrophes are escaped too. -/
def quotedPath (path : String) : String :=
  String.ofList ('"' :: path.toList.flatMap escapeChar ++ ['"'])
where
  escapeChar (c : Char) : List Char := if c = '\'' then ['\\', c] else Quoted.escapeChar c

namespace FileNode

/-- How many bytes a name may take. -/
def nameLimit : Nat := 255

/-- How many bytes a path may take. -/
def pathLimit : Nat := 4095

/-- The parts of a path between its slashes. -/
def splitPath : List Char → List (List Char)
  | [] => [[]]
  | c :: rest =>
    if c = '/' then [] :: splitPath rest
    else match splitPath rest with
      | [] => [[c]]
      | part :: parts => (c :: part) :: parts

/-- Puts something at a path below the entries of a directory, and directories on the way to it. -/
def put (inner : FileNode) : (parts : List String) → List (String × FileNode) → List (String × FileNode)
  | [], entries => entries
  | [name], entries => entries.filter (·.1 ≠ name) ++ [(name, inner)]
  | name :: parts, entries =>
    let below := match entries.lookup name with
      | some (directory below) => below
      | _ => []
    entries.filter (·.1 ≠ name) ++ [(name, directory (put inner parts below))]

/-- The directory in which each path leads to what is given for it. -/
def ofPaths (nodes : List (String × FileNode)) : FileNode :=
  directory (nodes.foldl (fun entries (path, node) =>
    put node (((splitPath path.toList).filter (· ≠ [])).map String.ofList) entries) [])

/-- Follows the parts of a path. An empty part stands for the directory itself, as a dot does, so that a
slash at the end asks for a directory. Nothing is known of what lies outside the first directory. -/
def follow (parents : List FileNode) (node : FileNode) : List (List Char) → Except ReadError FileNode
  | [] => .ok node
  | part :: parts =>
    match node with
    | file _ => .error .notDirectory
    | directory entries =>
      if part = [] ∨ part = ['.'] then follow parents node parts
      else if part = ['.', '.'] then
        match parents with
        | [] => follow [] (directory []) parts
        | parent :: outer => follow outer parent parts
      else if nameLimit < utf8Length part then .error .nameTooLong
      else match entries.lookup (String.ofList part) with
        | none => .error .notFound
        | some inner => follow (node :: parents) inner parts

/-- What a path leads to from a directory. A slash in front leads outside. -/
def resolve (root : FileNode) (path : List Char) : Except ReadError FileNode :=
  if path.contains '\x00' then .error .nulInPath
  else if path = [] then .error .notFound
  else if pathLimit < utf8Length path then .error .nameTooLong
  else if path.head? = some '/' then follow [] (directory []) (splitPath path)
  else follow [] root (splitPath path)

/-- The text of the file at a path. -/
def read (root : FileNode) (path : String) : Except ReadError String :=
  match root.resolve path.toList with
  | .error e => .error e
  | .ok (directory _) => .error .isDirectory
  | .ok (file bytes) =>
    match String.fromUTF8? bytes with
    | none => .error .notUtf8
    | some text => .ok text

end FileNode
end Lexicon
