import Hostcall.Text.Lines
import Hostcall.Text.Quoted
import Hostcall.Text.Utf8

/-!
# Reading program files

A program file holds a text in UTF-8 with any line endings.  Files are found by
their paths in a file system, or in a directory that is held in memory.
-/

namespace Hostcall.Console

/-- Why a file cannot be read. -/
inductive FileError where
  /-- Nothing has the path. -/
  | notFound
  /-- The path leads to a directory. -/
  | isDirectory
  /-- The path leads through something that is no directory. -/
  | notDirectory
  /-- The path or one of its names is too long. -/
  | nameTooLong
  /-- The path holds a NUL character. -/
  | embeddedNull
  /-- The bytes of the file are no text. -/
  | undecodable (fault : Text.Utf8.Fault)
deriving DecidableEq, Repr

/-- What is wrong with the file at a path, in words. -/
def FileError.message (path : String) : FileError → String
  | .notFound => "[Errno 2] No such file or directory: " ++ Text.quoted path
  | .isDirectory => "[Errno 21] Is a directory: " ++ Text.quoted path
  | .notDirectory => "[Errno 20] Not a directory: " ++ Text.quoted path
  | .nameTooLong => "[Errno 36] File name too long: " ++ Text.quoted path
  | .embeddedNull => "embedded null byte"
  | .undecodable fault => fault.message

/-- The text of a file by its bytes. -/
def textOfBytes (bytes : ByteArray) : Except FileError String :=
  match Text.Utf8.decode bytes with
  | .error fault => .error (.undecodable fault)
  | .ok text => .ok (String.ofList (Text.unifyLineEndings text.toList))

/-! ## Directories in memory -/

/-- The names of a path, between its slashes. -/
def pathNames : List Char → List (List Char)
  | [] => [[]]
  | character :: rest =>
      if character = '/' then
        [] :: pathNames rest
      else
        match pathNames rest with
        | [] => [[character]]
        | name :: others => (character :: name) :: others

/-- The names of a path as texts. -/
def namesOfPath (path : String) : List String :=
  (pathNames path.toList).map String.ofList

/-- A directory and all that is below it, by the names that lead there. -/
structure Directory where
  files : List (List String × ByteArray)
  directories : List (List String)

namespace Directory

/-- Where a path leads. -/
inductive Place where
  /-- To a directory, given by the names that lead to it. -/
  | directory (names : List String)
  /-- To a directory that is not below the given one; nothing can be found in it. -/
  | outside
  /-- To a file. -/
  | file (bytes : ByteArray)

/-- The greatest number of bytes in one name of a path. -/
def nameLimit : Nat := 255

/-- The number of bytes that a path must stay below. -/
def pathLimit : Nat := 4096

/-- What has a path below the directory. -/
def find (directory : Directory) (names : List String) : Except FileError Place :=
  match directory.files.lookup names with
  | some bytes => .ok (.file bytes)
  | none =>
      if (directory.directories ++ directory.files.map Prod.fst).any names.isPrefixOf then
        .ok (.directory names)
      else
        .error .notFound

/-- Go from a place along one name of a path. -/
def step (directory : Directory) (place : Place) (name : String) : Except FileError Place :=
  match place with
  | .file _ => .error .notDirectory
  | .outside =>
      if name = "" ∨ name = "." ∨ name = ".." then .ok .outside
      else if name.utf8ByteSize > nameLimit then .error .nameTooLong
      else .error .notFound
  | .directory names =>
      if name = "" ∨ name = "." then .ok (.directory names)
      else if name = ".." then
        if names.isEmpty then .ok .outside else .ok (.directory names.dropLast)
      else if name.utf8ByteSize > nameLimit then .error .nameTooLong
      else directory.find (names ++ [name])

/-- Go from a place along the names of a path. -/
def walk (directory : Directory) : Place → List String → Except FileError Place
  | place, [] => .ok place
  | place, name :: others =>
      match directory.step place name with
      | .error error => .error error
      | .ok next => walk directory next others

/-- The place where the names of a path are to be followed from. -/
def start (path : String) : Place :=
  if path.toList.head? = some '/' then .outside else .directory []

/-- The bytes of the file at a path. -/
def read (directory : Directory) (path : String) : Except FileError ByteArray :=
  if '\x00' ∈ path.toList then .error .embeddedNull
  else if path = "" then .error .notFound
  else if path.utf8ByteSize ≥ pathLimit then .error .nameTooLong
  else
    match directory.walk (start path) (namesOfPath path) with
    | .error error => .error error
    | .ok (.file bytes) => .ok bytes
    | .ok _ => .error .isDirectory

end Directory

end Hostcall.Console
