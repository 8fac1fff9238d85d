import ChipEight.Text.Quoted

namespace ChipEight

/-- What a path leads to. -/
inductive FileEntry where
  | file (bytes : List UInt8)
  /-- It can be read, but is no file. -/
  | device (bytes : List UInt8)
  | directory
  /-- The path goes on behind something that is no directory. -/
  | blocked
  | absent
  /-- The path, or a name in it, is longer than any there can be. -/
  | tooLong
  deriving Repr, DecidableEq

inductive FileError where
  | absent (path : String)
  | directory (path : String)
  | notADirectory (path : String)
  | nameTooLong (path : String)
  /-- The path holds the character that ends paths. -/
  | nullCharacter
  deriving Repr, DecidableEq

namespace FileError

def message : FileError → String
  | absent path => "[Errno 2] No such file or directory: " ++ Text.quotedString path
  | directory path => "[Errno 21] Is a directory: " ++ Text.quotedString path
  | notADirectory path => "[Errno 20] Not a directory: " ++ Text.quotedString path
  | nameTooLong path => "[Errno 36] File name too long: " ++ Text.quotedString path
  | nullCharacter => "embedded null byte"

end FileError

namespace Files

/-- The names in a path. -/
def names (path : String) : List String :=
  ((path.toList.splitOn '/').filter fun part => !part.isEmpty && part != ['.']).map String.ofList

/-- The shortest spelling of a path. Two slashes in front, but not three, are kept. -/
def spelling (path : String) : String :=
  let root :=
    match (path.toList.takeWhile (· == '/')).length with
    | 0 => ""
    | 2 => "//"
    | _ => "/"
  let all := root ++ "/".intercalate (names path)
  if all.isEmpty then "." else all

def read (entry : String → FileEntry) (path : String) : Except FileError (List UInt8) :=
  let path := spelling path
  if path.toList.contains '\x00' then .error .nullCharacter
  else
    match entry path with
    | .file bytes | .device bytes => .ok bytes
    | .directory => .error (.directory path)
    | .blocked => .error (.notADirectory path)
    | .absent => .error (.absent path)
    | .tooLong => .error (.nameTooLong path)

/-- The bytes of a file, or nothing when the path leads to none. Only a path that is too long
to be looked up is an error. -/
def find? (entry : String → FileEntry) (path : String) :
    Except FileError (Option (List UInt8)) :=
  let path := spelling path
  if path.toList.contains '\x00' then .ok none
  else
    match entry path with
    | .file bytes => .ok (some bytes)
    | .tooLong => .error (.nameTooLong path)
    | _ => .ok none

example : spelling "./a//b/" = "a/b" ∧ spelling "" = "." ∧ spelling "///x" = "/x" := by
  decide +kernel

abbrev Place := List String

/-- A name has at most so many bytes. -/
def longestName : Nat := 255

/-- A path has fewer bytes than these. -/
def pathLimit : Nat := 4096

/-- Go on from a place name by name. Only directories can be gone through, and `..` leads to the
place above, which for the root is the root itself. -/
def follow (entryAt : Place → FileEntry) (place : Place) : List String → FileEntry
  | [] => entryAt place
  | name :: rest =>
    match entryAt place with
    | .directory =>
      if name = ".." then follow entryAt place.dropLast rest
      else if longestName < name.utf8ByteSize then .tooLong
      else follow entryAt (place ++ [name]) rest
    | .file _ | .device _ | .blocked => .blocked
    | .absent => .absent
    | .tooLong => .tooLong

/-- What a path leads to from a working directory. -/
def lookup (entryAt : Place → FileEntry) (workplace : Place) (path : String) : FileEntry :=
  if pathLimit ≤ path.utf8ByteSize then .tooLong
  else
    let start := if path.toList.head? = some '/' then [] else workplace
    follow entryAt start (names path)

example :
    let entryAt := fun place : Place =>
      if place = [] ∨ place = ["home"] then .directory
      else if place = ["home", "a"] then .file [0x12]
      else .absent
    lookup entryAt ["home"] "a" = .file [0x12] ∧
      lookup entryAt ["home"] "a/.." = .blocked ∧
      lookup entryAt ["home"] "../../home/a" = .file [0x12] := by
  decide +kernel

end Files

end ChipEight
