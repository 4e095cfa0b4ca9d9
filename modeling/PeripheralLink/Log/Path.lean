/-!
Paths of files.  One directory is known with all it holds, which is nothing but files.  Around it is a
`FileSystem`; of the files that are made there no more is known than their names.
-/

namespace PeripheralLink

/-- Why no file can be opened. -/
inductive FileError
  | missing
  | noDevice
  | denied
  | notDirectory
  | isDirectory
  | notExtensible
  | noRoom
  | nameTooLong
deriving DecidableEq

def FileError.message : FileError → String
  | missing => "[Errno 2] No such file or directory"
  | noDevice => "[Errno 6] No such device or address"
  | denied => "[Errno 13] Permission denied"
  | notDirectory => "[Errno 20] Not a directory"
  | isDirectory => "[Errno 21] Is a directory"
  | notExtensible => "[Errno 22] Invalid argument"
  | noRoom => "[Errno 28] No space left on device"
  | nameTooLong => "[Errno 36] File name too long"

/-- The error is one of looking for the file, and tells its path. -/
def FileError.namesPath (e : FileError) : Bool := e != .notExtensible

namespace Path

/-- The pieces between slashes of a path that begins within the piece `current`, whose characters
stand in reverse. -/
def piecesFrom (current : List Char) : List Char → List (List Char)
  | [] => [current.reverse]
  | '/' :: rest => current.reverse :: piecesFrom [] rest
  | c :: rest => piecesFrom (c :: current) rest

/-- The names that a path leads through from a place on, with those left out that stand for the
directory they are in or lead back. -/
def namesFrom (place : List String) (path : String) : List String :=
  (((piecesFrom [] path.toList).map String.ofList).foldl
    (fun names piece =>
      if piece == "" || piece == "." then names
      else if piece == ".." then names.tail
      else piece :: names) place.reverse).reverse

/-- What an absolute path begins with: two slashes stay two, and more count as one. -/
def root? (path : String) : Option String :=
  match path.toList with
  | '/' :: '/' :: '/' :: _ => some "/"
  | '/' :: '/' :: _ => some "//"
  | '/' :: _ => some "/"
  | _ => none

/-- The names from the root on for a path that may start from a directory. -/
def names (directory path : String) : List String :=
  namesFrom (if (root? path).isSome then [] else namesFrom [] directory) path

/-- The path from the root on for one that may start from a directory. -/
def absolute (directory path : String) : String :=
  ((root? path).getD "/") ++ "/".intercalate (names directory path)

inductive Place
  | here (name : String)
  | elsewhere (names : List String)
  | full
deriving DecidableEq

inductive Entry
  | directory
  | file (place : Place)
  /-- A file or a device that cannot be opened to add to it. -/
  | unfit (reason : FileError)
  | absent

/-- A file system, apart from the known directory.  A directory is given by the names that lead to it. -/
structure FileSystem where
  /-- What there is in a directory under a name as long as nothing has been made there. -/
  entry : List String → String → Entry
  /-- The directory itself, for one that goes by a second name. -/
  resolve : List String → List String
  /-- The place of a file that is made in a directory, unless none can be made there. -/
  create : List String → String → Except FileError Place
  nameLimit : Nat
  pathLimit : Nat

/-- What there is under a name in a directory, whose names stand in `place`; `home` is the known
directory, and `made` are the files outside it that were made. -/
def entry (system : FileSystem) (home : List String) (isFile : String → Bool) (made : List (List String))
    (place : List String) (name : String) : Entry :=
  if place == home then (if isFile name then .file (.here name) else .absent)
  else if (place ++ [name]).isPrefixOf home then .directory
  else if made.contains (place ++ [name]) then .file (.elsewhere (place ++ [name]))
  else system.entry place name

/-- The place of a file that is made in a directory, unless none can be made there. -/
def newFile (system : FileSystem) (home place : List String) (name : String) : Except FileError Place :=
  if place == home then .ok (.here name) else system.create place name

/-- The place that names lead to from a directory.  A name that is too long is not looked for, and a
file is found not to be a directory before what follows it is looked at. -/
def follow (system : FileSystem) (home : List String) (isFile : String → Bool) (made : List (List String))
    (place : List String) : List String → Except FileError Place
  | [] => .error .isDirectory
  | name :: rest =>
    if system.nameLimit < name.utf8ByteSize then .error .nameTooLong
    else
      match entry system home isFile made place name with
      | .directory => follow system home isFile made (system.resolve (place ++ [name])) rest
      | .file found => if rest.isEmpty then .ok found else .error .notDirectory
      | .unfit reason => .error (if rest.isEmpty then reason else .notDirectory)
      | .absent => if rest.isEmpty then newFile system home place name else .error .missing

/-- The place that a path leads to from the known directory, or why there is none. -/
def find (system : FileSystem) (directory : String) (isFile : String → Bool) (made : List (List String))
    (path : String) : Except FileError Place :=
  if system.pathLimit < (absolute directory path).utf8ByteSize then .error .nameTooLong
  else follow system (namesFrom [] directory) isFile made [] (names directory path)

end Path

end PeripheralLink
