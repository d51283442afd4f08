/-!
# File trees

Directories and files as a process sees them, and how a path is followed to one of them: name by
name, from the root if the path begins with a slash and from the working directory otherwise.
-/

namespace ServiceRouting

/-- Why a file cannot be read. -/
inductive FileFault where
  | notFound
  | isDirectory
  | notDirectory
  | nameTooLong
  /-- The path holds a character that no path may hold. -/
  | unusablePath
  /-- The content is no text. -/
  | notText
  /-- Some other fault of the file system, with its own text. -/
  | other (text : String)
deriving DecidableEq

/-- The text of a fault. -/
def FileFault.message : FileFault → String
  | notFound => "No such file or directory (os error 2)"
  | isDirectory => "Is a directory (os error 21)"
  | notDirectory => "Not a directory (os error 20)"
  | nameTooLong => "File name too long (os error 36)"
  | unusablePath => "file name contained an unexpected NUL byte"
  | notText => "stream did not contain valid UTF-8"
  | other text => text

/-- A place in a file tree: the names that lead there from the root. -/
abbrev Place := List String

/-- Files with their contents, and directories. Every place on the way to one of them is a
directory too. -/
structure FileTree where
  files : List (Place × ByteArray)
  directories : List Place
  /-- The directory in which a path without a slash in front begins. -/
  working : Place

namespace FileTree

/-- The names in a path that lead on. -/
def names (path : String) : Place := (path.splitOn "/").filter fun n => n ≠ "" && n ≠ "."

/-- A name holds at most so many bytes. -/
def nameLimit : Nat := 255

/-- A path holds fewer bytes than this. -/
def pathLimit : Nat := 4096

/-- The content of the file at a place. -/
def fileAt (t : FileTree) (place : Place) : Option ByteArray :=
  (t.files.find? fun f => f.1 = place).map (·.2)

/-- Whether a place is a directory. -/
def isDirectory (t : FileTree) (place : Place) : Bool :=
  (t.working :: t.directories).any place.isPrefixOf
    || t.files.any fun f => place.isPrefixOf f.1 && f.1 ≠ place

/-- Follows names from a place. Above the root is the root. -/
def follow (t : FileTree) (place : Place) : List String → Except FileFault Place
  | [] => .ok place
  | name :: rest =>
    if (t.fileAt place).isSome then .error .notDirectory
    else if name = ".." then follow t place.dropLast rest
    else if nameLimit < name.utf8ByteSize then .error .nameTooLong
    else
      let next := place ++ [name]
      if (t.fileAt next).isSome || t.isDirectory next then follow t next rest
      else .error .notFound

/-- Whether a path can only lead to a directory. -/
def endsInDirectory (path : String) : Bool :=
  match (path.splitOn "/").getLast? with
  | some last => last = "" || last = "."
  | none => false

/-- Reads the file that a path leads to. -/
def read (t : FileTree) (path : String) : Except FileFault ByteArray :=
  if path.toList.contains '\x00' then .error .unusablePath
  else if path = "" then .error .notFound
  else if pathLimit ≤ path.utf8ByteSize then .error .nameTooLong
  else do
    let place ← t.follow (if path.startsWith "/" then [] else t.working) (names path)
    match t.fileAt place with
    | none => .error .isDirectory
    | some content => if endsInDirectory path then .error .notDirectory else .ok content

/-- Directories that every system has. -/
def systemDirectories : List String :=
  ["/bin", "/boot", "/dev/pts", "/dev/shm", "/etc", "/home", "/lib", "/media", "/mnt", "/opt",
   "/proc/self", "/root", "/run", "/sbin", "/srv", "/sys", "/tmp", "/usr/bin", "/usr/lib",
   "/usr/local/bin", "/usr/local/lib", "/usr/sbin", "/usr/share", "/var/lib", "/var/log",
   "/var/tmp"]

/-- Files that every system has: devices that end at once, and the first lines of tables. -/
def systemFiles : List (String × String) :=
  [("/dev/null", ""), ("/dev/stdin", ""), ("/etc/group", "root:x:0:\n"),
   ("/etc/hosts", "127.0.0.1 localhost\n"), ("/etc/passwd", "root:x:0:0:root:/root:/bin/sh\n")]

/-- The tree of a system whose working directory, below the one for what is temporary, holds the
given files. -/
def ofWorking (files : List (String × ByteArray)) : FileTree :=
  let working := names "/tmp/work"
  { files := files.map (fun f => (working ++ names f.1, f.2))
      ++ systemFiles.map fun f => (names f.1, f.2.toUTF8)
    directories := systemDirectories.map names
    working }

end FileTree

end ServiceRouting
