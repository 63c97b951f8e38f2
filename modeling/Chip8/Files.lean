import Chip8.Failure

/-!
# Files

A directory from which programs are read, with files and directories in it. A name is a path of
components between slashes; empty components and `.` stay where they are, `..` goes up. Names can
lead out of the directory: the directories above it are known to be there, and so are the root and
what every host has below it, but nothing else.
-/

namespace Chip8

/-- What a path leads to. -/
inductive Entry where
  | file (data : List UInt8)
  | directory
deriving DecidableEq, Repr

/-- The entries of a directory and of those in it, by their places. A place is the way to it: its
components, the last one first, where `..` stands for a step out of the directory and `/` for the
root. -/
structure Files where
  entries : List (List String × Entry)

namespace Files

def empty : Files := ⟨[]⟩

/-! ## Places -/

/-- One component further. Above the root there is only the root. -/
def onward (here : List String) (component : String) : List String :=
  if component = "" ∨ component = "." then here
  else if component = ".." then
    match here with
    | [] => [".."]
    | last :: before =>
      if last = ".." then ".." :: here
      else if last = "/" then here
      else before
  else component :: here

/-- Where the way of a name begins: here, or at the root. -/
def origin (name : String) : List String :=
  if name.startsWith "/" then ["/"] else []

/-- Where a name leads if all on the way is there. -/
def place (name : String) : List String :=
  (name.splitOn "/").foldl onward (origin name)

/-- Whether a place is the directory itself, one above it or the root. -/
def isAround (place : List String) : Bool :=
  place.all fun component => component == ".." || component == "/"

/-! ## Entries -/

/-- What every host has: the directories below the root, and a file that is always empty. -/
def hostEntries : List (List String × Entry) :=
  (["null", "dev", "/"], .file []) ::
    ["bin", "boot", "dev", "etc", "home", "lib", "media", "mnt", "opt", "proc", "run", "sbin", "srv",
      "sys", "tmp", "usr", "var"].map fun name => ([name, "/"], .directory)

/-- What is at a place. -/
def entry? (files : Files) (place : List String) : Option Entry :=
  if isAround place then some .directory
  else ((files.entries ++ hostEntries).find? (·.1 == place)).map (·.2)

/-- Takes out what a name leads to, with all that is in it. -/
def remove (files : Files) (name : String) : Files :=
  ⟨files.entries.filter fun entry => !(place name).isSuffixOf entry.1⟩

/-- Puts an entry where a name leads, in place of what is there. -/
def write (files : Files) (name : String) (entry : Entry) : Files :=
  ⟨(place name, entry) :: files.entries.filter (·.1 != place name)⟩

/-! ## Reading -/

/-- The longest component, and the longest name, in bytes. -/
def componentLimit : Nat := 255

def nameLimit : Nat := 4095

/-- Follows components from a place. What is not there ends the way, and so does a file that is to
be entered. -/
def walk (files : Files) (here : List String) : List String → Except FileError Entry
  | [] =>
    match files.entry? here with
    | some entry => .ok entry
    | none => .error .notFound
  | component :: rest =>
    match files.entry? here with
    | none => .error .notFound
    | some (.file _) => .error .notDirectory
    | some .directory =>
      if componentLimit < component.utf8ByteSize then .error .nameTooLong
      else files.walk (onward here component) rest

/-- What a name leads to. -/
def find (files : Files) (name : String) : Except FileError Entry :=
  if name.isEmpty then .error .notFound
  else if nameLimit < name.utf8ByteSize then .error .nameTooLong
  else files.walk (origin name) (name.splitOn "/")

/-- The content of the file that a name leads to. -/
def read (files : Files) (name : String) : Except FileError (List UInt8) :=
  match files.find name with
  | .ok (.file data) => .ok data
  | .ok .directory => .error .isDirectory
  | .error error => .error error

end Files

end Chip8
