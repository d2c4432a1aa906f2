set_option autoImplicit false

/-!
A tree holds files, directories and links, each at its place. A path leads from place to place, name by
name, and a link on the way is replaced by the way it stands for.
-/

namespace SuperChip

/-- Why a file cannot be read. -/
inductive FileError where
  | missing
  | isDirectory
  /-- The path goes on behind a file. -/
  | notDirectory
  | nameTooLong
  | tooManyLinks
  | permissionDenied
  | inputOutput
  /-- Nothing stands behind the name of a device. -/
  | noDevice
  /-- What stands there is not for reading. -/
  | notReadable
  /-- Another reason, in the words of the operating system. -/
  | other (text : String)
  deriving DecidableEq, Repr

namespace FileError

/-- The text of a file error that the operating system knows by a number. -/
def numbered (text : String) (number : Nat) : String :=
  text ++ " (os error " ++ number.repr ++ ")"

def message : FileError → String
  | missing => numbered "No such file or directory" 2
  | inputOutput => numbered "Input/output error" 5
  | noDevice => numbered "No such device or address" 6
  | permissionDenied => numbered "Permission denied" 13
  | notDirectory => numbered "Not a directory" 20
  | isDirectory => numbered "Is a directory" 21
  | notReadable => numbered "Invalid argument" 22
  | nameTooLong => numbered "File name too long" 36
  | tooManyLinks => numbered "Too many levels of symbolic links" 40
  | other text => text

/-- The file error behind a number of the operating system. -/
def ofNumber? : Nat → Option FileError
  | 2 => some missing
  | 5 => some inputOutput
  | 6 => some noDevice
  | 13 => some permissionDenied
  | 20 => some notDirectory
  | 21 => some isDirectory
  | 22 => some notReadable
  | 36 => some nameTooLong
  | 40 => some tooManyLinks
  | _ => none

end FileError

namespace FileTree

/-- A place in a tree: the names that lead there from the root, the last one first. -/
abbrev Place := List String

inductive Node where
  /-- A file, with what comes of reading it. -/
  | file (contents : Except FileError (Array UInt8))
  | directory
  /-- A link: the way that starts at a place and takes these names. -/
  | link (start : Place) (names : List String)

end FileTree

/-- A tree of files. The root, which has no entry, is a directory. -/
structure FileTree where
  nodes : List (FileTree.Place × FileTree.Node)
  /-- The current directory, where a path starts unless it begins with a slash. -/
  here : FileTree.Place
  /-- The directories at the root below which a name may have any length. -/
  unbounded : List String

namespace FileTree

def longestName : Nat := 255

def longestPath : Nat := 4095

/-- The most links that are followed on one way. -/
def mostLinks : Nat := 40

/-- Whether a directory can hold a name of this length. -/
def holdsLength (tree : FileTree) (place : Place) (name : String) : Bool :=
  name.utf8ByteSize ≤ longestName || place.getLast?.any tree.unbounded.contains

/-- Whether a name stands for the directory it is looked up in. The empty name is found between two
slashes and behind the last one. -/
def staysAt (name : String) : Bool :=
  name = "" || name = "."

/-- Where the names of a path lead from a directory, with this many links left to follow. Every name
asks for a directory in front of it, those that stay there or lead up included. Two dots at the root
stay at the root. -/
def walk (tree : FileTree) (links : Nat) (place : Place) (names : List String) :
    Except FileError (Array UInt8) :=
  match names with
  | [] => .error .isDirectory
  | name :: rest =>
    if staysAt name then tree.walk links place rest
    else if name = ".." then tree.walk links place.tail rest
    else
      match tree.nodes.lookup (name :: place) with
      | none => .error (if tree.holdsLength place name then .missing else .nameTooLong)
      | some .directory => tree.walk links (name :: place) rest
      | some (.file contents) => if rest.isEmpty then contents else .error .notDirectory
      | some (.link start names) =>
        match _ : links with
        | 0 => .error .tooManyLinks
        | left + 1 => tree.walk left start (names ++ rest)
termination_by (links, names.length)

/-- A way that takes no name ends at a directory. -/
@[simp] theorem walk_nil (tree : FileTree) (links : Nat) (place : Place) :
    tree.walk links place [] = .error .isDirectory := by
  rw [walk]

theorem walk_stay (tree : FileTree) (links : Nat) (place : Place) (name : String)
    (rest : List String) (stays : staysAt name = true) :
    tree.walk links place (name :: rest) = tree.walk links place rest := by
  rw [walk, if_pos stays]

theorem walk_up (tree : FileTree) (links : Nat) (place : Place) (rest : List String) :
    tree.walk links place (".." :: rest) = tree.walk links place.tail rest := by
  rw [walk, if_neg (by decide), if_pos rfl]

/-- A link is replaced by the way it stands for, which uses it up. -/
theorem walk_link (tree : FileTree) (links : Nat) (place start : Place) (name : String)
    (names rest : List String) (leaves : staysAt name = false) (different : name ≠ "..")
    (found : tree.nodes.lookup (name :: place) = some (.link start names)) :
    tree.walk (links + 1) place (name :: rest) = tree.walk links start (names ++ rest) := by
  rw [walk, if_neg (by simp [leaves]), if_neg different]
  simp only [found]

/-- Reads the file at a path, which starts at the root if it begins with a slash. -/
def read (tree : FileTree) (path : String) : Except FileError (Array UInt8) :=
  if path = "" then .error .missing
  else if longestPath < path.utf8ByteSize then .error .nameTooLong
  else tree.walk mostLinks (if path.startsWith "/" then [] else tree.here) (path.splitOn "/")

end FileTree

end SuperChip
