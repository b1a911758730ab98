import ThreeAddress.Table
import ThreeAddress.Text.Pieces

/-!
A tree of directories, regular files and symbolic links, the paths that lead through it, and why a
file of it cannot be read or written. A node is kept under its place, the names on the way to it
from the root; the root itself is always a directory. Relative paths start at `home`.
-/

namespace ThreeAddress.Path

/-! ## Paths

Paths are names separated by slashes. Slashes and dots at the end of a path say nothing about its
file name. -/

def isSlash (c : Char) : Bool :=
  c == '/'

def names (path : String) : List String :=
  (Text.pieces isSlash path.toList).map String.ofList

def isAbsolute (path : String) : Bool :=
  path.toList.head? == some '/'

def join (names : List String) : String :=
  String.intercalate "/" names

def saysNothing (name : String) : Bool :=
  name.isEmpty || name == "."

/-- The names up to the file name. The first name stays, whatever it is. -/
def upToFile (path : String) : List String :=
  match names path with
  | [] => []
  | first :: rest => first :: (rest.reverse.dropWhile saysNothing).reverse

def fileName? (path : String) : Option String :=
  match (upToFile path).getLast? with
  | some name => if saysNothing name || name == ".." then none else some name
  | none => none

def parent (path : String) : String :=
  match (upToFile path).dropLast with
  | [] => "."
  | [""] => "/"
  | names => join names

/-- A file name without what follows its last dot. A dot that starts the name does not
count. -/
def stem (name : List Char) : List Char :=
  match name.reverse.dropWhile (· != '.') with
  | [] => name
  | [_] => name
  | _ :: before => before.reverse

/-- What follows the last dot of a file name that has a stem. -/
def extensionOf (name : List Char) : List Char :=
  name.drop ((stem name).length + 1)

/-- As many characters as the extension has are taken off the end, where slashes may be. -/
def withoutExtension (path : String) : String :=
  match fileName? path with
  | some name => String.ofList (path.toList.take (path.length - (extensionOf name.toList).length))
  | none => path

/-- The new extension goes to the file that the path leads to without the old one. For a name
that is two dots and an extension that is no file, and the path stays so. -/
def withExtension (path extension : String) : String :=
  let bare := withoutExtension path
  match fileName? bare with
  | some name =>
      join ((upToFile bare).dropLast ++
        [String.ofList (stem name.toList) ++ "." ++ extension])
  | none => bare

end ThreeAddress.Path

/-! ## Disks -/

namespace ThreeAddress

inductive Fault where
  | notFound
  | notDirectory
  | isDirectory
  | nameTooLong
  | tooManyLinks
  | zeroInPath
  | notText
  | other (message : String)
  deriving DecidableEq, Repr

def Fault.system (description : String) (number : Nat) : String :=
  description ++ " (os error " ++ Nat.repr number ++ ")"

def Fault.message : Fault → String
  | notFound => system "No such file or directory" 2
  | notDirectory => system "Not a directory" 20
  | isDirectory => system "Is a directory" 21
  | nameTooLong => system "File name too long" 36
  | tooManyLinks => system "Too many levels of symbolic links" 40
  | zeroInPath => "file name contained an unexpected NUL byte"
  | notText => "stream did not contain valid UTF-8"
  | other message => message

abbrev Place := List String

inductive Node where
  | directory
  | file (content : ByteArray)
  | link (target : String)

structure Disk where
  nodes : Table Place Node := {}
  home : Place := []

namespace Disk

def node? (disk : Disk) (place : Place) : Option Node :=
  if place.isEmpty then some .directory else disk.nodes.get? place

def isDirectory (disk : Disk) (place : Place) : Bool :=
  match disk.node? place with
  | some .directory => true
  | _ => false

/-- Where a walk ends: at a node, at a name that is free in an existing directory, or at a
link with the names that are still to be followed. -/
inductive Stop where
  | existing (place : Place)
  | free (place : Place)
  | link (directory : Place) (target : String) (rest : List String)

def longestName : Nat := 255

def longestPath : Nat := 4095

def mostLinks : Nat := 40

/-- What a path is followed for. To name a place, the system is asked about each name on the way
by the whole place where it stands, so what has to be short is not the path but those places. -/
inductive Errand where
  | reading
  | writing
  | naming
  deriving DecidableEq, Repr

/-- The bytes of a place that is spelled from the root. -/
def spelledSize : Place → Nat
  | [] => 0
  | name :: rest => name.utf8ByteSize + 1 + spelledSize rest

/-- Names that only close a path with slashes. -/
def closing (names : List String) : Bool :=
  !names.isEmpty && names.all String.isEmpty

/-- Names that stay where they are or go back up, so that a directory has to be there. -/
def lingers (names : List String) : Bool :=
  match names.dropWhile Path.saysNothing with
  | [] => !names.isEmpty
  | name :: _ => name == ".."

/-- How long the place is under which the system is asked about a node. A slash is added to what
has to be a directory, unless it is a link. -/
def askedSize (disk : Disk) (place : Place) (rest : List String) : Nat :=
  match disk.node? place with
  | some (.link _) => spelledSize place
  | _ => spelledSize place + if lingers rest then 1 else 0

/-- A path that is to be written must not end in a slash. -/
def walk (disk : Disk) (errand : Errand) : Place → List String → Except Fault Stop
  | place, [] => .ok (.existing place)
  | place, name :: rest =>
      if !disk.isDirectory place then .error .notDirectory
      else if Path.saysNothing name then walk disk errand place rest
      else if name == ".." then walk disk errand place.dropLast rest
      else if errand == .writing && closing rest then .error .isDirectory
      else if longestName < name.utf8ByteSize then .error .nameTooLong
      else if errand == .naming && longestPath < disk.askedSize (place ++ [name]) rest then
        .error .nameTooLong
      else
        match disk.node? (place ++ [name]) with
        | some (.link target) => .ok (.link place target rest)
        | some _ => walk disk errand (place ++ [name]) rest
        | none => if rest.isEmpty then .ok (.free (place ++ [name])) else .error .notFound

def start (home : Place) (path : String) : Place :=
  if Path.isAbsolute path then [] else home

def follow (disk : Disk) (errand : Errand) : Nat → Place → List String →
    Except Fault (Place × Bool)
  | links, place, names =>
      match disk.walk errand place names with
      | .error fault => .error fault
      | .ok (.existing place) => .ok (place, true)
      | .ok (.free place) => .ok (place, false)
      | .ok (.link directory target rest) =>
          match links with
          | 0 => .error .tooManyLinks
          | links + 1 =>
              follow disk errand links (start directory target) (Path.names target ++ rest)

def resolve (disk : Disk) (errand : Errand) (path : String) : Except Fault (Place × Bool) :=
  if path.toList.contains '\x00' then .error .zeroInPath
  else if path.isEmpty then .error .notFound
  else if errand != .naming && longestPath < path.utf8ByteSize then .error .nameTooLong
  else disk.follow errand mostLinks (start disk.home path) (Path.names path)

def existing? (disk : Disk) (errand : Errand) (path : String) : Option Place :=
  match disk.resolve errand path with
  | .ok (place, true) => some place
  | _ => none

def canonical? (disk : Disk) (path : String) : Option Place :=
  disk.existing? .naming path

def read (disk : Disk) (path : String) : Except Fault ByteArray :=
  match disk.resolve .reading path with
  | .error fault => .error fault
  | .ok (place, _) =>
      match disk.node? place with
      | some (.file content) => .ok content
      | some _ => .error .isDirectory
      | none => .error .notFound

def write (disk : Disk) (path : String) (content : ByteArray) : Except Fault Disk :=
  match disk.resolve .writing path with
  | .error fault => .error fault
  | .ok (place, _) =>
      if disk.isDirectory place then .error .isDirectory
      else .ok { disk with nodes := disk.nodes.insert place (.file content) }

def files (disk : Disk) : List (Place × ByteArray) :=
  disk.nodes.entries.filterMap fun entry =>
    match entry.2 with
    | .file content => some (entry.1, content)
    | _ => none

end Disk

end ThreeAddress
