import ThreeAddress.Files.Disk
import ThreeAddress.Finding
import ThreeAddress.Program

/-!
What a command needs of a file system, so that it can run on a disk that is a value as well
as on that of the machine.
-/

namespace ThreeAddress

structure Files (m : Type → Type) where
  canonical : String → m (Option Place)
  read : String → m (Except Fault ByteArray)
  write : String → ByteArray → m (Except Fault Unit)

namespace Files
variable {m : Type → Type} [Monad m]

def text (content : ByteArray) : Except Fault String :=
  match String.fromUTF8? content with
  | some text => .ok text
  | none => .error .notText

def readText (files : Files m) (path : String) : m (Except Fault String) := do
  match ← files.read path with
  | .ok content => return text content
  | .error fault => return .error fault

def writeText (files : Files m) (path content : String) : m (Except Fault Unit) :=
  files.write path content.toUTF8

/-- The program in a file carries the path as its name. -/
def load (files : Files m) (path : String) : m (Except Failure Program) := do
  match ← files.readText path with
  | .ok source => return .ok ⟨path, source⟩
  | .error fault => return .error (.file path fault.message)

def save (files : Files m) (path content : String) : m (Except Failure Unit) := do
  match ← files.writeText path content with
  | .ok () => return .ok ()
  | .error fault => return .error (.file path fault.message)

/-- The place of a file that may not be there yet: that of its directory and its name. -/
def target (files : Files m) (path : String) : m (Option Place) := do
  match ← files.canonical path with
  | some place => return some place
  | none =>
      match Path.fileName? path, ← files.canonical (Path.parent path) with
      | some name, some directory => return some (directory ++ [name])
      | _, _ => return none

/-- Whether writing to `output` would write to the existing file `input`. -/
def isSameFile (files : Files m) (input output : String) : m Bool := do
  match ← files.canonical input with
  | none => return false
  | some place => return (← files.target output) == some place

end Files

namespace Disk

def access : Files (StateM Disk) where
  canonical path := return (← get).canonical? path
  read path := return (← get).read path
  write path content := do
    match (← get).write path content with
    | .ok disk => do
        set disk
        return .ok ()
    | .error fault => return .error fault

end Disk

end ThreeAddress
