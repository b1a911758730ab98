import ThreeAddress.Command.Run

/-!
The program on the disk of the machine.
-/

namespace ThreeAddress.Machine

def faultOf (error : IO.Error) : Fault :=
  match error with
  | .noFileOrDirectory .. => .notFound
  | .noSuchThing .. => .notFound
  | .inappropriateType _ 20 _ => .notDirectory
  | .inappropriateType _ 21 _ => .isDirectory
  | other => .other (toString other)

def attempt {α : Type} (action : IO α) : IO (Except Fault α) := do
  try
    return .ok (← action)
  catch error =>
    return .error (faultOf error)

def access : Files IO where
  canonical path := do
    match ← attempt (IO.FS.realPath path) with
    | .ok place => return some ((Path.names (toString place)).filter fun name => !name.isEmpty)
    | .error _ => return none
  read path := attempt (IO.FS.readBinFile path)
  write path content := attempt (IO.FS.writeBinFile path content)

end ThreeAddress.Machine

def main (arguments : List String) : IO UInt32 := do
  let (code, output, errors) ←
    ThreeAddress.Command.execute ThreeAddress.Machine.access arguments (← IO.getEnv "RUST_LOG")
  (← IO.getStderr).putStr errors
  (← IO.getStdout).putStr output
  return code.toUInt32
