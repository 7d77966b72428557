import BlockVocabulary.Command.Execute

/-!
The command on the files of the machine.
-/

namespace BlockVocabulary

/-- The cause of a failed call on files. -/
def fileError : IO.Error → FileError
  | .noFileOrDirectory .. => .noSuchFile
  | .alreadyExists .. => .fileExists
  | .invalidArgument _ code text => if code = 36 then .nameTooLong else .other text
  | .inappropriateType _ code text =>
    if code = 20 then .notADirectory else if code = 21 then .isADirectory else .other text
  | e => .other (toString e)

def attempt {α : Type} (act : IO α) : IO (Except FileError α) := do
  try return .ok (← act)
  catch e => return .error (fileError e)

/-- The calls on files, on the disk. -/
def diskAccess : FileAccess IO where
  read path := do
    match ← attempt (IO.FS.readBinFile path) with
    | .error e => return .error e
    | .ok bytes => return (String.fromUTF8? bytes).elim (.error .notText) .ok
  makeDirectories path := attempt (IO.FS.createDirAll path)
  write path content := attempt (IO.FS.writeFile path content)

end BlockVocabulary

def main (args : List String) : IO UInt32 := do
  let report ← BlockVocabulary.Command.run BlockVocabulary.diskAccess args
  (← IO.getStdout).putStr report.stdout
  (← IO.getStderr).putStr report.stderr
  return report.exitCode.toUInt32
