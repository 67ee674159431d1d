import Lexicon.CommandLine

/-! The program: files are read from the system, and the report is written to its streams. -/
namespace Lexicon

/-- What the system says of a file that it does not read. -/
def ReadError.ofSystem : IO.Error → ReadError
  | .noFileOrDirectory .. => .notFound
  | .permissionDenied _ 36 _ | .resourceExhausted _ 36 _ | .invalidArgument _ 36 _ => .nameTooLong
  | .permissionDenied .. => .permissionDenied
  | .inappropriateType _ 20 _ => .notDirectory
  | .inappropriateType _ 21 _ => .isDirectory
  | .otherError code details => .other code.toNat details
  | e => .other 0 (toString e)

/-- The text of a file of the system. -/
def readSystemFile (path : String) : IO (Except ReadError String) := do
  if path.toList.contains '\x00' then return .error .nulInPath
  match (← (IO.FS.readBinFile path).toBaseIO) with
  | .error e => return .error (.ofSystem e)
  | .ok bytes =>
    match String.fromUTF8? bytes with
    | none => return .error .notUtf8
    | some text => return .ok text

end Lexicon

def main (arguments : List String) : IO UInt32 := do
  let report ← Lexicon.CommandLine.respond Lexicon.readSystemFile arguments
  IO.print report.output
  IO.eprint report.errors
  return report.exitCode.toUInt32
