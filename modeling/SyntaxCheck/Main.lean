import SyntaxCheck.CommandLine.Output

/-!
# The program

The arguments name files; their texts are read, and the answer is printed.
-/

namespace SyntaxCheck

/-- The reason with a number that the system gave for it, by either sign. -/
def readFaultOf (number : UInt32) (fault : IO.Error) : ReadFault :=
  match min number.toNat (UInt32.size - number.toNat) with
  | 2 => .notFound
  | 20 => .notDirectory
  | 21 => .isDirectory
  | 36 => .nameTooLong
  | _ => .other (toString fault)

/-- The text of a file. -/
def readText (file : String) : IO (Except ReadFault String) := do
  try
    return decodeText (← IO.FS.readBinFile file)
  catch fault =>
    match fault with
    | .noFileOrDirectory _ number _ | .inappropriateType _ number _
    | .invalidArgument _ number _ => return .error (readFaultOf number fault)
    | _ => return .error (.other (toString fault))

/-- The texts of some files, found by name. -/
def readTexts (files : List String) : IO (String → Except ReadFault String) := do
  let texts ← files.mapM fun file => return (file, ← readText file)
  return fun file => (texts.lookup file).getD (.error .notFound)

end SyntaxCheck

open SyntaxCheck in
/-- Answers the request that the arguments make. -/
def main (arguments : List String) : IO UInt32 := do
  let request := Request.ofArguments arguments
  let answer := request.answer (← readTexts request.files)
  (← IO.getStdout).putStr answer.stdout
  (← IO.getStderr).putStr answer.stderr
  return UInt32.ofNat answer.exit
