import KarelLint.CommandLine.Outcome
import KarelLint.Json.Reader
import KarelLint.Session.Frame

/-! The program: it reads files and streams, and leaves every decision to the library. -/

set_option autoImplicit false

namespace KarelLint.Main

open KarelLint.Session KarelLint.Storage KarelLint.CommandLine

/-- The cause of an error of the operating system. -/
def readError : IO.Error → ReadError
  | .noFileOrDirectory .. => .notFound
  | .inappropriateType _ 21 _ => .isDirectory
  | .inappropriateType .. => .notDirectory
  | .invalidArgument .. => .nameTooLong
  | .permissionDenied .. => .other "permission denied"
  | _ => .other "other error"

/-- Read a file. -/
def readFile (filename : String) : IO (Except ReadError ByteArray) := do
  try
    return .ok (← IO.FS.readBinFile filename)
  catch error =>
    return .error (readError error)

/-- Read a number of bytes, or fewer if the stream ends. -/
partial def readBytes (input : IO.FS.Stream) (count : Nat) (read : ByteArray) : IO ByteArray := do
  if count ≤ read.size then return read
  let more ← input.read (count - read.size).toUSize
  if more.isEmpty then return read
  readBytes input count (read ++ more)

/-- Read a header up to its empty line, and the number of bytes that it announces. -/
partial def readHeader (input : IO.FS.Stream) (length : Option Nat) : IO (Option Nat) := do
  let line ← input.getLine
  if line.isEmpty then return none
  let field := line.trimAscii.toString
  if field.isEmpty then return length
  readHeader input (Frame.length? field <|> length)

/-- Read what should be a message. There is nothing at the end of the stream, and `null` stands
for what cannot be read. -/
def readMessage (input : IO.FS.Stream) : IO (Option Json) := do
  let some length ← readHeader input none | return none
  let bytes ← readBytes input length .empty
  return some (((String.fromUTF8? bytes).bind Json.parse?).getD .null)

/-- Take messages until the connection ends or no message comes. -/
partial def serve (input output : IO.FS.Stream) (connection : Connection) : IO Connection := do
  if let .ended _ := connection then return connection
  let some value ← readMessage input | return connection
  let (connection, sent) := connection.receive value
  for message in sent do
    output.putStr (Frame.encode message)
  output.flush
  serve input output connection

/-- Write what a run writes, and return its exit code. -/
def finish (outcome : Outcome) : IO UInt32 := do
  IO.print outcome.output
  IO.eprint outcome.errors
  return outcome.exit.toUInt32

/-- Do what the arguments ask for. -/
def run (arguments : List String) : IO UInt32 := do
  match Command.parse? arguments with
  | some .serve =>
      let connection ← serve (← IO.getStdin) (← IO.getStdout) .waiting
      finish (.ofConnection connection)
  | some (.check options) =>
      let content ← readFile options.filename
      finish (.ofCheck (fun _ => content) options)
  | some command => finish (.ofCommand (fun _ => .error .notFound) command)
  | none => finish .refused

end KarelLint.Main

/-- The command line of the checker and the language server. -/
def main (arguments : List String) : IO UInt32 :=
  KarelLint.Main.run arguments
