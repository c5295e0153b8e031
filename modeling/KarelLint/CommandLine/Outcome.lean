import KarelLint.CommandLine.Arguments
import KarelLint.Diagnosis.Report
import KarelLint.Session.Connection
import KarelLint.Storage.Loading

/-! What a run of the program writes, and the code with which it ends. -/

set_option autoImplicit false

namespace KarelLint.CommandLine

/-- What a run writes, and the code with which it ends. -/
structure Outcome where
  exit : Nat := 0
  output : String := ""
  errors : String := ""
  deriving DecidableEq, Repr

namespace Outcome

/-- The complaints about a text, one for each problem in order. -/
def complaints (detail : Terminal.Detail) (filename : String) (text : String)
    (problems : List Diagnosis.Problem) : List String :=
  problems.filterMap (Terminal.show? detail filename text.toList)

/-- What separates two complaints. Those of several lines have an empty line between them. -/
def ending : Terminal.Detail → String
  | .concise => "\n"
  | .full => "\n\n"

/-- The outcome of a check. It fails if there is a problem or no file. -/
def ofCheck (read : String → Except Storage.ReadError ByteArray) (options : CheckOptions) :
    Outcome :=
  match Storage.load read options.filename with
  | .error error => { exit := 1, errors := Terminal.loadingLine error ++ "\n" }
  | .ok text =>
      let problems := (Diagnosis.check text options.limit).problems
      let lines := complaints options.detail options.filename text problems
      { exit := if problems.isEmpty then 0 else 1
        output := String.join (lines.map (· ++ ending options.detail)) }

/-- The outcome of a connection to an editor when there are no more messages. -/
def ofConnection (connection : Session.Connection) : Outcome :=
  if connection.succeeds then {} else { exit := 1, errors := "disconnected channel\n" }

/-- How to ask for something. -/
def usageText : String :=
  "usage: karel [COMMAND] ...\nTry '--help' for more information.\n"

/-- What there is to ask for. -/
def helpText : String :=
  "Validator and language server for the Karel robot language.\n\n" ++
  "Usage: karel [COMMAND]\n\n" ++
  "Commands:\n" ++
  "  check     Check the given program for illegal characters and bad procedure calls\n" ++
  "  language  Run the Karel Language Server on stdin and stdout\n\n" ++
  "Options:\n" ++
  "  -h, --help     Print help\n" ++
  "  -V, --version  Print version\n"

/-- The outcome of a wrong command line. -/
def refused : Outcome :=
  { exit := 2, errors := "error: invalid arguments\n\nFor more information, try '--help'.\n" }

/-- The outcome of a command, given a way to read files. A language server is taken to get no
message. -/
def ofCommand (read : String → Except Storage.ReadError ByteArray) : Command → Outcome
  | .usage => { output := usageText }
  | .help => { output := helpText }
  | .version program => { output := program ++ " v" ++ Session.serverVersion ++ "\n" }
  | .check options => ofCheck read options
  | .serve => ofConnection .waiting

/-- The outcome of a command line, given a way to read files. -/
def ofArguments (read : String → Except Storage.ReadError ByteArray) (arguments : List String) :
    Outcome :=
  match Command.parse? arguments with
  | some command => ofCommand read command
  | none => refused

end Outcome

end KarelLint.CommandLine
