import KarelLint.Storage.Directory

/-! The text of a program file, or the reason why there is none. -/

set_option autoImplicit false

namespace KarelLint.Storage

/-- What is said about a file that could not be loaded. -/
structure LoadingError where
  problem : String
  details : String
  filename : String
  deriving DecidableEq, Repr

namespace ReadError

/-- The reason of an error in a few words. -/
def description : ReadError → String
  | notFound => ""
  | isDirectory => "is a directory"
  | notDirectory => "not a directory"
  | invalidPath => "invalid input parameter"
  | nameTooLong => "invalid filename"
  | notText => "invalid data"
  | other description => description

end ReadError

namespace LoadingError

/-- What to say about an error. A file that does not exist needs no details. -/
def ofReadError (filename : String) (error : ReadError) : LoadingError where
  problem := if error = .notFound then "File not found" else "Failed reading"
  details := error.description
  filename

/-- An error in one sentence. -/
def message (error : LoadingError) : String :=
  if error.details = "" then error.problem else error.problem ++ ": " ++ error.details

end LoadingError

/-- The text that some bytes encode. -/
def decode (content : ByteArray) : Except ReadError String :=
  match String.fromUTF8? content with
  | some text => .ok text
  | none => .error .notText

/-- The text of a file, given a way to read its bytes. -/
def load (read : String → Except ReadError ByteArray) (filename : String) :
    Except LoadingError String :=
  (read filename >>= decode).mapError (LoadingError.ofReadError filename)

end KarelLint.Storage
