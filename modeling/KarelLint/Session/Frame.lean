import KarelLint.Json.Writer
import KarelLint.Session.Message

/-! Messages on a stream of bytes: each follows a header with the number of its bytes. -/

set_option autoImplicit false

namespace KarelLint.Session.Frame

/-- The name of the header field that holds the number of bytes, in lower case. -/
def lengthField : String := "content-length"

/-- The number of bytes that a header field announces. -/
def length? (field : String) : Option Nat :=
  match field.splitOn ":" with
  | [name, value] =>
      if name.toLower = lengthField then value.trimAscii.toString.toNat? else none
  | _ => none

/-- A message with its header. -/
def encode (message : ServerMessage) : String :=
  let body := match message.toJson with
    | .obj members => Json.obj (("jsonrpc", .str "2.0") :: members)
    | other => other
  let text := body.write
  "Content-Length: " ++ toString text.utf8ByteSize ++ "\r\n\r\n" ++ text

end KarelLint.Session.Frame
