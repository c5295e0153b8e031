import KarelLint.OrderedMap
import KarelLint.Session.Settings
import KarelLint.Session.Uri

/-! Where the settings of each document come from. A client that answers questions about its
configuration is asked once for each document, and its answers are kept until the
configuration changes. For other clients all documents share one value. -/

set_option autoImplicit false

namespace KarelLint.Session

/-- What tells a request from the others. A number and a string are never the same. -/
inductive RequestId where
  | number (value : Int)
  | text (value : String)
  deriving DecidableEq, Repr

/-- What is known about the settings of documents. -/
structure Configuration where
  /-- Whether the client is asked for the settings of each document. -/
  perDocument : Bool
  /-- The settings of all documents of a client that is not asked. -/
  shared : Settings := {}
  /-- The answers of the client that still hold. -/
  cached : OrderedMap Uri Settings := ∅
  /-- The open questions, each with the document that it is about. -/
  pending : List (RequestId × Uri) := []
  /-- Questions from before the last change of the configuration. Their answers no longer
  count. -/
  superseded : List RequestId := []

/-- Whether the settings of a document are at hand. -/
inductive Availability where
  | known (settings : Settings)
  /-- The client has been asked and has not answered. -/
  | awaited
  /-- The client has not been asked. -/
  | missing
  deriving DecidableEq, Repr

namespace Configuration

/-- Whether a question about a document is open. -/
def isWaiting (configuration : Configuration) (uri : Uri) : Bool :=
  configuration.pending.any fun question => question.2 == uri

/-- Whether the settings of a document are at hand. -/
def availability (configuration : Configuration) (uri : Uri) : Availability :=
  if !configuration.perDocument then .known configuration.shared
  else match configuration.cached.get? uri with
    | some settings => .known settings
    | none => if configuration.isWaiting uri then .awaited else .missing

/-- Note that the client was asked about a document. A request with the same identity is
forgotten. -/
def asked (configuration : Configuration) (id : RequestId) (uri : Uri) : Configuration :=
  { configuration with
    pending := (id, uri) :: configuration.pending.filter fun question => question.1 != id }

/-- Look up the settings of a document. If they are missing, the request `id` is noted, with
which the client is to be asked now. -/
def consult (configuration : Configuration) (uri : Uri) (id : RequestId) :
    Configuration × Availability :=
  match configuration.availability uri with
  | .missing => (configuration.asked id uri, .missing)
  | present => (configuration, present)

/-- The settings that an answer of the client holds. The answer is a list with one item for
the one document that was asked about; any other answer leaves the default. -/
def answered : Json → Settings
  | .arr (item :: _) => Settings.ofJson item
  | _ => {}

/-- Take an answer of the client. It yields the settings of a document if it is the answer to
an open question. -/
def receive (configuration : Configuration) (id : RequestId) (result : Json) :
    Configuration × Option (Uri × Settings) :=
  if configuration.superseded.contains id then
    ({ configuration with superseded := configuration.superseded.filter (· != id) }, none)
  else match configuration.pending.lookup id with
    | none => (configuration, none)
    | some uri =>
        let settings := answered result
        ({ configuration with
            cached := configuration.cached.insert uri settings
            pending := configuration.pending.filter fun question => question.1 != id },
          some (uri, settings))

/-- The section of the client's configuration that holds the settings. -/
def sectionName : String := "karel"

/-- Take a change of the client's configuration. Answers that the client gave before, or is
about to give, no longer hold. A client that is not asked sends the settings along. -/
def change (configuration : Configuration) (payload : Json) : Configuration :=
  if configuration.perDocument then
    { configuration with
      cached := ∅
      pending := []
      superseded := configuration.pending.map (·.1) ++ configuration.superseded }
  else
    { configuration with
      shared := Settings.ofJson ((payload.member? sectionName).getD .null) }

/-- Drop what is known about a document, and the open question about it. -/
def forget (configuration : Configuration) (uri : Uri) : Configuration :=
  { configuration with
    cached := configuration.cached.erase uri
    pending := configuration.pending.filter fun question => question.2 != uri }

end Configuration

end KarelLint.Session
