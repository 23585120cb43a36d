import OutageWatch.Text.Utf8
import OutageWatch.Cluster.Object

/-!
# Replies of the cluster

Namespaces and the workloads of each kind are listed by one request each.  A reply with an error
status carries an error document; where it does not, one is made up from the status.  If the code
in the document says that the kind is not served, there are definitely no workloads of that kind;
any other error, and a reply that is no list, tells nothing.

## Main definitions

* `Reply` : what comes back for a request.
* `ErrorDocument`, `QueryError` : what can be wrong with it, with `QueryError.message`.
* `Reply.items?` : the items of the list that a reply carries.
* `Reply.namespaces`, `Reply.workloads` : the listings made of replies.
-/

namespace OutageWatch

open Json Json.Reader

/-- What comes back for a request. -/
inductive Reply where
  /-- The connection failed. -/
  | unreachable (problem : String)
  | answered (status : Nat) (body : List UInt8)
  deriving DecidableEq, Repr

/-! ### Errors -/

/-- What an error reply says. -/
structure ErrorDocument where
  status : String
  message : String
  reason : String
  code : Nat
  deriving DecidableEq, Repr

/-- The canonical phrase of an error status. -/
def statusPhrase? : Nat → Option String
  | 400 => some "Bad Request"
  | 401 => some "Unauthorized"
  | 402 => some "Payment Required"
  | 403 => some "Forbidden"
  | 404 => some "Not Found"
  | 405 => some "Method Not Allowed"
  | 406 => some "Not Acceptable"
  | 407 => some "Proxy Authentication Required"
  | 408 => some "Request Timeout"
  | 409 => some "Conflict"
  | 410 => some "Gone"
  | 411 => some "Length Required"
  | 412 => some "Precondition Failed"
  | 413 => some "Payload Too Large"
  | 414 => some "URI Too Long"
  | 415 => some "Unsupported Media Type"
  | 416 => some "Range Not Satisfiable"
  | 417 => some "Expectation Failed"
  | 418 => some "I'm a teapot"
  | 421 => some "Misdirected Request"
  | 422 => some "Unprocessable Entity"
  | 423 => some "Locked"
  | 424 => some "Failed Dependency"
  | 425 => some "Too Early"
  | 426 => some "Upgrade Required"
  | 428 => some "Precondition Required"
  | 429 => some "Too Many Requests"
  | 431 => some "Request Header Fields Too Large"
  | 451 => some "Unavailable For Legal Reasons"
  | 500 => some "Internal Server Error"
  | 501 => some "Not Implemented"
  | 502 => some "Bad Gateway"
  | 503 => some "Service Unavailable"
  | 504 => some "Gateway Timeout"
  | 505 => some "HTTP Version Not Supported"
  | 506 => some "Variant Also Negotiates"
  | 507 => some "Insufficient Storage"
  | 508 => some "Loop Detected"
  | 510 => some "Not Extended"
  | 511 => some "Network Authentication Required"
  | _ => none

namespace ErrorDocument

/-- The members of an error document that have been read. -/
structure Draft where
  status : Option String := none
  message : Option String := none
  reason : Option String := none
  code : Option Int := none

/-- Reads an error document. -/
def reader : Reader ErrorDocument :=
  let full := "struct ErrorResponse with 4 elements"
  let text := Reader.string "a string"
  let number := intBetween 0 65535 "u16"
  structured "struct ErrorResponse"
    (do
      let status ← itemAt 0 full text
      let message ← itemAt 1 full text
      let reason ← itemAt 2 full text
      let code ← itemAt 3 full number
      return ⟨status, message, reason, code.toNat⟩)
    (do
      let d ← foldMembers false (fun (d : Draft) name => do
        match name with
        | "status" => return { d with status := ← once name d.status text }
        | "message" => return { d with message := ← once name d.message text }
        | "reason" => return { d with reason := ← once name d.reason text }
        | "code" => return { d with code := ← once name d.code number }
        | _ => ignore; return d) (← bound) true {}
      return ⟨← required "status" d.status, d.message.getD "", d.reason.getD "",
        (← required "code" d.code).toNat⟩)

/-- The error document made up for a status and a body that is none. -/
def ofStatus (status : Nat) (body : String) : ErrorDocument where
  status := s!"{status} " ++ (statusPhrase? status).getD "<unknown status code>"
  message := Text.quoted body
  reason := "Failed to parse error data"
  code := status

/-- The error document of a reply with an error status: its body if that is one, else one made up
from the status. -/
def ofReply (status : Nat) (body : List Char) : ErrorDocument :=
  match readAll reader body with
  | .ok d => d
  | .error _ => ofStatus status (String.ofList body)

/-- The fields of an error document, one after the other. -/
def fields (d : ErrorDocument) : String :=
  "status: " ++ Text.quoted d.status ++ ", message: " ++ Text.quoted d.message ++ ", reason: " ++
    Text.quoted d.reason ++ s!", code: {d.code}"

end ErrorDocument

/-- Why a reply is no list. -/
inductive QueryError where
  | unreachable (problem : String)
  | notText (e : Utf8.Fault)
  | refused (d : ErrorDocument)
  | notList
  deriving DecidableEq, Repr

/-- The text of an error. -/
def QueryError.message : QueryError → String
  | .unreachable problem => "ServiceError: " ++ problem
  | .notText e => "UTF-8 Error: " ++ e.message
  | .refused d =>
    "ApiError: " ++ d.message ++ ": " ++ d.reason ++ " (ErrorResponse \x7b " ++ d.fields ++ " \x7d)"
  | .notList => "Error deserializing response"

/-! ### Lists -/

/-- The metadata of a list, none of which are kept. -/
def listMetadata : Schema :=
  .record [("continue", .text), ("remainingItemCount", .integer), ("resourceVersion", .text),
    ("selfLink", .text)]

/-- Reads a list document.  The items must be there once, and may be `null` for none at all. -/
def listDocument {α : Type} (item : Nat → Reader α) : Reader (List α) := do
  let (_, found) ← objectOf (false, none) fun (seen, found) name => do
    match name, seen, found with
    | "metadata", true, _ | "items", _, some _ => mismatch (.duplicateField name)
    | "metadata", false, _ => do
      colon
      listMetadata.reader (maxDepth - 1)
      return (true, found)
    | "items", _, none => do
      colon
      return (seen, some ((← orNull (listOf (item (maxDepth - 2)))).getD []))
    | _, _, _ => do
      colon
      let _ ← value (maxDepth - 1)
      return (seen, found)
  match found with
  | some items => return items
  | none => mismatch (.missingField "items")

/-- Reads a string that must be the given one. -/
def exactly (s : String) : Reader Unit := do
  let t ← Reader.string "a string"
  if t ≠ s then mismatch (.wrongValue (.string t) s)

/-- One of the conditions that a namespace is in. -/
def namespaceCondition : Schema :=
  .record [("lastTransitionTime", .timestamp), ("message", .text), ("reason", .text),
    ("status", .text), ("type", .text)]

/-- The members of a namespace that are not kept. -/
def namespaceMembers : List (String × Schema) :=
  [("spec", .record [("finalizers", .list .text)]),
    ("status", .record [("conditions", .list namespaceCondition), ("phase", .text)])]

/-- Reads the metadata of a namespace with at most `depth` arrays and objects one inside the
other. -/
def namespaceItem (depth : Nat) : Reader Metadata :=
  objectOf {} fun m name => do
    match name with
    | "apiVersion" => colon; exactly "v1"; return m
    | "kind" => colon; exactly "Namespace"; return m
    | "metadata" => colon; return (← orNull (Metadata.reader (depth - 1))).getD {}
    | _ => Schema.memberReader namespaceMembers name (depth - 1); return m

namespace Reply

/-- Whether a status is an error. -/
def isErrorStatus (status : Nat) : Bool := 400 ≤ status && status ≤ 599

/-- The items of the list that a reply carries. -/
def items? {α : Type} (item : Nat → Reader α) : Reply → Except QueryError (List α)
  | unreachable problem => .error (.unreachable problem)
  | answered status body =>
    match Utf8.decode body with
    | .error e => .error (.notText e)
    | .ok text =>
      if isErrorStatus status then .error (.refused (.ofReply status text))
      else
        match readAll (listDocument item) text with
        | .ok items => .ok items
        | .error _ => .error .notList

/-- The path of the request for namespaces. -/
def namespacesPath : String := "/api/v1/namespaces"

/-- The path of the request for the workloads of a kind. -/
def workloadsPath (k : Kind) : String := "/apis/" ++ k.apiVersion ++ "/" ++ k.plural

/-- Whether a name starts with the given text. -/
def startsWith (start name : String) : Bool := start.toList.isPrefixOf name.toList

/-- The namespaces of which the name starts with `start`. -/
def namespaces (start : String) (r : Reply) : Listing String :=
  match r.items? namespaceItem with
  | .ok items => .ofList ((items.map Metadata.display).filter (startsWith start))
  | .error e => .failed ("could not list namespaces: " ++ e.message)

/-- The objects in namespaces of which the name starts with `start`. -/
def inNamespaces (start : String) (objects : List ClusterObject) : List ClusterObject :=
  objects.filter fun o => o.metadata.home.any (startsWith start)

/-- The tracked workloads of a kind in namespaces of which the name starts with `start`. -/
def workloads (k : Kind) (start : String) (r : Reply) : Listing Record :=
  match r.items? ClusterObject.reader with
  | .ok objects =>
    .ofList (((inNamespaces start objects).filterMap ClusterObject.record?).filter
      (Record.isTracked k))
  | .error (.refused d) =>
    if d.code = 404 then .empty
    else .failed ("could not list " ++ k.display ++ "s: " ++ (QueryError.refused d).message)
  | .error e => .failed ("could not list " ++ k.display ++ "s: " ++ e.message)

/-- What is logged while the workloads of a kind are listed. -/
def workloadsEvents (k : Kind) (start : String) (r : Reply) : List Event :=
  match r.items? ClusterObject.reader with
  | .ok objects => (inNamespaces start objects).flatMap (ClusterObject.recordEvents k)
  | .error (.refused d) => if d.code = 404 then [.kindNotServed k] else []
  | .error _ => []

end Reply

end OutageWatch
