import MeshDiscovery.Text.Quoted

namespace MeshDiscovery

inductive StatusCode where
  | ok
  | cancelled
  | unknown
  | invalidArgument
  | deadlineExceeded
  | notFound
  | alreadyExists
  | permissionDenied
  | resourceExhausted
  | failedPrecondition
  | aborted
  | outOfRange
  | unimplemented
  | internal
  | unavailable
  | dataLoss
  | unauthenticated
  deriving DecidableEq, Repr, Inhabited

namespace StatusCode

def all : List StatusCode :=
  [ok, cancelled, unknown, invalidArgument, deadlineExceeded, notFound, alreadyExists,
    permissionDenied, resourceExhausted, failedPrecondition, aborted, outOfRange, unimplemented,
    internal, unavailable, dataLoss, unauthenticated]

/-- The code of a number; numbers without a code are unknown. -/
def ofNumber (number : Int) : StatusCode :=
  if number < 0 then unknown else all.getD number.toNat unknown

def name : StatusCode → String
  | ok => "Ok"
  | cancelled => "Cancelled"
  | unknown => "Unknown"
  | invalidArgument => "InvalidArgument"
  | deadlineExceeded => "DeadlineExceeded"
  | notFound => "NotFound"
  | alreadyExists => "AlreadyExists"
  | permissionDenied => "PermissionDenied"
  | resourceExhausted => "ResourceExhausted"
  | failedPrecondition => "FailedPrecondition"
  | aborted => "Aborted"
  | outOfRange => "OutOfRange"
  | unimplemented => "Unimplemented"
  | internal => "Internal"
  | unavailable => "Unavailable"
  | dataLoss => "DataLoss"
  | unauthenticated => "Unauthenticated"

end StatusCode

/-- The failure of a stream, by where it comes from. -/
inductive Status where
  /-- Reported with a code and a message. -/
  | reported (code : StatusCode) (message : String)
  /-- An error of input or output. -/
  | io (text : String)
  /-- Another error that an error of input or output has caused. -/
  | nestedIo (text : String)
  /-- An error of the HTTP/2 connection, with its reason. -/
  | http2 (reason : Nat)
  deriving DecidableEq, Repr

namespace Status

/-- What a reason of an HTTP/2 error means. -/
def reasonText : Nat → String
  | 0 => "not a result of an error"
  | 1 => "unspecific protocol error detected"
  | 2 => "unexpected internal error encountered"
  | 3 => "flow-control protocol violated"
  | 4 => "settings ACK not received in timely manner"
  | 5 => "received frame when stream half-closed"
  | 6 => "frame with invalid size"
  | 7 => "refused stream before processing any application logic"
  | 8 => "stream no longer needed"
  | 9 => "unable to maintain the header compression context"
  | 10 => "connection established in response to a CONNECT request was reset or abnormally closed"
  | 11 => "detected excessive load generating behavior"
  | 12 => "security properties do not meet minimum requirements"
  | 13 => "endpoint requires HTTP/1.1"
  | _ => "unknown reason"

/-- The status code of a reason of an HTTP/2 error. -/
def reasonCode : Nat → StatusCode
  | 0 | 1 | 2 | 3 | 4 | 9 | 10 => .internal
  | 7 => .unavailable
  | 8 => .cancelled
  | 11 => .resourceExhausted
  | 12 => .permissionDenied
  | _ => .unknown

def code : Status → StatusCode
  | reported code _ => code
  | io _ | nestedIo _ => .unknown
  | http2 reason => reasonCode reason

def message : Status → String
  | reported _ message => message
  | io text => text
  | nestedIo _ => "wrapped error"
  | http2 reason => "h2 protocol error: protocol error: " ++ reasonText reason

/-- The text of the error of input or output behind a failure, if there is one. -/
def ioText? : Status → Option String
  | io text | nestedIo text => some text
  | reported .. | http2 _ => none

def render (status : Status) : String :=
  "status: " ++ status.code.name ++ ", message: " ++ Text.quote status.message
    ++ ", details: [], metadata: MetadataMap \x7b headers: \x7b\x7d \x7d"

end Status

end MeshDiscovery
