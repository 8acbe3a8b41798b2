import WdmNet.Failure
/-!
Status codes of the control service.

Every answer of the control service carries one of the standard remote-call status codes.
A failed operation is answered with the code its kind calls for: a missing object is
`NotFound`, a malformed request or configuration `InvalidArgument`, an operation that the
current state forbids `FailedPrecondition`, an object that exists already `AlreadyExists`,
and anything else `Internal`. The groups are tried in that order, so a failure of several
kinds takes the code of the first group that one of its kinds belongs to.
-/

namespace WdmNet.Control

/-- The status codes of a remote call. -/
inductive Code where
  | ok
  | canceled
  | unknown
  | invalidArgument
  | deadlineExceeded
  | notFound
  | alreadyExists
  | permissionDenied
  | resourceExhausted
  | failedPrecondition
  | aborted
  | outOfRange
  | unimplemented
  | internal
  | unavailable
  | dataLoss
  | unauthenticated
  deriving DecidableEq, Repr, Inhabited

namespace Code

/-- Every code, by number. -/
def all : List Code :=
  [ok, canceled, unknown, invalidArgument, deadlineExceeded, notFound, alreadyExists,
   permissionDenied, resourceExhausted, failedPrecondition, aborted, outOfRange, unimplemented,
   internal, unavailable, dataLoss, unauthenticated]

/-- The name of a code. -/
def name : Code → String
  | ok => "OK"
  | canceled => "Canceled"
  | unknown => "Unknown"
  | invalidArgument => "InvalidArgument"
  | deadlineExceeded => "DeadlineExceeded"
  | notFound => "NotFound"
  | alreadyExists => "AlreadyExists"
  | permissionDenied => "PermissionDenied"
  | resourceExhausted => "ResourceExhausted"
  | failedPrecondition => "FailedPrecondition"
  | aborted => "Aborted"
  | outOfRange => "OutOfRange"
  | unimplemented => "Unimplemented"
  | internal => "Internal"
  | unavailable => "Unavailable"
  | dataLoss => "DataLoss"
  | unauthenticated => "Unauthenticated"

/-- The code of this name; `Unknown` for a name that is no code. -/
def ofName (s : String) : Code := (all.find? (·.name == s)).getD unknown

/-- The number of a code. -/
def number (c : Code) : Nat := (all.findIdx? (· == c)).getD 2

end Code

/-- The groups of kinds with their codes, in the order they are tried. -/
def kindGroups : List (List Kind × Code) :=
  [([.nodeNotFound, .amplifierNotFound, .linkNotFound, .switchRuleNotFound,
     .transceiverNotFound], .notFound),
   ([.invalidRequest, .invalidConfig, .invalidPort, .invalidChannel, .unknownMonitor,
     .invalidDescription], .invalidArgument),
   ([.switchRuleConflict, .transceiverBusy, .channelBound, .noTransmitters, .portNotConnected,
     .portInUse, .amplifierInUse, .routingLoop, .propagationLimit], .failedPrecondition),
   ([.nodeExists, .amplifierExists, .linkExists, .switchRuleExists], .alreadyExists)]

/-- The code a failure is answered with. -/
def codeOf (e : Failure) : Code :=
  match kindGroups.find? fun (ks, _) => ks.any e.is with
  | some (_, c) => c
  | none => .internal

/-- A status: a code and a message. -/
structure Status where
  code : Code
  message : String
  deriving Repr, Inhabited

/-- The status that answers a failure: its code and its message. -/
def Status.ofFailure (e : Failure) : Status := ⟨codeOf e, e.message⟩

end WdmNet.Control
