import Heartbeat.Text.Quoted
import Heartbeat.Text.Utf8

/-!
# Failures

Everything a heartbeat passes through may fail: the record that describes itself,
the destination it is written to, the collector it is posted to, the child that
is run.  A failure has a kind and a message.  The kinds fall into three families
that decide who may absorb a failure:

* an *ordinary* failure is one that the delivery of heartbeats has to absorb;
* a *system* failure is an ordinary one that comes from the operating system or
  the network, and absorbing only these is the rule where a file is opened or a
  child is started;
* the rest are requests to stop, and nothing here may swallow them.

The causes that the library itself finds are constructors of `Failure`, so that a
statement can speak of a cause without its wording.  What a collaborator raises
is an `external` failure with whatever kind and message it has.  Where the wording
names a class, there may be room for the beginning of a long name only.
-/

namespace Heartbeat

set_option autoImplicit false

/-! ## Kinds -/

/-- The kind of a failure. -/
inductive FailureKind where
  | general
  | value
  | type
  | missingAttribute
  | index
  | key
  | runtime
  | memory
  | recursion
  | zeroDivision
  | assertion
  | notImplemented
  | exhausted
  | recordEncoding
  | unicodeEncode
  | system
  | fileNotFound
  | fileExists
  | notADirectory
  | isADirectory
  | permission
  | connection
  | brokenPipe
  | timeout
  | interruptedCall
  | transport
  | transportConnection
  | transportTimeout
  | missingSchema
  | invalidSchema
  | invalidUrl
  | keyboardInterrupt
  | systemExit
  | generatorExit
  | base
deriving DecidableEq, Repr

namespace FailureKind

/-- The name of a kind as it stands in messages. -/
def name : FailureKind → String
  | .general => "Exception"
  | .value => "ValueError"
  | .type => "TypeError"
  | .missingAttribute => "AttributeError"
  | .index => "IndexError"
  | .key => "KeyError"
  | .runtime => "RuntimeError"
  | .memory => "MemoryError"
  | .recursion => "RecursionError"
  | .zeroDivision => "ZeroDivisionError"
  | .assertion => "AssertionError"
  | .notImplemented => "NotImplementedError"
  | .exhausted => "StopIteration"
  | .recordEncoding => "RecordEncodingError"
  | .unicodeEncode => "UnicodeEncodeError"
  | .system => "OSError"
  | .fileNotFound => "FileNotFoundError"
  | .fileExists => "FileExistsError"
  | .notADirectory => "NotADirectoryError"
  | .isADirectory => "IsADirectoryError"
  | .permission => "PermissionError"
  | .connection => "ConnectionError"
  | .brokenPipe => "BrokenPipeError"
  | .timeout => "TimeoutError"
  | .interruptedCall => "InterruptedError"
  | .transport => "RequestException"
  | .transportConnection => "ConnectionError"
  | .transportTimeout => "Timeout"
  | .missingSchema => "MissingSchema"
  | .invalidSchema => "InvalidSchema"
  | .invalidUrl => "InvalidURL"
  | .keyboardInterrupt => "KeyboardInterrupt"
  | .systemExit => "SystemExit"
  | .generatorExit => "GeneratorExit"
  | .base => "BaseException"

/-- Failures that may be absorbed, as opposed to requests to stop. -/
def isOrdinary : FailureKind → Bool
  | .keyboardInterrupt | .systemExit | .generatorExit | .base => false
  | _ => true

/-- Failures of the operating system and of the network. -/
def isSystem : FailureKind → Bool
  | .system | .fileNotFound | .fileExists | .notADirectory | .isADirectory | .permission
  | .connection | .brokenPipe | .timeout | .interruptedCall
  | .transport | .transportConnection | .transportTimeout
  | .missingSchema | .invalidSchema | .invalidUrl => true
  | _ => false

/-- Failures of the network stack, whose names are qualified where they are told
apart from those of the operating system. -/
def isTransport : FailureKind → Bool
  | .transport | .transportConnection | .transportTimeout
  | .missingSchema | .invalidSchema | .invalidUrl => true
  | _ => false

/-- A system failure is ordinary. -/
theorem isOrdinary_of_isSystem {kind : FailureKind} (system : kind.isSystem = true) :
    kind.isOrdinary = true := by
  cases kind <;> simp_all [isSystem, isOrdinary]

end FailureKind

/-! ## Offences against the record format -/

/-- Why a value has no JSON form. -/
inductive Offence where
  /-- A value of a class that the format does not know. -/
  | unserializable (className : Text)
  /-- A key that is neither a text nor a number nor a truth value nor nothing. -/
  | badKey (className : Text)
  /-- Not a number, or an infinity, as a value or as a key. -/
  | nonFinite
  /-- An integer with more digits than are written. -/
  | longInteger
  /-- A container inside itself. -/
  | circular
  /-- A container inside too many others. -/
  | tooDeep
deriving DecidableEq

/-- What is said of an integer with too many digits. -/
def longIntegerMessage : String :=
  "Exceeds the limit (4300 digits) for integer string conversion; " ++
    "use sys.set_int_max_str_digits() to increase the limit"

namespace Offence

/-- The kind of failure that an offence is. -/
def kind : Offence → FailureKind
  | .unserializable _ | .badKey _ => .type
  | .nonFinite | .longInteger | .circular => .value
  | .tooDeep => .recursion

/-- The wording of an offence. -/
def message : Offence → Text
  | .unserializable className =>
    ("Object of type " : Text) ++ className ++ " is not JSON serializable"
  | .badKey className =>
    ("keys must be str, int, float, bool or None, not " : Text) ++ className.shortened 100
  | .nonFinite => "Out of range float values are not JSON compliant"
  | .longInteger => longIntegerMessage
  | .circular => "Circular reference detected"
  | .tooDeep => "maximum recursion depth exceeded while encoding a JSON object"

end Offence

/-! ## Faults of the file system -/

/-- What the operating system says about a path. -/
inductive FileFault where
  | notFound
  | alreadyExists
  | notADirectory
  | isADirectory
  | nameTooLong
  | noSpace
  | permissionDenied
  /-- A file that can be executed is neither a program nor says what runs it. -/
  | badFormat
deriving DecidableEq

namespace FileFault

/-- The kind of failure that a fault is. -/
def kind : FileFault → FailureKind
  | .notFound => .fileNotFound
  | .alreadyExists => .fileExists
  | .notADirectory => .notADirectory
  | .isADirectory => .isADirectory
  | .nameTooLong | .noSpace | .badFormat => .system
  | .permissionDenied => .permission

/-- The number and the wording of a fault. -/
def description : FileFault → String
  | .notFound => "[Errno 2] No such file or directory"
  | .alreadyExists => "[Errno 17] File exists"
  | .notADirectory => "[Errno 20] Not a directory"
  | .isADirectory => "[Errno 21] Is a directory"
  | .nameTooLong => "[Errno 36] File name too long"
  | .noSpace => "[Errno 28] No space left on device"
  | .permissionDenied => "[Errno 13] Permission denied"
  | .badFormat => "[Errno 8] Exec format error"

/-- Every fault of the file system is a system failure. -/
theorem isSystem_kind (fault : FileFault) : fault.kind.isSystem = true := by
  cases fault <;> rfl

end FileFault

/-! ## Faults of addresses -/

/-- Why a request cannot be sent to an address. -/
inductive AddressFault where
  /-- It does not say how the collector is spoken to. -/
  | noScheme (address : Text)
  /-- It does not say where the collector is. -/
  | noHost (address : Text)
  /-- It cannot be taken apart. -/
  | unreadable (address : Text)
  /-- Its host has a blank or a control in it. -/
  | badPoint (host : Text) (point : CodePoint)
  /-- Its host begins with a point or a star, or has no form in ASCII. -/
  | badLabel
  /-- There is no way to speak to it. -/
  | unreachable (address : Text)
  /-- Of the two brackets around a numeric host there is only one. -/
  | halfBracketed
  /-- What stands between the brackets is no numeric host. -/
  | notNumeric (host : Text)
  /-- What stands between the brackets is a numeric host of the fourth version. -/
  | bracketedFour
deriving DecidableEq

namespace AddressFault

/-- The kind of failure that a fault is. -/
def kind : AddressFault → FailureKind
  | .noScheme _ => .missingSchema
  | .noHost _ | .unreadable _ | .badPoint .. | .badLabel => .invalidUrl
  | .unreachable _ => .invalidSchema
  | .halfBracketed | .notNumeric _ | .bracketedFour => .value

/-- The wording of a fault. -/
def message : AddressFault → Text
  | .noScheme address =>
    ("Invalid URL " : Text) ++ address.quoted ++ ": No scheme supplied. Perhaps you meant https://"
      ++ address ++ "?"
  | .noHost address => ("Invalid URL " : Text) ++ address.quoted ++ ": No host supplied"
  | .unreadable address => ("Failed to parse: " : Text) ++ address
  | .badPoint host point =>
    ("Failed to parse: Host " : Text) ++ host.quoted ++ " contains invalid character "
      ++ Text.quoted [point]
  | .badLabel => "URL has an invalid label."
  | .unreachable address => ("No connection adapters were found for " : Text) ++ address.quoted
  | .halfBracketed => "Invalid IPv6 URL"
  | .notNumeric host => host.quoted ++ " does not appear to be an IPv4 or IPv6 address"
  | .bracketedFour => "An IPv4 address cannot be in brackets"

end AddressFault

/-! ## Failures -/

/-- A failure, by its cause. -/
inductive Failure where
  /-- Raised by a collaborator. -/
  | external (kind : FailureKind) (message : Text)
  /-- Raised by a collaborator with a message that cannot be shown, and what stands in
  the way of showing it. -/
  | unshowable (kind : FailureKind) (obstacle : Failure)
  /-- A value without JSON form. -/
  | unwritable (offence : Offence)
  /-- A record that cannot be encoded, with what stood in the way. -/
  | encoding (cause : FailureKind) (message : Text)
  /-- A text that has surrogates and therefore no bytes. -/
  | surrogates (run : SurrogateRun)
  /-- A value that is no outcome, as it is shown. -/
  | invalidStatus (shown : Text)
  /-- A value too deep to be shown. -/
  | tooDeepToShow
  /-- An integer too long to be shown. -/
  | longInteger
  /-- A comparison between values of two classes that have no order. -/
  | unordered (operator left right : Text)
  /-- An attribute that objects of a class do not have. -/
  | missingAttribute (className name : Text)
  /-- A key that a dictionary does not have, as it is shown. -/
  | missingKey (shown : Text)
  /-- Nothing to run. -/
  | noCommand
  /-- A buffer that was closed is written to. -/
  | closedBuffer
  /-- A file that was closed is written to. -/
  | closedFile
  /-- A timeout that is not positive, as it is shown. -/
  | nonPositiveTimeout (shown : Text)
  /-- A fault of the file system at a path. -/
  | file (fault : FileFault) (path : Text)
  /-- A fault of the file system that keeps a program from being started, the name of the
  program being shown. -/
  | notStarted (fault : FileFault) (shown : Text)
  /-- An address that no request can be sent to. -/
  | address (fault : AddressFault)
  /-- A device that takes no more bytes. -/
  | deviceFull
  /-- A home directory that cannot be found. -/
  | homeless
  /-- A path or an argument with a zero in it. -/
  | embeddedNull
  /-- A text that is the name of no level. -/
  | unknownLevel (name : Text)
  /-- A value that is no level at all, as it is shown. -/
  | invalidLevel (shown : Text)
  /-- A value that cannot be gone through item by item. -/
  | notIterable (className : Text)
  /-- A value that can be no argument of a child. -/
  | notAnArgument (className : Text)
deriving DecidableEq

namespace SurrogateRun

/-- What is said of a run of surrogates. -/
def message (run : SurrogateRun) : Text :=
  let place : Text :=
    if run.start = run.stop then
      ("character '\\u" : Text) ++ Text.hexadecimal 4 run.first.val ++ "' in position "
        ++ Text.ofNat run.start
    else ("characters in position " : Text) ++ Text.ofNat run.start ++ "-" ++ Text.ofNat run.stop
  ("'utf-8' codec can't encode " : Text) ++ place ++ ": surrogates not allowed"

end SurrogateRun

namespace Failure

/-- The kind of a failure. -/
def kind : Failure → FailureKind
  | .external kind _ => kind
  | .unshowable kind _ => kind
  | .unwritable offence => offence.kind
  | .encoding .. => .recordEncoding
  | .surrogates _ => .unicodeEncode
  | .invalidStatus _ | .longInteger | .noCommand | .closedBuffer | .closedFile
  | .nonPositiveTimeout _ | .embeddedNull | .unknownLevel _ => .value
  | .tooDeepToShow => .recursion
  | .unordered .. | .invalidLevel _ | .notIterable _ | .notAnArgument _ => .type
  | .missingAttribute .. => .missingAttribute
  | .missingKey _ => .key
  | .file fault _ => fault.kind
  | .notStarted fault _ => fault.kind
  | .address fault => fault.kind
  | .deviceFull => .system
  | .homeless => .runtime

/-- The wording of a failure. -/
def message : Failure → Text
  | .external _ message => message
  | .unshowable _ obstacle => obstacle.message
  | .unwritable offence => offence.message
  | .encoding cause message => (cause.name : Text) ++ ": " ++ message
  | .surrogates run => run.message
  | .invalidStatus shown => shown ++ " is not a valid CommandStatus"
  | .tooDeepToShow => "maximum recursion depth exceeded while getting the repr of an object"
  | .longInteger => longIntegerMessage
  | .unordered operator left right =>
    ("'" : Text) ++ operator ++ "' not supported between instances of '" ++ left.shortened 100
      ++ "' and '" ++ right.shortened 100 ++ "'"
  | .missingAttribute className name =>
    ("'" : Text) ++ className.shortened 50 ++ "' object has no attribute '" ++ name ++ "'"
  | .missingKey shown => shown
  | .noCommand => "No command given to track"
  | .closedBuffer => "I/O operation on closed file."
  | .closedFile => "write to closed file"
  | .nonPositiveTimeout shown => ("timeout_seconds must be positive, got " : Text) ++ shown
  | .file fault path => (fault.description : Text) ++ ": " ++ path.quoted
  | .notStarted fault shown => (fault.description : Text) ++ ": " ++ shown
  | .address fault => fault.message
  | .deviceFull => FileFault.noSpace.description
  | .homeless => "Could not determine home directory."
  | .embeddedNull => "embedded null byte"
  | .unknownLevel name => ("Unknown level: " : Text) ++ name.quoted
  | .invalidLevel shown => ("Level not an integer or a valid string: " : Text) ++ shown
  | .notIterable className => ("'" : Text) ++ className.shortened 200 ++ "' object is not iterable"
  | .notAnArgument className =>
    ("expected str, bytes or os.PathLike object, not " : Text) ++ className.shortened 200

/-- The wording of a failure where it has to be put into words; a failure that cannot
be shown fails in its turn. -/
def words : Failure → Except Failure Text
  | .unshowable _ obstacle => .error obstacle
  | failure => .ok failure.message

/-- Whether a failure may be absorbed. -/
def isOrdinary (failure : Failure) : Bool := failure.kind.isOrdinary

/-- Whether a failure comes from the operating system or the network. -/
def isSystem (failure : Failure) : Bool := failure.kind.isSystem

/-- Whether a failure says that a record cannot be encoded. -/
def isEncoding (failure : Failure) : Bool := decide (failure.kind = .recordEncoding)

end Failure

end Heartbeat
