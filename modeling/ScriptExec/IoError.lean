-- SUMMARY: Failures of system calls and their messages.

/-!
# Input and output errors

An operation fails with an error number of the system, with one of a few general kinds, or with a
kind and a text of its own. The message of an error number names the number too.
-/

namespace ScriptExec

/-- The general reasons for a failure. -/
inductive IoError.Kind
  | addrInUse | addrNotAvailable | alreadyExists | argumentListTooLong | brokenPipe
  | connectionAborted | connectionRefused | connectionReset | crossesDevices | deadlock
  | directoryNotEmpty | executableFileBusy | fileTooLarge | hostUnreachable | interrupted
  | invalidData | invalidFilename | invalidInput | isADirectory | networkDown | networkUnreachable
  | notADirectory | notConnected | notFound | notSeekable | other | outOfMemory | permissionDenied
  | quotaExceeded | readOnlyFilesystem | resourceBusy | staleNetworkFileHandle | storageFull
  | timedOut | tooManyLinks | unexpectedEof | unsupported | wouldBlock | writeZero
  deriving DecidableEq, Repr

/-- The text of an error that is known by its kind alone. -/
def IoError.Kind.message : IoError.Kind → String
  | .addrInUse => "address in use"
  | .addrNotAvailable => "address not available"
  | .alreadyExists => "entity already exists"
  | .argumentListTooLong => "argument list too long"
  | .brokenPipe => "broken pipe"
  | .connectionAborted => "connection aborted"
  | .connectionRefused => "connection refused"
  | .connectionReset => "connection reset"
  | .crossesDevices => "cross-device link or rename"
  | .deadlock => "deadlock"
  | .directoryNotEmpty => "directory not empty"
  | .executableFileBusy => "executable file busy"
  | .fileTooLarge => "file too large"
  | .hostUnreachable => "host unreachable"
  | .interrupted => "operation interrupted"
  | .invalidData => "invalid data"
  | .invalidFilename => "invalid filename"
  | .invalidInput => "invalid input parameter"
  | .isADirectory => "is a directory"
  | .networkDown => "network down"
  | .networkUnreachable => "network unreachable"
  | .notADirectory => "not a directory"
  | .notConnected => "not connected"
  | .notFound => "entity not found"
  | .notSeekable => "seek on unseekable file"
  | .other => "other error"
  | .outOfMemory => "out of memory"
  | .permissionDenied => "permission denied"
  | .quotaExceeded => "quota exceeded"
  | .readOnlyFilesystem => "read-only filesystem or storage medium"
  | .resourceBusy => "resource busy"
  | .staleNetworkFileHandle => "stale network file handle"
  | .storageFull => "no storage space"
  | .timedOut => "timed out"
  | .tooManyLinks => "too many links"
  | .unexpectedEof => "unexpected end of file"
  | .unsupported => "unsupported"
  | .wouldBlock => "operation would block"
  | .writeZero => "write zero"

inductive IoError
  /-- An error number of the system. -/
  | os (code : Int)
  /-- A kind without further detail. -/
  | simple (kind : IoError.Kind)
  /-- A kind with a text of its own. -/
  | custom (kind : IoError.Kind) (text : String)
  deriving DecidableEq, Repr

namespace IoError

/-! ## Error numbers -/

def notPermitted : IoError := .os 1
def noEntry : IoError := .os 2
def argumentsTooLong : IoError := .os 7
def notExecutable : IoError := .os 8
def badDescriptor : IoError := .os 9
def accessDenied : IoError := .os 13
def busy : IoError := .os 16
def exists_ : IoError := .os 17
def notDirectory : IoError := .os 20
def isDirectory : IoError := .os 21
def invalidArgument : IoError := .os 22
def tooManyFiles : IoError := .os 24
def textFileBusy : IoError := .os 26
def noSpace : IoError := .os 28
def illegalSeek : IoError := .os 29
def nameTooLong : IoError := .os 36
def notEmpty : IoError := .os 39
def tooManyLinks : IoError := .os 40

/-- A path that holds a NUL byte never reaches the system. -/
def nulInPath : IoError := .custom .invalidInput "file name contained an unexpected NUL byte"

/-- An argument that holds a NUL byte never reaches the system. -/
def nulInArgument : IoError := .custom .invalidInput "nul byte found in provided data"

/-- What the system calls each of its error numbers, from 0 on; the empty text stands for a number
that is not in use. -/
def systemNames : List String :=
  ["Success", "Operation not permitted", "No such file or directory", "No such process",
   "Interrupted system call", "Input/output error", "No such device or address",
   "Argument list too long", "Exec format error", "Bad file descriptor", "No child processes",
   "Resource temporarily unavailable", "Cannot allocate memory", "Permission denied",
   "Bad address", "Block device required", "Device or resource busy", "File exists",
   "Invalid cross-device link", "No such device", "Not a directory", "Is a directory",
   "Invalid argument", "Too many open files in system", "Too many open files",
   "Inappropriate ioctl for device", "Text file busy", "File too large",
   "No space left on device", "Illegal seek", "Read-only file system", "Too many links",
   "Broken pipe", "Numerical argument out of domain", "Numerical result out of range",
   "Resource deadlock avoided", "File name too long", "No locks available",
   "Function not implemented", "Directory not empty", "Too many levels of symbolic links", "",
   "No message of desired type", "Identifier removed", "Channel number out of range",
   "Level 2 not synchronized", "Level 3 halted", "Level 3 reset", "Link number out of range",
   "Protocol driver not attached", "No CSI structure available", "Level 2 halted",
   "Invalid exchange", "Invalid request descriptor", "Exchange full", "No anode",
   "Invalid request code", "Invalid slot", "", "Bad font file format", "Device not a stream",
   "No data available", "Timer expired", "Out of streams resources",
   "Machine is not on the network", "Package not installed", "Object is remote",
   "Link has been severed", "Advertise error", "Srmount error", "Communication error on send",
   "Protocol error", "Multihop attempted", "RFS specific error", "Bad message",
   "Value too large for defined data type", "Name not unique on network",
   "File descriptor in bad state", "Remote address changed",
   "Can not access a needed shared library", "Accessing a corrupted shared library",
   ".lib section in a.out corrupted", "Attempting to link in too many shared libraries",
   "Cannot exec a shared library directly",
   "Invalid or incomplete multibyte or wide character",
   "Interrupted system call should be restarted", "Streams pipe error", "Too many users",
   "Socket operation on non-socket", "Destination address required", "Message too long",
   "Protocol wrong type for socket", "Protocol not available", "Protocol not supported",
   "Socket type not supported", "Operation not supported", "Protocol family not supported",
   "Address family not supported by protocol", "Address already in use",
   "Cannot assign requested address", "Network is down", "Network is unreachable",
   "Network dropped connection on reset", "Software caused connection abort",
   "Connection reset by peer", "No buffer space available",
   "Transport endpoint is already connected", "Transport endpoint is not connected",
   "Cannot send after transport endpoint shutdown", "Too many references: cannot splice",
   "Connection timed out", "Connection refused", "Host is down", "No route to host",
   "Operation already in progress", "Operation now in progress", "Stale file handle",
   "Structure needs cleaning", "Not a XENIX named type file", "No XENIX semaphores available",
   "Is a named type file", "Remote I/O error", "Disk quota exceeded", "No medium found",
   "Wrong medium type", "Operation canceled", "Required key not available", "Key has expired",
   "Key has been revoked", "Key was rejected by service", "Owner died", "State not recoverable",
   "Operation not possible due to RF-kill", "Memory page has hardware error"]

/-- The system's name of an error number. -/
def systemName (code : Int) : String :=
  match code with
  | .ofNat n =>
    match systemNames[n]? with
    | some name => if name.isEmpty then s!"Unknown error {n}" else name
    | none => s!"Unknown error {n}"
  | .negSucc n => s!"Unknown error -{n + 1}"

/-- The text of an error as it stands in messages. -/
def message : IoError → String
  | .os code => s!"{systemName code} (os error {code})"
  | .simple kind => kind.message
  | .custom _ text => text

/-- Whether the operation was only interrupted by a signal, so that it can be tried again. -/
def isInterrupted : IoError → Bool
  | .os code => code == 4
  | .simple kind => kind == .interrupted
  | .custom kind _ => kind == .interrupted

end IoError

end ScriptExec
