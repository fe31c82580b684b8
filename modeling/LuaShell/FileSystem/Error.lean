import LuaShell.Text.Quoted

/-!
# Failures of the system

What a call into the file system answers when it does not do its work: a numbered
cause of the system itself, or one of the few causes that are found before the
system is asked.
-/

namespace LuaShell

/-- A numbered cause of the system. -/
abbrev Errno := Int

namespace Errno

def noEntry : Errno := 2
def badFormat : Errno := 8
def badDescriptor : Errno := 9
def again : Errno := 11
def accessDenied : Errno := 13
def busy : Errno := 16
def fileExists : Errno := 17
def notDirectory : Errno := 20
def isDirectory : Errno := 21
def invalid : Errno := 22
def illegalSeek : Errno := 29
def nameTooLong : Errno := 36
def notEmpty : Errno := 39
def tooManyLinks : Errno := 40

/-- The texts of the causes, from number zero on; those of the gaps say so themselves. -/
def texts : List String :=
   ["Success", "Operation not permitted", "No such file or directory", "No such process",
    "Interrupted system call", "Input/output error", "No such device or address",
    "Argument list too long", "Exec format error", "Bad file descriptor", "No child processes",
    "Resource temporarily unavailable", "Cannot allocate memory", "Permission denied",
    "Bad address", "Block device required", "Device or resource busy", "File exists",
    "Invalid cross-device link", "No such device", "Not a directory", "Is a directory",
    "Invalid argument", "Too many open files in system", "Too many open files",
    "Inappropriate ioctl for device", "Text file busy", "File too large",
    "No space left on device", "Illegal seek", "Read-only file system", "Too many links",
    "Broken pipe", "Numerical argument out of domain", "Numerical result out of range",
    "Resource deadlock avoided", "File name too long", "No locks available",
    "Function not implemented", "Directory not empty", "Too many levels of symbolic links",
    "Unknown error 41", "No message of desired type", "Identifier removed",
    "Channel number out of range", "Level 2 not synchronized", "Level 3 halted", "Level 3 reset",
    "Link number out of range", "Protocol driver not attached", "No CSI structure available",
    "Level 2 halted", "Invalid exchange", "Invalid request descriptor", "Exchange full",
    "No anode", "Invalid request code", "Invalid slot", "Unknown error 58",
    "Bad font file format", "Device not a stream", "No data available", "Timer expired",
    "Out of streams resources", "Machine is not on the network", "Package not installed",
    "Object is remote", "Link has been severed", "Advertise error", "Srmount error",
    "Communication error on send", "Protocol error", "Multihop attempted", "RFS specific error",
    "Bad message", "Value too large for defined data type", "Name not unique on network",
    "File descriptor in bad state", "Remote address changed",
    "Can not access a needed shared library", "Accessing a corrupted shared library",
    ".lib section in a.out corrupted", "Attempting to link in too many shared libraries",
    "Cannot exec a shared library directly", "Invalid or incomplete multibyte or wide character",
    "Interrupted system call should be restarted", "Streams pipe error", "Too many users",
    "Socket operation on non-socket", "Destination address required", "Message too long",
    "Protocol wrong type for socket", "Protocol not available", "Protocol not supported",
    "Socket type not supported", "Operation not supported", "Protocol family not supported",
    "Address family not supported by protocol", "Address already in use",
    "Cannot assign requested address", "Network is down", "Network is unreachable",
    "Network dropped connection on reset", "Software caused connection abort",
    "Connection reset by peer", "No buffer space available",
    "Transport endpoint is already connected", "Transport endpoint is not connected",
    "Cannot send after transport endpoint shutdown", "Too many references: cannot splice",
    "Connection timed out", "Connection refused", "Host is down", "No route to host",
    "Operation already in progress", "Operation now in progress", "Stale file handle",
    "Structure needs cleaning", "Not a XENIX named type file", "No XENIX semaphores available",
    "Is a named type file", "Remote I/O error", "Disk quota exceeded", "No medium found",
    "Wrong medium type", "Operation canceled", "Required key not available", "Key has expired",
    "Key has been revoked", "Key was rejected by service", "Owner died", "State not recoverable",
    "Operation not possible due to RF-kill", "Memory page has hardware error"]

/-- The text of a cause. -/
def text (e : Errno) : String :=
  match e with
  | .ofNat n => (texts[n]?).getD s!"Unknown error {n}"
  | .negSucc _ => s!"Unknown error {e}"

/-- The kind that a cause belongs to, as traces show it. -/
def kind (e : Errno) : String :=
  match e with
  | 1 => "PermissionDenied"
  | 2 => "NotFound"
  | 4 => "Interrupted"
  | 7 => "ArgumentListTooLong"
  | 11 => "WouldBlock"
  | 12 => "OutOfMemory"
  | 13 => "PermissionDenied"
  | 16 => "ResourceBusy"
  | 17 => "AlreadyExists"
  | 18 => "CrossesDevices"
  | 20 => "NotADirectory"
  | 21 => "IsADirectory"
  | 22 => "InvalidInput"
  | 26 => "ExecutableFileBusy"
  | 27 => "FileTooLarge"
  | 28 => "StorageFull"
  | 30 => "ReadOnlyFilesystem"
  | 31 => "TooManyLinks"
  | 36 => "InvalidFilename"
  | 38 => "Unsupported"
  | 39 => "DirectoryNotEmpty"
  | 40 => "FilesystemLoop"
  | _ => "Uncategorized"

end Errno

/-- Why a call failed. -/
inductive IoError where
  /-- The system refused. -/
  | system (cause : Errno)
  /-- A path holds a zero byte, which no name can. -/
  | zeroInPath
  /-- A file that had to be text is not. -/
  | notText
  /-- Only regular files have bytes to copy. -/
  | notRegular
  | notFound
  | alreadyExists
  | invalidData
  | other (text : String)
  deriving DecidableEq

namespace IoError

/-- The wording of a failure. -/
def message : IoError → String
  | .system cause => s!"{cause.text} (os error {cause})"
  | .zeroInPath => "file name contained an unexpected NUL byte"
  | .notText => "stream did not contain valid UTF-8"
  | .notRegular => "the source path is neither a regular file nor a symlink to a regular file"
  | .notFound => "entity not found"
  | .alreadyExists => "entity already exists"
  | .invalidData => "invalid data"
  | .other text => text

/-- A failure in full, for traces. -/
def detail : IoError → String
  | .system cause =>
      s!"Os \x7b code: {cause}, kind: {cause.kind}, message: {Text.quote cause.text} \x7d"
  | .zeroInPath => fixed "InvalidInput" zeroInPath.message
  | .notText => fixed "InvalidData" notText.message
  | .notRegular => fixed "InvalidInput" notRegular.message
  | .notFound => "Kind(NotFound)"
  | .alreadyExists => "Kind(AlreadyExists)"
  | .invalidData => "Kind(InvalidData)"
  | .other text => s!"Custom \x7b kind: Other, error: {Text.quote text} \x7d"
where
  /-- A failure with a wording of its own. -/
  fixed (kind text : String) : String :=
    s!"Error \x7b kind: {kind}, message: {Text.quote text} \x7d"

/-- Whether the failure says that a name is taken. -/
def isAlreadyExists (e : IoError) : Bool :=
  e = .system Errno.fileExists || e = .alreadyExists

end IoError

end LuaShell
