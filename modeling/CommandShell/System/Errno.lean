/-!
# Error numbers of the operating system

A failed system call is known by a number. This file holds the numbers, their symbols, and the
two texts a number is shown with: `Errno.text`, the C library's wording, which file operations
quote, and `Errno.describe`, the kernel's own wording, which process operations and failing
children quote. The two agree on most numbers; `kernelWording` lists those on which they differ.
-/

namespace CommandShell

/-- The number of an operating-system error. -/
structure Errno where
  code : Int
  deriving DecidableEq, Repr, Inhabited

namespace Errno

/-! ## The numbers the shell and its children meet by name -/

def EPERM : Errno := ⟨1⟩
def ENOENT : Errno := ⟨2⟩
def EINTR : Errno := ⟨4⟩
/-- The device reported a failure (`EIO` in the table). -/
def deviceFailure : Errno := ⟨5⟩
/-- There is no device behind a special file (number 6 in the table). -/
def deviceMissing : Errno := ⟨6⟩
def E2BIG : Errno := ⟨7⟩
def ENOEXEC : Errno := ⟨8⟩
def EBADF : Errno := ⟨9⟩
def ECHILD : Errno := ⟨10⟩
def EAGAIN : Errno := ⟨11⟩
def EACCES : Errno := ⟨13⟩
def EBUSY : Errno := ⟨16⟩
def EEXIST : Errno := ⟨17⟩
def ENOTDIR : Errno := ⟨20⟩
def EISDIR : Errno := ⟨21⟩
def EINVAL : Errno := ⟨22⟩
def EMFILE : Errno := ⟨24⟩
def ENOTTY : Errno := ⟨25⟩
def ETXTBSY : Errno := ⟨26⟩
def ENOSPC : Errno := ⟨28⟩
def ESPIPE : Errno := ⟨29⟩
def EPIPE : Errno := ⟨32⟩
def ESRCH : Errno := ⟨3⟩
def ENAMETOOLONG : Errno := ⟨36⟩
def ENOTEMPTY : Errno := ⟨39⟩
def ELOOP : Errno := ⟨40⟩

/-! ## Symbols and wordings -/

/-- Number, symbol and library wording of every error, in ascending order. The numbers 41 and 58
have never been given out. -/
def table : List (Int × String × String) :=
  [
   (1, "EPERM", "Operation not permitted"),
   (2, "ENOENT", "No such file or directory"),
   (3, "ESRCH", "No such process"),
   (4, "EINTR", "Interrupted system call"),
   (5, "EIO", "Input/output error"),
   (6, "ENXIO", "No such device or address"),
   (7, "E2BIG", "Argument list too long"),
   (8, "ENOEXEC", "Exec format error"),
   (9, "EBADF", "Bad file descriptor"),
   (10, "ECHILD", "No child processes"),
   (11, "EAGAIN", "Resource temporarily unavailable"),
   (12, "ENOMEM", "Cannot allocate memory"),
   (13, "EACCES", "Permission denied"),
   (14, "EFAULT", "Bad address"),
   (15, "ENOTBLK", "Block device required"),
   (16, "EBUSY", "Device or resource busy"),
   (17, "EEXIST", "File exists"),
   (18, "EXDEV", "Invalid cross-device link"),
   (19, "ENODEV", "No such device"),
   (20, "ENOTDIR", "Not a directory"),
   (21, "EISDIR", "Is a directory"),
   (22, "EINVAL", "Invalid argument"),
   (23, "ENFILE", "Too many open files in system"),
   (24, "EMFILE", "Too many open files"),
   (25, "ENOTTY", "Inappropriate ioctl for device"),
   (26, "ETXTBSY", "Text file busy"),
   (27, "EFBIG", "File too large"),
   (28, "ENOSPC", "No space left on device"),
   (29, "ESPIPE", "Illegal seek"),
   (30, "EROFS", "Read-only file system"),
   (31, "EMLINK", "Too many links"),
   (32, "EPIPE", "Broken pipe"),
   (33, "EDOM", "Numerical argument out of domain"),
   (34, "ERANGE", "Numerical result out of range"),
   (35, "EDEADLK", "Resource deadlock avoided"),
   (36, "ENAMETOOLONG", "File name too long"),
   (37, "ENOLCK", "No locks available"),
   (38, "ENOSYS", "Function not implemented"),
   (39, "ENOTEMPTY", "Directory not empty"),
   (40, "ELOOP", "Too many levels of symbolic links"),
   (42, "ENOMSG", "No message of desired type"),
   (43, "EIDRM", "Identifier removed"),
   (44, "ECHRNG", "Channel number out of range"),
   (45, "EL2NSYNC", "Level 2 not synchronized"),
   (46, "EL3HLT", "Level 3 halted"),
   (47, "EL3RST", "Level 3 reset"),
   (48, "ELNRNG", "Link number out of range"),
   (49, "EUNATCH", "Protocol driver not attached"),
   (50, "ENOCSI", "No CSI structure available"),
   (51, "EL2HLT", "Level 2 halted"),
   (52, "EBADE", "Invalid exchange"),
   (53, "EBADR", "Invalid request descriptor"),
   (54, "EXFULL", "Exchange full"),
   (55, "ENOANO", "No anode"),
   (56, "EBADRQC", "Invalid request code"),
   (57, "EBADSLT", "Invalid slot"),
   (59, "EBFONT", "Bad font file format"),
   (60, "ENOSTR", "Device not a stream"),
   (61, "ENODATA", "No data available"),
   (62, "ETIME", "Timer expired"),
   (63, "ENOSR", "Out of streams resources"),
   (64, "ENONET", "Machine is not on the network"),
   (65, "ENOPKG", "Package not installed"),
   (66, "EREMOTE", "Object is remote"),
   (67, "ENOLINK", "Link has been severed"),
   (68, "EADV", "Advertise error"),
   (69, "ESRMNT", "Srmount error"),
   (70, "ECOMM", "Communication error on send"),
   (71, "EPROTO", "Protocol error"),
   (72, "EMULTIHOP", "Multihop attempted"),
   (73, "EDOTDOT", "RFS specific error"),
   (74, "EBADMSG", "Bad message"),
   (75, "EOVERFLOW", "Value too large for defined data type"),
   (76, "ENOTUNIQ", "Name not unique on network"),
   (77, "EBADFD", "File descriptor in bad state"),
   (78, "EREMCHG", "Remote address changed"),
   (79, "ELIBACC", "Can not access a needed shared library"),
   (80, "ELIBBAD", "Accessing a corrupted shared library"),
   (81, "ELIBSCN", ".lib section in a.out corrupted"),
   (82, "ELIBMAX", "Attempting to link in too many shared libraries"),
   (83, "ELIBEXEC", "Cannot exec a shared library directly"),
   (84, "EILSEQ", "Invalid or incomplete multibyte or wide character"),
   (85, "ERESTART", "Interrupted system call should be restarted"),
   (86, "ESTRPIPE", "Streams pipe error"),
   (87, "EUSERS", "Too many users"),
   (88, "ENOTSOCK", "Socket operation on non-socket"),
   (89, "EDESTADDRREQ", "Destination address required"),
   (90, "EMSGSIZE", "Message too long"),
   (91, "EPROTOTYPE", "Protocol wrong type for socket"),
   (92, "ENOPROTOOPT", "Protocol not available"),
   (93, "EPROTONOSUPPORT", "Protocol not supported"),
   (94, "ESOCKTNOSUPPORT", "Socket type not supported"),
   (95, "EOPNOTSUPP", "Operation not supported"),
   (96, "EPFNOSUPPORT", "Protocol family not supported"),
   (97, "EAFNOSUPPORT", "Address family not supported by protocol"),
   (98, "EADDRINUSE", "Address already in use"),
   (99, "EADDRNOTAVAIL", "Cannot assign requested address"),
   (100, "ENETDOWN", "Network is down"),
   (101, "ENETUNREACH", "Network is unreachable"),
   (102, "ENETRESET", "Network dropped connection on reset"),
   (103, "ECONNABORTED", "Software caused connection abort"),
   (104, "ECONNRESET", "Connection reset by peer"),
   (105, "ENOBUFS", "No buffer space available"),
   (106, "EISCONN", "Transport endpoint is already connected"),
   (107, "ENOTCONN", "Transport endpoint is not connected"),
   (108, "ESHUTDOWN", "Cannot send after transport endpoint shutdown"),
   (109, "ETOOMANYREFS", "Too many references: cannot splice"),
   (110, "ETIMEDOUT", "Connection timed out"),
   (111, "ECONNREFUSED", "Connection refused"),
   (112, "EHOSTDOWN", "Host is down"),
   (113, "EHOSTUNREACH", "No route to host"),
   (114, "EALREADY", "Operation already in progress"),
   (115, "EINPROGRESS", "Operation now in progress"),
   (116, "ESTALE", "Stale file handle"),
   (117, "EUCLEAN", "Structure needs cleaning"),
   (118, "ENOTNAM", "Not a XENIX named type file"),
   (119, "ENAVAIL", "No XENIX semaphores available"),
   (120, "EISNAM", "Is a named type file"),
   (121, "EREMOTEIO", "Remote I/O error"),
   (122, "EDQUOT", "Disk quota exceeded"),
   (123, "ENOMEDIUM", "No medium found"),
   (124, "EMEDIUMTYPE", "Wrong medium type"),
   (125, "ECANCELED", "Operation canceled"),
   (126, "ENOKEY", "Required key not available"),
   (127, "EKEYEXPIRED", "Key has expired"),
   (128, "EKEYREVOKED", "Key has been revoked"),
   (129, "EKEYREJECTED", "Key was rejected by service"),
   (130, "EOWNERDEAD", "Owner died"),
   (131, "ENOTRECOVERABLE", "State not recoverable"),
   (132, "ERFKILL", "Operation not possible due to RF-kill"),
   (133, "EHWPOISON", "Memory page has hardware error")]

/-- The numbers whose kernel wording is not the library's. -/
def kernelWording : List (Int × String) :=
  [(5, "I/O error"), (9, "Bad file number"), (11, "Try again"), (12, "Out of memory"),
   (18, "Cross-device link"), (23, "File table overflow"), (25, "Not a typewriter"),
   (33, "Math argument out of domain of func"), (34, "Math result not representable"),
   (35, "Resource deadlock would occur"), (37, "No record locks available"),
   (40, "Too many symbolic links encountered"), (77, "File descriptor in bad state")]

/-- The row of the table for this number, if it has been given out. -/
def row? (e : Errno) : Option (Int × String × String) :=
  table.find? (·.1 == e.code)

/-- The symbol, such as `ENOENT`; a number that was never given out has none. -/
def symbol (e : Errno) : String :=
  match e.row? with
  | some (_, name, _) => name
  | none => "UnknownErrno"

/-- The library's wording. It has one for 0 as well, which is no error. -/
def text (e : Errno) : String :=
  match e.row? with
  | some (_, _, wording) => wording
  | none => if e.code = 0 then "Success" else "Unknown error " ++ toString e.code

/-- The kernel's wording. -/
def describe (e : Errno) : String :=
  match kernelWording.lookup e.code with
  | some wording => wording
  | none =>
    match e.row? with
    | some (_, _, wording) => wording
    | none => "Unknown errno"

/-- Symbol and kernel wording together, as failed process operations are reported. -/
def display (e : Errno) : String :=
  e.symbol ++ ": " ++ e.describe

end Errno

/-- Why an input or output operation of the shell itself failed. -/
inductive IoError
  /-- The system refused the operation. -/
  | os (errno : Errno)
  /-- A path holds a NUL character, which no system call can take. -/
  | nulInPath
  /-- A text file holds bytes that are not UTF-8. -/
  | notText
  deriving DecidableEq, Repr

/-- The wording of a failed input or output operation. -/
def IoError.message : IoError → String
  | .os e => e.text ++ " (os error " ++ toString e.code ++ ")"
  | .nulInPath => "file name contained an unexpected NUL byte"
  | .notText => "stream did not contain valid UTF-8"

end CommandShell
