/-! # Errors of the operating system

An error carries the number that the system gave it, or a text of its own.
-/

namespace JournalSink

inductive IoError
  | system (number : Int)
  | other (text : String)
deriving DecidableEq, Repr

namespace IoError

def systemTexts : List (Int × String) :=
  [(0, "Success"), (1, "Operation not permitted"), (2, "No such file or directory"),
   (4, "Interrupted system call"), (5, "Input/output error"),
   (11, "Resource temporarily unavailable"), (12, "Cannot allocate memory"),
   (13, "Permission denied"), (20, "Not a directory"), (22, "Invalid argument"),
   (23, "Too many open files in system"), (24, "Too many open files"),
   (28, "No space left on device"), (32, "Broken pipe"),
   (40, "Too many levels of symbolic links"), (88, "Socket operation on non-socket"),
   (89, "Destination address required"), (90, "Message too long"),
   (91, "Protocol wrong type for socket"), (92, "Protocol not available"),
   (98, "Address already in use"), (104, "Connection reset by peer"),
   (105, "No buffer space available"), (106, "Transport endpoint is already connected"),
   (107, "Transport endpoint is not connected"), (110, "Connection timed out"),
   (111, "Connection refused")]

def systemText (number : Int) : String :=
  (systemTexts.lookup number).getD ("Unknown error " ++ toString number)

def message : IoError → String
  | system number => systemText number ++ " (os error " ++ toString number ++ ")"
  | other text => text

def number? : IoError → Option Int
  | system number => some number
  | other _ => none

def notFound : IoError :=
  system 2

def notADirectory : IoError :=
  system 20

def messageTooLong : IoError :=
  system 90

def noBufferSpace : IoError :=
  system 105

/-- A datagram was refused because of its size. -/
def isSizeLimit (e : IoError) : Bool :=
  e = messageTooLong || e = noBufferSpace

theorem isSizeLimit_iff_number (e : IoError) :
    e.isSizeLimit = true ↔ e.number? = some 90 ∨ e.number? = some 105 := by
  cases e <;> simp [isSizeLimit, number?, messageTooLong, noBufferSpace]

end IoError

end JournalSink
