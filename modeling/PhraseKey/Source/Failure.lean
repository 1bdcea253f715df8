/-!
How reading from outside can fail.
-/

namespace PhraseKey

/-- The kinds of failure a reader reports. Only a premature end is told apart from the others. -/
inductive FailureKind where
  | unexpectedEnd
  | permissionDenied
  | connectionReset
  | timedOut
  | wouldBlock
  | other
  deriving DecidableEq

namespace FailureKind

/-- What a failure of this kind says when its reader has nothing more exact to say. -/
def description : FailureKind → String
  | unexpectedEnd => "unexpected end of file"
  | permissionDenied => "permission denied"
  | connectionReset => "connection reset"
  | timedOut => "timed out"
  | wouldBlock => "operation would block"
  | other => "other error"

end FailureKind

/-- A failure to read, with the words its reader has for it. -/
structure Failure where
  kind : FailureKind
  message : String
  deriving DecidableEq

end PhraseKey
