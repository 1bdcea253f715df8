import PhraseKey.Armor.Write
import PhraseKey.CommandLine.Usage
import PhraseKey.KeyParams
import PhraseKey.Passphrase

/-!
Whole runs of the program, on a host that gives access to files, the terminal and the clock. A run
loads or derives a certificate and puts out the stream that the arguments ask for. Nothing is put out
when it fails.
-/

namespace PhraseKey.CommandLine

/-- What a run needs from the outside. Reasons are the words of the host for what went wrong. -/
structure Host (m : Type → Type) where
  environment : String → Option String
  openFile : String → m (Except String Source)
  fileContents : String → m (Except String (List UInt8))
  standardInput : m Source
  /-- A line typed without being shown, after a prompt. -/
  readHidden : String → m (Except Error (List UInt8))
  /-- The time in nanoseconds from the epoch. -/
  clock : m Int
  /-- Show a line that is not part of the output. -/
  report : String → m Unit

/-- How a run ended, and what it put out. -/
inductive Outcome where
  | success (output : List UInt8)
  | failure (error : Error)
  | refused (refusal : Refusal)
  deriving DecidableEq

namespace Outcome

/-- Help and version count as success. -/
def exitCode : Outcome → UInt8
  | success _ => 0
  | failure _ => 1
  | refused .displayHelp => 0
  | refused .displayVersion => 0
  | refused _ => 2

end Outcome

def programName : String := "passphrase2pgp"

variable {m : Type → Type} [Monad m]

namespace Host

def load (host : Host m) (path : String) : ExceptT Error m Certificate := do
  match ← host.openFile path with
  | .error reason => throw (.cannotOpen path reason)
  | .ok source => ExceptT.mk (pure (Certificate.readKeyFile.run source).1.outcome)

/-- The passphrase in a file, or from the terminal with as many confirmations as are asked for. -/
def passphrase (host : Host m) (arguments : Arguments) : ExceptT Error m (List UInt8) := do
  match arguments.input with
  | none =>
    Passphrase.confirm (fun prompt => ExceptT.mk (host.readHidden prompt))
      arguments.confirmations.toNat
  | some path =>
    match ← host.fileContents path with
    | .error reason => throw (.cannotOpen path reason)
    | .ok contents => return Passphrase.firstLine contents

def created (host : Host m) (arguments : Arguments) : ExceptT Error m Timestamp := do
  if arguments.has .now then
    let time ← host.clock
    ExceptT.mk (pure ((Timestamp.ofNanoseconds time).mapError fun reason =>
      .unreadable reason.message))
  else
    return arguments.createdAt

def derive (host : Host m) (arguments : Arguments) : ExceptT Error m Certificate := do
  let userId ← ExceptT.mk (pure (arguments.userId host.environment))
  let passphrase ← host.passphrase arguments
  let created ← host.created arguments
  let draft := KeyParams.Draft.ofSettings [⟨.userId, userId⟩, ⟨.passphrase, passphrase⟩,
    ⟨.difficulty, arguments.difficulty⟩, ⟨.created, created⟩, ⟨.subkey, arguments.has .subkey⟩]
  let params ← ExceptT.mk (pure (draft.build.mapError .invalidParameters))
  ExceptT.mk (pure params.generate.outcome)

/-- The stream of a certificate, or a signature of the standard input. -/
def stream (host : Host m) (arguments : Arguments) (certificate : Certificate) :
    ExceptT Error m (List UInt8) := do
  match arguments.mode with
  | .sign =>
    let source ← host.standardInput
    ExceptT.mk (pure (certificate.sign.run source).1.outcome)
  | .keygen =>
    let bytes := if arguments.has .publicOnly then certificate.publicBytes else certificate.secretBytes
    ExceptT.mk (pure bytes.outcome)

/-- The output of a run with accepted arguments. -/
def output (host : Host m) (arguments : Arguments) : ExceptT Error m (List UInt8) := do
  let certificate ← match arguments.load with
    | some path => host.load path
    | none => host.derive arguments
  if arguments.has .fingerprint then
    host.report (hexUpper certificate.key.fingerprint.octets.toList)
  let stream ← host.stream arguments certificate
  if arguments.has .armor then
    ExceptT.mk (pure (Armor.ofStream stream))
  else
    return stream

/-- A whole run. Errors are reported under the name of the program. -/
def run (host : Host m) (words : List String) : m Outcome := do
  match parse words with
  | .error refusal => return .refused refusal
  | .ok arguments =>
    match ← (host.output arguments).run with
    | .ok output => return .success output
    | .error error =>
      host.report (programName ++ ": " ++ error.message)
      return .failure error

end Host

end PhraseKey.CommandLine
