import PhraseKey.CommandLine.Run
import Std.Time.DateTime.Timestamp

/-!
The program on the real host.
-/

namespace PhraseKey

/-- What the operating system says about a failure. -/
def systemReason (error : IO.Error) : String :=
  let coded (code : UInt32) (details : String) := details ++ " (os error " ++ toString code ++ ")"
  match error with
  | .alreadyExists _ code details | .resourceExhausted _ code details
  | .invalidArgument _ code details | .permissionDenied _ code details
  | .inappropriateType _ code details | .noSuchThing _ code details => coded code details
  | .interrupted _ code details | .noFileOrDirectory _ code details => coded code details
  | .otherError code details | .resourceBusy code details | .resourceVanished code details
  | .unsupportedOperation code details | .hardwareFault code details
  | .unsatisfiedConstraints code details | .illegalOperation code details
  | .protocolError code details | .timeExpired code details => coded code details
  | .unexpectedEof => "unexpected end of file"
  | .userError message => message

def failureKind : IO.Error → FailureKind
  | .unexpectedEof => .unexpectedEnd
  | .permissionDenied _ _ _ => .permissionDenied
  | .timeExpired _ _ => .timedOut
  | .resourceVanished _ _ => .connectionReset
  | _ => .other

/-- Everything a reader delivers until it ends or fails. -/
partial def deliveries (read : IO ByteArray) : IO Source := do
  match ← read.toBaseIO with
  | .error error => return ⟨[], .failed ⟨failureKind error, systemReason error⟩⟩
  | .ok piece =>
    if piece.isEmpty then
      return ⟨[], .endOfData⟩
    let rest ← deliveries read
    return { rest with deliveries := Delivery.ofOctets piece.data.toList ++ rest.deliveries }

def openFile (path : String) : IO (Except String Source) := do
  match ← (IO.FS.Handle.mk path .read).toBaseIO with
  | .error error => return .error (systemReason error)
  | .ok handle => return .ok (← deliveries (handle.read 65536))

def fileContents (path : String) : IO (Except String (List UInt8)) := do
  match ← (IO.FS.readBinFile path).toBaseIO with
  | .error error => return .error (systemReason error)
  | .ok contents => return .ok contents.data.toList

def readLine (prompt : String) : IO (Except Error (List UInt8)) := do
  IO.eprint prompt
  let input ← IO.getStdin
  match ← input.getLine.toBaseIO with
  | .error error => return .error (.io ⟨failureKind error, systemReason error⟩)
  | .ok line => return .ok (Passphrase.firstLine (Text.toUtf8 line))

def realHost : IO (CommandLine.Host IO) := do
  let name ← IO.getEnv "REALNAME"
  let address ← IO.getEnv "EMAIL"
  return {
    environment := fun
      | "REALNAME" => name
      | "EMAIL" => address
      | _ => none
    openFile, fileContents
    standardInput := do
      let input ← IO.getStdin
      deliveries (input.read 65536)
    readHidden := readLine
    clock := return (← Std.Time.Timestamp.now).toNanosecondsSinceUnixEpoch.toInt
    report := fun line => IO.eprintln line }

end PhraseKey

def main (words : List String) : IO UInt32 := do
  let host ← PhraseKey.realHost
  let outcome ← host.run words
  match outcome with
  | .success output =>
    let console ← IO.getStdout
    console.write ⟨output.toArray⟩
    console.flush
  | .refused .displayHelp | .refused .displayVersion => IO.println PhraseKey.CommandLine.programName
  | .refused _ => IO.eprintln (PhraseKey.CommandLine.programName ++ ": invalid arguments")
  | .failure _ => pure ()
  return outcome.exitCode.toUInt32
