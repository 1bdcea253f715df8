import PhraseKey.Error
import PhraseKey.Timestamp

/-!
What the command line asks for: switches, each given or not, and settings with a value.
-/

namespace PhraseKey.CommandLine

/-- An option without a value. -/
inductive Switch where
  | sign
  | keygen
  | armor
  | fingerprint
  | now
  | paranoid
  | publicOnly
  | subkey
  deriving DecidableEq

/-- An option with a value. -/
inductive Setting where
  | time
  | input
  | load
  | repetitions
  | uid
  deriving DecidableEq

/-- All options that were given, with the values of those that have one. -/
structure Arguments where
  switches : List Switch
  time : Option UInt32
  input : Option String
  load : Option String
  repetitions : Option UInt32
  uid : Option String
  deriving DecidableEq

/-- What a run puts out. -/
inductive Mode where
  | keygen
  | sign
  deriving DecidableEq

namespace Arguments

/-- A command line without options. -/
def none : Arguments :=
  ⟨[], .none, .none, .none, .none, .none⟩

def has (arguments : Arguments) (switch : Switch) : Bool :=
  arguments.switches.contains switch

/-- A key, unless a signature is asked for. -/
def mode (arguments : Arguments) : Mode :=
  if arguments.has .sign && !arguments.has .keygen then .sign else .keygen

def difficulty (arguments : Arguments) : UInt32 :=
  if arguments.has .paranoid then 2 else 1

/-- How often a passphrase has to be confirmed. -/
def confirmations (arguments : Arguments) : UInt32 :=
  arguments.repetitions.getD 1

/-- The creation time that is set, or the epoch. -/
def createdAt (arguments : Arguments) : Timestamp :=
  ⟨arguments.time.getD 0⟩

/-- The user id that is set, or else the name and address in the environment, if neither is empty. -/
def userId (arguments : Arguments) (environment : String → Option String) : Except Error String :=
  match arguments.uid with
  | some uid => .ok uid
  | .none =>
    let nonempty (name : String) := (environment name).filter (· ≠ "")
    match nonempty "REALNAME", nonempty "EMAIL" with
    | some name, some address => .ok (name ++ " <" ++ address ++ ">")
    | _, _ => .error .missingIdentity

end Arguments

end PhraseKey.CommandLine
