import PhraseKey.Error

/-!
Where passphrases come from: the first line of a file, or a dialogue that asks for every confirmation
of the passphrase in turn.
-/

namespace PhraseKey.Passphrase

/-- The first line of a file, without its line feed and one carriage return in front of that. -/
def firstLine (contents : List UInt8) : List UInt8 :=
  let line := contents.takeWhile (· != 10)
  if line.getLast? = some 13 then line.dropLast else line

def firstPrompt : String := "passphrase: "

def repeatPrompt : String := "passphrase (repeat): "

variable {m : Type → Type} [Monad m]

/-- Ask for the passphrase again, `count` times. The first different line ends the dialogue. -/
def repeatLine (read : String → ExceptT Error m (List UInt8)) (passphrase : List UInt8) :
    Nat → ExceptT Error m Unit
  | 0 => return ()
  | count + 1 => do
    let line ← read repeatPrompt
    if line ≠ passphrase then
      throw .differingPassphrases
    repeatLine read passphrase count

/-- Ask for a passphrase and its confirmations. A line that cannot be read ends the dialogue. -/
def confirm (read : String → ExceptT Error m (List UInt8)) (count : Nat) :
    ExceptT Error m (List UInt8) := do
  let passphrase ← read firstPrompt
  repeatLine read passphrase count
  return passphrase

end PhraseKey.Passphrase
