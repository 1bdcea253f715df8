import PhraseKey.CommandLine.Arguments

/-!
Reading the words of a command line. A setting takes its value from the rest of its own word or from
the next word, and is looked at only when the next known option or the end of the words comes. An
option that is not known, or a word that belongs to none, is refused as soon as it is met.
-/

namespace PhraseKey.CommandLine

/-- Why the words are not run. -/
inductive Refusal where
  | unknownArgument
  /-- A value is missing, or it is an empty path. -/
  | invalidValue
  /-- A value is no number of 32 bits. -/
  | valueValidation
  /-- An option is repeated, or given together with another that excludes it. -/
  | argumentConflict
  /-- An option without a value has one. -/
  | tooManyValues
  | displayHelp
  | displayVersion
  deriving DecidableEq

/-- An option as it is named on the command line. -/
inductive Choice where
  | switch (switch : Switch)
  | setting (setting : Setting)
  | help
  | version
  deriving DecidableEq

/-- The short and the long names of all options. -/
def choices : List (Char × String × Choice) :=
  [('S', "sign", .switch .sign), ('K', "keygen", .switch .keygen), ('a', "armor", .switch .armor),
    ('t', "time", .setting .time), ('f', "fingerprint", .switch .fingerprint),
    ('i', "input", .setting .input), ('l', "load", .setting .load), ('n', "now", .switch .now),
    ('x', "paranoid", .switch .paranoid), ('p', "public", .switch .publicOnly),
    ('r', "repeat", .setting .repetitions), ('s', "subkey", .switch .subkey),
    ('u', "uid", .setting .uid), ('h', "help", .help), ('V', "version", .version)]

def shortChoice? (name : Char) : Option Choice :=
  (choices.find? (·.1 == name)).map fun (_, _, choice) => choice

def longChoice? (name : String) : Option Choice :=
  (choices.find? (·.2.1 == name)).map fun (_, _, choice) => choice

/-- Decimal digits, of which there is at least one, as a number. -/
def digits? (text : List Char) : Option Nat :=
  if text ≠ [] ∧ text.all Char.isDigit then
    some (text.foldl (fun value digit => 10 * value + (digit.toNat - '0'.toNat)) 0)
  else none

/-- A number of 32 bits, with an optional sign. -/
def number (text : String) : Except Refusal UInt32 :=
  let value? : Option Int := match text.toList with
    | '+' :: rest => (digits? rest).map Int.ofNat
    | '-' :: rest => (digits? rest).map fun value => -Int.ofNat value
    | rest => (digits? rest).map Int.ofNat
  match value? with
  | none => .error .valueValidation
  | some value =>
    if 0 ≤ value ∧ value < UInt32.size then .ok (UInt32.ofNat value.toNat) else .error .valueValidation

/-- A path, which is not empty. -/
def path (text : String) : Except Refusal String :=
  if text = "" then .error .invalidValue else .ok text

/-- The words that have been read: the options that were taken over, and the last setting, if it still
waits to be, with its value if that has come. -/
structure Progress where
  arguments : Arguments
  pending : Option (Setting × Option String)
  deriving DecidableEq

namespace Progress

def start : Progress := ⟨.none, none⟩

/-- Fail if a setting has a value already. -/
def once {α : Type} (value : Option α) : Except Refusal Unit :=
  if value.isSome then .error .argumentConflict else .ok ()

/-- Take over a setting. A repeated one is refused whatever its value. -/
def assign (arguments : Arguments) (setting : Setting) (text : String) :
    Except Refusal Arguments := do
  match setting with
  | .time =>
    once arguments.time
    return { arguments with time := some (← number text) }
  | .input =>
    once arguments.input
    return { arguments with input := some (← path text) }
  | .load =>
    once arguments.load
    return { arguments with load := some (← path text) }
  | .repetitions =>
    once arguments.repetitions
    return { arguments with repetitions := some (← number text) }
  | .uid =>
    once arguments.uid
    return { arguments with uid := some text }

/-- Take over the setting that waits. -/
def settle (progress : Progress) : Except Refusal Arguments :=
  match progress.pending with
  | none => .ok progress.arguments
  | some (_, none) => .error .invalidValue
  | some (setting, some text) => assign progress.arguments setting text

/-- An option without a value. -/
def turnOn (progress : Progress) (switch : Switch) : Except Refusal Progress := do
  let arguments ← progress.settle
  if arguments.has switch then
    throw .argumentConflict
  return ⟨{ arguments with switches := switch :: arguments.switches }, none⟩

/-- A setting with its value in the same word. -/
def attach (progress : Progress) (setting : Setting) (text : String) : Except Refusal Progress := do
  let arguments ← progress.settle
  return ⟨← assign arguments setting text, none⟩

/-- A setting whose value has to be the next word. -/
def await (progress : Progress) (setting : Setting) : Except Refusal Progress := do
  let arguments ← progress.settle
  return ⟨arguments, some (setting, none)⟩

/-- Help and version are shown once everything in front of them is found to be right. -/
def display (progress : Progress) (refusal : Refusal) : Except Refusal Progress := do
  let _ ← progress.settle
  throw refusal

/-- Short options after a single hyphen. The rest behind a setting is its value, with or without an
equals sign in between. -/
def shortOptions (progress : Progress) : List Char → Except Refusal Progress
  | [] => .ok progress
  | name :: rest =>
    match shortChoice? name with
    | none => .error .unknownArgument
    | some .help => progress.display .displayHelp
    | some .version => progress.display .displayVersion
    | some (.switch switch) => do (← progress.turnOn switch).shortOptions rest
    | some (.setting setting) =>
      match rest with
      | [] => progress.await setting
      | '=' :: value => progress.attach setting (String.ofList value)
      | value => progress.attach setting (String.ofList value)

/-- A long option, with its value behind an equals sign or without one. -/
def longOption (progress : Progress) (word : List Char) : Except Refusal Progress :=
  let name := word.takeWhile (· != '=')
  let value? := match word.dropWhile (· != '=') with
    | [] => none
    | _ :: value => some (String.ofList value)
  match longChoice? (String.ofList name), value? with
  | none, _ => .error .unknownArgument
  | some (.setting setting), none => progress.await setting
  | some (.setting setting), some value => progress.attach setting value
  | some _, some _ => .error .tooManyValues
  | some .help, none => progress.display .displayHelp
  | some .version, none => progress.display .displayVersion
  | some (.switch switch), none => progress.turnOn switch

/-- A word that is no option is the value of the setting that waits for one. -/
def value (progress : Progress) (word : String) : Except Refusal Progress :=
  match progress.pending with
  | some (setting, none) => .ok { progress with pending := some (setting, some word) }
  | _ => .error .unknownArgument

/-- All words in order. No word may follow a double hyphen. -/
def words (progress : Progress) : List String → Except Refusal Progress
  | [] => .ok progress
  | word :: rest =>
    match word.toList with
    | ['-', '-'] => if rest = [] then .ok progress else .error .unknownArgument
    | '-' :: '-' :: option => do (← progress.longOption option).words rest
    | '-' :: name :: names => do (← progress.shortOptions (name :: names)).words rest
    | _ => do (← progress.value word).words rest

end Progress

/-- Options that exclude each other: the two modes, the two creation times, and a subkey with a key
file. -/
def conflicting (arguments : Arguments) : Bool :=
  (arguments.has .sign && arguments.has .keygen) || (arguments.has .now && arguments.time.isSome) ||
    (arguments.has .subkey && arguments.load.isSome)

/-- The arguments that the words of a command line stand for. -/
def parse (words : List String) : Except Refusal Arguments := do
  let progress ← Progress.start.words words
  let arguments ← progress.settle
  if conflicting arguments then
    throw .argumentConflict
  return arguments

end PhraseKey.CommandLine
