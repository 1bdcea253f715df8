/-!
What a certified key may be used for, and what its holder supports.
-/

namespace PhraseKey

/-- What a key can be used for. -/
inductive KeyUse where
  | certify
  | sign
  | encryptCommunications
  | encryptStorage
  deriving DecidableEq

/-- One bit for each use, from the lowest on. -/
def KeyUse.bit : KeyUse → UInt8
  | certify => 1
  | sign => 2
  | encryptCommunications => 4
  | encryptStorage => 8

/-- No two uses share a bit. -/
theorem KeyUse.bit_and_bit (use use' : KeyUse) :
    use.bit &&& use'.bit = if use = use' then use'.bit else 0 := by
  cases use <;> cases use' <;> rfl

theorem KeyUse.not_bit_and_bit (use use' : KeyUse) :
    ~~~use.bit &&& use'.bit = if use = use' then 0 else use'.bit := by
  cases use <;> cases use' <;> rfl

theorem KeyUse.bit_ne_zero (use : KeyUse) : use.bit ≠ 0 := by
  cases use <;> decide

/-- The uses of a key, in an octet that may have other bits too. -/
structure KeyFlags where
  octet : UInt8
  deriving DecidableEq

namespace KeyFlags

def none : KeyFlags := ⟨0⟩

def allows (flags : KeyFlags) (use : KeyUse) : Bool :=
  flags.octet &&& use.bit ≠ 0

/-- Allow or forbid a use. -/
def put (flags : KeyFlags) (use : KeyUse) (allowed : Bool) : KeyFlags :=
  ⟨if allowed then flags.octet ||| use.bit else flags.octet &&& ~~~use.bit⟩

/-- The uses of a primary key. -/
def signing : KeyFlags :=
  (none.put .certify true).put .sign true

/-- The uses of an encryption subkey. -/
def encryption : KeyFlags :=
  (none.put .encryptCommunications true).put .encryptStorage true

/-- Only the use that is put changes. -/
theorem allows_put (flags : KeyFlags) (use use' : KeyUse) (allowed : Bool) :
    (flags.put use allowed).allows use' = if use = use' then allowed else flags.allows use' := by
  cases allowed with
  | true =>
    have hBits : (flags.octet ||| use.bit) &&& use'.bit =
        (flags.octet &&& use'.bit) ||| (use.bit &&& use'.bit) := by
      apply UInt8.toBitVec_inj.mp
      ext i
      simp [Bool.and_or_distrib_right]
    rw [allows, put, if_pos rfl, hBits, use.bit_and_bit]
    by_cases h : use = use'
    · simp [h, use'.bit_ne_zero]
    · simp [h, allows]
  | false =>
    rw [allows, put, if_neg Bool.false_ne_true, UInt8.and_assoc, use.not_bit_and_bit]
    by_cases h : use = use'
    · simp [h]
    · simp [h, allows]

def text (flags : KeyFlags) : String :=
  "KeyFlags \x7b .0: " ++ toString flags.octet.toNat ++ ", certify: " ++
    toString (flags.allows .certify) ++ ", sign: " ++ toString (flags.allows .sign) ++
    ", encrypt_comms: " ++ toString (flags.allows .encryptCommunications) ++
    ", encrypt_storage: " ++ toString (flags.allows .encryptStorage) ++ " \x7d"

end KeyFlags

/-- What the holder of a key supports: encryption that detects modifications, or nothing. -/
structure Features where
  detectsModification : Bool
  deriving DecidableEq

namespace Features

def octet (features : Features) : UInt8 :=
  if features.detectsModification then 1 else 0

def text (features : Features) : String :=
  "Features(" ++ toString features.octet.toNat ++ ")"

end Features

end PhraseKey
