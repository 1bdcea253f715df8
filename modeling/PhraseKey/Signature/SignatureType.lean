/-!
What a signature is about: a document, a user id or a subkey.
-/

namespace PhraseKey

/-- A signature type. -/
inductive SignatureType where
  /-- A signature over a document. -/
  | binary
  /-- A certification of a user id that says nothing about how it was checked. -/
  | certGeneric
  /-- A certification of a user id by its own key. -/
  | certPositive
  /-- The statement of a primary key that a subkey is its own. -/
  | subkeyBinding
  /-- A type that is given by its number, which may be that of a type with a name. -/
  | other (id : UInt8)
  deriving DecidableEq

namespace SignatureType

def id : SignatureType → UInt8
  | binary => 0x00
  | certGeneric => 0x10
  | certPositive => 0x13
  | subkeyBinding => 0x18
  | other id => id

/-- The type that is found for an id: the one with a name, if there is one. -/
def ofId : UInt8 → SignatureType
  | 0x00 => binary
  | 0x10 => certGeneric
  | 0x13 => certPositive
  | 0x18 => subkeyBinding
  | id => other id

def name : SignatureType → String
  | binary => "Binary"
  | certGeneric => "CertGeneric"
  | certPositive => "CertPositive"
  | subkeyBinding => "SubkeyBinding"
  | other id => "Other(" ++ toString id.toNat ++ ")"

@[simp]
theorem id_ofId (id : UInt8) : (ofId id).id = id := by
  unfold ofId
  split <;> rfl

/-- Whether signatures of this type bind something to a key. A type that is given by its number does
not, whatever the number. -/
def IsBinding (type : SignatureType) : Prop :=
  type = certGeneric ∨ type = certPositive ∨ type = subkeyBinding

instance (type : SignatureType) : Decidable type.IsBinding := by
  unfold IsBinding
  infer_instance

theorem isBinding_certPositive : certPositive.IsBinding :=
  .inr (.inl rfl)

theorem isBinding_subkeyBinding : subkeyBinding.IsBinding :=
  .inr (.inr rfl)

/-- A type that binds is the one that is found for its id. -/
theorem IsBinding.ofId_id {type : SignatureType} (h : type.IsBinding) : ofId type.id = type := by
  rcases h with rfl | rfl | rfl <;> rfl

end SignatureType

end PhraseKey
