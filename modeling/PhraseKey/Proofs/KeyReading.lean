import PhraseKey.Key.SecretKey
import PhraseKey.Proofs.IntegerReading

/-!
Key bodies read back from their octets. The public part of a key ends where its own fields say, so more
can follow it, and the body of a secret key is read back with the secret and its checksum.
-/

namespace PhraseKey

namespace PublicKey

/-- The prefix of a point keeps all of its octets, also leading zeros. -/
theorem octets_pointMpi (key : PublicKey) :
    key.pointMpi.octets = nativePoint :: key.point.toList := by
  simp [pointMpi, Mpi.ofOctets, nativePoint]

theorem point?_pointMpi (key : PublicKey) : point? key.pointMpi = some key.point := by
  simp [point?, octets_pointMpi, Octets.ofList?_toList]

/-- Every public part is read back on its own curve. -/
theorem reads_encode (key : PublicKey) : (parse key.curve).Reads key.encode key := by
  have hOctets : key.encode = [version] ++ (key.created.encode ++ ([key.curve.algorithm.id] ++
      ([UInt8.ofNat key.curve.oid.length] ++ (key.curve.oid ++ (key.pointMpi.encode ++
        derivation key.curve))))) := by
    simp [encode]
  have hOid : (UInt8.ofNat key.curve.oid.length).toNat = key.curve.oid.length := by
    cases key.curve <;> rfl
  have hPoint : Mpi.parse.Reads key.pointMpi.encode key.pointMpi :=
    Mpi.reads_encode _ (by simp [octets_pointMpi])
  rw [hOctets]
  refine (Parser.reads_u8 _ version).bind (.of_ensure rfl ?_)
  refine (Parser.reads_u32 _ key.created.seconds).bind ?_
  refine (Parser.reads_u8 _ key.curve.algorithm.id).bind (.of_ensure key.curve.ofId_algorithm ?_)
  refine (Parser.reads_u8 _ _).bind (.of_ensure hOid ?_)
  refine (Parser.reads_tag _ key.curve.oid).bind (hPoint.bind ?_)
  rw [point?_pointMpi]
  exact (Parser.reads_tag _ (derivation key.curve)).last (Parser.reads_pure key)

/-- A public part has the same length for all keys of its curve. -/
theorem encodedLength_eq (key : PublicKey) :
    key.encodedLength = 42 + key.curve.oid.length + (derivation key.curve).length := by
  simp only [encodedLength, Mpi.encodedLength, octets_pointMpi, List.length_cons,
    Octets.length_toList, Timestamp.encodedLength]
  omega

theorem encodedLength_le (key : PublicKey) : key.encodedLength ≤ 56 := by
  rw [encodedLength_eq]
  cases key.curve <;> decide

/-- A public part fits into a packet, and its length means the same to every reader. -/
theorem length_encode_lt (key : PublicKey) : key.encode.length < 192 := by
  rw [length_encode]
  exact Nat.lt_of_le_of_lt key.encodedLength_le (by decide)

theorem length_encode_le (key : PublicKey) : key.encode.length ≤ 255 :=
  Nat.le_trans (Nat.le_of_lt key.length_encode_lt) (by decide)

end PublicKey

namespace Checksum

/-- The checksum of some octets verifies them. -/
theorem verify_checksum (octets : List UInt8) :
    verify ⟨bigEndian 2 (checksum octets).toNat, length_bigEndian ..⟩ octets = .ok () := by
  have hValue : UInt16.ofNat (ofBigEndian (bigEndian 2 (checksum octets).toNat)) =
      checksum octets := by
    rw [ofBigEndian_bigEndian]
    exact UInt16.toNat_inj.mp (by simp)
  simp [verify, hValue]

end Checksum

namespace SecretKey

/-- A whole body is read back if its secret has at most 64 octets. -/
theorem decode_body (key : SecretKey) (small : key.secret.octets.length ≤ 64) :
    decode key.publicKey.curve key.body = .ok key := by
  have hOctets : key.body = key.publicKey.encode ++ ([unprotected] ++ (key.secret.encode ++
      (bigEndian 2 (checksum key.secret.encode).toNat ++ []))) := by
    simp [body]
  have hSum := Parser.reads_array "secret key checksum"
    ⟨bigEndian 2 (checksum key.secret.encode).toNat, length_bigEndian ..⟩
  have hParse : (parse key.publicKey.curve).parse key.body = (.ok key, []) := by
    rw [hOctets, parse, Parser.parse_bind_of_ok (key.publicKey.reads_encode _),
      Parser.parse_bind_of_ok (Parser.reads_u8 _ unprotected _), Parser.ensure_eq_pure rfl, pure_bind,
      Parser.parse_bind_of_ok (Mpi.reads_encode key.secret small _),
      Parser.parse_bind_of_ok (hSum _), Checksum.verify_checksum]
    rfl
  rw [decode, hParse]

end SecretKey

end PhraseKey
