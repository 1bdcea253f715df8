import PhraseKey.Proofs.KeyFiles
import PhraseKey.Proofs.StreamAlignment

/-!
Key files that were cut off. Wherever the cut is, it is inside of the first packet or of the second, and
what is in front of it is too short for both.
-/

namespace PhraseKey

/-- A frame without its end stops inside of its packet. -/
theorem Packet.IsFrame.endsInside_of_append {front back : List UInt8} (h : IsFrame (front ++ back))
    (hCut : back ≠ []) : EndsInside front := by
  have hBack := List.length_pos_iff.mpr hCut
  rcases front with _ | ⟨first, _ | ⟨length, body⟩⟩
  · trivial
  · trivial
  · obtain ⟨format, hLength⟩ := h
    have hBody : (body ++ back).length = length.toNat := hLength
    rw [List.length_append] at hBody
    exact ⟨format, by omega⟩

namespace Certificate

variable {certificate : Certificate} {front back : List UInt8}

/-- Behind the packet of the key, the packet of the user id is cut off. -/
theorem endsInside_of_begun (hLength : certificate.userId.id.length ≤ 255) (begun : List UInt8)
    (hUserId : Packet.framed ⟨.userId, certificate.userId.id⟩ = begun ++ back) (hCut : back ≠ []) :
    EndsInside (certificate.key.stored.framed ++ begun) := by
  have hFrame := (UserId.fits_packet hLength).isFrame
  rw [hUserId] at hFrame
  obtain ⟨hRead, hLeft, -⟩ := certificate.key.consumes_read
    (.ofOctets (certificate.key.stored.framed ++ begun)) begun (Source.octets_ofOctets _)
  right
  refine ⟨certificate.key, hRead, ?_⟩
  rw [hLeft]
  exact hFrame.endsInside_of_append hCut

/-- A cut through a key file is inside of the packet of the key, or in front of the end of that of the
user id. -/
theorem endsInside_of_append (hLength : certificate.userId.id.length ≤ 255)
    (hFile : certificate.keyFilePackets.flatMap Packet.framed = front ++ back) (hCut : back ≠ []) :
    EndsInside front := by
  rw [flatMap_framed_keyFilePackets] at hFile
  rcases List.append_eq_append_iff.mp hFile with ⟨begun, rfl, hUserId⟩ | ⟨missing, hKey, hBack⟩
  · exact endsInside_of_begun hLength begun hUserId hCut
  · by_cases hMissing : missing = []
    · -- the cut is between the packets, where the second one has not even begun
      rw [hMissing, List.append_nil] at hKey
      rw [hMissing, List.nil_append] at hBack
      rw [← hKey, ← List.append_nil certificate.key.stored.framed]
      exact endsInside_of_begun hLength [] hBack.symm hCut
    · have hFrame := certificate.key.fits_stored.isFrame
      rw [hKey] at hFrame
      exact .inl (hFrame.endsInside_of_append hMissing)

/-- A key file that was cut off does not load, and nothing is left of it. -/
theorem run_readKeyFile_of_append (hLength : certificate.userId.id.length ≤ 255)
    (hFile : certificate.keyFilePackets.flatMap Packet.framed = front ++ back) (hCut : back ≠ [])
    {source : Source} (hOctets : source.octets = front) :
    (readKeyFile.run source).1.outcome = .error source.ending.shortage ∧
      (readKeyFile.run source).2.octets = [] := by
  have hShort : EndsInside source.octets := hOctets ▸ endsInside_of_append hLength hFile hCut
  obtain ⟨hOutcome, hLeft⟩ := runsShortOn_readKeyFile.runsShort hShort source.ending
  refine ⟨hOutcome, ?_⟩
  rw [hLeft]
  rfl

/-- A key file that was cut off never loads. The whole file does, and every proper prefix of it, in
whatever pieces it comes, is read to its end and refused as a truncated packet, which is an error of the
format. -/
theorem readKeyFile_truncated (certificate : Certificate)
    (hLength : certificate.userId.id.length ≤ 255) :
    ∃ file, certificate.keyFile.outcome = .ok file ∧
      (∀ source, source.octets = file →
        (readKeyFile.run source).1.outcome =
          .ok ⟨certificate.key, ⟨certificate.userId.id, false⟩, none⟩) ∧
      ∀ front, front <+: file → front ≠ file →
        ∀ source, source.octets = front → source.ending = .endOfData →
          ∃ error, (readKeyFile.run source).1.outcome = .error error ∧ error = .truncatedPacket ∧
            error.kind = .format ∧ (readKeyFile.run source).2.octets = [] := by
  refine ⟨_, outcome_keyFile hLength, ?_, ?_⟩
  · intro source hOctets
    rw [← List.append_nil (certificate.keyFilePackets.flatMap Packet.framed)] at hOctets
    exact (consumes_readKeyFile hLength source [] hOctets).1
  · rintro front ⟨back, hFile⟩ hProper source hOctets hEnding
    have hCut : back ≠ [] := by
      rintro rfl
      exact hProper (by rw [← hFile, List.append_nil])
    obtain ⟨hOutcome, hLeft⟩ := run_readKeyFile_of_append hLength hFile.symm hCut hOctets
    rw [hEnding] at hOutcome
    exact ⟨_, hOutcome, rfl, rfl, hLeft⟩

/-- A key file with an empty user id, cut off before and within its first header, between its packets, and
within its second header. -/
theorem readKeyFile_truncated_zero :
    ∃ file, (keyFile ⟨.zero, .plain [], none⟩).outcome = .ok file ∧
      file = SigningKey.zero.stored.framed ++ [0xCD, 0x00] ∧
      ∀ cut ∈ [0, 1, SigningKey.zero.stored.framed.length,
          SigningKey.zero.stored.framed.length + 1],
        ∃ error, (readKeyFile.run (.ofOctets (file.take cut))).1.outcome = .error error ∧
          error.kind = .format := by
  obtain ⟨file, hFile, -, hTruncated⟩ :=
    readKeyFile_truncated ⟨.zero, .plain [], none⟩ (Nat.zero_le 255)
  have hOctets : file = SigningKey.zero.stored.framed ++ [0xCD, 0x00] :=
    Except.ok.inj (hFile.symm.trans (outcome_keyFile (Nat.zero_le 255)))
  refine ⟨file, hFile, hOctets, fun cut hCut => ?_⟩
  have hWithin : cut < file.length := by
    have hHeader : 2 ≤ SigningKey.zero.stored.framed.length := by
      simp [Packet.framed, PacketHeader.encodedLength]
    simp only [List.mem_cons, List.not_mem_nil, or_false] at hCut
    rw [hOctets, List.length_append]
    change cut < _ + 2
    omega
  obtain ⟨error, hFails, -, hKind, -⟩ := hTruncated (file.take cut) (List.take_prefix cut file)
    (fun hWhole => by
      have hLength := congrArg List.length hWhole
      rw [List.length_take] at hLength
      omega) (.ofOctets (file.take cut)) (Source.octets_ofOctets _) rfl
  exact ⟨error, hFails, hKind⟩

end Certificate

end PhraseKey
