import PhraseKey.Algorithm
import PhraseKey.Argon2
import PhraseKey.Argon2.Block
import PhraseKey.Argon2.Cost
import PhraseKey.Armor.Base64
import PhraseKey.Armor.Block
import PhraseKey.Armor.Crc24
import PhraseKey.Armor.Read
import PhraseKey.Armor.Scanner
import PhraseKey.Armor.Write
import PhraseKey.Certificate
import PhraseKey.Checksum
import PhraseKey.Chunks
import PhraseKey.CommandLine.Arguments
import PhraseKey.CommandLine.Run
import PhraseKey.CommandLine.Usage
import PhraseKey.Curve25519.Ed25519
import PhraseKey.Curve25519.Field
import PhraseKey.Curve25519.X25519
import PhraseKey.Digest.Blake2b
import PhraseKey.Digest.Padding
import PhraseKey.Digest.Rotation
import PhraseKey.Digest.Sha1
import PhraseKey.Digest.Sha2
import PhraseKey.Digest.Sha256
import PhraseKey.Digest.Sha512
import PhraseKey.Digest.Square
import PhraseKey.Eddsa
import PhraseKey.Error
import PhraseKey.Fingerprint
import PhraseKey.Hasher
import PhraseKey.Key.EncryptionSubkey
import PhraseKey.Key.PublicKey
import PhraseKey.Key.SecretKey
import PhraseKey.Key.SigningKey
import PhraseKey.KeyParams
import PhraseKey.KeyParams.Fault
import PhraseKey.Logged
import PhraseKey.Main
import PhraseKey.Mpi
import PhraseKey.Octets
import PhraseKey.Packet
import PhraseKey.Packet.Tag
import PhraseKey.Parser
import PhraseKey.Passphrase
import PhraseKey.Proofs.ArmoredRuns
import PhraseKey.Proofs.Armoring
import PhraseKey.Proofs.Base64Acceptance
import PhraseKey.Proofs.Base64Coding
import PhraseKey.Proofs.BlockGrammar
import PhraseKey.Proofs.BlockText
import PhraseKey.Proofs.Certification
import PhraseKey.Proofs.ChecksumLine
import PhraseKey.Proofs.FieldAcceptance
import PhraseKey.Proofs.FieldReading
import PhraseKey.Proofs.HashInput
import PhraseKey.Proofs.HeaderLines
import PhraseKey.Proofs.IntegerDamage
import PhraseKey.Proofs.IntegerReading
import PhraseKey.Proofs.KeyAcceptance
import PhraseKey.Proofs.KeyFiles
import PhraseKey.Proofs.KeyLoading
import PhraseKey.Proofs.KeyOfSeed
import PhraseKey.Proofs.KeyReading
import PhraseKey.Proofs.KeyStorage
import PhraseKey.Proofs.OctetNumbers
import PhraseKey.Proofs.OptionWords
import PhraseKey.Proofs.PacketAcceptance
import PhraseKey.Proofs.PacketReading
import PhraseKey.Proofs.PacketStreams
import PhraseKey.Proofs.ScanAcceptance
import PhraseKey.Proofs.Scanning
import PhraseKey.Proofs.SecretDamage
import PhraseKey.Proofs.SignatureMaking
import PhraseKey.Proofs.SignatureReading
import PhraseKey.Proofs.StreamAgreement
import PhraseKey.Proofs.TextLines
import PhraseKey.Proofs.Verification
import PhraseKey.Reading
import PhraseKey.Seed
import PhraseKey.Signature
import PhraseKey.Signature.KeyFlags
import PhraseKey.Signature.SignatureType
import PhraseKey.Signature.Statement
import PhraseKey.Signature.Subpacket
import PhraseKey.Source
import PhraseKey.Source.Failure
import PhraseKey.Stateful
import PhraseKey.Text.Hidden
import PhraseKey.Text.Quoted
import PhraseKey.Text.Utf8
import PhraseKey.Timestamp
import PhraseKey.UserId
import PhraseKey.Proofs.HeaderSearch
import PhraseKey.Proofs.BurstErrors
import PhraseKey.Proofs.SignatureFraming
import PhraseKey.Proofs.KeyHistory
import PhraseKey.Proofs.ReadingDemand
import PhraseKey.Proofs.InputArrival
import PhraseKey.Proofs.Traps
import PhraseKey.Proofs.GuardedFields
import PhraseKey.Proofs.GuardedLines
import PhraseKey.Proofs.MalformedInput
import PhraseKey.Proofs.CostScaling
import PhraseKey.Proofs.StreamAlignment
import PhraseKey.Proofs.ValidatedParameters
import PhraseKey.Proofs.Truncation
import PhraseKey.Proofs.IntegerNumbers
import PhraseKey.Proofs.WrappedCounts
import PhraseKey.Proofs.BindingStatements
import PhraseKey.Proofs.EmissionLogs
import PhraseKey.Proofs.LengthOctets
import PhraseKey.Proofs.DeclaredLengths
import PhraseKey.Proofs.KeyIdentity
import PhraseKey.Proofs.KeyOfPassphrase
import PhraseKey.Proofs.LogSecrecy
import PhraseKey.Proofs.TimeConversion
import PhraseKey.Proofs.OctetAccounting
import PhraseKey.Proofs.Confirmation
