import Mathlib.Data.Finset.Card
import MpcKit.Core.Assertion
import MpcKit.Core.Challenges

/-! Authorisation of an operation on a shared wallet: every credential is checked against the
roster for one challenge, and enough different ones have to be there. -/

namespace MpcKit.Core
open MpcKit.Encoding

/-- What the entries read of `TxContext`. -/
structure TxContext where
  sender : Address

inductive Credential where
  | ed25519 (signature publicKey : Bytes)
  | secp256k1 (signature publicKey : Bytes)
  | secp256r1 (signature publicKey : Bytes)
  | webAuthn (assertion : WebAuthnAssertion)
  | senderAddress (address : Address)
  deriving DecidableEq

inductive NewCredential where
  | ed25519 (publicKey : Bytes)
  | secp256k1 (publicKey : Bytes)
  | secp256r1 (publicKey : Bytes)
  | webAuthn (publicKey : Bytes)
  | senderAddress (address : Address)
  deriving DecidableEq

namespace auth

def schemeEd25519 : UInt8 := 0
def schemeSecp256k1 : UInt8 := 1
def schemeSecp256r1 : UInt8 := 2
def schemeWebAuthn : UInt8 := 3
def schemeSenderAddress : UInt8 := 4

/-- Passed as the hash selector of `ecdsa_k1` and `ecdsa_r1`. -/
def sha256Hash : UInt8 := 0

def eUnknownCredential : Abort := .failed .auth 1
def eBadSignature : Abort := .failed .auth 2
def eBadChallengeLength : Abort := .failed .auth 3
def eBadPubkeyLength : Abort := .failed .auth 4
def eNotEnoughSignatures : Abort := .failed .auth 5
def eDuplicateSigner : Abort := .failed .auth 6
def eWrongSender : Abort := .failed .auth 7

def credentialId (scheme : UInt8) (publicKey : Bytes) : Bytes := scheme :: publicKey

/-- `blake2b256([3, 0, 0] || bcs(message))` -/
def personalMessageDigest (natives : Natives) (challenge : Bytes) : Bytes :=
  natives.blake2b256 ([3, 0, 0] ++ bcsBytes challenge)

/-! ### New credentials -/

def newCredentialIdBytes : NewCredential → Bytes
  | .ed25519 publicKey => credentialId schemeEd25519 publicKey
  | .secp256k1 publicKey => credentialId schemeSecp256k1 publicKey
  | .secp256r1 publicKey => credentialId schemeSecp256r1 publicKey
  | .webAuthn publicKey => credentialId schemeWebAuthn publicKey
  | .senderAddress address => credentialId schemeSenderAddress address.bytes

def isAlreadyRegistered (credential : NewCredential) (credentials : VecSet Bytes) : Bool :=
  credentials.contains (newCredentialIdBytes credential)

def insertCredential (credential : NewCredential) (credentials : VecSet Bytes) : Except Abort (VecSet Bytes) :=
  credentials.insert (newCredentialIdBytes credential)

def removeCredential (credentialIdBytes : Bytes) (credentials : VecSet Bytes) : Except Abort (VecSet Bytes) :=
  credentials.remove credentialIdBytes

def assertPubkeyLength : NewCredential → Except Abort Unit
  | .ed25519 publicKey => assert (publicKey.length = 32) eBadPubkeyLength
  | .secp256k1 publicKey => assert (publicKey.length = 33) eBadPubkeyLength
  | .secp256r1 publicKey => assert (publicKey.length = 33) eBadPubkeyLength
  | .webAuthn publicKey => assert (publicKey.length = 33) eBadPubkeyLength
  | .senderAddress _ => pure ()

/-! ### Verification -/

section
variable (natives : Natives) (credentials : VecSet Bytes) (expectedChallenge : Bytes) (ctx : TxContext)

/-- Check one credential; the answer is its id. -/
def verifyOne (credential : Credential) : Except Abort Bytes := do
  assert (expectedChallenge.length = 32) eBadChallengeLength
  match credential with
  | .ed25519 signature publicKey =>
    assert (publicKey.length = 32) eBadPubkeyLength
    let id := credentialId schemeEd25519 publicKey
    assert (credentials.contains id) eUnknownCredential
    let digest := personalMessageDigest natives expectedChallenge
    assert (natives.ed25519Verify signature publicKey digest) eBadSignature
    pure id
  | .secp256k1 signature publicKey =>
    assert (publicKey.length = 33) eBadPubkeyLength
    let id := credentialId schemeSecp256k1 publicKey
    assert (credentials.contains id) eUnknownCredential
    let digest := personalMessageDigest natives expectedChallenge
    assert (natives.secp256k1Verify signature publicKey digest sha256Hash) eBadSignature
    pure id
  | .secp256r1 signature publicKey =>
    assert (publicKey.length = 33) eBadPubkeyLength
    let id := credentialId schemeSecp256r1 publicKey
    assert (credentials.contains id) eUnknownCredential
    let digest := personalMessageDigest natives expectedChallenge
    assert (natives.secp256r1Verify signature publicKey digest sha256Hash) eBadSignature
    pure id
  | .webAuthn passkey =>
    let id := credentialId schemeWebAuthn passkey.publicKey
    assert (credentials.contains id) eUnknownCredential
    assertion.verifySignature natives passkey expectedChallenge
    pure id
  | .senderAddress address =>
    assert (address = ctx.sender) eWrongSender
    let id := credentialId schemeSenderAddress address.bytes
    assert (credentials.contains id) eUnknownCredential
    pure id

/-- The loop of `verify_threshold`, with the credentials in the order they are popped. -/
def verifyEach : List Credential → VecSet Bytes → Except Abort (VecSet Bytes)
  | [], seen => pure seen
  | credential :: rest, seen => do
    let id ← verifyOne natives credentials expectedChallenge ctx credential
    assert (¬seen.contains id) eDuplicateSigner
    let seen ← seen.insert id
    verifyEach rest seen

def verifyThreshold (creds : List Credential) (threshold : UInt64) : Except Abort Unit := do
  assert (threshold.toNat ≤ creds.length) eNotEnoughSignatures
  -- `pop_back` takes the last one first.
  let _ ← verifyEach natives credentials expectedChallenge ctx creds.reverse VecSet.empty
  pure ()

end

end auth

/-! ### What a credential has to show -/

namespace Credential

/-- The scheme tag and the key or address. -/
def id : Credential → Bytes
  | .ed25519 _ publicKey => auth.credentialId auth.schemeEd25519 publicKey
  | .secp256k1 _ publicKey => auth.credentialId auth.schemeSecp256k1 publicKey
  | .secp256r1 _ publicKey => auth.credentialId auth.schemeSecp256r1 publicKey
  | .webAuthn passkey => auth.credentialId auth.schemeWebAuthn passkey.publicKey
  | .senderAddress address => auth.credentialId auth.schemeSenderAddress address.bytes

/-- The credential on its own authorises the challenge: a signature under a key of the scheme's
length, a passkey assertion that names the challenge, or the sender. -/
def Authorises (natives : Natives) (challenge : Bytes) (ctx : TxContext) : Credential → Prop
  | .ed25519 signature publicKey =>
    publicKey.length = 32 ∧
      natives.ed25519Verify signature publicKey (auth.personalMessageDigest natives challenge) = true
  | .secp256k1 signature publicKey =>
    publicKey.length = 33 ∧ natives.secp256k1Verify signature publicKey
      (auth.personalMessageDigest natives challenge) auth.sha256Hash = true
  | .secp256r1 signature publicKey =>
    publicKey.length = 33 ∧ natives.secp256r1Verify signature publicKey
      (auth.personalMessageDigest natives challenge) auth.sha256Hash = true
  | .webAuthn passkey =>
    natives.secp256r1Verify passkey.signature passkey.publicKey
        (passkey.authenticatorData ++ natives.sha2_256 passkey.clientDataJson) assertion.ecdsaR1Sha256 = true ∧
      assertion.Names passkey.clientDataJson challenge
  | .senderAddress address => address = ctx.sender

end Credential

namespace auth

section
variable {natives : Natives} {credentials : VecSet Bytes} {challenge : Bytes} {ctx : TxContext}

theorem verifyOne_eq_ok {credential : Credential} {id : Bytes} :
    verifyOne natives credentials challenge ctx credential = .ok id ↔
      challenge.length = 32 ∧ credential.Authorises natives challenge ctx ∧
        credential.id ∈ credentials.contents ∧ credential.id = id := by
  cases credential with
  | ed25519 signature publicKey =>
    simp [verifyOne, Credential.Authorises, Credential.id]
    tauto
  | secp256k1 signature publicKey =>
    simp [verifyOne, Credential.Authorises, Credential.id]
    tauto
  | secp256r1 signature publicKey =>
    simp [verifyOne, Credential.Authorises, Credential.id]
    tauto
  | webAuthn passkey =>
    simp [verifyOne, Credential.Authorises, Credential.id, assertion.verifySignature_eq_ok]
    tauto
  | senderAddress address =>
    simp [verifyOne, Credential.Authorises, Credential.id]

/-- What the loop has seen is what was there before with the ids of all popped credentials, none
of them twice. -/
theorem verifyEach_eq_ok (wellFormed : challenge.length = 32) {popped : List Credential} {seen last : VecSet Bytes} :
    verifyEach natives credentials challenge ctx popped seen = .ok last ↔
      (∀ credential ∈ popped, credential.Authorises natives challenge ctx ∧ credential.id ∈ credentials.contents) ∧
        (seen.contents ++ popped.map Credential.id).Nodup ∧
        last.contents = seen.contents ++ popped.map Credential.id := by
  induction popped generalizing seen with
  | nil =>
    cases seen
    cases last
    simp_all [verifyEach, eq_comm]
  | cons credential rest ih =>
    simp only [verifyEach, bind_eq_ok, assert_eq_ok, VecSet.contains_iff, verifyOne_eq_ok, VecSet.insert_eq_ok,
      List.forall_mem_cons, List.map_cons]
    constructor
    · rintro ⟨_, ⟨-, authorised, member, rfl⟩, _, fresh, grown, ⟨-, contents⟩, later⟩
      obtain ⟨others, nodup, final⟩ := ih.mp later
      rw [contents] at nodup final
      refine ⟨⟨⟨authorised, member⟩, others⟩, by simpa using nodup, by simpa using final⟩
    · rintro ⟨⟨⟨authorised, member⟩, others⟩, nodup, final⟩
      have fresh : credential.id ∉ seen.contents := by
        intro inside
        exact (List.nodup_append.mp nodup).2.2 _ inside _ (by simp) rfl
      have nodup' : (seen.contents ++ [credential.id]).Nodup := by
        rw [← List.concat_eq_append]
        exact seen.nodup.concat fresh
      refine ⟨_, ⟨wellFormed, authorised, member, rfl⟩, (), fresh, ⟨_, nodup'⟩, ⟨fresh, rfl⟩, ?_⟩
      exact ih.mpr ⟨others, by simpa using nodup, by simpa using final⟩

theorem verifyThreshold_eq_ok (wellFormed : challenge.length = 32) {creds : List Credential} {threshold : UInt64} :
    verifyThreshold natives credentials challenge ctx creds threshold = .ok () ↔
      threshold.toNat ≤ creds.length ∧
        (∀ credential ∈ creds, credential.Authorises natives challenge ctx ∧ credential.id ∈ credentials.contents) ∧
        (creds.map Credential.id).Nodup := by
  simp only [verifyThreshold, bind_eq_ok, assert_eq_ok, exists_const, verifyEach_eq_ok wellFormed,
    pure_eq_ok, and_true, List.mem_reverse, VecSet.contents_empty, List.nil_append, List.map_reverse,
    List.nodup_reverse, exists_and_left]
  constructor
  · rintro ⟨enough, valid, nodup, _⟩
    exact ⟨enough, valid, nodup⟩
  · rintro ⟨enough, valid, nodup⟩
    exact ⟨enough, valid, nodup, ⟨_, List.nodup_reverse.mpr nodup⟩, rfl⟩

end

section
variable (natives : Natives) (credentials : VecSet Bytes) (threshold : UInt64) (challenge : Bytes) (ctx : TxContext)

/-- Success means enough credentials, each of which authorises the challenge and is on the roster,
no two with one id. So enough members of the roster agreed, and the order is irrelevant. -/
theorem verifyThreshold_exact (creds : List Credential) (wellFormed : challenge.length = 32) :
    (verifyThreshold natives credentials challenge ctx creds threshold = .ok () ↔
      threshold.toNat ≤ creds.length ∧
        (∀ credential ∈ creds, credential.Authorises natives challenge ctx ∧ credential.id ∈ credentials.contents) ∧
        (creds.map Credential.id).Nodup) ∧
    (verifyThreshold natives credentials challenge ctx creds threshold = .ok () →
      ∃ signers : Finset Bytes, threshold.toNat ≤ signers.card ∧ ∀ id ∈ signers, id ∈ credentials.contents ∧
        ∃ credential ∈ creds, credential.id = id ∧ credential.Authorises natives challenge ctx) ∧
    ∀ shuffled : List Credential, shuffled.Perm creds →
      (verifyThreshold natives credentials challenge ctx shuffled threshold = .ok () ↔
        verifyThreshold natives credentials challenge ctx creds threshold = .ok ()) := by
  refine ⟨verifyThreshold_eq_ok wellFormed, ?_, ?_⟩
  · intro passed
    obtain ⟨enough, valid, nodup⟩ := (verifyThreshold_eq_ok wellFormed).mp passed
    refine ⟨(creds.map Credential.id).toFinset, ?_, ?_⟩
    · rw [List.toFinset_card_of_nodup nodup, List.length_map]
      exact enough
    · intro id inside
      obtain ⟨credential, given, rfl⟩ := List.mem_map.mp (List.mem_toFinset.mp inside)
      exact ⟨(valid credential given).2, credential, given, rfl, (valid credential given).1⟩
  · intro shuffled perm
    rw [verifyThreshold_eq_ok wellFormed, verifyThreshold_eq_ok wellFormed, perm.length_eq,
      (perm.map Credential.id).nodup_iff]
    simp only [perm.mem_iff]

end

/-! ### Wallet signatures -/

/-- The documented contract of `sui::ecdsa_k1` and `sui::ecdsa_r1`: selector 0 hashes the message
with KECCAK256, selector 1 with SHA-256. `k1` and `r1` check a signature and a key against a digest. -/
structure EcdsaContract (natives : Natives) (keccak256 : Bytes → Bytes) (k1 r1 : Bytes → Bytes → Bytes → Bool) :
    Prop where
  k1_keccak256 : ∀ signature publicKey message,
    natives.secp256k1Verify signature publicKey message 0 = k1 signature publicKey (keccak256 message)
  k1_sha256 : ∀ signature publicKey message,
    natives.secp256k1Verify signature publicKey message 1 = k1 signature publicKey (natives.sha2_256 message)
  r1_keccak256 : ∀ signature publicKey message,
    natives.secp256r1Verify signature publicKey message 0 = r1 signature publicKey (keccak256 message)
  r1_sha256 : ∀ signature publicKey message,
    natives.secp256r1Verify signature publicKey message 1 = r1 signature publicKey (natives.sha2_256 message)

/-- The credential carries what a wallet produces for the challenge: `signPersonalMessage` with
ECDSA over SHA-256 of the digest, or a passkey assertion over SHA-256. -/
def WalletSigned (natives : Natives) (k1 r1 : Bytes → Bytes → Bytes → Bool) (challenge : Bytes) : Credential → Prop
  | .ed25519 signature publicKey =>
    publicKey.length = 32 ∧ natives.ed25519Verify signature publicKey (personalMessageDigest natives challenge) = true
  | .secp256k1 signature publicKey =>
    publicKey.length = 33 ∧
      k1 signature publicKey (natives.sha2_256 (personalMessageDigest natives challenge)) = true
  | .secp256r1 signature publicKey =>
    publicKey.length = 33 ∧
      r1 signature publicKey (natives.sha2_256 (personalMessageDigest natives challenge)) = true
  | .webAuthn passkey =>
    r1 passkey.signature passkey.publicKey
        (natives.sha2_256 (passkey.authenticatorData ++ natives.sha2_256 passkey.clientDataJson)) = true ∧
      assertion.Names passkey.clientDataJson challenge
  | .senderAddress _ => False

/-- The signature also holds for the other hash of the same digest. -/
def HoldsForKeccak (natives : Natives) (keccak256 : Bytes → Bytes) (k1 r1 : Bytes → Bytes → Bytes → Bool)
    (challenge : Bytes) : Credential → Prop
  | .secp256k1 signature publicKey =>
    k1 signature publicKey (keccak256 (personalMessageDigest natives challenge)) = true
  | .secp256r1 signature publicKey =>
    r1 signature publicKey (keccak256 (personalMessageDigest natives challenge)) = true
  | _ => True

/-- `sha256_hash` selects KECCAK256, so an ECDSA wallet signature gets through only if it happens
to hold for that hash as well; Ed25519 signatures and passkeys always get through. -/
theorem verifyOne_walletSigned (natives : Natives) (keccak256 : Bytes → Bytes) (k1 r1 : Bytes → Bytes → Bytes → Bool)
    (contract : EcdsaContract natives keccak256 k1 r1) (credentials : VecSet Bytes) (challenge : Bytes)
    (ctx : TxContext) (credential : Credential) (wellFormed : challenge.length = 32)
    (signed : WalletSigned natives k1 r1 challenge credential) (member : credential.id ∈ credentials.contents) :
    verifyOne natives credentials challenge ctx credential = .ok credential.id ↔
      HoldsForKeccak natives keccak256 k1 r1 challenge credential := by
  rw [verifyOne_eq_ok]
  cases credential with
  | ed25519 signature publicKey =>
    exact ⟨fun _ => trivial, fun _ => ⟨wellFormed, signed, member, rfl⟩⟩
  | secp256k1 signature publicKey =>
    simp only [Credential.Authorises, sha256Hash, contract.k1_keccak256, HoldsForKeccak]
    exact ⟨fun passed => passed.2.1.2, fun holds => ⟨wellFormed, ⟨signed.1, holds⟩, member, trivial⟩⟩
  | secp256r1 signature publicKey =>
    simp only [Credential.Authorises, sha256Hash, contract.r1_keccak256, HoldsForKeccak]
    exact ⟨fun passed => passed.2.1.2, fun holds => ⟨wellFormed, ⟨signed.1, holds⟩, member, trivial⟩⟩
  | webAuthn passkey =>
    have valid : Credential.Authorises natives challenge ctx (.webAuthn passkey) := by
      rw [Credential.Authorises, assertion.ecdsaR1Sha256, contract.r1_sha256]
      exact signed
    exact ⟨fun _ => trivial, fun _ => ⟨wellFormed, valid, member, rfl⟩⟩
  | senderAddress address => exact signed.elim

/-! ### A challenge with signatures of two wallets -/

namespace sample

def bigEndian (width value : Nat) : Bytes := (leBytes width value).reverse

def challenge : Bytes := (List.range 32).map UInt8.ofNat

/-- The digests below are those of the real hash functions. -/
def digest : Bytes := bigEndian 32 0x705dc98f756bfb91765b6c4b4a69b3ab3c73444b5f10654774149caea8a474d1
def sha256OfDigest : Bytes := bigEndian 32 0x078a1ba244db9130740c3cf26d9169e0151c0b3c9e638e7da1b92c21c677aeb5
def keccakOfDigest : Bytes := bigEndian 32 0x01b6f776d51e1e004b830c2cff6eec7aecb96c4c4bec56236084cb8486fc08fd

def k1Key : Bytes := bigEndian 33 0x020be246d2356c91c18518ebcd28de8cee31e064444888d333bfd6fc23c4c9ba05
def k1Signature : Bytes :=
  bigEndian 32 0x32fc274b64407a198180fbe5740cc067175b8a494f02c1c5a9fc4a492095c459 ++
    bigEndian 32 0x5e1d68c79467be71253ea564403bfad1647306ca8b7b00cdb255c002908bc4f8
def edKey : Bytes := bigEndian 32 0x15adae221214ce2b5dc6a316a9ae252f49993c52d365c38bd37e102150362add
def edSignature : Bytes :=
  bigEndian 32 0xa4e6c098e382f919afd43071dc7088878554e2010d6d01fe33bc44eb119852ac ++
    bigEndian 32 0xc949d74ab8afbf291515408eee181a8b7328a93b76f70670e36871a40ec13001

def keccak256 (message : Bytes) : Bytes := if message = digest then keccakOfDigest else []
def sha2_256 (message : Bytes) : Bytes := if message = digest then sha256OfDigest else []
def k1 (signature publicKey hashed : Bytes) : Bool :=
  signature == k1Signature && publicKey == k1Key && hashed == sha256OfDigest
def r1 (_signature _publicKey _hashed : Bytes) : Bool := false

/-- The native functions as far as the two signatures need them. -/
def natives : Natives where
  sha2_256 := sha2_256
  blake2b256 message := if message = [3, 0, 0, 32] ++ challenge then digest else []
  ed25519Verify signature publicKey message := signature == edSignature && publicKey == edKey && message == digest
  secp256k1Verify signature publicKey message hash :=
    if hash = 0 then k1 signature publicKey (keccak256 message) else k1 signature publicKey (sha2_256 message)
  secp256r1Verify signature publicKey message hash :=
    if hash = 0 then r1 signature publicKey (keccak256 message) else r1 signature publicKey (sha2_256 message)

theorem contract : EcdsaContract natives keccak256 k1 r1 :=
  ⟨fun _ _ _ => rfl, fun _ _ _ => rfl, fun _ _ _ => rfl, fun _ _ _ => rfl⟩

def sender : Address := ⟨List.replicate 32 7, by decide⟩
def ed : Credential := .ed25519 edSignature edKey
def k1Wallet : Credential := .secp256k1 k1Signature k1Key

def roster : VecSet Bytes := ⟨[ed.id, k1Wallet.id, (Credential.senderAddress sender).id], by decide +kernel⟩

theorem digest_eq : personalMessageDigest natives challenge = digest := by
  have encoded : bcsBytes challenge = 32 :: challenge := by
    have short : uleb128 32 = [32] := by rw [uleb128]; decide
    have length : challenge.length = 32 := by decide
    rw [bcsBytes, lengthPrefixed, length, short]
    rfl
  have same : [3, 0, 0] ++ 32 :: challenge = [3, 0, 0, 32] ++ challenge := rfl
  rw [personalMessageDigest, encoded, same]
  simp only [natives, if_true]

end sample

/-- An Ed25519 signature and the sender together meet a threshold of two. -/
theorem verifyThreshold_exact_sample :
    verifyThreshold sample.natives sample.roster sample.challenge ⟨sample.sender⟩
      [sample.ed, .senderAddress sample.sender] 2 = .ok () := by
  refine (verifyThreshold_exact sample.natives sample.roster 2 sample.challenge ⟨sample.sender⟩
    [sample.ed, .senderAddress sample.sender] (by decide)).1.mpr ⟨by decide, ?_, by decide +kernel⟩
  rintro credential given
  simp only [List.mem_cons, List.not_mem_nil, or_false] at given
  rcases given with rfl | rfl
  · refine ⟨⟨by decide +kernel, ?_⟩, by decide +kernel⟩
    rw [sample.digest_eq]
    decide +kernel
  · exact ⟨rfl, by decide +kernel⟩

/-- A valid Secp256k1 wallet signature of a roster member is turned away. -/
theorem verifyOne_refuses_k1 :
    EcdsaContract sample.natives sample.keccak256 sample.k1 sample.r1 ∧ sample.challenge.length = 32 ∧
      WalletSigned sample.natives sample.k1 sample.r1 sample.challenge sample.k1Wallet ∧
      sample.k1Wallet.id ∈ sample.roster.contents ∧
      verifyOne sample.natives sample.roster sample.challenge ⟨sample.sender⟩ sample.k1Wallet ≠
        .ok sample.k1Wallet.id := by
  refine ⟨sample.contract, by decide, ⟨by decide +kernel, ?_⟩, by decide +kernel, ?_⟩
  · rw [sample.digest_eq]
    decide +kernel
  · rw [Ne, verifyOne_eq_ok]
    rintro ⟨-, ⟨-, verified⟩, -⟩
    rw [sample.digest_eq] at verified
    exact absurd verified (by decide +kernel)

theorem verifyOne_walletSigned_sample :
    verifyOne sample.natives sample.roster sample.challenge ⟨sample.sender⟩ sample.ed = .ok sample.ed.id := by
  refine (verifyOne_walletSigned sample.natives sample.keccak256 sample.k1 sample.r1 sample.contract sample.roster
    sample.challenge ⟨sample.sender⟩ sample.ed (by decide) ⟨by decide +kernel, ?_⟩ (by decide +kernel)).mpr trivial
  rw [sample.digest_eq]
  decide +kernel

end auth

end MpcKit.Core
