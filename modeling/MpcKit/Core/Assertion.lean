import MpcKit.Core.Basics

/-! Passkey assertions: the signature over the authenticator data and the policy checks on the
client data, which are plain substring searches. -/

namespace MpcKit.Core

structure WebAuthnAssertion where
  publicKey : Bytes
  authenticatorData : Bytes
  clientDataJson : Bytes
  signature : Bytes
  deriving DecidableEq, Repr

namespace assertion

/-- Selects SHA-256 in `ecdsa_r1::secp256r1_verify`. -/
def ecdsaR1Sha256 : UInt8 := 1

def expectedOrigin : Bytes := ascii "https://app.mpckit.xyz"

def eAssertionInvalid : Abort := .failed .assertion 2
def eChallengeMismatch : Abort := .failed .assertion 3
def eBadChallengeLength : Abort := .failed .assertion 4
def eBadType : Abort := .failed .assertion 5
def eBadOrigin : Abort := .failed .assertion 6

/-! ### Substrings -/

/-- The inner loop at position `i`; it breaks at the first byte that differs. -/
def matchedAt (haystack needle : Bytes) (i : Nat) : Bool :=
  (List.range needle.length).all (fun j => haystack[i + j]? == needle[j]?)

def containsSubvec (haystack needle : Bytes) : Bool :=
  if needle.length = 0 then true
  else if haystack.length < needle.length then false
  else (List.range (haystack.length - needle.length + 1)).any (matchedAt haystack needle)

theorem matchedAt_iff {haystack needle : Bytes} {i : Nat} :
    matchedAt haystack needle i = true ↔ (haystack.drop i).take needle.length = needle := by
  simp only [matchedAt, List.all_eq_true, List.mem_range, beq_iff_eq]
  constructor
  · intro equal
    apply List.ext_getElem?
    intro j
    by_cases inside : j < needle.length
    · rw [List.getElem?_take_of_lt inside, List.getElem?_drop, equal j inside]
    · rw [List.getElem?_eq_none (by simp; omega), List.getElem?_eq_none (by omega)]
  · intro equal j inside
    rw [← List.getElem?_drop, ← List.getElem?_take_of_lt inside, equal]

theorem infix_iff {haystack needle : Bytes} :
    needle <:+: haystack ↔
      ∃ i, i + needle.length ≤ haystack.length ∧ (haystack.drop i).take needle.length = needle := by
  constructor
  · rintro ⟨front, back, rfl⟩
    refine ⟨front.length, by simp, ?_⟩
    simp
  · rintro ⟨i, _, equal⟩
    rw [← equal]
    exact (List.take_prefix _ _).isInfix.trans (List.drop_suffix i haystack).isInfix

theorem containsSubvec_iff {haystack needle : Bytes} :
    containsSubvec haystack needle = true ↔ needle <:+: haystack := by
  unfold containsSubvec
  split
  next empty => simp [List.eq_nil_of_length_eq_zero empty]
  next =>
    split
    next short =>
      refine ⟨fun impossible => by simp at impossible, fun inside => ?_⟩
      have := inside.length_le
      omega
    next long =>
      rw [infix_iff, List.any_eq_true]
      constructor
      · rintro ⟨i, bound, matched⟩
        rw [List.mem_range] at bound
        exact ⟨i, by omega, matchedAt_iff.mp matched⟩
      · rintro ⟨i, fits, equal⟩
        exact ⟨i, List.mem_range.mpr (by omega), matchedAt_iff.mpr equal⟩

/-! ### Base64 -/

def alphabet : Bytes := ascii "ABCDEFGHIJKLMNOPQRSTUVWXYZabcdefghijklmnopqrstuvwxyz0123456789-_"

/-- The character for the low six bits. -/
def symbol (bits : UInt64) : UInt8 := alphabet.getD (bits &&& 0x3f).toNat 0

/-- Ten groups of three bytes, then two bytes, as 43 characters. -/
def base64url (input : Bytes) : Bytes :=
  let byte := fun index => (input.getD index 0).toUInt64
  let out := (List.range 10).foldl (fun out g =>
    let combined := (byte (g * 3) <<< 16) ||| (byte (g * 3 + 1) <<< 8) ||| byte (g * 3 + 2)
    out ++ [symbol (combined >>> 18), symbol (combined >>> 12), symbol (combined >>> 6), symbol combined]) []
  let b0 := byte 30
  let b1 := byte 31
  out ++ [symbol (b0 >>> 2), symbol (((b0 &&& 0x03) <<< 4) ||| (b1 >>> 4)), symbol ((b1 &&& 0x0f) <<< 2)]

def base64urlEncode32 (input : Bytes) : Except Abort Bytes := do
  assert (input.length = 32) eBadChallengeLength
  pure (base64url input)

/-! ### Verification -/

/-- The closing quote. -/
def quote : Bytes := [34]

def challengeNeedle (encoded : Bytes) : Bytes := ascii "\"challenge\":\"" ++ encoded ++ quote
def typeNeedle : Bytes := ascii "\"type\":\"webauthn.get\""
def originNeedle : Bytes := ascii "\"origin\":\"" ++ expectedOrigin ++ quote

def verifyClientDataJson (clientDataJson expectedChallenge : Bytes) : Except Abort Unit := do
  let encoded ← base64urlEncode32 expectedChallenge
  assert (containsSubvec clientDataJson (challengeNeedle encoded)) eChallengeMismatch
  assert (containsSubvec clientDataJson typeNeedle) eBadType
  assert (containsSubvec clientDataJson originNeedle) eBadOrigin

def verifySignature (natives : Natives) (self : WebAuthnAssertion) (expectedChallenge : Bytes) :
    Except Abort Unit := do
  assert (expectedChallenge.length = 32) eBadChallengeLength
  let signed := self.authenticatorData ++ natives.sha2_256 self.clientDataJson
  assert (natives.secp256r1Verify self.signature self.publicKey signed ecdsaR1Sha256) eAssertionInvalid
  verifyClientDataJson self.clientDataJson expectedChallenge

/-- The client data names the challenge, the type and the origin. -/
def Names (clientDataJson challenge : Bytes) : Prop :=
  challengeNeedle (base64url challenge) <:+: clientDataJson ∧ typeNeedle <:+: clientDataJson ∧
    originNeedle <:+: clientDataJson

theorem verifyClientDataJson_eq_ok {clientDataJson challenge : Bytes} {result : Unit} :
    verifyClientDataJson clientDataJson challenge = .ok result ↔
      challenge.length = 32 ∧ Names clientDataJson challenge := by
  simp [verifyClientDataJson, base64urlEncode32, Names, containsSubvec_iff]

theorem verifySignature_eq_ok {natives : Natives} {self : WebAuthnAssertion} {challenge : Bytes} {result : Unit} :
    verifySignature natives self challenge = .ok result ↔
      challenge.length = 32 ∧ natives.secp256r1Verify self.signature self.publicKey
        (self.authenticatorData ++ natives.sha2_256 self.clientDataJson) ecdsaR1Sha256 = true ∧
      Names self.clientDataJson challenge := by
  simp only [verifySignature, bind_eq_ok, assert_eq_ok, exists_const, verifyClientDataJson_eq_ok]
  tauto

end assertion

end MpcKit.Core
