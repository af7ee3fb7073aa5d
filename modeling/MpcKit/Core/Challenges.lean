import Mathlib.Data.List.Pairwise
import MpcKit.Encoding.Bytes
import MpcKit.Core.Basics

/-! Challenges for the operations on shared wallets. A challenge is the hash of a tag, the
wrapper's uid, its nonce and a payload, one behind the other and without separators. -/

namespace MpcKit.Core
open MpcKit.Encoding

/-! ### `bcs::to_bytes` -/

def bcsU32 (value : UInt32) : Bytes := leBytes 4 value.toNat

def bcsBytes (value : Bytes) : Bytes := lengthPrefixed value

theorem bcsU32_inj {first second : UInt32} (same : bcsU32 first = bcsU32 second) : first = second :=
  UInt32.toNat_inj.mp (leBytes_inj first.toNat_lt second.toNat_lt same)

@[simp] theorem length_bcsU32 (value : UInt32) : (bcsU32 value).length = 4 := length_leBytes 4 _

namespace challenges

def tagAddCredential : Bytes := ascii "mpckitcore::shared::add_credential"
def tagRemoveCredential : Bytes := ascii "mpckitcore::shared::remove_credential"
def tagSetThreshold : Bytes := ascii "mpckitcore::shared::set_threshold"
def tagRequestSign : Bytes := ascii "mpckitcore::shared::request_sign"
def tagRequestFutureSign : Bytes := ascii "mpckitcore::shared::request_future_sign"
def tagCompleteFutureSign : Bytes := ascii "mpckitcore::shared::complete_future_sign"

/-- The loop pushes one byte for each shift. -/
def u64ToLeBytes (value : UInt64) : Bytes :=
  (List.range 8).foldl
    (fun bytes index => bytes ++ [((value >>> UInt64.ofNat (index * 8)) &&& 0xff).toUInt8]) []

/-- What `derive` hashes. -/
def preimage (tag storedUid : Bytes) (nonce : UInt64) (payloadDigest : Bytes) : Bytes :=
  tag ++ storedUid ++ u64ToLeBytes nonce ++ payloadDigest

section
variable (natives : Natives)

def derive (tag storedUid : Bytes) (nonce : UInt64) (payloadDigest : Bytes) : Bytes :=
  natives.sha2_256 (preimage tag storedUid nonce payloadDigest)

def addCredential (storedUid : Bytes) (nonce : UInt64) (newCredentialId : Bytes) : Bytes :=
  derive natives tagAddCredential storedUid nonce newCredentialId

def removeCredential (storedUid : Bytes) (nonce : UInt64) (targetCredentialId : Bytes) : Bytes :=
  derive natives tagRemoveCredential storedUid nonce targetCredentialId

def setThreshold (storedUid : Bytes) (nonce newThreshold : UInt64) : Bytes :=
  derive natives tagSetThreshold storedUid nonce (u64ToLeBytes newThreshold)

def requestSign (storedUid : Bytes) (nonce : UInt64) (payloadDigest : Bytes) : Bytes :=
  derive natives tagRequestSign storedUid nonce payloadDigest

def requestFutureSign (storedUid : Bytes) (nonce : UInt64) (payloadDigest : Bytes) : Bytes :=
  derive natives tagRequestFutureSign storedUid nonce payloadDigest

def completeFutureSign (storedUid : Bytes) (nonce : UInt64) (payloadDigest : Bytes) : Bytes :=
  derive natives tagCompleteFutureSign storedUid nonce payloadDigest

end

theorem foldl_concat_map {α β : Type} (push : α → β) (items : List α) (start : List β) :
    items.foldl (fun pushed item => pushed ++ [push item]) start = start ++ items.map push := by
  induction items generalizing start with
  | nil => simp
  | cons item items ih => simp [ih]

theorem byte_eq (value : UInt64) {index : Nat} (bound : index < 8) :
    ((value >>> UInt64.ofNat (index * 8)) &&& 0xff).toUInt8 = UInt8.ofNat (value.toNat / 256 ^ index % 256) := by
  apply UInt8.toNat_inj.mp
  have shift : (UInt64.ofNat (index * 8)).toNat % 64 = index * 8 := by
    rw [UInt64.toNat_ofNat']
    omega
  have power : 2 ^ (index * 8) = 256 ^ index := by
    rw [Nat.mul_comm, Nat.pow_mul]
  rw [UInt64.toNat_toUInt8, UInt64.toNat_and, UInt64.toNat_shiftRight, shift, toNat_ofNat_mod,
    Nat.shiftRight_eq_div_pow, power]
  have mask : (255 : Nat) = 2 ^ 8 - 1 := rfl
  have literal : (0xff : UInt64).toNat = 255 := rfl
  rw [literal, mask, Nat.and_two_pow_sub_one_eq_mod]
  omega

theorem u64ToLeBytes_eq (value : UInt64) : u64ToLeBytes value = leBytes 8 value.toNat := by
  rw [u64ToLeBytes, foldl_concat_map, List.nil_append, leBytes_eq_map]
  apply List.map_congr_left
  intro index inside
  exact byte_eq value (List.mem_range.mp inside)

@[simp] theorem length_u64ToLeBytes (value : UInt64) : (u64ToLeBytes value).length = 8 := by
  rw [u64ToLeBytes_eq, length_leBytes]

theorem u64ToLeBytes_inj {first second : UInt64} (same : u64ToLeBytes first = u64ToLeBytes second) :
    first = second := by
  rw [u64ToLeBytes_eq, u64ToLeBytes_eq] at same
  exact UInt64.toNat_inj.mp (leBytes_inj first.toNat_lt second.toNat_lt same)

/-- Behind a common tag the fixed widths give the parts back. -/
theorem preimage_inj {tag payload other : Bytes} {uid uid' : Address} {nonce nonce' : UInt64}
    (same : preimage tag uid.bytes nonce payload = preimage tag uid'.bytes nonce' other) :
    uid = uid' ∧ nonce = nonce' ∧ payload = other := by
  simp only [preimage, List.append_assoc, List.append_cancel_left_eq] at same
  obtain ⟨uids, rest⟩ := List.append_inj same (uid.length_bytes.trans uid'.length_bytes.symm)
  obtain ⟨nonces, payloads⟩ := List.append_inj rest (by simp)
  refine ⟨?_, u64ToLeBytes_inj nonces, payloads⟩
  cases uid
  cases uid'
  simp_all

end challenges

/-! ### The operations -/

namespace sign

/-- What `sign_payload_digest` hashes. -/
def payloadPreimage (signatureAlgorithm hashScheme : UInt32) (message : Bytes) : Bytes :=
  bcsU32 signatureAlgorithm ++ bcsU32 hashScheme ++ bcsBytes message

/-- What `future_sign_payload_digest` hashes: there is no algorithm yet. -/
def futurePayloadPreimage (hashScheme : UInt32) (message : Bytes) : Bytes :=
  bcsU32 hashScheme ++ bcsBytes message

def signPayloadDigest (natives : Natives) (signatureAlgorithm hashScheme : UInt32) (message : Bytes) : Bytes :=
  natives.sha2_256 (payloadPreimage signatureAlgorithm hashScheme message)

def futureSignPayloadDigest (natives : Natives) (hashScheme : UInt32) (message : Bytes) : Bytes :=
  natives.sha2_256 (futurePayloadPreimage hashScheme message)

theorem futurePayloadPreimage_inj {hash hash' : UInt32} {message message' : Bytes}
    (same : futurePayloadPreimage hash message = futurePayloadPreimage hash' message') :
    hash = hash' ∧ message = message' := by
  obtain ⟨hashes, messages⟩ := List.append_inj same (by simp)
  exact ⟨bcsU32_inj hashes, lengthPrefixed_inj messages⟩

theorem payloadPreimage_inj {algorithm algorithm' hash hash' : UInt32} {message message' : Bytes}
    (same : payloadPreimage algorithm hash message = payloadPreimage algorithm' hash' message') :
    algorithm = algorithm' ∧ hash = hash' ∧ message = message' := by
  simp only [payloadPreimage, List.append_assoc] at same
  obtain ⟨algorithms, rest⟩ := List.append_inj same (by simp)
  exact ⟨bcsU32_inj algorithms, futurePayloadPreimage_inj rest⟩

section
variable {natives : Natives} {algorithm algorithm' hash hash' : UInt32} {message message' : Bytes}

theorem signPayloadDigest_binds
    (same : signPayloadDigest natives algorithm hash message = signPayloadDigest natives algorithm' hash' message') :
    (algorithm = algorithm' ∧ hash = hash' ∧ message = message') ∨
      Collides natives.sha2_256 (payloadPreimage algorithm hash message)
        (payloadPreimage algorithm' hash' message') := by
  unfold signPayloadDigest at same
  exact (eq_or_collides same).imp_left payloadPreimage_inj

theorem futureSignPayloadDigest_binds
    (same : futureSignPayloadDigest natives hash message = futureSignPayloadDigest natives hash' message') :
    (hash = hash' ∧ message = message') ∨
      Collides natives.sha2_256 (futurePayloadPreimage hash message) (futurePayloadPreimage hash' message') := by
  unfold futureSignPayloadDigest at same
  exact (eq_or_collides same).imp_left futurePayloadPreimage_inj

end

end sign

inductive OpKind where
  | addCredential
  | removeCredential
  | setThreshold
  | requestSign
  | requestFutureSign
  | completeFutureSign
  deriving DecidableEq, Repr

/-- An operation on a shared wallet with the arguments its challenge binds. -/
inductive SharedOp where
  | addCredential (newCredentialId : Bytes)
  | removeCredential (targetCredentialId : Bytes)
  | setThreshold (newThreshold : UInt64)
  | requestSign (signatureAlgorithm hashScheme : UInt32) (message : Bytes)
  | requestFutureSign (hashScheme : UInt32) (message : Bytes)
  | completeFutureSign (signatureAlgorithm hashScheme : UInt32) (message : Bytes)
  deriving DecidableEq, Repr

namespace SharedOp

def kind : SharedOp → OpKind
  | .addCredential .. => .addCredential
  | .removeCredential .. => .removeCredential
  | .setThreshold .. => .setThreshold
  | .requestSign .. => .requestSign
  | .requestFutureSign .. => .requestFutureSign
  | .completeFutureSign .. => .completeFutureSign

/-- The challenge the operation's entry derives on the wrapper `uid` at `nonce`. -/
def challenge (natives : Natives) (uid : Address) (nonce : UInt64) : SharedOp → Bytes
  | .addCredential id => challenges.addCredential natives uid.bytes nonce id
  | .removeCredential id => challenges.removeCredential natives uid.bytes nonce id
  | .setThreshold threshold => challenges.setThreshold natives uid.bytes nonce threshold
  | .requestSign algorithm hash message =>
    challenges.requestSign natives uid.bytes nonce (sign.signPayloadDigest natives algorithm hash message)
  | .requestFutureSign hash message =>
    challenges.requestFutureSign natives uid.bytes nonce (sign.futureSignPayloadDigest natives hash message)
  | .completeFutureSign algorithm hash message =>
    challenges.completeFutureSign natives uid.bytes nonce (sign.signPayloadDigest natives algorithm hash message)

end SharedOp

/-! ### What a challenge binds -/

def OpKind.tag : OpKind → Bytes
  | .addCredential => challenges.tagAddCredential
  | .removeCredential => challenges.tagRemoveCredential
  | .setThreshold => challenges.tagSetThreshold
  | .requestSign => challenges.tagRequestSign
  | .requestFutureSign => challenges.tagRequestFutureSign
  | .completeFutureSign => challenges.tagCompleteFutureSign

def OpKind.all : List OpKind :=
  [.addCredential, .removeCredential, .setThreshold, .requestSign, .requestFutureSign, .completeFutureSign]

theorem OpKind.mem_all (kind : OpKind) : kind ∈ all := by
  cases kind <;> decide

theorem OpKind.pairwise_apart : (all.map tag).Pairwise Apart := by
  decide +kernel

/-- No tag starts another one, so a tag is read off the front without its length. -/
theorem OpKind.tag_apart {first second : OpKind} (different : first ≠ second) :
    Apart first.tag second.tag := by
  have pairwise := List.pairwise_map.mp pairwise_apart
  have : Std.Symm (fun first second : OpKind => Apart first.tag second.tag) := ⟨fun _ _ apart => apart.symm⟩
  exact pairwise.forall (mem_all first) (mem_all second) different

namespace SharedOp

/-- The bytes behind the nonce. -/
def payload (natives : Natives) : SharedOp → Bytes
  | .addCredential id => id
  | .removeCredential id => id
  | .setThreshold threshold => challenges.u64ToLeBytes threshold
  | .requestSign algorithm hash message => sign.signPayloadDigest natives algorithm hash message
  | .requestFutureSign hash message => sign.futureSignPayloadDigest natives hash message
  | .completeFutureSign algorithm hash message => sign.signPayloadDigest natives algorithm hash message

/-- What the payload is a digest of, for the operations that have one. -/
def digested : SharedOp → Option Bytes
  | .requestSign algorithm hash message => some (sign.payloadPreimage algorithm hash message)
  | .requestFutureSign hash message => some (sign.futurePayloadPreimage hash message)
  | .completeFutureSign algorithm hash message => some (sign.payloadPreimage algorithm hash message)
  | _ => none

def preimage (natives : Natives) (uid : Address) (nonce : UInt64) (op : SharedOp) : Bytes :=
  challenges.preimage op.kind.tag uid.bytes nonce (op.payload natives)

theorem challenge_eq (natives : Natives) (uid : Address) (nonce : UInt64) (op : SharedOp) :
    op.challenge natives uid nonce = natives.sha2_256 (op.preimage natives uid nonce) := by
  cases op <;> rfl

/-- The payload digests of two operations collide. -/
def DigestsCollide (natives : Natives) (first second : SharedOp) : Prop :=
  ∃ one other, first.digested = some one ∧ second.digested = some other ∧ Collides natives.sha2_256 one other

/-- The two challenges rest on a collision, and these are the colliding inputs. -/
def Clash (natives : Natives) (uid : Address) (nonce : UInt64) (first : SharedOp)
    (uid' : Address) (nonce' : UInt64) (second : SharedOp) : Prop :=
  Collides natives.sha2_256 (first.preimage natives uid nonce) (second.preimage natives uid' nonce') ∨
    DigestsCollide natives first second

/-- Within a kind the payload gives the arguments back. -/
theorem payload_inj {natives : Natives} {first second : SharedOp} (kinds : first.kind = second.kind)
    (same : first.payload natives = second.payload natives) :
    first = second ∨ DigestsCollide natives first second := by
  cases first with
  | addCredential id =>
    cases second <;> cases kinds
    exact .inl (congrArg _ same)
  | removeCredential id =>
    cases second <;> cases kinds
    exact .inl (congrArg _ same)
  | setThreshold threshold =>
    cases second <;> cases kinds
    exact .inl (congrArg _ (challenges.u64ToLeBytes_inj same))
  | requestSign algorithm hash message =>
    cases second <;> cases kinds
    rcases sign.signPayloadDigest_binds same with ⟨rfl, rfl, rfl⟩ | collide
    · exact .inl rfl
    · exact .inr ⟨_, _, rfl, rfl, collide⟩
  | requestFutureSign hash message =>
    cases second <;> cases kinds
    rcases sign.futureSignPayloadDigest_binds same with ⟨rfl, rfl⟩ | collide
    · exact .inl rfl
    · exact .inr ⟨_, _, rfl, rfl, collide⟩
  | completeFutureSign algorithm hash message =>
    cases second <;> cases kinds
    rcases sign.signPayloadDigest_binds same with ⟨rfl, rfl, rfl⟩ | collide
    · exact .inl rfl
    · exact .inr ⟨_, _, rfl, rfl, collide⟩

theorem eq_or_clash {natives : Natives} {uid uid' : Address} {nonce nonce' : UInt64} {first second : SharedOp}
    (same : first.challenge natives uid nonce = second.challenge natives uid' nonce') :
    (first = second ∧ uid = uid' ∧ nonce = nonce') ∨ Clash natives uid nonce first uid' nonce' second := by
  rw [challenge_eq, challenge_eq] at same
  rcases eq_or_collides same with equal | collide
  · by_cases kinds : first.kind = second.kind
    · unfold preimage at equal
      rw [kinds] at equal
      obtain ⟨uids, nonces, payloads⟩ := challenges.preimage_inj equal
      rcases payload_inj kinds payloads with ops | collide
      · exact .inl ⟨ops, uids, nonces⟩
      · exact .inr (.inr collide)
    · simp only [preimage, challenges.preimage, List.append_assoc] at equal
      exact absurd equal (OpKind.tag_apart kinds).append_ne
  · exact .inr (.inl collide)

/-- A challenge determines the operation, the wrapper and the nonce, short of a collision among
the very inputs that were hashed. -/
theorem challenge_binding (natives : Natives) (uid uid' : Address) (nonce nonce' : UInt64)
    (first second : SharedOp) (same : first.challenge natives uid nonce = second.challenge natives uid' nonce') :
    (first.kind = second.kind ∧ first = second ∧ uid = uid' ∧ nonce = nonce') ∨
      Collides natives.sha2_256 (first.preimage natives uid nonce) (second.preimage natives uid' nonce') ∨
      ∃ one other, first.digested = some one ∧ second.digested = some other ∧
        Collides natives.sha2_256 one other := by
  rcases eq_or_clash same with ⟨rfl, uids, nonces⟩ | clash
  · exact .inl ⟨rfl, rfl, uids, nonces⟩
  · exact .inr clash

/-- The hash function at the sample's input: its real digest. -/
def sampleHash (bytes : Bytes) : Bytes :=
  if bytes = challenges.preimage challenges.tagSetThreshold (List.replicate 32 1) 7 (challenges.u64ToLeBytes 2) then
    (leBytes 32 0x29aeca7ac4cd5b88879b3306b5c849f4c919b1a2d14a4cc5fe26cf1b00702f06).reverse
  else []

theorem challenge_binding_sample :
    let natives : Natives := ⟨sampleHash, fun _ => [], fun _ _ _ => false, fun _ _ _ _ => false, fun _ _ _ _ => false⟩
    let uid : Address := ⟨List.replicate 32 1, rfl⟩
    let op : SharedOp := .setThreshold 2
    (op.kind = op.kind ∧ op = op ∧ uid = uid ∧ (7 : UInt64) = 7) ∨
      Collides natives.sha2_256 (op.preimage natives uid 7) (op.preimage natives uid 7) ∨
      ∃ one other, op.digested = some one ∧ op.digested = some other ∧ Collides natives.sha2_256 one other :=
  challenge_binding _ _ _ 7 7 (.setThreshold 2) (.setThreshold 2) rfl

end SharedOp

end MpcKit.Core
