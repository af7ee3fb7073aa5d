import MpcKit.Core.ClientData
import MpcKit.Core.Vectors
import MpcKit.Transact.Loop

/-! The challenge's encoding as the virtual machine runs it, against a decoder written from RFC 4648:
base64url without padding. -/

namespace MpcKit.Core
open MpcKit.Transact

namespace Rfc4648

/-- The value of a character of the url-safe alphabet. -/
def sextet (character : UInt8) : Option Nat :=
  let code := character.toNat
  if 65 ≤ code ∧ code ≤ 90 then some (code - 65)
  else if 97 ≤ code ∧ code ≤ 122 then some (code - 97 + 26)
  else if 48 ≤ code ∧ code ≤ 57 then some (code - 48 + 52)
  else if code = 45 then some 62
  else if code = 95 then some 63
  else none

def UrlSafe (character : UInt8) : Prop := (sextet character).isSome

/-- Four characters stand for three bytes; two or three characters at the end stand for one byte or
two, and the bits they have too many are zero. -/
def decode : Bytes → Option Bytes
  | [] => some []
  | [_] => none
  | [first, second] => do
    let a ← sextet first
    let b ← sextet second
    if b % 16 = 0 then some [UInt8.ofNat (a * 4 + b / 16)] else none
  | [first, second, third] => do
    let a ← sextet first
    let b ← sextet second
    let c ← sextet third
    if c % 4 = 0 then some [UInt8.ofNat (a * 4 + b / 16), UInt8.ofNat (b % 16 * 16 + c / 4)] else none
  | first :: second :: third :: fourth :: rest => do
    let a ← sextet first
    let b ← sextet second
    let c ← sextet third
    let d ← sextet fourth
    let bytes ← decode rest
    some (UInt8.ofNat (a * 4 + b / 16) :: UInt8.ofNat (b % 16 * 16 + c / 4) :: UInt8.ofNat (c % 4 * 64 + d) :: bytes)

end Rfc4648

namespace Vm
open assertion

/-- The alphabet as the function's local vector. -/
def alphabet : ByteVector := ⟨assertion.alphabet, by decide⟩

/-- A turn of the loop over the groups of three bytes: the counter and the output so far. -/
def encodeGroup (input : ByteVector) (state : UInt64 × Bytes) : Except Fault (Turn (UInt64 × Bytes) Bytes) :=
  let (g, out) := state
  if g < 10 then do
    let start ← u64.mul g 3
    let b0 ← input.borrow start
    let start ← u64.mul g 3
    let index ← u64.add start 1
    let b1 ← input.borrow index
    let start ← u64.mul g 3
    let index ← u64.add start 2
    let b2 ← input.borrow index
    let combined := (b0.toUInt64 <<< 16) ||| (b1.toUInt64 <<< 8) ||| b2.toUInt64
    let c0 ← alphabet.borrow ((combined >>> 18) &&& 0x3f)
    let c1 ← alphabet.borrow ((combined >>> 12) &&& 0x3f)
    let c2 ← alphabet.borrow ((combined >>> 6) &&& 0x3f)
    let c3 ← alphabet.borrow (combined &&& 0x3f)
    let next ← u64.add g 1
    pure (.again (next, out ++ [c0] ++ [c1] ++ [c2] ++ [c3]))
  else pure (.leave out)

def base64urlEncode32 (gas : Nat) (input : ByteVector) : Except Fault Bytes :=
  if input.length = 32 then do
    let out ← loop Fault.outOfGas (encodeGroup input) gas (0, [])
    let b0 ← input.borrow 30
    let b1 ← input.borrow 31
    let c0 ← alphabet.borrow ((b0.toUInt64 >>> 2) &&& 0x3f)
    let c1 ← alphabet.borrow ((((b0.toUInt64 &&& 0x03) <<< 4) ||| (b1.toUInt64 >>> 4)) &&& 0x3f)
    let c2 ← alphabet.borrow (((b1.toUInt64 &&& 0x0f) <<< 2) &&& 0x3f)
    pure (out ++ [c0] ++ [c1] ++ [c2])
  else .error (.aborted eBadChallengeLength)

end Vm

/-! ### Groups -/

namespace assertion
open Rfc4648

/-- Three bytes as four characters. -/
def encoded3 (b0 b1 b2 : UInt8) : Bytes :=
  let combined := (b0.toUInt64 <<< 16) ||| (b1.toUInt64 <<< 8) ||| b2.toUInt64
  [symbol (combined >>> 18), symbol (combined >>> 12), symbol (combined >>> 6), symbol combined]

/-- The last two bytes as three characters. -/
def encoded2 (b0 b1 : UInt8) : Bytes :=
  [symbol (b0.toUInt64 >>> 2), symbol (((b0.toUInt64 &&& 0x03) <<< 4) ||| (b1.toUInt64 >>> 4)),
    symbol ((b1.toUInt64 &&& 0x0f) <<< 2)]

theorem base64url_eq (input : Bytes) :
    base64url input =
      (List.range 10).flatMap (fun g =>
        encoded3 (input.getD (g * 3) 0) (input.getD (g * 3 + 1) 0) (input.getD (g * 3 + 2) 0)) ++
      encoded2 (input.getD 30 0) (input.getD 31 0) := by
  rw [List.flatMap_eq_foldl]
  rfl

theorem sextet_alphabet : ∀ value < 64, sextet (alphabet.getD value 0) = some value := by decide +kernel

/-- A character tells the low six bits it was written for. -/
theorem sextet_symbol (bits : UInt64) : sextet (symbol bits) = some (bits.toNat % 64) := by
  have low : (bits &&& 0x3f).toNat = bits.toNat % 64 := by
    rw [UInt64.toNat_and]
    exact Nat.and_two_pow_sub_one_eq_mod bits.toNat 6
  rw [symbol, low]
  exact sextet_alphabet _ (Nat.mod_lt _ (by decide))

theorem toNat_combined (b0 b1 b2 : UInt8) :
    ((b0.toUInt64 <<< 16) ||| (b1.toUInt64 <<< 8) ||| b2.toUInt64).toNat =
      b0.toNat * 65536 + b1.toNat * 256 + b2.toNat := by
  have small0 := b0.toNat_lt
  have small1 := b1.toNat_lt
  have small2 := b2.toNat_lt
  have first : (b0.toUInt64 <<< 16).toNat = 2 ^ 16 * b0.toNat := by
    rw [UInt64.toNat_shiftLeft, UInt8.toNat_toUInt64, Nat.shiftLeft_eq]
    change b0.toNat * 2 ^ 16 % 2 ^ 64 = _
    omega
  have second : (b1.toUInt64 <<< 8).toNat = 2 ^ 8 * b1.toNat := by
    rw [UInt64.toNat_shiftLeft, UInt8.toNat_toUInt64, Nat.shiftLeft_eq]
    change b1.toNat * 2 ^ 8 % 2 ^ 64 = _
    omega
  rw [UInt64.toNat_or, UInt64.toNat_or, first, second, UInt8.toNat_toUInt64,
    ← Nat.two_pow_add_eq_or_of_lt (by omega : 2 ^ 8 * b1.toNat < 2 ^ 16)]
  rw [show 2 ^ 16 * b0.toNat + 2 ^ 8 * b1.toNat = 2 ^ 8 * (2 ^ 8 * b0.toNat + b1.toNat) by ring,
    ← Nat.two_pow_add_eq_or_of_lt small2]
  ring

theorem toNat_middle (b0 b1 : UInt8) :
    (((b0.toUInt64 &&& 0x03) <<< 4) ||| (b1.toUInt64 >>> 4)).toNat = b0.toNat % 4 * 16 + b1.toNat / 16 := by
  have small1 := b1.toNat_lt
  have low : (b0.toUInt64 &&& 0x03).toNat = b0.toNat % 4 := by
    rw [UInt64.toNat_and, UInt8.toNat_toUInt64]
    exact Nat.and_two_pow_sub_one_eq_mod b0.toNat 2
  have first : ((b0.toUInt64 &&& 0x03) <<< 4).toNat = 2 ^ 4 * (b0.toNat % 4) := by
    rw [UInt64.toNat_shiftLeft, low, Nat.shiftLeft_eq]
    change b0.toNat % 4 * 2 ^ 4 % 2 ^ 64 = _
    omega
  have second : (b1.toUInt64 >>> 4).toNat = b1.toNat / 2 ^ 4 := by
    rw [UInt64.toNat_shiftRight, UInt8.toNat_toUInt64]
    exact Nat.shiftRight_eq_div_pow b1.toNat 4
  rw [UInt64.toNat_or, first, second, ← Nat.two_pow_add_eq_or_of_lt (by omega)]
  omega

theorem toNat_last (b1 : UInt8) : ((b1.toUInt64 &&& 0x0f) <<< 2).toNat = b1.toNat % 16 * 4 := by
  have low : (b1.toUInt64 &&& 0x0f).toNat = b1.toNat % 16 := by
    rw [UInt64.toNat_and, UInt8.toNat_toUInt64]
    exact Nat.and_two_pow_sub_one_eq_mod b1.toNat 4
  rw [UInt64.toNat_shiftLeft, low, Nat.shiftLeft_eq]
  change b1.toNat % 16 * 2 ^ 2 % 2 ^ 64 = _
  omega

theorem toNat_shiftRight (bits : UInt64) (count : UInt64) (below : count.toNat < 64) :
    (bits >>> count).toNat = bits.toNat / 2 ^ count.toNat := by
  rw [UInt64.toNat_shiftRight, Nat.mod_eq_of_lt below, Nat.shiftRight_eq_div_pow]

theorem ofNat_eq {value : Nat} {byte : UInt8} (same : value = byte.toNat) : UInt8.ofNat value = byte := by
  rw [same, UInt8.ofNat_toNat]

theorem decode_encoded3 (b0 b1 b2 : UInt8) (rest : Bytes) :
    decode (encoded3 b0 b1 b2 ++ rest) = ([b0, b1, b2] ++ ·) <$> decode rest := by
  have small0 := b0.toNat_lt
  have small1 := b1.toNat_lt
  have small2 := b2.toNat_lt
  have bits := toNat_combined b0 b1 b2
  rw [encoded3]
  generalize (b0.toUInt64 <<< 16) ||| (b1.toUInt64 <<< 8) ||| b2.toUInt64 = combined at bits
  have top : (combined >>> 18).toNat = combined.toNat / 2 ^ 18 := toNat_shiftRight combined 18 (by decide)
  have upper : (combined >>> 12).toNat = combined.toNat / 2 ^ 12 := toNat_shiftRight combined 12 (by decide)
  have lower : (combined >>> 6).toNat = combined.toNat / 2 ^ 6 := toNat_shiftRight combined 6 (by decide)
  simp only [List.cons_append, List.nil_append, decode, sextet_symbol, top, upper, lower, bits,
    Option.bind_eq_bind, Option.bind_some]
  rw [@ofNat_eq _ b0 (by omega), @ofNat_eq _ b1 (by omega), @ofNat_eq _ b2 (by omega)]
  cases decode rest with
  | none => rfl
  | some bytes => rfl

theorem decode_encoded2 (b0 b1 : UInt8) : decode (encoded2 b0 b1) = some [b0, b1] := by
  have small0 := b0.toNat_lt
  have small1 := b1.toNat_lt
  have top : (b0.toUInt64 >>> 2).toNat = b0.toNat / 2 ^ 2 := toNat_shiftRight b0.toUInt64 2 (by decide)
  simp only [encoded2, decode, sextet_symbol, top, toNat_middle, toNat_last, Option.bind_eq_bind, Option.bind_some]
  rw [if_pos (by omega), @ofNat_eq _ b0 (by omega), @ofNat_eq _ b1 (by omega)]

/-- Whole groups are decoded one after the other. -/
theorem decode_groups (byte : Nat → UInt8) (groups : List Nat) (rest : Bytes) :
    decode (groups.flatMap (fun g => encoded3 (byte (g * 3)) (byte (g * 3 + 1)) (byte (g * 3 + 2))) ++ rest) =
      (groups.flatMap (fun g => [byte (g * 3), byte (g * 3 + 1), byte (g * 3 + 2)]) ++ ·) <$> decode rest := by
  induction groups with
  | nil => simp
  | cons g groups recurse =>
    rw [List.flatMap_cons, List.append_assoc, decode_encoded3, recurse]
    cases decode rest with
    | none => rfl
    | some bytes => simp

theorem flatMap_triples (byte : Nat → UInt8) (count : Nat) :
    (List.range count).flatMap (fun g => [byte (g * 3), byte (g * 3 + 1), byte (g * 3 + 2)]) =
      (List.range (count * 3)).map byte := by
  induction count with
  | zero => rfl
  | succ count recurse =>
    rw [List.range_succ, List.flatMap_append, recurse, Nat.succ_mul, List.range_add, List.map_append]
    simp [List.range_succ]

theorem decode_base64url {input : Bytes} (length : input.length = 32) : decode (base64url input) = some input := by
  rw [base64url_eq, decode_groups (fun index => input.getD index 0), decode_encoded2,
    flatMap_triples (fun index => input.getD index 0)]
  have whole : (List.range 32).map (fun index => input.getD index 0) = input := by
    apply List.ext_getElem
    · simp [length]
    · intro index _ inside
      rw [List.getElem_map, List.getElem_range, List.getD_eq_getElem _ _ inside]
  exact congrArg some whole

theorem length_base64url (input : Bytes) : (base64url input).length = 43 := by
  rw [base64url_eq]
  rfl

theorem urlSafe_base64url {input : Bytes} {character : UInt8} (member : character ∈ base64url input) :
    UrlSafe character := by
  have all : ∀ character ∈ alphabet, UrlSafe character := by
    unfold UrlSafe
    decide +kernel
  exact all character (mem_base64url member)

end assertion

/-! ### The machine -/

namespace Vm
open assertion

theorem borrow_alphabet (bits : UInt64) : alphabet.borrow (bits &&& 0x3f) = .ok (symbol bits) := by
  have inside : (bits &&& 0x3f).toNat < assertion.alphabet.length := by
    have length : assertion.alphabet.length = 64 := by decide
    rw [length, UInt64.toNat_and]
    exact Nat.lt_succ_of_le Nat.and_le_right
  rw [symbol, List.getD_eq_getElem _ _ inside]
  exact @ByteVector.borrow_ok alphabet (bits &&& 0x3f) inside

theorem borrow_input {input : ByteVector} {index : UInt64} (inside : index.toNat < input.bytes.length) :
    input.borrow index = .ok (input.bytes.getD index.toNat 0) := by
  rw [ByteVector.borrow_ok inside, List.getD_eq_getElem _ _ inside]

/-- The groups before the counter are written. -/
def Written (input : ByteVector) (state : UInt64 × Bytes) : Prop :=
  state.1.toNat ≤ 10 ∧ state.2 = (List.range state.1.toNat).flatMap fun g =>
    encoded3 (input.bytes.getD (g * 3) 0) (input.bytes.getD (g * 3 + 1) 0) (input.bytes.getD (g * 3 + 2) 0)

theorem encodeGroup_turns {input : ByteVector} (length : input.bytes.length = 32) {state : UInt64 × Bytes}
    (written : Written input state) :
    Turns (fun next => Written input next ∧ 10 - next.1.toNat < 10 - state.1.toNat)
      (fun out => out = (List.range 10).flatMap fun g =>
        encoded3 (input.bytes.getD (g * 3) 0) (input.bytes.getD (g * 3 + 1) 0) (input.bytes.getD (g * 3 + 2) 0))
      (encodeGroup input state) := by
  obtain ⟨g, out⟩ := state
  obtain ⟨bound, output⟩ := written
  simp only at bound output
  unfold encodeGroup
  simp only
  split
  next inside =>
    have below : g.toNat < 10 := UInt64.lt_iff_toNat_lt.mp inside
    obtain ⟨start, multiplied, atStart⟩ := u64.mul_ok g 3 (by change _ * 3 < _; omega)
    have atStart : start.toNat = g.toNat * 3 := atStart
    obtain ⟨second, addedOne, atSecond⟩ := u64.add_ok start 1 (by change _ + 1 < _; omega)
    have atSecond : second.toNat = g.toNat * 3 + 1 := by rw [atSecond, atStart]; rfl
    obtain ⟨third, addedTwo, atThird⟩ := u64.add_ok start 2 (by change _ + 2 < _; omega)
    have atThird : third.toNat = g.toNat * 3 + 2 := by rw [atThird, atStart]; rfl
    obtain ⟨next, advanced, after⟩ := u64.add_ok g 1 (by change _ + 1 < _; omega)
    have after : next.toNat = g.toNat + 1 := after
    have byte0 := @borrow_input input start (by omega)
    have byte1 := @borrow_input input second (by omega)
    have byte2 := @borrow_input input third (by omega)
    simp only [multiplied, addedOne, addedTwo, byte0, byte1, byte2, borrow_alphabet, advanced, ok_bind]
    refine .inl ⟨_, rfl, ⟨?_, ?_⟩, ?_⟩
    · simp only
      omega
    · simp only [after, List.range_succ, List.flatMap_append, ← output, atStart, atSecond, atThird]
      simp [encoded3]
    · simp only
      omega
  next done =>
    refine .inr ⟨out, rfl, ?_⟩
    have all : g.toNat = 10 := le_antisymm bound (UInt64.le_iff_toNat_le.mp (UInt64.not_lt.mp done))
    rw [output, all]

theorem base64urlEncode32_ok {input : ByteVector} (length : input.bytes.length = 32) {gas : Nat} (enough : 10 < gas) :
    base64urlEncode32 gas input = .ok (base64url input.bytes) := by
  have measured : input.length = 32 := by
    rw [← UInt64.toNat_inj, input.toNat_length, length]
    rfl
  obtain ⟨out, ended, output⟩ := loop_ends Fault.outOfGas (fun state : UInt64 × Bytes => 10 - state.1.toNat)
    (fun state written => encodeGroup_turns length written) (⟨Nat.zero_le _, rfl⟩ : Written input (0, [])) enough
  have byte0 : input.borrow 30 = .ok (input.bytes.getD 30 0) := @borrow_input input 30 (by rw [length]; decide)
  have byte1 : input.borrow 31 = .ok (input.bytes.getD 31 0) := @borrow_input input 31 (by rw [length]; decide)
  unfold base64urlEncode32
  rw [if_pos measured]
  simp only [ended, byte0, byte1, borrow_alphabet, ok_bind, output, base64url_eq, encoded2]
  simp only [List.append_assoc, List.cons_append, List.nil_append]
  rfl

theorem length_of_ok {input : ByteVector} {gas : Nat} {out : Bytes} (ended : base64urlEncode32 gas input = .ok out) :
    input.bytes.length = 32 := by
  unfold base64urlEncode32 at ended
  split at ended
  next measured =>
    rw [← input.toNat_length, measured]
    rfl
  next => simp at ended

/-- The encoding of 32 bytes never leaves a vector's bounds, is 43 url-safe characters, and tells the
bytes it was made of. -/
theorem base64url_encode_32_decodes {input : ByteVector} (length : input.bytes.length = 32) :
    ∃ out, (∀ spare, base64urlEncode32 (11 + spare) input = .ok out) ∧ out.length = 43 ∧
      (∀ character ∈ out, Rfc4648.UrlSafe character) ∧ Rfc4648.decode out = some input.bytes ∧
      ∀ (other : ByteVector) (spare : Nat), base64urlEncode32 (11 + spare) other = .ok out →
        other.bytes = input.bytes := by
  refine ⟨base64url input.bytes, fun spare => base64urlEncode32_ok length (by omega), length_base64url _,
    fun character member => urlSafe_base64url member, decode_base64url length, fun other spare ended => ?_⟩
  have full := length_of_ok ended
  rw [base64urlEncode32_ok full (by omega)] at ended
  have same : base64url other.bytes = base64url input.bytes := Except.ok.inj ended
  have decoded := decode_base64url full
  rw [same, decode_base64url length] at decoded
  exact (Option.some.inj decoded).symm

/-- Bytes whose encoding has both `-` and `_` in it. -/
def sampleDigest : List UInt8 := (List.range 32).map (fun index => UInt8.ofNat (255 + 37 * index))

theorem base64url_encode_32_decodes_sample :
    ∃ out, (∀ spare, base64urlEncode32 (11 + spare) ⟨sampleDigest, by decide⟩ = .ok out) ∧
      out.length = 43 ∧ (∀ character ∈ out, Rfc4648.UrlSafe character) ∧
      Rfc4648.decode out = some sampleDigest ∧
      ∀ (other : ByteVector) (spare : Nat), base64urlEncode32 (11 + spare) other = .ok out →
        other.bytes = sampleDigest :=
  @base64url_encode_32_decodes ⟨sampleDigest, by decide⟩ (by decide)

end Vm

end MpcKit.Core
