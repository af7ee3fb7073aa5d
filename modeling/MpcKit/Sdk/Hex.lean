import MpcKit.Sdk.Engine

/-! The hex codecs of the SDK and the backend. A string is its UTF-16 code units, the pairs of which
`Number.parseInt` reads; the backend leaves the decoding to `hexToBytes`. -/

namespace MpcKit.Sdk.Hex
open MpcKit.Backend

abbrev Text := List UInt16

/-- The code units of a text in the basic plane. -/
def units (text : String) : Text := text.toList.map (fun char => UInt16.ofNat char.toNat)

def digitValue (unit : UInt16) : Option Nat :=
  let code := unit.toNat
  if 48 ≤ code ∧ code ≤ 57 then some (code - 48)
  else if 65 ≤ code ∧ code ≤ 70 then some (code - 55)
  else if 97 ≤ code ∧ code ≤ 102 then some (code - 87)
  else none

def IsDigit (unit : UInt16) : Prop := (digitValue unit).isSome

instance (unit : UInt16) : Decidable (IsDigit unit) := inferInstanceAs (Decidable (_ = true))

/-! ### The standard library -/

/-- White space and line terminators. -/
def isWhite (unit : UInt16) : Bool :=
  let code := unit.toNat
  decide (9 ≤ code ∧ code ≤ 13 ∨ 8192 ≤ code ∧ code ≤ 8202) ||
    [32, 160, 5760, 8232, 8233, 8239, 8287, 12288, 65279].contains code

/-- What is left of the text after an optional sign, and whether the sign is a minus. -/
def sign (text : Text) : Bool × Text :=
  if [45].isPrefixOf text then (true, text.drop 1)
  else if [43].isPrefixOf text then (false, text.drop 1)
  else (false, text)

def dropRadix (text : Text) : Text :=
  if [48, 120].isPrefixOf text ∨ [48, 88].isPrefixOf text then text.drop 2 else text

/-- `Number.parseInt(text, 16)`; nothing stands for NaN. -/
def parseInt (text : Text) : Option Int :=
  let (negative, rest) := sign (text.dropWhile isWhite)
  let digits := (dropRadix rest).takeWhile (fun unit => (digitValue unit).isSome)
  let value := digits.foldl (fun sum unit => sum * 16 + (digitValue unit).getD 0) 0
  if digits.isEmpty then none else some (if negative then -value else value)

/-- What a `Uint8Array` stores for a number. -/
def toUint8 : Option Int → UInt8
  | none => 0
  | some value => UInt8.ofNat (value % 256).toNat

/-! ### The codecs -/

def toHex (bytes : Bytes) : Text := units (Sdk.toHex bytes)

/-- The text without a leading `0x`. -/
def stripped (text : Text) : Text := if [48, 120].isPrefixOf text then text.drop 2 else text

/-- The pairs from left to right, one for each byte of the array. -/
def decodePairs (text : Text) : Bytes :=
  (List.range (text.length / 2)).map (fun i => toUint8 (parseInt ((text.drop (i * 2)).take 2)))

def fromHex (text : Text) : Except Thrown Bytes :=
  if (stripped text).length % 2 ≠ 0 then .error (.other "Error" "hex string has odd length")
  else .ok (decodePairs (stripped text))

/-- `shared/codec/hex.ts`. -/
def backendFromHex (hexToBytes : Text → Except Thrown Bytes) (text : Text) (label : Option String) :
    Except AppError Bytes :=
  match hexToBytes (stripped text) with
  | .ok bytes => .ok bytes
  | .error _ =>
    let label := label.getD ""
    let wherever := if label = "" then "" else " for " ++ label
    .error (errors.validation ("expected hex" ++ wherever) "BAD_HEX")

/-! ### Hexadecimal strings -/

def HexString (text : Text) : Prop := text.length % 2 = 0 ∧ ∀ unit ∈ text, IsDigit unit

instance (text : Text) : Decidable (HexString text) := inferInstanceAs (Decidable (_ ∧ _))

def lower (unit : UInt16) : UInt16 := if 65 ≤ unit.toNat ∧ unit.toNat ≤ 90 then unit + 32 else unit

theorem digitValue_cases {unit : UInt16} {value : Nat} (read : digitValue unit = some value) :
    value < 16 ∧ (48 ≤ unit.toNat ∧ unit.toNat ≤ 57 ∧ value = unit.toNat - 48 ∨
      65 ≤ unit.toNat ∧ unit.toNat ≤ 70 ∧ value = unit.toNat - 55 ∨
      97 ≤ unit.toNat ∧ unit.toNat ≤ 102 ∧ value = unit.toNat - 87) := by
  unfold digitValue at read
  simp only at read
  split at read
  next range =>
    have same := Option.some.inj read
    exact ⟨by omega, .inl ⟨range.1, range.2, same.symm⟩⟩
  next =>
    split at read
    next range =>
      have same := Option.some.inj read
      exact ⟨by omega, .inr (.inl ⟨range.1, range.2, same.symm⟩)⟩
    next =>
      split at read
      next range =>
        have same := Option.some.inj read
        exact ⟨by omega, .inr (.inr ⟨range.1, range.2, same.symm⟩)⟩
      next => simp at read

theorem eq_ofNat {unit : UInt16} {code : Nat} (same : unit.toNat = code) : unit = UInt16.ofNat code := by
  rw [← same, UInt16.ofNat_toNat]

/-- A digit in lower case is the one `toString(16)` writes. -/
theorem lower_eq {unit : UInt16} {value : Nat} (read : digitValue unit = some value) :
    lower unit = UInt16.ofNat (Nat.digitChar value).toNat := by
  have decimal : ∀ value < 10, lower (UInt16.ofNat (value + 48)) = UInt16.ofNat (Nat.digitChar value).toNat := by
    decide
  have capital : ∀ value < 16, 10 ≤ value →
      lower (UInt16.ofNat (value + 55)) = UInt16.ofNat (Nat.digitChar value).toNat := by decide
  have small : ∀ value < 16, 10 ≤ value →
      lower (UInt16.ofNat (value + 87)) = UInt16.ofNat (Nat.digitChar value).toNat := by decide
  obtain ⟨below, range⟩ := digitValue_cases read
  rcases range with ⟨first, last, same⟩ | ⟨first, last, same⟩ | ⟨first, last, same⟩
  · have plain : unit = UInt16.ofNat (value + 48) := eq_ofNat (by omega)
    rw [plain]
    exact decimal value (by omega)
  · have plain : unit = UInt16.ofNat (value + 55) := eq_ofNat (by omega)
    rw [plain]
    exact capital value below (by omega)
  · have plain : unit = UInt16.ofNat (value + 87) := eq_ofNat (by omega)
    rw [plain]
    exact small value below (by omega)

theorem digitValue_digitChar : ∀ value < 16, digitValue (UInt16.ofNat (Nat.digitChar value).toNat) = some value := by
  decide

theorem not_white {unit : UInt16} (digit : IsDigit unit) : isWhite unit = false := by
  obtain ⟨value, read⟩ := Option.isSome_iff_exists.mp digit
  obtain ⟨_, range⟩ := digitValue_cases read
  simp only [isWhite, Bool.or_eq_false_iff, decide_eq_false_iff_not, List.contains_eq_mem, List.mem_cons,
    List.not_mem_nil, or_false]
  omega

/-- A digit begins neither with a sign nor with white space, and no second digit is an `x`. -/
theorem parseInt_pair {first second : UInt16} {high low : Nat} (readHigh : digitValue first = some high)
    (readLow : digitValue second = some low) : parseInt [first, second] = some ((high * 16 + low : Nat) : Int) := by
  have visible : isWhite first = false := not_white (Option.isSome_iff_exists.mpr ⟨high, readHigh⟩)
  have notMinus : ¬ (45 : UInt16) = first := by
    rintro rfl
    exact absurd readHigh (by simp [digitValue])
  have notPlus : ¬ (43 : UInt16) = first := by
    rintro rfl
    exact absurd readHigh (by simp [digitValue])
  have notSmall : ¬ (120 : UInt16) = second := by
    rintro rfl
    exact absurd readLow (by simp [digitValue])
  have notLarge : ¬ (88 : UInt16) = second := by
    rintro rfl
    exact absurd readLow (by simp [digitValue])
  have plain : sign ([first, second].dropWhile isWhite) = (false, [first, second]) := by
    simp [sign, List.isPrefixOf, visible, notMinus, notPlus]
  have kept : dropRadix [first, second] = [first, second] := by
    simp [dropRadix, List.isPrefixOf, notSmall, notLarge]
  simp [parseInt, plain, kept, readHigh, readLow]

theorem decodePairs_cons (first second : UInt16) (rest : Text) :
    decodePairs (first :: second :: rest) = toUint8 (parseInt [first, second]) :: decodePairs rest := by
  have count : (first :: second :: rest).length / 2 = rest.length / 2 + 1 := by
    simp only [List.length_cons]
    omega
  rw [decodePairs, count, List.range_succ_eq_map, List.map_cons, List.map_map]
  congr 1
  apply List.map_congr_left
  intro i _
  simp [Nat.succ_mul]

theorem toHex_cons (byte : UInt8) (bytes : Bytes) :
    toHex (byte :: bytes) = UInt16.ofNat (Nat.digitChar (byte.toNat / 16)).toNat ::
      UInt16.ofNat (Nat.digitChar (byte.toNat % 16)).toNat :: toHex bytes := by
  simp [toHex, units, Sdk.toHex]

/-- A pair of digits is stored as its value. -/
theorem toUint8_pair {high low : Nat} (smallHigh : high < 16) (smallLow : low < 16) :
    (toUint8 (some ((high * 16 + low : Nat) : Int))).toNat = high * 16 + low := by
  have small : high * 16 + low < 256 := by omega
  have whole : (((high * 16 + low : Nat) : Int) % 256).toNat = high * 16 + low := by omega
  rw [toUint8, whole, UInt8.toNat_ofNat']
  exact Nat.mod_eq_of_lt small

theorem decodePairs_toHex (bytes : Bytes) : decodePairs (toHex bytes) = bytes := by
  induction bytes with
  | nil => rfl
  | cons byte bytes recurse =>
    have small := byte.toNat_lt
    have smallHigh : byte.toNat / 16 < 16 := by omega
    have smallLow : byte.toNat % 16 < 16 := by omega
    rw [toHex_cons, decodePairs_cons, recurse,
      parseInt_pair (digitValue_digitChar _ smallHigh) (digitValue_digitChar _ smallLow)]
    congr 1
    apply UInt8.toNat_inj.mp
    rw [toUint8_pair smallHigh smallLow]
    omega

/-- The digits of a hexadecimal string come back in lower case. -/
theorem toHex_decodePairs {text : Text} (hex : HexString text) : toHex (decodePairs text) = text.map lower := by
  induction text using List.twoStepInduction with
  | nil => rfl
  | singleton unit => exact absurd hex.1 (by simp)
  | cons_cons first second rest recurse _ =>
    obtain ⟨even, digits⟩ := hex
    obtain ⟨high, readHigh⟩ := Option.isSome_iff_exists.mp (digits first List.mem_cons_self)
    obtain ⟨low, readLow⟩ := Option.isSome_iff_exists.mp (digits second (List.mem_cons_of_mem _ List.mem_cons_self))
    have smallHigh := (digitValue_cases readHigh).1
    have smallLow := (digitValue_cases readLow).1
    have later : HexString rest := by
      refine ⟨?_, fun unit member => digits unit (List.mem_cons_of_mem _ (List.mem_cons_of_mem _ member))⟩
      simp only [List.length_cons] at even
      omega
    have value := toUint8_pair smallHigh smallLow
    have highPart : (high * 16 + low) / 16 = high := by omega
    have lowPart : (high * 16 + low) % 16 = low := by omega
    rw [decodePairs_cons, toHex_cons, recurse later, parseInt_pair readHigh readLow, value, highPart, lowPart,
      List.map_cons, List.map_cons, lower_eq readHigh, lower_eq readLow]

theorem length_toHex (bytes : Bytes) : (toHex bytes).length = 2 * bytes.length := by
  induction bytes with
  | nil => rfl
  | cons byte bytes recurse =>
    rw [toHex_cons, List.length_cons, List.length_cons, recurse, List.length_cons]
    omega

theorem digits_toHex (bytes : Bytes) : ∀ unit ∈ toHex bytes, IsDigit unit := by
  induction bytes with
  | nil => simp [toHex, units, Sdk.toHex]
  | cons byte bytes recurse =>
    have small := byte.toNat_lt
    have written : ∀ value < 16, IsDigit (UInt16.ofNat (Nat.digitChar value).toNat) := by decide
    intro unit member
    rw [toHex_cons, List.mem_cons, List.mem_cons] at member
    rcases member with rfl | rfl | later
    · exact written _ (by omega)
    · exact written _ (by omega)
    · exact recurse unit later

/-- Hex text never begins with `0x`, because `x` is no digit. -/
theorem stripped_digits {text : Text} (digits : ∀ unit ∈ text, IsDigit unit) : stripped text = text := by
  rw [stripped, if_neg]
  intro marked
  obtain ⟨rest, rfl⟩ := List.isPrefixOf_iff_prefix.mp marked
  exact absurd (digits 120 (by simp)) (by decide)

theorem fromHex_toHex (bytes : Bytes) : fromHex (toHex bytes) = .ok bytes := by
  have even : ¬ (toHex bytes).length % 2 ≠ 0 := by
    rw [length_toHex]
    omega
  rw [fromHex, stripped_digits (digits_toHex bytes), if_neg even, decodePairs_toHex]

/-! ### The two decoders -/

/-- What the codecs promise of one string. -/
structure Exact (hexToBytes : Text → Except Thrown Bytes) (text : Text) : Prop where
  accepts : (∃ bytes, fromHex text = .ok bytes) ↔ HexString (stripped text)
  value : ∀ bytes, fromHex text = .ok bytes → toHex bytes = (stripped text).map lower
  agree : ∀ label, (∃ bytes, fromHex text = .ok bytes ∧ backendFromHex hexToBytes text label = .ok bytes) ∨
    (∃ thrown, fromHex text = .error thrown) ∧ ∃ error, backendFromHex hexToBytes text label = .error error

theorem fromHex_ok {text : Text} : (∃ bytes, fromHex text = .ok bytes) ↔ (stripped text).length % 2 = 0 := by
  unfold fromHex
  split
  next odd => simp [odd]
  next even => simp [not_not.mp even]

/-- `Number.parseInt` rejects nothing, so the promise holds of the strings whose length or digits leave
it nothing to reject. -/
theorem hex_codecs_exact {hexToBytes : Text → Except Thrown Bytes}
    (documented : ∀ text bytes, hexToBytes text = .ok bytes ↔ HexString text ∧ toHex bytes = text.map lower) :
    (∀ bytes, fromHex (toHex bytes) = .ok bytes) ∧
      ∀ text, Exact hexToBytes text ↔ (stripped text).length % 2 = 1 ∨ ∀ unit ∈ stripped text, IsDigit unit := by
  refine ⟨fromHex_toHex, fun text => ⟨fun holds => ?_, fun allowed => ?_⟩⟩
  · by_cases even : (stripped text).length % 2 = 0
    · exact .inr (holds.accepts.mp (fromHex_ok.mpr even)).2
    · exact .inl (by omega)
  · by_cases even : (stripped text).length % 2 = 0
    · have hex : HexString (stripped text) := ⟨even, allowed.resolve_left (by omega)⟩
      have decoded : fromHex text = .ok (decodePairs (stripped text)) := by
        rw [fromHex, if_neg (not_not.mpr even)]
      have same : hexToBytes (stripped text) = .ok (decodePairs (stripped text)) :=
        (documented _ _).mpr ⟨hex, toHex_decodePairs hex⟩
      refine ⟨⟨fun _ => hex, fun _ => ⟨_, decoded⟩⟩, fun bytes ended => ?_, fun label => .inl ⟨_, decoded, ?_⟩⟩
      · rw [decoded] at ended
        rw [← Except.ok.inj ended, toHex_decodePairs hex]
      · rw [backendFromHex, same]
    · have odd : (stripped text).length % 2 ≠ 0 := even
      have thrown : fromHex text = .error (.other "Error" "hex string has odd length") := by
        rw [fromHex, if_pos odd]
      refine ⟨⟨fun ⟨_, ended⟩ => by simp [thrown] at ended, fun hex => absurd hex.1 even⟩,
        fun _ ended => by simp [thrown] at ended, fun label => .inr ⟨⟨_, thrown⟩, ?_⟩⟩
      cases refused : hexToBytes (stripped text) with
      | ok bytes => exact absurd ((documented _ _).mp refused).1.1 even
      | error error => exact ⟨_, by rw [backendFromHex, refused]⟩

/-- A decoder as documented: it rejects what is not hexadecimal. -/
def strictHexToBytes (text : Text) : Except Thrown Bytes :=
  if HexString text then .ok (decodePairs text) else .error (.other "Error" "hex string expected")

theorem strictHexToBytes_eq_ok (text : Text) (bytes : Bytes) :
    strictHexToBytes text = .ok bytes ↔ HexString text ∧ toHex bytes = text.map lower := by
  unfold strictHexToBytes
  split
  next hex =>
    rw [Except.ok.injEq, ← toHex_decodePairs hex]
    constructor
    · rintro rfl
      exact ⟨hex, rfl⟩
    · rintro ⟨_, same⟩
      have decoded := congrArg decodePairs same
      rw [decodePairs_toHex, decodePairs_toHex] at decoded
      exact decoded.symm
  next other => simp [other]

theorem hex_codecs_exact_strict :
    (∀ bytes, fromHex (toHex bytes) = .ok bytes) ∧
      ∀ text, Exact strictHexToBytes text ↔
        (stripped text).length % 2 = 1 ∨ ∀ unit ∈ stripped text, IsDigit unit :=
  hex_codecs_exact strictHexToBytes_eq_ok

/-- `zz` is decoded to a zero byte. -/
theorem malformed_pair_is_zero :
    fromHex (units "zz") = .ok [0] ∧
      ¬ ∀ text, (∃ bytes, fromHex text = .ok bytes) ↔ HexString (stripped text) := by
  refine ⟨by decide, fun holds => ?_⟩
  have hex : HexString (stripped (units "zz")) := (holds (units "zz")).mp ⟨[0], by decide⟩
  exact absurd (hex.2 122 (by decide)) (by decide)

end MpcKit.Sdk.Hex
