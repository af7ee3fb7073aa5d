import MpcKit.Encoding.Bytes

/-! Codecs: a value is read back from the front of any byte string it was written to. The law is a
field, so that records, options and vectors of codecs obey it by construction. -/

namespace MpcKit.Encoding

structure Codec (α : Type) where
  encode : α → List UInt8
  decode : List UInt8 → Option (α × List UInt8)
  decode_encode : ∀ value rest, decode (encode value ++ rest) = some (value, rest)

namespace Codec

variable {α β : Type}

/-- The first value of a byte string. -/
def parse (codec : Codec α) (bytes : List UInt8) : Option α := (codec.decode bytes).map Prod.fst

/-- The value a whole byte string stands for. -/
def parseAll (codec : Codec α) (bytes : List UInt8) : Option α :=
  match codec.decode bytes with
  | some (value, []) => some value
  | _ => none

@[simp] theorem decode_encode_nil (codec : Codec α) (value : α) : codec.decode (codec.encode value) = some (value, []) := by
  have whole := codec.decode_encode value []
  rwa [List.append_nil] at whole

@[simp] theorem parseAll_encode (codec : Codec α) (value : α) : codec.parseAll (codec.encode value) = some value := by
  simp [parseAll]

/-! ### Fixed widths -/

def leValue : List UInt8 → Nat
  | [] => 0
  | byte :: bytes => byte.toNat + 256 * leValue bytes

theorem leValue_leBytes {width value : Nat} (fits : value < 256 ^ width) : leValue (leBytes width value) = value := by
  induction width generalizing value with
  | zero =>
    rw [Nat.pow_zero] at fits
    simp only [leBytes, leValue]
    omega
  | succ width ih =>
    have high : value / 256 < 256 ^ width := by
      rw [Nat.pow_succ] at fits
      exact Nat.div_lt_of_lt_mul (by omega)
    rw [leBytes, leValue, ih high, toNat_ofNat_mod]
    omega

def takeBytes (width : Nat) (bytes : List UInt8) : Option (List UInt8 × List UInt8) :=
  if width ≤ bytes.length then some (bytes.take width, bytes.drop width) else none

theorem takeBytes_append {width : Nat} {front : List UInt8} (length : front.length = width) (rest : List UInt8) :
    takeBytes width (front ++ rest) = some (front, rest) := by
  simp [takeBytes, ← length]

/-- A string of known length, as it is. -/
def fixed (width : Nat) : Codec { bytes : List UInt8 // bytes.length = width } where
  encode := Subtype.val
  decode bytes :=
    if long : width ≤ bytes.length then
      some (⟨bytes.take width, by rw [List.length_take, Nat.min_eq_left long]⟩, bytes.drop width)
    else none
  decode_encode value rest := by
    obtain ⟨front, rfl⟩ := value
    simp

/-- A little-endian integer of `width` bytes. -/
def unsigned (width : Nat) (toNat : α → Nat) (ofNat : Nat → α) (fits : ∀ value, toNat value < 256 ^ width)
    (back : ∀ value, ofNat (toNat value) = value) : Codec α where
  encode value := leBytes width (toNat value)
  decode bytes := (takeBytes width bytes).map (fun read => (ofNat (leValue read.1), read.2))
  decode_encode value rest := by
    rw [takeBytes_append (length_leBytes width _), Option.map_some, leValue_leBytes (fits value), back]

def u8 : Codec UInt8 where
  encode byte := [byte]
  decode
    | [] => none
    | byte :: rest => some (byte, rest)
  decode_encode _ _ := rfl

def u32 : Codec UInt32 :=
  unsigned 4 UInt32.toNat UInt32.ofNat (fun value => value.toNat_lt) (fun _ => UInt32.ofNat_toNat)

def u64 : Codec UInt64 :=
  unsigned 8 UInt64.toNat UInt64.ofNat (fun value => value.toNat_lt) (fun _ => UInt64.ofNat_toNat)

/-! ### Composition -/

def pair (first : Codec α) (second : Codec β) : Codec (α × β) where
  encode value := first.encode value.1 ++ second.encode value.2
  decode bytes := do
    let (one, rest) ← first.decode bytes
    let (other, rest) ← second.decode rest
    return ((one, other), rest)
  decode_encode value rest := by
    rw [List.append_assoc, first.decode_encode]
    simp [second.decode_encode]

/-- The same bytes for a type that is in bijection, as a record with its fields. -/
def via (codec : Codec α) (unpack : β → α) (pack : α → β) (back : ∀ value, pack (unpack value) = value) : Codec β where
  encode value := codec.encode (unpack value)
  decode bytes := (codec.decode bytes).map (fun read => (pack read.1, read.2))
  decode_encode value rest := by
    rw [codec.decode_encode, Option.map_some, back]

/-- A byte that says whether a value follows. -/
def option (codec : Codec α) : Codec (Option α) where
  encode
    | none => [0]
    | some value => 1 :: codec.encode value
  decode
    | [] => none
    | tag :: rest =>
        if tag = 0 then some (none, rest)
        else if tag = 1 then (codec.decode rest).map (fun read => (some read.1, read.2))
        else none
  decode_encode value rest := by
    cases value with
    | none => rfl
    | some value => simp [codec.decode_encode]

/-! ### Lengths and vectors -/

def readUleb : List UInt8 → Option (Nat × List UInt8)
  | [] => none
  | byte :: rest =>
      if byte.toNat < 128 then some (byte.toNat, rest)
      else (readUleb rest).map (fun read => (byte.toNat - 128 + 128 * read.1, read.2))

theorem readUleb_append (value : Nat) (rest : List UInt8) : readUleb (uleb128 value ++ rest) = some (value, rest) := by
  induction value using Nat.strongRecOn with
  | _ value ih =>
    rw [uleb128]
    split
    next small =>
      have byte : (UInt8.ofNat value).toNat = value := by
        rw [UInt8.toNat_ofNat', Nat.mod_eq_of_lt]
        omega
      simp only [List.cons_append, List.nil_append, readUleb, byte, if_pos small]
    next large =>
      have byte : (UInt8.ofNat (value % 128 + 128)).toNat = value % 128 + 128 := by
        rw [UInt8.toNat_ofNat', Nat.mod_eq_of_lt]
        omega
      have whole : value % 128 + 128 - 128 + 128 * (value / 128) = value := by omega
      simp only [List.cons_append, readUleb, byte]
      rw [if_neg (by omega), ih (value / 128) (by omega), Option.map_some, whole]

def many (codec : Codec α) : Nat → List UInt8 → Option (List α × List UInt8)
  | 0, bytes => some ([], bytes)
  | count + 1, bytes => do
      let (value, rest) ← codec.decode bytes
      let (values, rest) ← codec.many count rest
      return (value :: values, rest)

theorem many_append (codec : Codec α) (values : List α) (rest : List UInt8) :
    codec.many values.length (values.flatMap codec.encode ++ rest) = some (values, rest) := by
  induction values with
  | nil => rfl
  | cons value values ih =>
    rw [List.flatMap_cons, List.append_assoc, List.length_cons, many, codec.decode_encode]
    simp [ih]

/-- The values one after the other, behind their number. -/
def vector (codec : Codec α) : Codec (List α) where
  encode values := uleb128 values.length ++ values.flatMap codec.encode
  decode bytes := do
    let (count, rest) ← readUleb bytes
    codec.many count rest
  decode_encode values rest := by
    rw [List.append_assoc, readUleb_append]
    exact codec.many_append values rest

/-- A byte string behind its length. -/
def bytes : Codec (List UInt8) := vector u8

end Codec

/-! ### Separators -/

/-- The part before the first separator and the part behind it. -/
theorem append_separator_inj {α : Type} {separator : α} {first second rest other : List α} (free : separator ∉ first)
    (bare : separator ∉ second) (same : first ++ separator :: rest = second ++ separator :: other) :
    first = second ∧ rest = other := by
  induction first generalizing second with
  | nil =>
    cases second with
    | nil => exact ⟨rfl, (List.cons.inj same).2⟩
    | cons head tail => exact absurd (List.cons.inj same).1 (fun equal => bare (equal ▸ List.mem_cons_self))
  | cons head tail ih =>
    cases second with
    | nil => exact absurd (List.cons.inj same).1 (fun equal => free (equal ▸ List.mem_cons_self))
    | cons front back =>
      rw [List.mem_cons, not_or] at free bare
      obtain ⟨equal, tails⟩ := List.cons.inj same
      obtain ⟨one, another⟩ := ih free.2 bare.2 tails
      exact ⟨by rw [equal, one], another⟩

end MpcKit.Encoding
