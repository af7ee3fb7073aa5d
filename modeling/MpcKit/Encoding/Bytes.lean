import Mathlib

/-! Byte strings that can be read back: fixed-width little-endian integers, variable-length
integers, and concatenations of which at most one part has an open length. -/

namespace MpcKit.Encoding

/-! ### Little-endian integers -/

def leBytes : Nat → Nat → List UInt8
  | 0, _ => []
  | width + 1, value => UInt8.ofNat (value % 256) :: leBytes width (value / 256)

@[simp] theorem length_leBytes (width value : Nat) : (leBytes width value).length = width := by
  induction width generalizing value with
  | zero => rfl
  | succ width ih => simp [leBytes, ih]

theorem toNat_ofNat_mod (value : Nat) : (UInt8.ofNat (value % 256)).toNat = value % 256 := by
  simp

theorem leBytes_inj {width first second : Nat} (one : first < 256 ^ width) (other : second < 256 ^ width)
    (same : leBytes width first = leBytes width second) : first = second := by
  induction width generalizing first second with
  | zero =>
    simp only [Nat.pow_zero] at one other
    omega
  | succ width ih =>
    simp only [leBytes, List.cons.injEq] at same
    have low : first % 256 = second % 256 := by
      rw [← toNat_ofNat_mod first, ← toNat_ofNat_mod second, same.1]
    have high : first / 256 = second / 256 := by
      apply ih _ _ same.2
      · rw [Nat.pow_succ] at one
        exact Nat.div_lt_of_lt_mul (by omega)
      · rw [Nat.pow_succ] at other
        exact Nat.div_lt_of_lt_mul (by omega)
    omega

/-- Byte number `index` of a little-endian integer. -/
theorem leBytes_eq_map (width value : Nat) :
    leBytes width value = (List.range width).map (fun index => UInt8.ofNat (value / 256 ^ index % 256)) := by
  induction width generalizing value with
  | zero => rfl
  | succ width ih =>
    rw [leBytes, ih, List.range_succ_eq_map, List.map_cons, List.map_map]
    simp only [Nat.pow_zero, Nat.div_one, Function.comp_def, List.cons.injEq, true_and]
    apply List.map_congr_left
    intro index _
    rw [Nat.div_div_eq_div_mul, Nat.succ_eq_add_one, Nat.pow_succ, Nat.mul_comm]

/-! ### Variable-length integers -/

/-- Unsigned LEB128: seven bits a byte, low bits first, the top bit set on all but the last. -/
def uleb128 (value : Nat) : List UInt8 :=
  if value < 128 then [UInt8.ofNat value] else UInt8.ofNat (value % 128 + 128) :: uleb128 (value / 128)
termination_by value
decreasing_by omega

/-- An encoded integer is read back from the front of any byte string. -/
theorem uleb128_append_inj {first second : Nat} {rest other : List UInt8}
    (same : uleb128 first ++ rest = uleb128 second ++ other) : first = second ∧ rest = other := by
  induction first using Nat.strongRecOn generalizing second with
  | _ first ih =>
    have byte : ∀ {value : Nat}, value < 256 → (UInt8.ofNat value).toNat = value := by
      intro value bound
      simp
      omega
    rw [uleb128, uleb128.eq_def second] at same
    by_cases last : first < 128 <;> by_cases final : second < 128
    · simp only [last, final, if_true, List.cons_append, List.nil_append, List.cons.injEq] at same
      have equal := congrArg UInt8.toNat same.1
      rw [byte (by omega), byte (by omega)] at equal
      exact ⟨equal, same.2⟩
    · simp only [last, final, if_true, if_false, List.cons_append, List.nil_append, List.cons.injEq] at same
      have equal := congrArg UInt8.toNat same.1
      rw [byte (by omega), byte (by omega)] at equal
      omega
    · simp only [last, final, if_true, if_false, List.cons_append, List.nil_append, List.cons.injEq] at same
      have equal := congrArg UInt8.toNat same.1
      rw [byte (by omega), byte (by omega)] at equal
      omega
    · simp only [last, final, if_false, List.cons_append, List.cons.injEq] at same
      have equal := congrArg UInt8.toNat same.1
      rw [byte (by omega), byte (by omega)] at equal
      obtain ⟨high, tail⟩ := ih (first / 128) (by omega) same.2
      exact ⟨by omega, tail⟩

/-- A byte string behind its length. -/
def lengthPrefixed (bytes : List UInt8) : List UInt8 := uleb128 bytes.length ++ bytes

theorem lengthPrefixed_inj {first second : List UInt8} (same : lengthPrefixed first = lengthPrefixed second) :
    first = second :=
  (uleb128_append_inj same).2

/-! ### Tags -/

/-- Neither is an initial part of the other. -/
def Apart (first second : List UInt8) : Prop := ¬first <+: second ∧ ¬second <+: first

instance (first second : List UInt8) : Decidable (Apart first second) := inferInstanceAs (Decidable (_ ∧ _))

/-- Strings behind tags that are apart differ, whatever follows the tags. -/
theorem Apart.append_ne {first second rest other : List UInt8} (apart : Apart first second) :
    first ++ rest ≠ second ++ other := by
  intro same
  have one : first <+: first ++ rest := List.prefix_append first rest
  have two : second <+: first ++ rest := same ▸ List.prefix_append second other
  rcases List.prefix_or_prefix_of_prefix one two with before | before
  · exact apart.1 before
  · exact apart.2 before

/-! ### Hashes -/

/-- An explicit collision. -/
def Collides {α β : Type} (hash : α → β) (first second : α) : Prop := first ≠ second ∧ hash first = hash second

theorem eq_or_collides {α β : Type} {hash : α → β} {first second : α} (same : hash first = hash second) :
    first = second ∨ Collides hash first second := by
  by_cases equal : first = second
  · exact .inl equal
  · exact .inr ⟨equal, same⟩

end MpcKit.Encoding
