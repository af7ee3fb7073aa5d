import MpcKit.Core.Basics

/-! The virtual machine's side of a Move function: lengths and indices are `u64`, arithmetic on them
is checked, and a vector is read in bounds or the call stops. -/

namespace MpcKit.Core

/-- A `vector<u8>`; its length is a `u64`. -/
structure ByteVector where
  bytes : Bytes
  bounded : bytes.length < 2 ^ 64

/-- Why the machine stops a call. -/
inductive Fault where
  | outOfBounds
  | arithmetic
  | outOfGas
  | aborted (abort : Abort)
  deriving DecidableEq, Repr

theorem ok_bind {α β : Type} (value : α) (next : α → Except Fault β) : (Except.ok value >>= next) = next value :=
  rfl

namespace ByteVector

def length (vector : ByteVector) : UInt64 := UInt64.ofNat vector.bytes.length

def borrow (vector : ByteVector) (index : UInt64) : Except Fault UInt8 :=
  match vector.bytes[index.toNat]? with
  | some byte => .ok byte
  | none => .error .outOfBounds

@[simp] theorem toNat_length (vector : ByteVector) : vector.length.toNat = vector.bytes.length := by
  rw [length, UInt64.toNat_ofNat']
  exact Nat.mod_eq_of_lt vector.bounded

theorem borrow_ok {vector : ByteVector} {index : UInt64} (inside : index.toNat < vector.bytes.length) :
    vector.borrow index = .ok vector.bytes[index.toNat] := by
  unfold borrow
  rw [List.getElem?_eq_getElem inside]

end ByteVector

namespace u64

def add (left right : UInt64) : Except Fault UInt64 :=
  if left.toNat + right.toNat < 2 ^ 64 then .ok (left + right) else .error .arithmetic

def sub (left right : UInt64) : Except Fault UInt64 :=
  if right ≤ left then .ok (left - right) else .error .arithmetic

def mul (left right : UInt64) : Except Fault UInt64 :=
  if left.toNat * right.toNat < 2 ^ 64 then .ok (left * right) else .error .arithmetic

theorem add_ok (left right : UInt64) (fits : left.toNat + right.toNat < 2 ^ 64) :
    ∃ sum, add left right = .ok sum ∧ sum.toNat = left.toNat + right.toNat := by
  refine ⟨left + right, by rw [add, if_pos fits], ?_⟩
  rw [UInt64.toNat_add, Nat.mod_eq_of_lt fits]

theorem sub_ok (left right : UInt64) (fits : right.toNat ≤ left.toNat) :
    ∃ difference, sub left right = .ok difference ∧ difference.toNat = left.toNat - right.toNat := by
  have ordered : right ≤ left := UInt64.le_iff_toNat_le.mpr fits
  refine ⟨left - right, by rw [sub, if_pos ordered], ?_⟩
  exact UInt64.toNat_sub_of_le left right ordered

theorem mul_ok (left right : UInt64) (fits : left.toNat * right.toNat < 2 ^ 64) :
    ∃ product, mul left right = .ok product ∧ product.toNat = left.toNat * right.toNat := by
  refine ⟨left * right, by rw [mul, if_pos fits], ?_⟩
  rw [UInt64.toNat_mul, Nat.mod_eq_of_lt fits]

end u64

end MpcKit.Core
