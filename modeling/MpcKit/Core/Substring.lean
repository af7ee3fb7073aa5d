import MpcKit.Core.Assertion
import MpcKit.Core.Vectors
import MpcKit.Transact.Loop

/-! The substring search as the virtual machine runs it: two loops over `u64` indices. -/

namespace MpcKit.Core.Vm
open MpcKit.Transact

/-- A turn of the inner loop. It is left with `matched`, which a byte that differs sets to false. -/
def compare (haystack needle : ByteVector) (i j : UInt64) : Except Fault (Turn UInt64 Bool) :=
  if j < needle.length then do
    let position ← u64.add i j
    let there ← haystack.borrow position
    let here ← needle.borrow j
    if there ≠ here then pure (.leave false)
    else do
      let next ← u64.add j 1
      pure (.again next)
  else pure (.leave true)

/-- A turn of the outer loop. -/
def slide (gas : Nat) (haystack needle : ByteVector) (last i : UInt64) : Except Fault (Turn UInt64 Bool) :=
  if i ≤ last then do
    let matched ← loop Fault.outOfGas (compare haystack needle i) gas 0
    if matched then pure (.leave true)
    else do
      let next ← u64.add i 1
      pure (.again next)
  else pure (.leave false)

/-- Each loop has gas for so many turns. -/
def containsSubvec (gas : Nat) (haystack needle : ByteVector) : Except Fault Bool :=
  let hLen := haystack.length
  let nLen := needle.length
  if nLen = 0 then pure true
  else if hLen < nLen then pure false
  else do
    let last ← u64.sub hLen nLen
    loop Fault.outOfGas (slide gas haystack needle last) gas 0

/-! ### The inner loop -/

/-- The bytes before `j` agree. -/
def Agrees (haystack needle : ByteVector) (i j : UInt64) : Prop :=
  j.toNat ≤ needle.bytes.length ∧ ∀ k < j.toNat, haystack.bytes[i.toNat + k]? = needle.bytes[k]?

theorem Agrees.start (haystack needle : ByteVector) (i : UInt64) : Agrees haystack needle i 0 :=
  ⟨Nat.zero_le _, fun _ before => absurd before (Nat.not_lt_zero _)⟩

theorem Agrees.next {haystack needle : ByteVector} {i j next : UInt64} (agrees : Agrees haystack needle i j)
    (inside : j.toNat < needle.bytes.length) (same : haystack.bytes[i.toNat + j.toNat]? = needle.bytes[j.toNat]?)
    (after : next.toNat = j.toNat + 1) : Agrees haystack needle i next := by
  constructor
  · omega
  · intro k before
    by_cases last : k = j.toNat
    · rw [last]
      exact same
    · exact agrees.2 k (by omega)

theorem Agrees.matched {haystack needle : ByteVector} {i j : UInt64} (agrees : Agrees haystack needle i j)
    (all : needle.bytes.length ≤ j.toNat) :
    assertion.matchedAt haystack.bytes needle.bytes i.toNat = true := by
  rw [assertion.matchedAt, List.all_eq_true]
  intro k inside
  rw [List.mem_range] at inside
  exact beq_iff_eq.mpr (agrees.2 k (by omega))

theorem not_matchedAt {haystack needle : Bytes} {i j : Nat} (inside : j < needle.length)
    (differs : haystack[i + j]? ≠ needle[j]?) : assertion.matchedAt haystack needle i = false := by
  rw [assertion.matchedAt, List.all_eq_false]
  refine ⟨j, List.mem_range.mpr inside, ?_⟩
  rw [beq_iff_eq]
  exact differs

theorem compare_turns {haystack needle : ByteVector} {i j : UInt64}
    (fits : i.toNat + needle.bytes.length ≤ haystack.bytes.length) (agrees : Agrees haystack needle i j) :
    Turns (fun next => Agrees haystack needle i next ∧
        needle.bytes.length - next.toNat < needle.bytes.length - j.toNat)
      (fun matched => matched = assertion.matchedAt haystack.bytes needle.bytes i.toNat)
      (compare haystack needle i j) := by
  have bounded := haystack.bounded
  unfold compare
  split
  next inside =>
    have within : j.toNat < needle.bytes.length := by
      rw [← needle.toNat_length]
      exact UInt64.lt_iff_toNat_lt.mp inside
    obtain ⟨position, summed, value⟩ := u64.add_ok i j (by omega)
    have reach : position.toNat < haystack.bytes.length := by omega
    rw [summed, ok_bind, ByteVector.borrow_ok reach, ok_bind, ByteVector.borrow_ok within, ok_bind]
    have there : haystack.bytes[i.toNat + j.toNat]? = some haystack.bytes[position.toNat] := by
      rw [← value, List.getElem?_eq_getElem reach]
    have here : needle.bytes[j.toNat]? = some needle.bytes[j.toNat] := List.getElem?_eq_getElem within
    split
    next differs =>
      refine .inr ⟨false, rfl, ?_⟩
      have apart : haystack.bytes[i.toNat + j.toNat]? ≠ needle.bytes[j.toNat]? := by
        rw [there, here]
        exact fun same => differs (Option.some.inj same)
      exact (not_matchedAt within apart).symm
    next same =>
      obtain ⟨next, advanced, after⟩ := u64.add_ok j 1 (by change _ + 1 < _; omega)
      have after : next.toNat = j.toNat + 1 := after
      rw [advanced, ok_bind]
      refine .inl ⟨next, rfl, agrees.next within ?_ after, by omega⟩
      rw [there, here, not_not.mp same]
  next done =>
    refine .inr ⟨true, rfl, ?_⟩
    have all : needle.bytes.length ≤ j.toNat := by
      rw [← needle.toNat_length]
      exact UInt64.le_iff_toNat_le.mp (UInt64.not_lt.mp done)
    exact (agrees.matched all).symm

/-! ### The outer loop -/

/-- No position before `i` matches. -/
def Missed (haystack needle : ByteVector) (i : UInt64) : Prop :=
  i.toNat ≤ haystack.bytes.length - needle.bytes.length + 1 ∧
    ∀ k < i.toNat, assertion.matchedAt haystack.bytes needle.bytes k = false

theorem Missed.start (haystack needle : ByteVector) : Missed haystack needle 0 :=
  ⟨Nat.zero_le _, fun _ before => absurd before (Nat.not_lt_zero _)⟩

theorem Missed.next {haystack needle : ByteVector} {i next : UInt64} (missed : Missed haystack needle i)
    (inside : i.toNat ≤ haystack.bytes.length - needle.bytes.length)
    (fails : assertion.matchedAt haystack.bytes needle.bytes i.toNat = false) (after : next.toNat = i.toNat + 1) :
    Missed haystack needle next := by
  constructor
  · omega
  · intro k before
    by_cases last : k = i.toNat
    · rw [last]
      exact fails
    · exact missed.2 k (by omega)

theorem slide_turns {haystack needle : ByteVector} {last i : UInt64} {gas : Nat}
    (long : needle.bytes.length ≤ haystack.bytes.length) (occupied : 0 < needle.bytes.length)
    (final : last.toNat = haystack.bytes.length - needle.bytes.length) (enough : needle.bytes.length < gas)
    (missed : Missed haystack needle i) :
    Turns (fun next => Missed haystack needle next ∧ last.toNat + 1 - next.toNat < last.toNat + 1 - i.toNat)
      (fun found => found = (List.range (haystack.bytes.length - needle.bytes.length + 1)).any
        (assertion.matchedAt haystack.bytes needle.bytes))
      (slide gas haystack needle last i) := by
  have bounded := haystack.bounded
  unfold slide
  split
  next inside =>
    have within : i.toNat ≤ last.toNat := UInt64.le_iff_toNat_le.mp inside
    obtain ⟨matched, ended, value⟩ := loop_ends Fault.outOfGas
      (fun j : UInt64 => needle.bytes.length - j.toNat)
      (fun j agrees => compare_turns (by omega) agrees) (Agrees.start haystack needle i)
      (lt_of_le_of_lt (Nat.sub_le _ _) enough)
    rw [ended, ok_bind, value]
    split
    next hit =>
      refine .inr ⟨true, rfl, Eq.symm ?_⟩
      rw [List.any_eq_true]
      exact ⟨i.toNat, List.mem_range.mpr (by omega), hit⟩
    next fails =>
      obtain ⟨next, advanced, after⟩ := u64.add_ok i 1 (by change _ + 1 < _; omega)
      have after : next.toNat = i.toNat + 1 := after
      rw [advanced, ok_bind]
      exact .inl ⟨next, rfl, missed.next (by omega) (Bool.eq_false_iff.mpr fails) after, by omega⟩
  next done =>
    have beyond : last.toNat < i.toNat := UInt64.lt_iff_toNat_lt.mp (UInt64.not_le.mp done)
    refine .inr ⟨false, rfl, Eq.symm ?_⟩
    rw [List.any_eq_false]
    intro k inside
    rw [List.mem_range] at inside
    rw [missed.2 k (by omega)]
    exact Bool.false_ne_true

/-- The machine computes the search of the library's words. -/
theorem containsSubvec_eq (haystack needle : ByteVector) {gas : Nat} (enough : haystack.bytes.length + 1 < gas) :
    containsSubvec gas haystack needle = .ok (assertion.containsSubvec haystack.bytes needle.bytes) := by
  have empty_iff : needle.length = 0 ↔ needle.bytes.length = 0 := by
    rw [← needle.toNat_length]
    exact UInt64.toNat_inj.symm
  have shorter_iff : haystack.length < needle.length ↔ haystack.bytes.length < needle.bytes.length := by
    rw [UInt64.lt_iff_toNat_lt, haystack.toNat_length, needle.toNat_length]
  unfold containsSubvec assertion.containsSubvec
  simp only [empty_iff, shorter_iff]
  split
  next => rfl
  next occupied =>
    split
    next => rfl
    next long =>
      obtain ⟨last, subtracted, value⟩ := u64.sub_ok haystack.length needle.length
        (by rw [haystack.toNat_length, needle.toNat_length]; omega)
      rw [haystack.toNat_length, needle.toNat_length] at value
      have inner : needle.bytes.length < gas := by omega
      obtain ⟨found, ended, answer⟩ := loop_ends Fault.outOfGas
        (fun i : UInt64 => last.toNat + 1 - i.toNat)
        (fun i missed => slide_turns (by omega) (by omega) value inner missed)
        (Missed.start haystack needle) (show last.toNat + 1 - 0 < gas by omega)
      rw [subtracted, ok_bind, ended, answer]

/-- For all vectors the search comes to an end inside its bounds, and it finds exactly the vectors
that lie in one piece in the haystack. -/
theorem contains_subvec_decides (haystack needle : ByteVector) :
    ∃ found, (∀ spare, containsSubvec (haystack.bytes.length + 2 + spare) haystack needle = .ok found) ∧
      (found = true ↔ ∃ front back, haystack.bytes = front ++ needle.bytes ++ back) := by
  refine ⟨assertion.containsSubvec haystack.bytes needle.bytes, fun spare => ?_, ?_⟩
  · exact containsSubvec_eq haystack needle (by omega)
  · rw [assertion.containsSubvec_iff]
    exact exists_congr fun front => exists_congr fun back => eq_comm

/-- The partial match at position 0 is given up; the match at the last position is found. -/
example : containsSubvec 7 ⟨[1, 2, 1, 2, 3], by decide⟩ ⟨[1, 2, 3], by decide⟩ = .ok true := by rfl

end MpcKit.Core.Vm
