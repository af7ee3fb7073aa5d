import Mathlib

/-! What the Move modules are written in: byte vectors, addresses, calls that may abort, and the
framework's sets and hash functions. -/

namespace MpcKit.Core

abbrev Bytes := List UInt8

/-- The bytes of a literal `b"…"`. -/
def ascii (text : String) : Bytes := text.toList.map (fun char => UInt8.ofNat char.toNat)

/-- A 32-byte address. Object ids are addresses too. -/
structure Address where
  bytes : Bytes
  length_bytes : bytes.length = 32
  deriving DecidableEq

abbrev ID := Address

/-! ### Aborts -/

inductive MoveModule where
  | auth
  | assertion
  | account
  | sign
  | dkg
  | importedKey
  | vecSet
  deriving DecidableEq, Repr

/-- Why a transaction stops: an assertion of a module, an overflow, something the coordinator
refuses, or that it cannot be formed, because it names an object that does not exist or would
create one under an id that was handed out before. -/
inductive Abort where
  | failed (module : MoveModule) (code : Nat)
  | arithmetic
  | coordinator (code : Nat)
  | noSuchTransaction
  deriving DecidableEq, Repr

def assert (condition : Prop) [Decidable condition] (abort : Abort) : Except Abort Unit :=
  if condition then .ok () else .error abort

@[simp] theorem assert_eq_ok {condition : Prop} [Decidable condition] {abort : Abort} {result : Unit} :
    assert condition abort = .ok result ↔ condition := by
  by_cases holds : condition <;> simp [assert, holds]

@[simp] theorem bind_eq_ok {α β : Type} {first : Except Abort α} {next : α → Except Abort β} {result : β} :
    (first >>= next) = .ok result ↔ ∃ value, first = .ok value ∧ next value = .ok result := by
  cases first with
  | error abort => simp [bind, Except.bind]
  | ok value => simp [bind, Except.bind]

@[simp] theorem map_eq_ok {α β : Type} {first : Except Abort α} {f : α → β} {result : β} :
    f <$> first = .ok result ↔ ∃ value, first = .ok value ∧ f value = result := by
  cases first with
  | error abort => simp [Functor.map, Except.map]
  | ok value => simp [Functor.map, Except.map]

@[simp] theorem pure_eq_ok {α : Type} {value result : α} :
    (pure value : Except Abort α) = .ok result ↔ value = result := by
  simp [pure, Except.pure]

/-- Whenever the call goes through, its result satisfies `post`. -/
def Ends {α : Type} (post : α → Prop) (program : Except Abort α) : Prop :=
  ∀ result, program = .ok result → post result

theorem Ends.pure {α : Type} {post : α → Prop} {value : α} (holds : post value) : Ends post (pure value) := by
  intro result same
  rw [pure_eq_ok] at same
  exact same ▸ holds

theorem Ends.bind {α β : Type} {post : β → Prop} {first : Except Abort α} {next : α → Except Abort β}
    (rest : ∀ value, first = .ok value → Ends post (next value)) : Ends post (first >>= next) := by
  intro result same
  obtain ⟨value, passed, later⟩ := bind_eq_ok.mp same
  exact rest value passed result later

/-- Addition of `u64` values; Move aborts when the sum does not fit. -/
def checkedAdd (first second : UInt64) : Except Abort UInt64 :=
  if first.toNat + second.toNat < 2 ^ 64 then .ok (first + second) else .error .arithmetic

theorem toNat_of_checkedAdd {first second sum : UInt64} (added : checkedAdd first second = .ok sum) :
    sum.toNat = first.toNat + second.toNat := by
  unfold checkedAdd at added
  split at added
  next fits =>
    injection added with added
    subst added
    rw [UInt64.toNat_add]
    exact Nat.mod_eq_of_lt fits
  next => cases added

/-! ### Sets -/

/-- `sui::vec_set`: the keys in the order they were inserted. -/
structure VecSet (α : Type) where
  contents : List α
  nodup : contents.Nodup
  deriving DecidableEq

namespace VecSet

def eKeyAlreadyExists : Abort := .failed .vecSet 0
def eKeyDoesNotExist : Abort := .failed .vecSet 1

def empty {α : Type} : VecSet α := ⟨[], List.nodup_nil⟩

@[simp] theorem contents_empty {α : Type} : (empty : VecSet α).contents = [] := rfl

variable {α : Type} [DecidableEq α]

def contains (set : VecSet α) (key : α) : Bool := decide (key ∈ set.contents)

def length (set : VecSet α) : Nat := set.contents.length

def insert (set : VecSet α) (key : α) : Except Abort (VecSet α) :=
  if absent : key ∉ set.contents then
    .ok ⟨set.contents ++ [key], List.concat_eq_append ▸ set.nodup.concat absent⟩
  else .error eKeyAlreadyExists

def remove (set : VecSet α) (key : α) : Except Abort (VecSet α) :=
  if key ∈ set.contents then .ok ⟨set.contents.erase key, set.nodup.erase key⟩ else .error eKeyDoesNotExist

@[simp] theorem contains_iff {set : VecSet α} {key : α} : set.contains key = true ↔ key ∈ set.contents := by
  simp [contains]

theorem insert_eq_ok {set grown : VecSet α} {key : α} :
    set.insert key = .ok grown ↔ key ∉ set.contents ∧ grown.contents = set.contents ++ [key] := by
  unfold insert
  split
  next absent =>
    constructor
    · intro same
      injection same with same
      subst same
      exact ⟨absent, rfl⟩
    · rintro ⟨_, same⟩
      cases grown
      simp_all
  next present => simp [present]

theorem remove_eq_ok {set shrunk : VecSet α} {key : α} :
    set.remove key = .ok shrunk ↔ key ∈ set.contents ∧ shrunk.contents = set.contents.erase key := by
  unfold remove
  split
  next present =>
    constructor
    · intro same
      injection same with same
      subst same
      exact ⟨present, rfl⟩
    · rintro ⟨_, same⟩
      cases shrunk
      simp_all
  next absent => simp [absent]

theorem length_of_remove {set shrunk : VecSet α} {key : α} (removed : set.remove key = .ok shrunk) :
    shrunk.length = set.length - 1 := by
  obtain ⟨member, contents⟩ := remove_eq_ok.mp removed
  rw [length, contents, List.length_erase_of_mem member, length]

theorem mem_of_remove {set shrunk : VecSet α} {key other : α} (removed : set.remove key = .ok shrunk)
    (inside : other ∈ shrunk.contents) : other ∈ set.contents := by
  rw [(remove_eq_ok.mp removed).2] at inside
  exact List.mem_of_mem_erase inside

end VecSet

/-! ### Framework functions -/

/-- The native functions of the framework. Nothing is assumed of them here. -/
structure Natives where
  /-- `std::hash::sha2_256` -/
  sha2_256 : Bytes → Bytes
  /-- `sui::hash::blake2b256` -/
  blake2b256 : Bytes → Bytes
  /-- Signature, public key, message. -/
  ed25519Verify : Bytes → Bytes → Bytes → Bool
  /-- Signature, public key, message, selector of the hash the message goes through. -/
  secp256k1Verify : Bytes → Bytes → Bytes → UInt8 → Bool
  secp256r1Verify : Bytes → Bytes → Bytes → UInt8 → Bool

end MpcKit.Core
