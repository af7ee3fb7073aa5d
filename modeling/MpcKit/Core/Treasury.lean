import MpcKit.Core.Entries

/-! The operator's fee treasury. Every `pay_*` entry empties it into two coins, pays with them and
puts back what the coordinator left. -/

namespace MpcKit.Core

variable {c : Coordinator}

structure Treasury where
  ika : UInt64
  sui : UInt64
  deriving DecidableEq

/-- Amounts of the two coins. -/
structure Amounts where
  ika : Nat
  sui : Nat
  deriving DecidableEq, Repr

def Amounts.zero : Amounts := ⟨0, 0⟩

namespace Treasury

/-- `init` -/
def init : Treasury := ⟨0, 0⟩

def depositIka (treasury : Treasury) (coin : UInt64) : Except Abort Treasury := do
  let ika ← checkedAdd treasury.ika coin
  pure { treasury with ika }

def depositSui (treasury : Treasury) (coin : UInt64) : Except Abort Treasury := do
  let sui ← checkedAdd treasury.sui coin
  pure { treasury with sui }

/-- Both balances as coins, and the empty treasury. -/
def take (treasury : Treasury) : Payment × Treasury := (⟨treasury.ika, treasury.sui⟩, ⟨0, 0⟩)

def giveBack (treasury : Treasury) (coins : Payment) : Except Abort Treasury := do
  let ika ← checkedAdd treasury.ika coins.ika
  let sui ← checkedAdd treasury.sui coins.sui
  pure ⟨ika, sui⟩

/-- Everything to the caller. -/
def drain (treasury : Treasury) : Payment × Treasury := (⟨treasury.ika, treasury.sui⟩, ⟨0, 0⟩)

/-- The result of a `pay_*` entry and what the coordinator kept of the coins. -/
structure Spent (α : Type) where
  value : α
  treasury : Treasury
  fee : Amounts

/-- What the `pay_*` entries have in common: `take`, the paying call, `give_back`. -/
def spend {α : Type} (treasury : Treasury) (pay : (payment : Payment) → Except Abort (Paid payment α)) :
    Except Abort (Spent α) := do
  let (coins, emptied) := treasury.take
  let paid ← pay coins
  let refilled ← emptied.giveBack paid.left
  pure ⟨paid.value, refilled, ⟨paid.ikaFee, paid.suiFee⟩⟩

section
variable (treasury : Treasury) (state : c.State) (ctx : TxContext)

def payRegisterAndDkgZeroTrust (args : DkgArgs) (newId : ID) : Except Abort (Spent (Entered c Unit)) :=
  treasury.spend fun coins => dkg.requestDkgZeroTrust Account.registerAccount state args newId coins ctx

def payDkgZeroTrust (account : Account c) (args : DkgArgs) (newId : ID) : Except Abort (Spent (Entered c Unit)) :=
  treasury.spend fun coins => dkg.requestDkgZeroTrust account state args newId coins ctx

def paySignZeroTrust (account : Account c) (args : SignArgs c) : Except Abort (Spent (Entered c ID)) :=
  treasury.spend fun coins => sign.requestSignZeroTrust account state args coins ctx

/-- The cap goes to the recipient. -/
def payPresign (networkEncryptionKeyId : ID) (curve signatureAlgorithm : UInt32) (sessionIdentifierBytes : Bytes) :
    Except Abort (Spent (c.UnverifiedPresignCap × c.State)) :=
  treasury.spend fun coins => do
    let (session, state) ← c.registerSessionIdentifier state sessionIdentifierBytes ctx
    c.requestGlobalPresign state networkEncryptionKeyId curve signatureAlgorithm session coins ctx

end

/-- Nothing is lost between the treasury and the coordinator. -/
theorem spend_conserves {α : Type} {treasury : Treasury}
    {pay : (payment : Payment) → Except Abort (Paid payment α)} {spent : Spent α}
    (done : treasury.spend pay = .ok spent) :
    spent.treasury.ika.toNat + spent.fee.ika = treasury.ika.toNat ∧
      spent.treasury.sui.toNat + spent.fee.sui = treasury.sui.toNat := by
  simp only [spend, take, giveBack, bind_eq_ok, bind_assoc, pure_bind, pure_eq_ok] at done
  obtain ⟨paid, _, ika, ikaBack, sui, suiBack, rfl⟩ := done
  have ikaLeft := toNat_of_checkedAdd ikaBack
  have suiLeft := toNat_of_checkedAdd suiBack
  have ikaBound := paid.ika_le
  have suiBound := paid.sui_le
  simp only [Paid.ikaFee, Paid.suiFee, UInt64.toNat_zero] at *
  omega

/-- What was spent was spent by the paying call. -/
theorem exists_paid_of_spend {α : Type} {treasury : Treasury}
    {pay : (payment : Payment) → Except Abort (Paid payment α)} {spent : Spent α}
    (done : treasury.spend pay = .ok spent) :
    ∃ paid, pay ⟨treasury.ika, treasury.sui⟩ = .ok paid ∧ spent.value = paid.value ∧
      spent.fee = ⟨paid.ikaFee, paid.suiFee⟩ := by
  simp only [spend, take, bind_eq_ok, pure_eq_ok] at done
  obtain ⟨paid, passed, _, _, rfl⟩ := done
  exact ⟨paid, passed, rfl, rfl⟩

end Treasury

end MpcKit.Core
