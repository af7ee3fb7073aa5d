import MpcKit.Services.World
import MpcKit.Sign.Effects
import MpcKit.Wallets.Accepting

/-! What no operation takes away: rows of dwallets and accounts, presigns, stored caps. -/

namespace MpcKit.Services
open MpcKit.Backend MpcKit.Async
open MpcKit.Sign (Account DWallet Presign)

/-- The columns no `UPDATE` of a dwallet sets. -/
structure SameDWallet (row later : DWallet) : Prop where
  userId : later.userId = row.userId
  network : later.network = row.network
  accountId : later.accountId = row.accountId
  suiDwalletId : later.suiDwalletId = row.suiDwalletId
  curve : later.curve = row.curve

theorem SameDWallet.refl (row : DWallet) : SameDWallet row row := ⟨rfl, rfl, rfl, rfl, rfl⟩

theorem SameDWallet.trans {first second third : DWallet} (early : SameDWallet first second)
    (late : SameDWallet second third) : SameDWallet first third :=
  ⟨late.userId.trans early.userId, late.network.trans early.network, late.accountId.trans early.accountId,
    late.suiDwalletId.trans early.suiDwalletId, late.curve.trans early.curve⟩

/-- The bucket of a presign, which no `UPDATE` sets. -/
structure SameBucket (row later : Presign) : Prop where
  network : later.network = row.network
  curve : later.curve = row.curve
  signatureAlgorithm : later.signatureAlgorithm = row.signatureAlgorithm
  networkEncryptionKeyId : later.networkEncryptionKeyId = row.networkEncryptionKeyId

theorem SameBucket.refl (row : Presign) : SameBucket row row := ⟨rfl, rfl, rfl, rfl⟩

structure Grows (before after : World) : Prop where
  accounts : before.sign.accounts.Grew Eq after.sign.accounts
  dwallets : before.sign.dwallets.Grew SameDWallet after.sign.dwallets
  presigns : before.sign.presigns.Grew SameBucket after.sign.presigns
  stored : ∀ cap ∈ before.stored, cap ∈ after.stored
  nextId : before.sign.nextId ≤ after.sign.nextId

theorem sameBucket_of_change {env : Sign.Env} {op : Sign.PresignOp} {old row : Presign}
    (change : Sign.PresignChange env op old row) : SameBucket old row := by
  cases change <;> exact ⟨rfl, rfl, rfl, rfl⟩

/-- An operation of the sign services fills in the key of a dwallet, or leaves the rows alone. -/
theorem tables_sign {op : Sign.Op} {env : Sign.Env} {world after : Sign.World} {answer : Sign.Res op}
    (executed : Sign.exec op env world = some (answer, after)) :
    after.accounts = world.accounts ∧ (after.dwallets = world.dwallets ∨ ∃ id nek, op = .wallet (.setNek id nek) ∧
      after.dwallets = world.dwallets.modify id (Sign.DWallet.toNek nek)) := by
  cases op with
  | wallet op =>
    cases executed
    cases op with
    | setNek id nek => exact ⟨rfl, .inr ⟨id, nek, rfl, rfl⟩⟩
    | _ => exact ⟨rfl, .inl rfl⟩
  | chain op =>
    obtain ⟨reply, _, same⟩ := Option.map_eq_some_iff.mp executed
    cases same
    exact ⟨rfl, .inl rfl⟩
  | _ =>
    cases executed
    exact ⟨rfl, .inl rfl⟩

theorem grows_sign {op : Sign.Op} {env : Sign.Env} {world : World} {after : Sign.World} {answer : Sign.Res op}
    (executed : Sign.exec op env world.sign = some (answer, after)) : Grows world { world with sign := after } where
  accounts := by
    rw [show ({ world with sign := after } : World).sign.accounts = _ from (tables_sign executed).1]
    exact .refl (fun _ => rfl) _
  dwallets := by
    rcases (tables_sign executed).2 with same | ⟨id, nek, _, same⟩
    · rw [show ({ world with sign := after } : World).sign.dwallets = _ from same]
      exact .refl SameDWallet.refl _
    · rw [show ({ world with sign := after } : World).sign.dwallets = _ from same]
      exact .modify SameDWallet.refl _ id (fun _ => ⟨rfl, rfl, rfl, rfl, rfl⟩)
  presigns id row found := by
    obtain ⟨later, there, _, rfl | ⟨statement, _, change⟩⟩ := Sign.exec_presign executed found
    · exact ⟨later, there, .refl later⟩
    · exact ⟨later, there, sameBucket_of_change change⟩
  stored _ there := there
  nextId := Sign.exec_nextId executed

variable {config : Config}

/-- Everything an operation of the dwallet service can do to accounts and dwallets. -/
inductive WalletEffect (world after : Wallets.World) : Wallets.Op → Prop where
  | none (op : Wallets.Op) (accounts : after.accounts = world.accounts) (dwallets : after.dwallets = world.dwallets) :
      WalletEffect world after op
  | account (new : Wallets.NewAccount) (inserted : world.accounts.insert (new.row world.nextId) = some after.accounts)
      (dwallets : after.dwallets = world.dwallets) : WalletEffect world after (.account (.insert new))
  | dwallet (new : Wallets.NewDWallet) (accounts : after.accounts = world.accounts)
      (fresh : ∀ row ∈ world.dwallets.rows, row.suiDwalletId ≠ new.suiDwalletId)
      (inserted : world.dwallets.insert (new.row world.nextId) = some after.dwallets) :
      WalletEffect world after (.dwallet (.insert new))
  | activate (id : Uuid) (digest : String) (nek : Option ObjectId) (accounts : after.accounts = world.accounts)
      (dwallets : after.dwallets = world.dwallets.modify id (Wallets.DWallet.toActive digest nek)) :
      WalletEffect world after (.dwallet (.activate id digest nek))

theorem effect_wallets {index : Nat} {op : Wallets.Op} {env : Wallets.Env} {world after : Wallets.World}
    {answer : Wallets.Res op} (executed : Wallets.exec config.wallets index op env world = some (answer, after)) :
    WalletEffect world after op := by
  cases op with
  | account op =>
    cases op with
    | findForUser userId network =>
      cases executed
      exact .none _ rfl rfl
    | insert new =>
      rcases Wallets.exec_insertAccount executed with ⟨_, rfl⟩ | ⟨_, table, inserted, rfl⟩
      · exact .none _ rfl rfl
      · exact .account new inserted rfl
  | dwallet op =>
    cases op with
    | selectJoined id userId network =>
      cases executed
      exact .none _ rfl rfl
    | insert new =>
      rcases Wallets.exec_insertDwallet executed with ⟨_, rfl⟩ | ⟨_, fresh, table, inserted, rfl⟩
      · exact .none _ rfl rfl
      · exact .dwallet new rfl fresh inserted
    | activate id digest nek =>
      cases executed
      exact .activate id digest nek rfl rfl
  | chain op =>
    obtain ⟨reply, _, same⟩ := Option.map_eq_some_iff.mp executed
    cases same
    exact .none _ rfl rfl
  | _ =>
    cases executed
    exact .none _ rfl rfl

theorem nextId_wallets {index : Nat} {op : Wallets.Op} {env : Wallets.Env} {world after : Wallets.World}
    {answer : Wallets.Res op} (executed : Wallets.exec config.wallets index op env world = some (answer, after)) :
    world.nextId ≤ after.nextId := by
  cases op with
  | chain op =>
    obtain ⟨reply, _, same⟩ := Option.map_eq_some_iff.mp executed
    cases same
    exact Nat.le_refl _
  | _ =>
    cases executed
    exact Nat.le_succ _

theorem grows_wallets {index : Nat} {op : Wallets.Op} {env : Wallets.Env} {world : World} {after : Wallets.World}
    {answer : Wallets.Res op} (executed : Wallets.exec config.wallets index op env world.wallets = some (answer, after))
    (more : List StoredCap) : Grows world (world.withWallets after (world.stored ++ more)) where
  accounts := by
    change world.wallets.accounts.Grew Eq after.accounts
    cases effect_wallets executed with
    | none op accounts dwallets =>
      rw [accounts]
      exact .refl (fun _ => rfl) _
    | account new inserted dwallets => exact .insert (fun _ => rfl) inserted
    | dwallet new accounts fresh inserted =>
      rw [accounts]
      exact .refl (fun _ => rfl) _
    | activate id digest nek accounts dwallets =>
      rw [accounts]
      exact .refl (fun _ => rfl) _
  dwallets := by
    change world.wallets.dwallets.Grew SameDWallet after.dwallets
    cases effect_wallets executed with
    | none op accounts dwallets =>
      rw [dwallets]
      exact .refl SameDWallet.refl _
    | account new inserted dwallets =>
      rw [dwallets]
      exact .refl SameDWallet.refl _
    | dwallet new accounts fresh inserted => exact .insert SameDWallet.refl inserted
    | activate id digest nek accounts dwallets =>
      rw [dwallets]
      exact .modify SameDWallet.refl _ id (fun _ => ⟨rfl, rfl, rfl, rfl, rfl⟩)
  presigns := .refl SameBucket.refl _
  stored _ there := List.mem_append_left _ there
  nextId := nextId_wallets executed

/-- No operation takes any of it away. -/
theorem grows_exec {index : Nat} {op : Op} {env : Env} {world after : World} {answer : Res op}
    (executed : exec config index op env world = some (answer, after)) : Grows world after := by
  cases op with
  | inl op =>
    obtain ⟨_, sign, done, rfl⟩ := exec_sign executed
    exact grows_sign done
  | inr op =>
    obtain ⟨_, wallets, done, rfl⟩ := exec_wallets executed
    exact grows_wallets done _

end MpcKit.Services
