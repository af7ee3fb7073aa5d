import MpcKit.Sign.Books
import MpcKit.Wallets.Accepting

/-! What a call has charged, created and stored in each of its stages, as long as nothing fails
after its transaction has executed. -/

namespace MpcKit.Wallets
open MpcKit.Backend MpcKit.Async
open MpcKit.Billing (Ledger OpKey BillingCharge ChargeArgs RefundArgs)
open MpcKit.Sign (Account DWallet)

/-! ### Charges and rows -/

/-- The key of a call's charge in the ledger. -/
def opKey (args : ChargeWithRefundArgs) (opId : Uuid) : OpKey := ⟨args.network, args.opType, opId⟩

/-- The call's transaction created this object. -/
def Owns (chain : Chain) (index : Nat) (object : ObjectId) : Prop := ⟨index, object⟩ ∈ chain.created

/-- The row that belongs to an object a call has created. -/
inductive Stored (world : World) : Call → ObjectId → EncryptionKey ⊕ DWallet → Prop where
  | key (args : RegisterEncryptionKeyArgs) (row : EncryptionKey) (there : row ∈ world.keys.rows) :
      Stored world (.register args) row.suiObjectId (.inl row)
  | dwallet (args : OnboardZeroTrustArgs) (row : DWallet) (there : row ∈ world.dwallets.rows) :
      Stored world (.onboard args) row.suiDwalletId (.inr row)

def IsStored (world : World) (call : Call) (object : ObjectId) : Prop := ∃ row, Stored world call object row

/-! ### The condition -/

def NewEncryptionKey.Conflicts (new : NewEncryptionKey) (row : EncryptionKey) : Prop :=
  row.suiObjectId = new.suiObjectId ∨
    row.userId = new.userId ∧ row.curve = new.curve ∧ row.suiAddress = new.suiAddress ∧ row.network = new.network

instance (new : NewEncryptionKey) (row : EncryptionKey) : Decidable (new.Conflicts row) :=
  inferInstanceAs (Decidable (_ ∨ _))

instance (result : Except Thrown ObjectId) : Decidable (∃ object, result = .ok object) :=
  match result with
  | .ok object => isTrue ⟨object, rfl⟩
  | .error _ => isFalse (fun ⟨_, same⟩ => nomatch same)

instance (config : Config) (tx : ExecutedTx) (move : MoveCall) : Decidable (Legible config tx move) := by
  unfold Legible
  induction move using MoveCall.casesOn <;> infer_instance

/-- The service can go on after this operation: a transaction that executed is legible, an insert
that follows meets no index and no failure, and a refund goes through. -/
def Passes (config : Config) (env : Env) (world : World) : Op → Prop
  | .chain (.execute _ move) => env.reported = true → Legible config env.executed move
  | .key (.insert new) => env.db = .ok () ∧ ∀ row ∈ world.keys.rows, ¬new.Conflicts row
  | .account (.insert new) => env.db = .ok () ∧ ∀ row ∈ world.accounts.rows, row.suiObjectId ≠ new.suiObjectId
  | .dwallet (.insert new) => env.db = .ok () ∧ ∀ row ∈ world.dwallets.rows, row.suiDwalletId ≠ new.suiDwalletId
  | .ledger (.refund _) => env.db = .ok ()
  | _ => True

instance (env : Env) : Decidable (env.db = .ok ()) :=
  match env.db with
  | .ok () => isTrue rfl
  | .error _ => isFalse (fun same => nomatch same)

instance (config : Config) (env : Env) (world : World) (op : Op) : Decidable (Passes config env world op) := by
  unfold Passes
  induction op using Op.casesOn with
  | key op => induction op using KeyOp.casesOn <;> infer_instance
  | account op => induction op using AccountOp.casesOn <;> infer_instance
  | dwallet op => induction op using DWalletOp.casesOn <;> infer_instance
  | ledger op => induction op using Sign.LedgerOp.casesOn <;> infer_instance
  | chain op => induction op using ChainOp.casesOn <;> infer_instance
  | randomUUID => infer_instance

/-- No step after a transaction that executed fails, and no refund fails. -/
def Smooth (config : Config) (system : WalletSystem) : Event Env Call → Prop
  | .step index env => ∀ thread ∈ system.calls index, ∀ op ∈ thread.program.awaits, Passes config env system.world op
  | _ => True

instance (config : Config) (system : WalletSystem) (event : Event Env Call) : Decidable (Smooth config system event) := by
  unfold Smooth
  induction event using Event.casesOn <;> infer_instance

variable {config : Config}

/-! ### What each stage has behind it -/

/-- The charge of a call in the ledger. -/
def Billed (config : Config) (ledger : Ledger) (call : Call) (opId : Uuid) : Prop :=
  ∃ args, billed config call = some args ∧
    ∃ row ∈ ledger.charges, row.op = opKey args opId ∧ row.kind = .charge ∧ row.creditsMicro = -args.amountMicro

/-- Charged, and nothing given back. -/
def Open (config : Config) (ledger : Ledger) (call : Call) (opId : Uuid) : Prop :=
  Billed config ledger call opId ∧ ∀ row ∈ ledger.charges, row.opId = opId → row.kind = .charge

def GivenBack (config : Config) (ledger : Ledger) (call : Call) (opId : Uuid) : Prop :=
  ∃ args, billed config call = some args ∧ ∃ row ∈ ledger.charges, row.op = opKey args opId ∧ row.kind = .refund

/-- The one object a call has created. -/
def Sole (chain : Chain) (index : Nat) (object : ObjectId) : Prop :=
  Owns chain index object ∧ ∀ other, Owns chain index other → other = object

/-- What the effects and events name as the new object is this one. -/
def Shows (config : Config) (tx : ExecutedTx) (object : ObjectId) : Call → Prop
  | .register _ => ∀ id, findFirstCreatedByType tx "::EncryptionKey" = .ok id → id = object
  | .onboard _ => ∀ id, extractDwalletId config tx = .ok id → id = object
  | .accept _ => True

def Standing (config : Config) (world : World) (index : Nat) (call : Call) : Stage → Prop
  | .drawn opId => (∀ row ∈ world.ledger.charges, row.opId ≠ opId) ∧ ∀ object, ¬Owns world.chain index object
  | .charged opId => Open config world.ledger call opId ∧ ∀ object, ¬Owns world.chain index object
  | .failed opId => Open config world.ledger call opId ∧
      ∀ object, Owns world.chain index object → ¬IsStored world call object
  | .repaid opId => GivenBack config world.ledger call opId ∧
      ∀ object, Owns world.chain index object → ¬IsStored world call object
  | .executed opId move tx => Open config world.ledger call opId ∧ Legible config tx move ∧
      ∃ object, Sole world.chain index object ∧ ¬IsStored world call object ∧ Shows config tx object call
  | .broken _ _ _ => False
  | .stored opId _ _ => Open config world.ledger call opId ∧
      ∃ object, Sole world.chain index object ∧ IsStored world call object
  | _ => ∀ object, ¬Owns world.chain index object

/-- What a step may touch: rows charged under one operation id, and objects of one call with their rows. -/
structure Touch (world after : World) (index : Nat) (opId : Option Uuid) : Prop where
  nextId : world.nextId ≤ after.nextId
  charges : ∀ row, opId ≠ some row.opId → (row ∈ after.ledger.charges ↔ row ∈ world.ledger.charges)
  owns : ∀ other object, other ≠ index → (Owns after.chain other object ↔ Owns world.chain other object)
  stored : ∀ call object, ¬Owns world.chain index object → (IsStored after call object ↔ IsStored world call object)

theorem Open.touch {world after : World} {index : Nat} {touched : Option Uuid} (touch : Touch world after index touched)
    {call : Call} {opId : Uuid} (apart : touched ≠ some opId) (open' : Open config world.ledger call opId) :
    Open config after.ledger call opId := by
  obtain ⟨⟨args, paid, row, there, op, kind, amount⟩, only⟩ := open'
  have own : row.opId = opId := congrArg OpKey.opId op
  refine ⟨⟨args, paid, row, (touch.charges row (by rw [own]; exact apart)).mpr there, op, kind, amount⟩, ?_⟩
  intro other member same
  exact only other ((touch.charges other (by rw [same]; exact apart)).mp member) same

theorem Standing.touch {world after : World} {index other : Nat} {touched : Option Uuid}
    (touch : Touch world after index touched) {call : Call} {at_ : Stage} (different : other ≠ index)
    (apart : ∀ opId ∈ at_.opId, touched ≠ some opId)
    (foreign : ∀ object, Owns world.chain other object → ¬Owns world.chain index object)
    (standing : Standing config world other call at_) : Standing config after other call at_ := by
  have owns : ∀ object, Owns after.chain other object → Owns world.chain other object :=
    fun object => (touch.owns other object different).mp
  have sole : ∀ object, Sole world.chain other object → Sole after.chain other object := by
    rintro object ⟨own, only⟩
    exact ⟨(touch.owns other object different).mpr own, fun another there => only another (owns another there)⟩
  have unstored : ∀ object, Owns world.chain other object → ¬IsStored world call object → ¬IsStored after call object :=
    fun object own absent there => absent ((touch.stored call object (foreign object own)).mp there)
  cases at_ with
  | drawn opId =>
    refine ⟨fun row there same => ?_, fun object there => standing.2 object (owns object there)⟩
    exact standing.1 row ((touch.charges row (by rw [same]; exact apart opId rfl)).mp there) same
  | charged opId =>
    exact ⟨standing.1.touch touch (apart opId rfl), fun object there => standing.2 object (owns object there)⟩
  | failed opId =>
    exact ⟨standing.1.touch touch (apart opId rfl), fun object there =>
      unstored object (owns object there) (standing.2 object (owns object there))⟩
  | repaid opId =>
    obtain ⟨⟨args, paid, row, there, op, kind⟩, absent⟩ := standing
    have own : row.opId = opId := congrArg OpKey.opId op
    refine ⟨⟨args, paid, row, (touch.charges row ?_).mpr there, op, kind⟩, fun object there =>
      unstored object (owns object there) (absent object (owns object there))⟩
    rw [own]
    exact apart opId rfl
  | executed opId move tx =>
    obtain ⟨open', legible, object, alone, absent, shows⟩ := standing
    exact ⟨open'.touch touch (apart opId rfl), legible, object, sole object alone, unstored object alone.1 absent, shows⟩
  | broken => exact standing
  | stored opId move tx =>
    obtain ⟨open', object, alone, there⟩ := standing
    refine ⟨open'.touch touch (apart opId rfl), object, sole object alone, ?_⟩
    exact (touch.stored call object (foreign object alone.1)).mpr there
  | _ => exact fun object there => standing object (owns object there)

/-! ### What links tables, ledger and chain to the calls -/

structure Booked (config : Config) (world : World) (calls : Nat → Option WalletThread) : Prop where
  standing : ∀ index thread, calls index = some thread → Standing config world index thread.tag (stage config thread)
  bound : ∀ index thread, calls index = some thread → ∀ opId ∈ (stage config thread).opId, opId < world.nextId
  apart : ∀ index other first second, calls index = some first → calls other = some second →
    ∀ opId ∈ (stage config first).opId, opId ∈ (stage config second).opId → index = other
  objects : (world.chain.created.map Created.object).Nodup
  owners : ∀ index object, Owns world.chain index object → ∃ thread, calls index = some thread
  charges : ∀ row ∈ world.ledger.charges, ∃ index thread args opId, calls index = some thread ∧
    billed config thread.tag = some args ∧ opId ∈ (stage config thread).opId ∧ row.op = opKey args opId
  books : (world.ledger.charges.map BillingCharge.key).Nodup
  keys : ∀ row ∈ world.keys.rows, row.id < world.nextId ∧ ∃ index thread args, calls index = some thread ∧
    thread.tag = .register args ∧ Owns world.chain index row.suiObjectId
  dwallets : ∀ row ∈ world.dwallets.rows, row.id < world.nextId ∧ ∃ index thread args, calls index = some thread ∧
    thread.tag = .onboard args ∧ Owns world.chain index row.suiDwalletId
  accounts : ∀ row ∈ world.accounts.rows, row.id < world.nextId
  uniqueKeys : (world.keys.rows.map EncryptionKey.suiObjectId).Nodup
  uniqueDwallets : (world.dwallets.rows.map DWallet.suiDwalletId).Nodup

/-- An object has one owner. -/
theorem Booked.foreign {world : World} {calls : Nat → Option WalletThread} (booked : Booked config world calls)
    {index other : Nat} (different : other ≠ index) {object : ObjectId} (theirs : Owns world.chain other object) :
    ¬Owns world.chain index object := by
  intro mine
  have same := List.inj_on_of_nodup_map booked.objects theirs mine rfl
  exact different (congrArg Created.call same)

/-- The tables after a step of one call, apart from what is charged. -/
structure Grown (world after : World) (index : Nat) (call : Call) : Prop where
  keeps : ∀ other object, Owns world.chain other object → Owns after.chain other object
  objects : (after.chain.created.map Created.object).Nodup
  books : (after.ledger.charges.map BillingCharge.key).Nodup
  keys : ∀ row ∈ after.keys.rows, row ∈ world.keys.rows ∨
    row.id < after.nextId ∧ ∃ args, call = .register args ∧ Owns after.chain index row.suiObjectId
  dwallets : ∀ row ∈ after.dwallets.rows,
    (∃ old ∈ world.dwallets.rows, old.id = row.id ∧ old.suiDwalletId = row.suiDwalletId) ∨
      row.id < after.nextId ∧ ∃ args, call = .onboard args ∧ Owns after.chain index row.suiDwalletId
  accounts : ∀ row ∈ after.accounts.rows, row.id < after.nextId
  uniqueKeys : (after.keys.rows.map EncryptionKey.suiObjectId).Nodup
  uniqueDwallets : (after.dwallets.rows.map DWallet.suiDwalletId).Nodup

theorem Booked.advance {world after : World} {calls : Nat → Option WalletThread} (booked : Booked config world calls)
    {index : Nat} {thread replaced : WalletThread} (found : calls index = some thread) (tag : replaced.tag = thread.tag)
    {touched : Option Uuid} (touch : Touch world after index touched)
    (own : ∀ opId ∈ touched, opId ∈ (stage config thread).opId)
    (standing : Standing config after index thread.tag (stage config replaced))
    (fresh : ∀ opId ∈ (stage config replaced).opId,
      opId ∈ (stage config thread).opId ∨ opId = world.nextId ∧ opId < after.nextId)
    (charges : ∀ row ∈ after.ledger.charges,
      (row ∈ world.ledger.charges ∧ (some row.opId = (stage config thread).opId → (stage config replaced).opId = some row.opId)) ∨
      ∃ args opId, billed config thread.tag = some args ∧ opId ∈ (stage config replaced).opId ∧ row.op = opKey args opId)
    (grown : Grown world after index thread.tag) :
    Booked config after (Function.update calls index (some replaced)) := by
  have owns : ∀ other object, other ≠ index → Owns after.chain other object → Owns world.chain other object :=
    fun other object different => (touch.owns other object different).mp
  have stays : ∀ other rival, calls other = some rival →
      ∃ later, Function.update calls index (some replaced) other = some later ∧ later.tag = rival.tag := by
    intro other rival there
    by_cases same : other = index
    · subst same
      rw [found] at there
      cases there
      exact ⟨replaced, Function.update_self _ _ _, tag⟩
    · exact ⟨rival, by rw [Function.update_of_ne same]; exact there, rfl⟩
  constructor
  · intro other rival there
    rcases Machine.calls_update there with ⟨rfl, rfl⟩ | ⟨different, before⟩
    · rw [tag]
      exact standing
    · refine (booked.standing other rival before).touch touch different ?_ (fun object => booked.foreign different)
      rintro opId theirs rfl
      exact different (booked.apart other index rival thread before found opId theirs (own opId rfl))
  · intro other rival there opId drawn
    rcases Machine.calls_update there with ⟨rfl, rfl⟩ | ⟨_, before⟩
    · rcases fresh opId drawn with old | ⟨_, below⟩
      · exact Nat.lt_of_lt_of_le (booked.bound other thread found opId old) touch.nextId
      · exact below
    · exact Nat.lt_of_lt_of_le (booked.bound other rival before opId drawn) touch.nextId
  · -- An identifier that was just drawn is above all others.
    have new : ∀ other rival opId, calls other = some rival → other ≠ index → opId ∈ (stage config rival).opId →
        opId ∉ (stage config replaced).opId := by
      intro other rival opId there different theirs mine
      rcases fresh opId mine with old | ⟨rfl, _⟩
      · exact different (booked.apart other index rival thread there found opId theirs old)
      · exact Nat.lt_irrefl _ (booked.bound other rival there _ theirs)
    intro one other first second here there opId mine theirs
    rcases Machine.calls_update here with ⟨rfl, rfl⟩ | ⟨different, before⟩
    · rcases Machine.calls_update there with ⟨rfl, rfl⟩ | ⟨different, earlier⟩
      · rfl
      · exact absurd mine (new other second opId earlier different theirs)
    · rcases Machine.calls_update there with ⟨rfl, rfl⟩ | ⟨_, earlier⟩
      · exact absurd theirs (new one first opId before different mine)
      · exact booked.apart one other first second before earlier opId mine theirs
  · exact grown.objects
  · intro other object there
    by_cases same : other = index
    · subst same
      exact ⟨replaced, Function.update_self _ _ _⟩
    · obtain ⟨rival, before⟩ := booked.owners other object (owns other object same there)
      exact ⟨rival, by rw [Function.update_of_ne same]; exact before⟩
  · intro row there
    rcases charges row there with ⟨old, kept⟩ | ⟨args, opId, paid, drawn, op⟩
    · obtain ⟨other, rival, args, opId, before, paid, drawn, op⟩ := booked.charges row old
      by_cases same : other = index
      · subst same
        rw [found] at before
        cases before
        have own : row.opId = opId := congrArg OpKey.opId op
        exact ⟨other, replaced, args, opId, Function.update_self _ _ _, by rw [tag]; exact paid,
          own ▸ kept (by rw [own]; exact drawn.symm), op⟩
      · exact ⟨other, rival, args, opId, by rw [Function.update_of_ne same]; exact before, paid, drawn, op⟩
    · exact ⟨index, replaced, args, opId, Function.update_self _ _ _, by rw [tag]; exact paid, drawn, op⟩
  · exact grown.books
  · intro row there
    rcases grown.keys row there with old | ⟨below, args, own, owned⟩
    · obtain ⟨below, other, rival, args, before, call, owned⟩ := booked.keys row old
      obtain ⟨later, here, same⟩ := stays other rival before
      exact ⟨Nat.lt_of_lt_of_le below touch.nextId, other, later, args, here, same.trans call, grown.keeps _ _ owned⟩
    · exact ⟨below, index, replaced, args, Function.update_self _ _ _, tag.trans own, owned⟩
  · intro row there
    rcases grown.dwallets row there with ⟨old, member, id, object⟩ | ⟨below, args, own, owned⟩
    · obtain ⟨below, other, rival, args, before, call, owned⟩ := booked.dwallets old member
      obtain ⟨later, here, same⟩ := stays other rival before
      rw [id] at below
      rw [object] at owned
      exact ⟨Nat.lt_of_lt_of_le below touch.nextId, other, later, args, here, same.trans call, grown.keeps _ _ owned⟩
    · exact ⟨below, index, replaced, args, Function.update_self _ _ _, tag.trans own, owned⟩
  · exact grown.accounts
  · exact grown.uniqueKeys
  · exact grown.uniqueDwallets

/-! ### The steps of a call -/

/-- Tables and ledger as before, but for the status of dwallets and the credit accounts. -/
structure Idle (world after : World) : Prop where
  nextId : world.nextId ≤ after.nextId
  charges : after.ledger.charges = world.ledger.charges
  created : after.chain.created = world.chain.created
  keys : after.keys = world.keys
  dwallets : after.dwallets = world.dwallets ∨
    ∃ id digest nek, after.dwallets = world.dwallets.modify id (DWallet.toActive digest nek)
  accounts : after.accounts = world.accounts

/-- Activating a row leaves its identifier and its object alone. -/
theorem rows_of_activate {table : Table DWallet.id} {id : Uuid} {digest : String} {nek : Option ObjectId} {row : DWallet}
    (there : row ∈ (table.modify id (DWallet.toActive digest nek)).rows) :
    ∃ old ∈ table.rows, old.id = row.id ∧ old.suiDwalletId = row.suiDwalletId := by
  obtain ⟨old, member, rfl⟩ := List.mem_map.mp there
  refine ⟨old, member, ?_⟩
  simp only [Table.Change.guard]
  split <;> exact ⟨rfl, rfl⟩

theorem objects_of_activate (table : Table DWallet.id) (id : Uuid) (digest : String) (nek : Option ObjectId) :
    (table.modify id (DWallet.toActive digest nek)).rows.map DWallet.suiDwalletId = table.rows.map DWallet.suiDwalletId :=
  Table.map_update _ (fun _ => rfl) table

theorem Idle.objects {world after : World} (idle : Idle world after) :
    after.dwallets.rows.map DWallet.suiDwalletId = world.dwallets.rows.map DWallet.suiDwalletId := by
  rcases idle.dwallets with same | ⟨id, digest, nek, same⟩
  · rw [same]
  · rw [same]
    exact objects_of_activate _ id digest nek

theorem isStored_iff (world : World) (call : Call) (object : ObjectId) : IsStored world call object ↔
    (∃ args, call = .register args) ∧ object ∈ world.keys.rows.map EncryptionKey.suiObjectId ∨
      (∃ args, call = .onboard args) ∧ object ∈ world.dwallets.rows.map DWallet.suiDwalletId := by
  constructor
  · rintro ⟨_, stored⟩
    cases stored with
    | key args row there => exact .inl ⟨⟨args, rfl⟩, List.mem_map_of_mem there⟩
    | dwallet args row there => exact .inr ⟨⟨args, rfl⟩, List.mem_map_of_mem there⟩
  · rintro (⟨⟨args, rfl⟩, there⟩ | ⟨⟨args, rfl⟩, there⟩)
    · obtain ⟨row, member, rfl⟩ := List.mem_map.mp there
      exact ⟨_, .key args row member⟩
    · obtain ⟨row, member, rfl⟩ := List.mem_map.mp there
      exact ⟨_, .dwallet args row member⟩

theorem Idle.stored {world after : World} (idle : Idle world after) (call : Call) (object : ObjectId) :
    IsStored after call object ↔ IsStored world call object := by
  rw [isStored_iff, isStored_iff, idle.objects, idle.keys]

theorem Idle.touch {world after : World} (idle : Idle world after) (index : Nat) : Touch world after index none where
  nextId := idle.nextId
  charges row _ := by rw [idle.charges]
  owns other object _ := by rw [Owns, Owns, idle.created]
  stored call object _ := idle.stored call object

theorem Idle.grown {world after : World} (idle : Idle world after) {calls : Nat → Option WalletThread}
    (booked : Booked config world calls) (index : Nat) (call : Call) : Grown world after index call where
  keeps other object := by rw [Owns, Owns, idle.created]; exact fun there => there
  objects := by rw [idle.created]; exact booked.objects
  books := by rw [idle.charges]; exact booked.books
  keys row there := .inl (idle.keys ▸ there)
  dwallets row there := by
    rcases idle.dwallets with same | ⟨id, digest, nek, same⟩
    · exact .inl ⟨row, same ▸ there, rfl, rfl⟩
    · rw [same] at there
      exact .inl (rows_of_activate there)
  accounts row there := Nat.lt_of_lt_of_le (booked.accounts row (idle.accounts ▸ there)) idle.nextId
  uniqueKeys := by rw [idle.keys]; exact booked.uniqueKeys
  uniqueDwallets := by rw [idle.objects]; exact booked.uniqueDwallets

/-- A step that charges, creates and stores nothing. -/
theorem Booked.idle {world after : World} {calls : Nat → Option WalletThread} (booked : Booked config world calls)
    (idle : Idle world after) {index : Nat} {thread replaced : WalletThread} (found : calls index = some thread)
    (tag : replaced.tag = thread.tag)
    (standing : Standing config after index thread.tag (stage config replaced))
    (fresh : ∀ opId ∈ (stage config replaced).opId,
      opId ∈ (stage config thread).opId ∨ opId = world.nextId ∧ opId < after.nextId)
    (charged : ∀ row ∈ world.ledger.charges, some row.opId = (stage config thread).opId →
      (stage config replaced).opId = some row.opId) :
    Booked config after (Function.update calls index (some replaced)) := by
  refine booked.advance found tag (idle.touch index) (fun _ drawn => nomatch drawn) standing fresh ?_
    (idle.grown booked index thread.tag)
  intro row there
  rw [idle.charges] at there
  exact .inl ⟨there, charged row there⟩

/-- The inserts that meet no index and no failure. -/
theorem insertAccount_passes (config : Config) {new : NewAccount} {env : Env} {world : World} (through : env.db = .ok ())
    (unused : ∀ row ∈ world.accounts.rows, row.suiObjectId ≠ new.suiObjectId)
    (below : ∀ row ∈ world.accounts.rows, row.id < world.nextId) (index : Nat) :
    ∃ table, world.accounts.insert (new.row world.nextId) = some table ∧
      exec config index (.account (.insert new)) env world =
        some (.ok (new.row world.nextId), { world with accounts := table, nextId := world.nextId + 1 }) := by
  have fresh : ∀ other ∈ world.accounts.rows, other.id ≠ (new.row world.nextId).id :=
    fun other there => Nat.ne_of_lt (below other there)
  obtain ⟨table, inserted⟩ := Table.exists_insert fresh
  have free : world.accounts.rows.any (fun row => row.suiObjectId = new.suiObjectId) = false := by
    simpa using unused
  exact ⟨table, inserted, by simp only [exec, AccountOp.exec, through, free, inserted, Bool.false_eq_true, if_false]⟩

theorem insertKey_passes (config : Config) {new : NewEncryptionKey} {env : Env} {world : World} (through : env.db = .ok ())
    (unused : ∀ row ∈ world.keys.rows, ¬new.Conflicts row)
    (below : ∀ row ∈ world.keys.rows, row.id < world.nextId) (index : Nat) :
    ∃ table, world.keys.insert (new.row world.nextId) = some table ∧
      exec config index (.key (.insert new)) env world =
        some (.ok (some (new.row world.nextId)), { world with keys := table, nextId := world.nextId + 1 }) := by
  have fresh : ∀ other ∈ world.keys.rows, other.id ≠ (new.row world.nextId).id :=
    fun other there => Nat.ne_of_lt (below other there)
  obtain ⟨table, inserted⟩ := Table.exists_insert fresh
  have free : world.keys.rows.any (fun row => row.suiObjectId = new.suiObjectId ∨ row.userId = new.userId ∧
      row.curve = new.curve ∧ row.suiAddress = new.suiAddress ∧ row.network = new.network) = false := by
    rw [List.any_eq_false]
    intro row there meets
    exact unused row there (of_decide_eq_true meets)
  exact ⟨table, inserted, by simp only [exec, KeyOp.exec, through, free, inserted, Bool.false_eq_true, if_false]⟩

theorem insertDwallet_passes (config : Config) {new : NewDWallet} {env : Env} {world : World} (through : env.db = .ok ())
    (unused : ∀ row ∈ world.dwallets.rows, row.suiDwalletId ≠ new.suiDwalletId)
    (below : ∀ row ∈ world.dwallets.rows, row.id < world.nextId) (index : Nat) :
    ∃ table, world.dwallets.insert (new.row world.nextId) = some table ∧
      exec config index (.dwallet (.insert new)) env world =
        some (.ok (some (new.row world.nextId)), { world with dwallets := table, nextId := world.nextId + 1 }) := by
  have fresh : ∀ other ∈ world.dwallets.rows, other.id ≠ (new.row world.nextId).id :=
    fun other there => Nat.ne_of_lt (below other there)
  obtain ⟨table, inserted⟩ := Table.exists_insert fresh
  have free : world.dwallets.rows.any (fun row => row.suiDwalletId = new.suiDwalletId) = false := by
    simpa using unused
  exact ⟨table, inserted, by simp only [exec, DWalletOp.exec, through, free, inserted, Bool.false_eq_true, if_false]⟩

/-- Rows are stored for objects that exist. -/
theorem Booked.unstored {world : World} {calls : Nat → Option WalletThread} (booked : Booked config world calls)
    {object : ObjectId} (new : object ∉ world.chain.created.map Created.object) (call : Call) :
    ¬IsStored world call object := by
  rintro ⟨_, stored⟩
  cases stored with
  | key args row there =>
    obtain ⟨_, index, _, _, _, _, owned⟩ := booked.keys row there
    exact new (List.mem_map_of_mem owned)
  | dwallet args row there =>
    obtain ⟨_, index, _, _, _, _, owned⟩ := booked.dwallets row there
    exact new (List.mem_map_of_mem owned)

section Step

variable {system : WalletSystem} {index : Nat} {env : Env} {thread : WalletThread} {rest : Prog Reply} {after : World}

/-- One more row of the ledger, under the acting call's operation id. -/
theorem Booked.credit {world : World} {calls : Nat → Option WalletThread} (booked : Booked config world calls)
    (found : calls index = some thread) {replaced : WalletThread} (tag : replaced.tag = thread.tag)
    {args : ChargeWithRefundArgs} {opId : Uuid} {row : BillingCharge} (ledger : Ledger)
    (paid : billed config thread.tag = some args) (op : row.op = opKey args opId)
    (drawn : opId ∈ (stage config thread).opId) (still : opId ∈ (stage config replaced).opId)
    (more : ledger.charges = world.ledger.charges ++ [row])
    (absent : world.ledger.findCharge row.op row.kind = none)
    (standing : Standing config { world with ledger := ledger, nextId := world.nextId + 1 } index thread.tag
      (stage config replaced)) :
    Booked config { world with ledger := ledger, nextId := world.nextId + 1 }
      (Function.update calls index (some replaced)) := by
  have own : row.opId = opId := congrArg OpKey.opId op
  have touch : Touch world { world with ledger := ledger, nextId := world.nextId + 1 } index (some opId) := by
    refine ⟨Nat.le_succ _, fun other apart => ?_, fun _ _ _ => Iff.rfl,
      fun _ _ _ => by rw [isStored_iff, isStored_iff]⟩
    rw [more, List.mem_append, List.mem_singleton]
    refine ⟨fun there => there.resolve_right ?_, .inl⟩
    rintro rfl
    exact apart (by rw [own])
  have grown : Grown world { world with ledger := ledger, nextId := world.nextId + 1 } index thread.tag := by
    refine ⟨fun _ _ there => there, booked.objects, ?_, fun _ there => .inl there, fun row there => .inl ⟨row, there, rfl, rfl⟩,
      fun row there => Nat.lt_succ_of_lt (booked.accounts row there), booked.uniqueKeys, booked.uniqueDwallets⟩
    dsimp only
    rw [more]
    exact Sign.nodup_keys_append booked.books absent
  refine booked.advance found tag touch ?_ standing ?_ ?_ grown
  · rintro _ ⟨⟩
    exact drawn
  · intro other mine
    rw [Option.mem_def.mp still] at mine
    cases mine
    exact .inl drawn
  · intro other there
    rw [more, List.mem_append, List.mem_singleton] at there
    rcases there with old | rfl
    · refine .inl ⟨old, fun same => ?_⟩
      rw [Option.mem_def.mp drawn] at same
      rw [Option.mem_def.mp still, same]
    · exact .inr ⟨args, opId, paid, still, op⟩

theorem findCharge_of_unused {ledger : Ledger} {args : ChargeWithRefundArgs} {opId : Uuid} {kind : Billing.ChargeKind}
    (unused : ∀ row ∈ ledger.charges, row.opId = opId → row.kind ≠ kind) : ledger.findCharge (opKey args opId) kind = none := by
  apply Billing.Ledger.findCharge_eq_none
  intro row there same
  simp only [BillingCharge.key, Prod.mk.injEq] at same
  exact unused row there (congrArg OpKey.opId same.1) same.2

theorem Booked.charge {args : ChargeWithRefundArgs} {opId : Uuid} {result : Except Thrown BillingCharge}
    (booked : Booked config system.world system.calls) (stands : stage config thread = .drawn opId)
    (paid : billed config thread.tag = some args)
    (done : WalletAct config system index env thread (.ledger (.charge (args.charge opId))) result rest after) :
    Booked config after
      (Function.update system.calls index (some (thread.resume ⟨.ledger (.charge (args.charge opId)), result⟩ rest))) := by
  have executed : exec config index (.ledger (.charge (args.charge opId))) env system.world = some (result, after) := done.executed
  have moved : stage config (thread.resume ⟨.ledger (.charge (args.charge opId)), result⟩ rest) = (Stage.drawn opId).charge result := by
    rw [stage_resume, stands]
    rfl
  obtain ⟨unused, unowned⟩ : Standing config system.world index thread.tag (.drawn opId) := stands ▸ booked.standing index thread done.found
  have absent : system.world.ledger.findCharge (opKey args opId) .charge = none :=
    findCharge_of_unused (fun row there same => absurd same (unused row there))
  -- Nothing is charged, and the call is over.
  have refused : ∀ error, result = .error error → Idle system.world after →
      Booked config after
        (Function.update system.calls index (some (thread.resume ⟨.ledger (.charge (args.charge opId)), result⟩ rest))) := by
    rintro error rfl idle
    refine booked.idle idle done.found rfl ?_ ?_ ?_
    · rw [moved]
      intro object owned
      exact unowned object (by rw [Owns, ← idle.created]; exact owned)
    · rw [moved]
      exact fun _ drawn => nomatch drawn
    · intro row there same
      rw [stands] at same
      exact absurd (Option.some.inj same) (unused row there)
  simp only [exec, ledgerExec] at executed
  cases through : env.db with
  | error error =>
    rw [through] at executed
    cases executed
    exact refused error rfl ⟨Nat.le_succ _, rfl, rfl, rfl, .inl rfl, rfl⟩
  | ok _ =>
    rw [through] at executed
    dsimp only at executed
    cases result with
    | error error =>
      have same := Billing.Ledger.charge_error (congrArg Prod.fst (Option.some.inj executed))
      obtain rfl := congrArg Prod.snd (Option.some.inj executed)
      exact refused error rfl ⟨Nat.le_succ _, by dsimp only; rw [same], rfl, rfl, .inl rfl, rfl⟩
    | ok row =>
      have more := Billing.Ledger.charge_ok absent (congrArg Prod.fst (Option.some.inj executed))
      obtain rfl := congrArg Prod.snd (Option.some.inj executed)
      have op : ((args.charge opId).newCharge.row system.world.nextId).op = opKey args opId := rfl
      have drawn : opId ∈ (stage config thread).opId := by
        rw [stands]
        rfl
      have tag : (thread.resume ⟨.ledger (.charge (args.charge opId)), .ok row⟩ rest).tag = thread.tag := rfl
      refine booked.credit done.found tag _ paid op drawn ?_ more absent ?_
      · rw [moved]
        rfl
      rw [moved]
      refine ⟨⟨⟨args, paid, (args.charge opId).newCharge.row system.world.nextId, ?_, rfl, rfl, rfl⟩, ?_⟩, unowned⟩
      · dsimp only
        rw [more]
        exact List.mem_append_right _ (List.mem_singleton_self _)
      · intro other there same
        dsimp only at there
        rw [more, List.mem_append, List.mem_singleton] at there
        rcases there with old | rfl
        · exact absurd same (unused other old)
        · rfl

theorem Booked.refund {args : ChargeWithRefundArgs} {opId : Uuid} {error : Thrown} {result : Except Thrown BillingCharge}
    (booked : Booked config system.world system.calls) (stands : stage config thread = .failed opId)
    (paid : billed config thread.tag = some args) (positive : 0 < args.amountMicro) (through : env.db = .ok ())
    (done : WalletAct config system index env thread (.ledger (.refund (args.refund opId error))) result rest after) :
    Booked config after
      (Function.update system.calls index (some (thread.resume ⟨.ledger (.refund (args.refund opId error)), result⟩ rest))) := by
  have executed : exec config index (.ledger (.refund (args.refund opId error))) env system.world = some (result, after) :=
    done.executed
  have moved : stage config (thread.resume ⟨.ledger (.refund (args.refund opId error)), result⟩ rest) = .repaid opId := by
    rw [stage_resume, stands]
    rfl
  obtain ⟨⟨⟨_, same, row, there, op, kind, amount⟩, only⟩, unstored⟩ :
      Standing config system.world index thread.tag (.failed opId) := stands ▸ booked.standing index thread done.found
  rw [paid] at same
  cases same
  have absent : system.world.ledger.findCharge (opKey args opId) .refund = none := by
    refine findCharge_of_unused (fun row there own refunded => ?_)
    rw [only row there own] at refunded
    cases refunded
  simp only [exec, ledgerExec, through] at executed
  obtain rfl := congrArg Prod.snd (Option.some.inj executed)
  have refundOp : (args.refund opId error).op = opKey args opId := rfl
  rcases Billing.Ledger.refund_charged (args.refund opId error) system.world.nextId booked.books there
    (op.trans refundOp.symm) kind amount positive with ⟨existing, found, _⟩ | ⟨_, more⟩
  · rw [refundOp, absent] at found
    cases found
  · have own : ((args.refund opId error).newRefund.row system.world.nextId).op = opKey args opId := rfl
    have drawn : opId ∈ (stage config thread).opId := by
      rw [stands]
      rfl
    have tag : (thread.resume ⟨.ledger (.refund (args.refund opId error)), result⟩ rest).tag = thread.tag := rfl
    refine booked.credit done.found tag _ paid own drawn ?_ more absent ?_
    · rw [moved]
      rfl
    rw [moved]
    refine ⟨⟨args, paid, (args.refund opId error).newRefund.row system.world.nextId, ?_, rfl, rfl⟩,
      fun object owned there => unstored object owned ?_⟩
    · dsimp only
      rw [more]
      exact List.mem_append_right _ (List.mem_singleton_self _)
    · rw [isStored_iff] at there ⊢
      exact there

/-- What a submission that lands has created, and what its effects and events show of it. -/
theorem created_of_land (config : Config) {move : MoveCall} {call : Call} (submits : Submits call move) {chain : Chain}
    (admits : chain.Admits env move) (reported : Reported config env move) (index : Nat) :
    (chain.land index env move).created = chain.created ++ [⟨index, env.object⟩] ∧
      env.object ∉ chain.created.map Created.object ∧ Shows config env.executed env.object call := by
  cases call with
  | register args =>
    cases move with
    | registerEncryptionKey input => exact ⟨rfl, admits, reported⟩
    | _ => cases submits
  | onboard args =>
    cases move with
    | onboardZeroTrust input => exact ⟨rfl, admits.1, reported.2⟩
    | addDwalletZeroTrust account input => exact ⟨rfl, admits.1, reported⟩
    | _ => cases submits
  | accept args => cases move <;> cases submits

theorem Booked.execute {network : String} {move : MoveCall} {opId : Uuid} {result : Except Thrown ExecutedTx}
    (booked : Booked config system.world system.calls) (stands : stage config thread = .charged opId)
    (submits : Submits thread.tag move) (legible : env.reported = true → Legible config env.executed move)
    (done : WalletAct config system index env thread (.chain (.execute network move)) result rest after) :
    Booked config after
      (Function.update system.calls index (some (thread.resume ⟨.chain (.execute network move), result⟩ rest))) := by
  have executed : exec config index (.chain (.execute network move)) env system.world = some (result, after) := done.executed
  have moved : stage config (thread.resume ⟨.chain (.execute network move), result⟩ rest) =
      (Stage.charged opId).execute move result := by
    rw [stage_resume, stands]
    rfl
  obtain ⟨open', unowned⟩ : Standing config system.world index thread.tag (.charged opId) :=
    stands ▸ booked.standing index thread done.found
  have still : opId ∈ (stage config (thread.resume ⟨.chain (.execute network move), result⟩ rest)).opId := by
    rw [moved]
    cases result <;> rfl
  have fresh : ∀ other ∈ (stage config (thread.resume ⟨.chain (.execute network move), result⟩ rest)).opId,
      other ∈ (stage config thread).opId ∨ other = system.world.nextId ∧ other < after.nextId := by
    intro other mine
    rw [Option.mem_def.mp still] at mine
    cases mine
    rw [stands]
    exact .inl rfl
  have kept : ∀ row : BillingCharge, some row.opId = (stage config thread).opId →
      (stage config (thread.resume ⟨.chain (.execute network move), result⟩ rest)).opId = some row.opId := by
    intro row same
    rw [stands] at same
    rw [Option.mem_def.mp still, same]
    rfl
  obtain ⟨rfl, ⟨fails, rfl⟩ | ⟨lands, admits, reports, rfl⟩⟩ := exec_execute executed
  · obtain ⟨error, failed⟩ : ∃ error, submitAnswer env = .error error := by
      apply submitAnswer_of_unreported
      by_contra reported
      rw [lands_of_reported (by simpa using reported)] at fails
      cases fails
    refine booked.idle ⟨Nat.le_refl _, rfl, rfl, rfl, .inl rfl, rfl⟩ done.found rfl ?_ fresh (fun row _ => kept row)
    rw [moved, failed]
    exact ⟨open', fun object owned => absurd owned (unowned object)⟩
  · obtain ⟨created, new, shows⟩ := created_of_land config submits admits reports index
    have grown : Grown system.world { system.world with chain := system.world.chain.land index env move } index thread.tag := by
      refine ⟨fun other object there => ?_, ?_, booked.books, fun _ there => .inl there,
        fun row there => .inl ⟨row, there, rfl, rfl⟩, booked.accounts, booked.uniqueKeys, booked.uniqueDwallets⟩
      · rw [Owns, created]
        exact List.mem_append_left _ there
      · dsimp only
        rw [created, List.map_append]
        exact List.nodup_append.mpr ⟨booked.objects, List.nodup_singleton _, by
          rintro object there _ single rfl
          rw [List.map_singleton, List.mem_singleton] at single
          rw [single] at there
          exact new there⟩
    have touch : Touch system.world { system.world with chain := system.world.chain.land index env move } index none := by
      refine ⟨Nat.le_refl _, fun _ _ => Iff.rfl, fun other object different => ?_,
        fun _ _ _ => by rw [isStored_iff, isStored_iff]⟩
      rw [Owns, created, List.mem_append, List.mem_singleton]
      refine ⟨fun there => there.resolve_right ?_, .inl⟩
      intro same
      exact different (congrArg Created.call same)
    refine booked.advance done.found rfl touch (fun _ drawn => nomatch drawn) ?_ fresh
      (fun row there => .inl ⟨there, kept row⟩) grown
    have sole : ∀ object, Owns (system.world.chain.land index env move) index object ↔ object = env.object := by
      intro object
      rw [Owns, created, List.mem_append, List.mem_singleton]
      refine ⟨fun there => ?_, fun same => .inr (by rw [same])⟩
      rcases there with old | same
      · exact absurd old (unowned object)
      · exact congrArg Created.object same
    have unstored := booked.unstored new thread.tag
    rw [moved]
    cases reported : env.reported with
    | true =>
      rw [submitAnswer_of_reported reported]
      refine ⟨open', legible reported, env.object, ⟨(sole _).mpr rfl, fun other owned => (sole other).mp owned⟩, ?_, shows⟩
      rw [isStored_iff] at unstored ⊢
      exact unstored
    | false =>
      obtain ⟨error, failed⟩ := submitAnswer_of_unreported reported
      rw [failed]
      refine ⟨open', fun object owned => ?_⟩
      rw [(sole object).mp owned]
      rw [isStored_iff] at unstored ⊢
      exact unstored

theorem Booked.insertAccount {new : NewAccount} {opId : Uuid} {move : MoveCall} {tx : ExecutedTx}
    {result : Except Thrown Account} (booked : Booked config system.world system.calls)
    (stands : stage config thread = .executed opId move tx) (through : env.db = .ok ())
    (unused : ∀ row ∈ system.world.accounts.rows, row.suiObjectId ≠ new.suiObjectId)
    (done : WalletAct config system index env thread (.account (.insert new)) result rest after) :
    Booked config after
      (Function.update system.calls index (some (thread.resume ⟨.account (.insert new), result⟩ rest))) := by
  obtain ⟨table, inserted, passes⟩ := insertAccount_passes config through unused booked.accounts index
  obtain ⟨rfl, rfl⟩ := Prod.mk.inj (Option.some.inj (passes.symm.trans done.executed))
  have stays : stage config (thread.resume ⟨.account (.insert new), .ok (new.row system.world.nextId)⟩ rest) =
      stage config thread := by
    rw [stage_resume, stands]
    rfl
  obtain ⟨open', legible, object, sole, absent, shows⟩ : Standing config system.world index thread.tag (.executed opId move tx) :=
    stands ▸ booked.standing index thread done.found
  have touch : Touch system.world { system.world with accounts := table, nextId := system.world.nextId + 1 } index none :=
    ⟨Nat.le_succ _, fun _ _ => Iff.rfl, fun _ _ _ => Iff.rfl, fun _ _ _ => by rw [isStored_iff, isStored_iff]⟩
  refine booked.advance done.found rfl touch (fun _ drawn => nomatch drawn) ?_ ?_ ?_ ?_
  · rw [stays, stands]
    refine ⟨open', legible, object, sole, ?_, shows⟩
    rw [isStored_iff] at absent ⊢
    exact absent
  · rw [stays]
    exact fun _ drawn => .inl drawn
  · intro row there
    rw [stays]
    exact .inl ⟨there, fun own => own.symm⟩
  · refine ⟨fun _ _ there => there, booked.objects, booked.books, fun _ there => .inl there,
      fun row there => .inl ⟨row, there, rfl, rfl⟩, ?_, booked.uniqueKeys, booked.uniqueDwallets⟩
    intro row there
    dsimp only at there
    rw [Table.rows_insert inserted, List.mem_append, List.mem_singleton] at there
    rcases there with old | rfl
    · exact Nat.lt_succ_of_lt (booked.accounts row old)
    · exact Nat.lt_succ_self _

/-- The row of the object the call has created. -/
theorem Booked.store {world : World} {calls : Nat → Option WalletThread} (booked : Booked config world calls)
    (found : calls index = some thread) {replaced : WalletThread} (tag : replaced.tag = thread.tag) {opId : Uuid}
    {move : MoveCall} {tx : ExecutedTx} (stands : stage config thread = .executed opId move tx)
    (moved : stage config replaced = .stored opId move tx)
    (stored : ∀ object, Shows config tx object thread.tag → IsStored after thread.tag object)
    (nextId : world.nextId ≤ after.nextId) (charges : after.ledger.charges = world.ledger.charges)
    (created : after.chain.created = world.chain.created)
    (others : ∀ call other, ¬Owns world.chain index other → (IsStored after call other ↔ IsStored world call other))
    (grown : Grown world after index thread.tag) :
    Booked config after (Function.update calls index (some replaced)) := by
  obtain ⟨⟨⟨args, paid, row, there, charged⟩, only⟩, _, object, ⟨owned, alone⟩, _, shows⟩ :
    Standing config world index thread.tag (.executed opId move tx) := stands ▸ booked.standing index thread found
  have touch : Touch world after index none :=
    ⟨nextId, fun _ _ => by rw [charges], fun _ _ _ => by rw [Owns, Owns, created], others⟩
  have same : (stage config replaced).opId = (stage config thread).opId := by
    rw [moved, stands]
    rfl
  refine booked.advance found tag touch (fun _ drawn => nomatch drawn) ?_ ?_ ?_ grown
  · rw [moved]
    refine ⟨⟨⟨args, paid, row, by rw [charges]; exact there, charged⟩, by rw [charges]; exact only⟩, object, ?_, stored object shows⟩
    simp only [Sole, Owns, created]
    exact ⟨owned, alone⟩
  · rw [same]
    exact fun _ drawn => .inl drawn
  · intro row there
    rw [charges] at there
    rw [same]
    exact .inl ⟨there, fun own => own.symm⟩

theorem Booked.insertKey {args : RegisterEncryptionKeyArgs} {new : NewEncryptionKey} {opId : Uuid} {move : MoveCall}
    {tx : ExecutedTx} {result : Except Thrown (Option EncryptionKey)} (booked : Booked config system.world system.calls)
    (tag : thread.tag = .register args) (stands : stage config thread = .executed opId move tx)
    (found : findFirstCreatedByType tx "::EncryptionKey" = .ok new.suiObjectId) (through : env.db = .ok ())
    (unused : ∀ row ∈ system.world.keys.rows, ¬new.Conflicts row)
    (done : WalletAct config system index env thread (.key (.insert new)) result rest after) :
    Booked config after
      (Function.update system.calls index (some (thread.resume ⟨.key (.insert new), result⟩ rest))) := by
  obtain ⟨table, inserted, passes⟩ :=
    insertKey_passes config through unused (fun row there => (booked.keys row there).1) index
  obtain ⟨rfl, rfl⟩ := Prod.mk.inj (Option.some.inj (passes.symm.trans done.executed))
  have rows : table.rows = system.world.keys.rows ++ [new.row system.world.nextId] := Table.rows_insert inserted
  have moved : stage config (thread.resume ⟨.key (.insert new), .ok (some (new.row system.world.nextId))⟩ rest) =
      .stored opId move tx := by
    rw [stage_resume, stands]
    rfl
  obtain ⟨_, _, object, sole, _, shows⟩ : Standing config system.world index thread.tag (.executed opId move tx) :=
    stands ▸ booked.standing index thread done.found
  rw [tag] at shows
  have own : Owns system.world.chain index new.suiObjectId := by
    rw [shows _ found]
    exact sole.1
  have tag' : (thread.resume ⟨.key (.insert new), .ok (some (new.row system.world.nextId))⟩ rest).tag = thread.tag := rfl
  refine booked.store done.found tag' stands moved ?_ (Nat.le_succ _) rfl rfl ?_ ?_
  · intro object shows
    rw [tag] at shows ⊢
    rw [← shows _ found]
    refine ⟨_, .key args (new.row system.world.nextId) ?_⟩
    dsimp only
    rw [rows]
    exact List.mem_append_right _ (List.mem_singleton_self _)
  · intro call other foreign
    have apart : other ≠ (new.row system.world.nextId).suiObjectId := by
      rintro rfl
      exact foreign own
    rw [isStored_iff, isStored_iff]
    dsimp only
    rw [rows, List.map_append, List.mem_append, List.map_singleton, List.mem_singleton, or_iff_left apart]
  · refine ⟨fun _ _ there => there, booked.objects, booked.books, fun row there => ?_,
      fun row there => .inl ⟨row, there, rfl, rfl⟩, fun row there => Nat.lt_succ_of_lt (booked.accounts row there), ?_,
      booked.uniqueDwallets⟩
    · dsimp only at there
      rw [rows, List.mem_append, List.mem_singleton] at there
      rcases there with old | rfl
      · exact .inl old
      · exact .inr ⟨Nat.lt_succ_self _, args, tag, own⟩
    · dsimp only
      rw [rows, List.map_append, List.map_singleton]
      refine nodup_append_new booked.uniqueKeys fun row there same => ?_
      exact unused row there (.inl same)

theorem Booked.insertDwallet {args : OnboardZeroTrustArgs} {new : NewDWallet} {opId : Uuid} {move : MoveCall}
    {tx : ExecutedTx} {result : Except Thrown (Option DWallet)} (booked : Booked config system.world system.calls)
    (tag : thread.tag = .onboard args) (stands : stage config thread = .executed opId move tx)
    (found : extractDwalletId config tx = .ok new.suiDwalletId) (through : env.db = .ok ())
    (unused : ∀ row ∈ system.world.dwallets.rows, row.suiDwalletId ≠ new.suiDwalletId)
    (done : WalletAct config system index env thread (.dwallet (.insert new)) result rest after) :
    Booked config after
      (Function.update system.calls index (some (thread.resume ⟨.dwallet (.insert new), result⟩ rest))) := by
  obtain ⟨table, inserted, passes⟩ :=
    insertDwallet_passes config through unused (fun row there => (booked.dwallets row there).1) index
  obtain ⟨rfl, rfl⟩ := Prod.mk.inj (Option.some.inj (passes.symm.trans done.executed))
  have rows : table.rows = system.world.dwallets.rows ++ [new.row system.world.nextId] := Table.rows_insert inserted
  have moved : stage config (thread.resume ⟨.dwallet (.insert new), .ok (some (new.row system.world.nextId))⟩ rest) =
      .stored opId move tx := by
    rw [stage_resume, stands]
    rfl
  obtain ⟨_, _, object, sole, _, shows⟩ : Standing config system.world index thread.tag (.executed opId move tx) :=
    stands ▸ booked.standing index thread done.found
  rw [tag] at shows
  have own : Owns system.world.chain index new.suiDwalletId := by
    rw [shows _ found]
    exact sole.1
  have tag' : (thread.resume ⟨.dwallet (.insert new), .ok (some (new.row system.world.nextId))⟩ rest).tag = thread.tag := rfl
  refine booked.store done.found tag' stands moved ?_ (Nat.le_succ _) rfl rfl ?_ ?_
  · intro object shows
    rw [tag] at shows ⊢
    rw [← shows _ found]
    refine ⟨_, .dwallet args (new.row system.world.nextId) ?_⟩
    dsimp only
    rw [rows]
    exact List.mem_append_right _ (List.mem_singleton_self _)
  · intro call other foreign
    have apart : other ≠ (new.row system.world.nextId).suiDwalletId := by
      rintro rfl
      exact foreign own
    rw [isStored_iff, isStored_iff]
    dsimp only
    rw [rows, List.map_append, List.mem_append, List.map_singleton, List.mem_singleton, or_iff_left apart]
  · refine ⟨fun _ _ there => there, booked.objects, booked.books, fun _ there => .inl there, fun row there => ?_,
      fun row there => Nat.lt_succ_of_lt (booked.accounts row there), booked.uniqueKeys, ?_⟩
    · dsimp only at there
      rw [rows, List.mem_append, List.mem_singleton] at there
      rcases there with old | rfl
      · exact .inl ⟨row, old, rfl, rfl⟩
      · exact .inr ⟨Nat.lt_succ_self _, args, tag, own⟩
    · dsimp only
      rw [rows, List.map_append, List.map_singleton]
      exact nodup_append_new booked.uniqueDwallets unused

/-- A stage in which nothing is charged and no transaction has created anything. -/
def Stage.IsUnpaid : Stage → Prop
  | .idle => True
  | .joined _ => True
  | .accepted _ _ => True
  | .activated _ => True
  | .over => True
  | _ => False

theorem Stage.IsUnpaid.opId {at_ : Stage} (unpaid : at_.IsUnpaid) : at_.opId = none := by
  cases at_ <;> first | rfl | cases unpaid

theorem Stage.IsUnpaid.standing {at_ : Stage} (unpaid : at_.IsUnpaid) {world : World} {call : Call} :
    Standing config world index call at_ ↔ ∀ object, ¬Owns world.chain index object := by
  cases at_ <;> first | exact Iff.rfl | cases unpaid

theorem Standing.idle {world : World} (idle : Idle world after) {call : Call} {at_ : Stage}
    (standing : Standing config world index call at_) : Standing config after index call at_ := by
  cases at_ <;>
    simp only [Standing, Open, Billed, GivenBack, Sole, Owns, idle.charges, idle.created, idle.stored] at standing ⊢ <;>
    exact standing

theorem Booked.step {op : Op} {answer : Res op} (booked : Booked config system.world system.calls)
    (smooth : Smooth config system (.step index env)) (done : WalletAct config system index env thread op answer rest after) :
    Booked config after (Function.update system.calls index (some (thread.resume ⟨op, answer⟩ rest))) := by
  have executed := done.executed
  have allowed : Allowed config thread.tag (stage config thread) op := done.before
  obtain ⟨next, awaits, _⟩ := done.awaits
  have passes : Passes config env system.world op := smooth thread done.found op (by rw [awaits]; rfl)
  have standing := booked.standing index thread done.found
  have moved : stage config (thread.resume ⟨op, answer⟩ rest) = (stage config thread).next op answer :=
    stage_resume thread op answer rest
  -- Before anything is charged.
  have free : (stage config thread).IsUnpaid → ((stage config thread).next op answer).IsUnpaid → Idle system.world after →
      Booked config after (Function.update system.calls index (some (thread.resume ⟨op, answer⟩ rest))) := by
    intro before still idle
    refine booked.idle idle done.found rfl ?_ ?_ ?_
    · rw [moved, still.standing]
      intro object owned
      rw [Owns, idle.created] at owned
      exact before.standing.mp standing object owned
    · rw [moved, still.opId]
      exact fun _ drawn => nomatch drawn
    · rw [before.opId]
      exact fun _ _ same => nomatch same
  generalize tagged : thread.tag = call at allowed standing
  generalize stands : stage config thread = at_ at allowed standing moved free
  cases allowed with
  | read _ _ _ reads =>
    have calm := calm_of_reads reads executed
    have idle : Idle system.world after :=
      ⟨calm.nextId, calm.charges, by rw [calm.chain], calm.keys, .inl calm.dwallets, calm.accounts⟩
    have same := next_of_reads reads at_ answer
    refine booked.idle idle done.found rfl ?_ ?_ ?_
    · rw [moved, same, tagged]
      exact standing.idle idle
    · rw [moved, same, stands]
      exact fun _ drawn => .inl drawn
    · rw [moved, same, stands]
      exact fun _ _ own => own.symm
  | draw _ args paid =>
    cases executed
    have idle : Idle system.world { system.world with nextId := system.world.nextId + 1 } :=
      ⟨Nat.le_succ _, rfl, rfl, rfl, .inl rfl, rfl⟩
    have unused : ∀ row ∈ system.world.ledger.charges, row.opId ≠ system.world.nextId := by
      intro row there
      obtain ⟨other, rival, _, opId, before, _, drawn, op⟩ := booked.charges row there
      have own : row.opId = opId := congrArg OpKey.opId op
      rw [own]
      exact Nat.ne_of_lt (booked.bound other rival before opId drawn)
    refine booked.idle idle done.found rfl ?_ ?_ ?_
    · rw [moved]
      exact ⟨unused, standing⟩
    · rw [moved]
      rintro _ ⟨⟩
      exact .inr ⟨rfl, Nat.lt_succ_self _⟩
    · rw [stands]
      exact fun _ _ own => nomatch own
  | charge _ args opId paid positive => exact booked.charge stands (tagged ▸ paid) done
  | execute _ network move opId submits => exact booked.execute stands (tagged ▸ submits) passes done
  | refund _ args opId error paid positive => exact booked.refund stands (tagged ▸ paid) positive passes done
  | insertAccount args opId input tx object found => exact booked.insertAccount stands passes.1 passes.2 done
  | insertKey args opId move tx object suiAddress found submits =>
    exact booked.insertKey tagged stands found passes.1 passes.2 done
  | insertDwallet args opId move tx new found submits own waiting =>
    exact booked.insertDwallet tagged stands found passes.1 passes.2 done
  | join args =>
    refine free trivial ?_ (by cases executed; exact ⟨Nat.le_succ _, rfl, rfl, rfl, .inl rfl, rfl⟩)
    cases answer <;> trivial
  | accept args dw network input own =>
    have unpaid : ((Stage.joined dw).next (.chain (.execute network (.acceptUserShare input))) answer).IsUnpaid := by
      cases answer <;> trivial
    obtain ⟨_, ⟨_, rfl⟩ | ⟨_, _, _, rfl⟩⟩ := exec_execute executed
    · exact free trivial unpaid ⟨Nat.le_refl _, rfl, rfl, rfl, .inl rfl, rfl⟩
    · exact free trivial unpaid ⟨Nat.le_refl _, rfl, rfl, rfl, .inl rfl, rfl⟩
  | activate args dw tx nek =>
    cases executed
    exact free trivial trivial ⟨Nat.le_succ _, rfl, rfl, rfl, .inr ⟨_, _, _, rfl⟩, rfl⟩

theorem Booked.start {calls : Nat → Option WalletThread} {world : World} (booked : Booked config world calls)
    (free : calls index = none) (call : Call) :
    Booked config world (Function.update calls index (some ((machine config).fresh call))) := by
  have stays : ∀ {other : Nat} {rival : WalletThread}, calls other = some rival →
      Function.update calls index (some ((machine config).fresh call)) other = some rival := by
    intro other rival there
    have different : other ≠ index := by
      rintro rfl
      rw [free] at there
      cases there
    rw [Function.update_of_ne different]
    exact there
  have unowned : ∀ object, ¬Owns world.chain index object := by
    intro object owned
    obtain ⟨_, there⟩ := booked.owners index object owned
    rw [free] at there
    cases there
  constructor
  · intro other rival there
    rcases Machine.calls_update there with ⟨rfl, rfl⟩ | ⟨_, before⟩
    · exact unowned
    · exact booked.standing other rival before
  · intro other rival there opId drawn
    rcases Machine.calls_update there with ⟨rfl, rfl⟩ | ⟨_, before⟩
    · cases drawn
    · exact booked.bound other rival before opId drawn
  · intro one other first second here there opId mine theirs
    rcases Machine.calls_update here with ⟨rfl, rfl⟩ | ⟨_, before⟩
    · cases mine
    · rcases Machine.calls_update there with ⟨rfl, rfl⟩ | ⟨_, earlier⟩
      · cases theirs
      · exact booked.apart one other first second before earlier opId mine theirs
  · exact booked.objects
  · intro other object owned
    obtain ⟨rival, there⟩ := booked.owners other object owned
    exact ⟨rival, stays there⟩
  · intro row member
    obtain ⟨other, rival, args, opId, there, charged⟩ := booked.charges row member
    exact ⟨other, rival, args, opId, stays there, charged⟩
  · exact booked.books
  · intro row member
    obtain ⟨below, other, rival, args, there, owned⟩ := booked.keys row member
    exact ⟨below, other, rival, args, stays there, owned⟩
  · intro row member
    obtain ⟨below, other, rival, args, there, owned⟩ := booked.dwallets row member
    exact ⟨below, other, rival, args, stays there, owned⟩
  · exact booked.accounts
  · exact booked.uniqueKeys
  · exact booked.uniqueDwallets

theorem Booked.moved {event : Event Env Call} (booked : Booked config system.world system.calls)
    (smooth : Smooth config system event) {world : World} {calls : Nat → Option WalletThread}
    (move : (machine config).Move (ordered config) system event world calls) : Booked config world calls := by
  cases move with
  | step index env thread op answer rest after done =>
    rw [close_eq]
    exact booked.step smooth done
  | start call after free entered path =>
    obtain rfl : system.world = after := Option.some.inj entered
    rw [close_eq]
    exact booked.start free call
  | cut stopped thread found running =>
    have same : stage config { thread with cut := true } = stage config thread := rfl
    have tag : Thread.tag { thread with cut := true } = thread.tag := rfl
    refine booked.idle ⟨Nat.le_refl _, rfl, rfl, rfl, .inl rfl, rfl⟩ found tag ?_ ?_ ?_
    · rw [same]
      exact booked.standing stopped thread found
    · rw [same]
      exact fun _ drawn => .inl drawn
    · rw [same]
      exact fun _ _ own => own.symm

end Step

/-- Nothing stored, charged or created yet. -/
def Blank (world : World) : Prop :=
  world.keys.rows = [] ∧ world.accounts.rows = [] ∧ world.dwallets.rows = [] ∧ world.ledger.charges = [] ∧
    world.chain.created = []

theorem booked_of_blank {world : World} (blank : Blank world) (calls : Nat → Option WalletThread)
    (none : ∀ index, calls index = none) : Booked config world calls := by
  obtain ⟨keys, accounts, dwallets, charges, created⟩ := blank
  constructor
  · intro index thread found
    simp [none] at found
  · intro index thread found
    simp [none] at found
  · intro index other first second found
    simp [none] at found
  · simp [created]
  · intro index object owned
    simp [Owns, created] at owned
  · simp [charges]
  · simp [charges]
  · simp [keys]
  · simp [dwallets]
  · simp [accounts]
  · simp [keys]
  · simp [dwallets]

theorem booked_of_run {initial system : WalletSystem} (idle : initial.threads = []) (blank : Blank initial.world)
    (run : (machine config).Run (Smooth config) initial system) :
    Machine.Kept (ordered config) system ∧ Booked config system.world system.calls := by
  have none : ∀ index, initial.calls index = none := by
    intro index
    simp [System.calls, idle]
  have kept : Machine.Kept (ordered config) initial := by
    intro index thread found
    rw [idle] at found
    cases found
  refine run.tracked honours (Booked config) kept (booked_of_blank blank _ none) ?_
  intro system event world calls _ booked smooth move
  exact booked.moved smooth move

end MpcKit.Wallets
