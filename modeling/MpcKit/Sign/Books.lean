import MpcKit.Sign.Walks

/-! How the credit ledger and the sign requests fit together: every request was paid for, and no
identifier a prepare has just drawn is used by anybody else. This holds in every run. -/

namespace MpcKit.Sign
open MpcKit.Backend MpcKit.Async
open MpcKit.Billing (Ledger OpKey BillingCharge ChargeKind ChargeArgs RefundArgs)

/-- The key of a sign request in the ledger. -/
def signKey (network : String) (id : Uuid) : OpKey := ⟨network, "sign", id⟩

/-- The ledger has the charge for a request, at the current price. -/
def Charged (config : Config) (ledger : Ledger) (network : String) (id : Uuid) : Prop :=
  0 < config.signPriceMicro ∧ ∃ charge ∈ ledger.charges, charge.op = signKey network id ∧ charge.kind = .charge

def Refunded (ledger : Ledger) (network : String) (id : Uuid) : Prop :=
  ∃ refund ∈ ledger.charges, refund.op = signKey network id ∧ refund.kind = .refund

instance (ledger : Ledger) (network : String) (id : Uuid) : Decidable (Refunded ledger network id) :=
  inferInstanceAs (Decidable (∃ refund ∈ ledger.charges, refund.op = signKey network id ∧ refund.kind = .refund))

/-- What a row for signing moves. -/
def signAmount (config : Config) : ChargeKind → Int
  | .charge => -config.signPriceMicro
  | .refund => config.signPriceMicro

/-- An identifier that was drawn and has no row yet. -/
def Stage.fresh : Stage → Option Uuid
  | .drawn _ id => some id
  | .charged _ id => some id
  | _ => none

/-- The request a call has paid for or owes a refund for. -/
def Stage.paid : Stage → Option SignRequest
  | .inserted row => some row
  | .claimed row _ => some row
  | .allocated row _ => some row
  | .dry row => some row
  | .owing row => some row
  | _ => none

structure Books (config : Config) (world : World) (calls : Nat → Option SignThread) : Prop where
  keys : (world.ledger.charges.map BillingCharge.key).Nodup
  amounts : ∀ charge ∈ world.ledger.charges, charge.opType = "sign" →
    charge.opId < world.nextId ∧ charge.creditsMicro = signAmount config charge.kind
  networks : ∀ {charge other}, charge ∈ world.ledger.charges → other ∈ world.ledger.charges →
    charge.opType = "sign" → other.opType = "sign" → charge.opId = other.opId → charge.network = other.network
  rows : ∀ {id row}, world.signRequests.get id = some row →
    id < world.nextId ∧ Charged config world.ledger row.network id
  drawn : ∀ {index thread id}, calls index = some thread → (stage thread.history).fresh = some id →
    id < world.nextId ∧ world.signRequests.get id = none
  single : ∀ {index other thread rival id}, calls index = some thread → calls other = some rival →
    (stage thread.history).fresh = some id → (stage rival.history).fresh = some id → index = other
  unbilled : ∀ {index thread dw id}, calls index = some thread → stage thread.history = .drawn dw id →
    ∀ charge ∈ world.ledger.charges, charge.opType = "sign" → charge.opId ≠ id
  billed : ∀ {index thread dw id}, calls index = some thread → stage thread.history = .charged dw id →
    (∃ args, thread.tag = .prepare args ∧ Charged config world.ledger args.network id) ∧
    ∀ refund ∈ world.ledger.charges, refund.opType = "sign" → refund.kind = .refund → refund.opId ≠ id
  paid : ∀ {index thread row}, calls index = some thread → (stage thread.history).paid = some row →
    row.id < world.nextId ∧ Charged config world.ledger row.network row.id ∧
    ∀ {other rival}, calls other = some rival → (stage rival.history).fresh ≠ some row.id

theorem Charged.mono {config : Config} {ledger later : Ledger} {network : String} {id : Uuid}
    (charged : Charged config ledger network id) (grows : ∀ charge ∈ ledger.charges, charge ∈ later.charges) :
    Charged config later network id := by
  obtain ⟨positive, charge, member, op, kind⟩ := charged
  exact ⟨positive, charge, grows charge member, op, kind⟩

/-- A step after which the books are the same, the rows are old ones, and the acting call has
drawn nothing new and paid for nothing but an existing row. -/
theorem Books.recalls {config : Config} {world after : World} {calls : Nat → Option SignThread}
    (books : Books config world calls) (charges : after.ledger.charges = world.ledger.charges)
    (nextId : world.nextId ≤ after.nextId)
    (old : ∀ {id row}, after.signRequests.get id = some row →
      ∃ before, world.signRequests.get id = some before ∧ before.network = row.network)
    (index : Nat) (replaced : SignThread)
    (fresh : ∀ id, (stage replaced.history).fresh = some id →
      ∃ thread, calls index = some thread ∧ thread.tag = replaced.tag ∧ stage thread.history = stage replaced.history)
    (paid : ∀ row, (stage replaced.history).paid = some row →
      (∃ thread, calls index = some thread ∧ (stage thread.history).paid = some row) ∨
        ∃ current, world.signRequests.get row.id = some current ∧ current.network = row.network) :
    Books config after (Function.update calls index (some replaced)) := by
  -- Whoever holds a fresh identifier now held it before.
  have held : ∀ {other thread id}, Function.update calls index (some replaced) other = some thread →
      (stage thread.history).fresh = some id → ∃ before, calls other = some before ∧ before.tag = thread.tag ∧
        stage before.history = stage thread.history := by
    intro other thread id found drawn
    rcases Machine.calls_update found with ⟨rfl, rfl⟩ | ⟨_, found⟩
    · exact fresh id drawn
    · exact ⟨thread, found, rfl, rfl⟩
  have gone : ∀ {id}, world.signRequests.get id = none → after.signRequests.get id = none := by
    intro id absent
    cases found : after.signRequests.get id with
    | none => rfl
    | some row =>
      obtain ⟨before, there, _⟩ := old found
      rw [absent] at there
      cases there
  have same : ∀ {network id}, Charged config world.ledger network id → Charged config after.ledger network id := by
    intro network id charged
    exact charged.mono (by rw [charges]; exact fun _ member => member)
  refine ⟨by rw [charges]; exact books.keys, ?_, by rw [charges]; exact books.networks, ?_, ?_, ?_, ?_, ?_, ?_⟩
  · rw [charges]
    intro charge member sign
    obtain ⟨bound, amount⟩ := books.amounts charge member sign
    exact ⟨Nat.lt_of_lt_of_le bound nextId, amount⟩
  · intro id row found
    obtain ⟨before, there, network⟩ := old found
    obtain ⟨bound, charged⟩ := books.rows there
    exact ⟨Nat.lt_of_lt_of_le bound nextId, network ▸ same charged⟩
  · intro other thread id found drawn
    obtain ⟨before, there, _, at_⟩ := held found drawn
    obtain ⟨bound, absent⟩ := books.drawn there (at_ ▸ drawn)
    exact ⟨Nat.lt_of_lt_of_le bound nextId, gone absent⟩
  · intro one other thread rival id found there drawn again
    obtain ⟨first, here, _, at_⟩ := held found drawn
    obtain ⟨second, beside, _, also⟩ := held there again
    exact books.single here beside (at_ ▸ drawn) (also ▸ again)
  · rw [charges]
    intro other thread dw id found at_
    obtain ⟨before, there, _, same⟩ := held found (by rw [at_]; rfl)
    exact books.unbilled there (same.trans at_)
  · rw [charges]
    intro other thread dw id found at_
    obtain ⟨before, there, tag, stood⟩ := held found (by rw [at_]; rfl)
    obtain ⟨⟨args, own, charged⟩, unrefunded⟩ := books.billed there (stood.trans at_)
    exact ⟨⟨args, tag ▸ own, same charged⟩, unrefunded⟩
  · intro other thread row found owed
    have known : row.id < world.nextId ∧ Charged config world.ledger row.network row.id ∧
        ∀ {other rival}, calls other = some rival → (stage rival.history).fresh ≠ some row.id := by
      rcases Machine.calls_update found with ⟨rfl, rfl⟩ | ⟨_, found⟩
      · rcases paid row owed with ⟨thread, there, before⟩ | ⟨current, there, network⟩
        · exact books.paid there before
        · obtain ⟨bound, charged⟩ := books.rows there
          refine ⟨bound, network ▸ charged, fun here drawn => ?_⟩
          rw [(books.drawn here drawn).2] at there
          cases there
      · exact books.paid found owed
    obtain ⟨bound, charged, apart⟩ := known
    refine ⟨Nat.lt_of_lt_of_le bound nextId, same charged, fun here drawn => ?_⟩
    obtain ⟨before, there, _, stood⟩ := held here drawn
    exact apart there (stood ▸ drawn)

/-! ### The steps that move the books -/

section Step

variable {config : Config} {world after : World} {calls : Nat → Option SignThread} {index : Nat} {thread : SignThread}

/-- One more row of the ledger, for a key that had none. -/
theorem nodup_keys_append {ledger : Ledger} {row : BillingCharge} (keys : (ledger.charges.map BillingCharge.key).Nodup)
    (absent : ledger.findCharge row.op row.kind = none) :
    ((ledger.charges ++ [row]).map BillingCharge.key).Nodup := by
  rw [List.map_append, List.nodup_append]
  refine ⟨keys, List.nodup_singleton _, ?_⟩
  rintro key old other same rfl
  obtain ⟨earlier, member, rfl⟩ := List.mem_map.mp old
  exact Ledger.key_of_findCharge_eq_none absent earlier member (List.mem_singleton.mp same)

theorem Books.draw (books : Books config world calls) (dw : DWallet) {replaced : SignThread} (drawn : stage replaced.history = .drawn dw world.nextId) :
    Books config { world with nextId := world.nextId + 1 } (Function.update calls index (some replaced)) := by
  -- Everything in use is below the counter, so the identifier it hands out is nobody's.
  have below : ∀ {id}, id < world.nextId → id < world.nextId + 1 := Nat.lt_succ_of_lt
  have mine : (stage replaced.history).fresh = some world.nextId := by
    rw [drawn]
    rfl
  refine ⟨books.keys, ?_, books.networks, ?_, ?_, ?_, ?_, ?_, ?_⟩
  · intro charge member sign
    obtain ⟨bound, amount⟩ := books.amounts charge member sign
    exact ⟨below bound, amount⟩
  · intro id row there
    obtain ⟨bound, charged⟩ := books.rows there
    exact ⟨below bound, charged⟩
  · intro other rival id there fresh
    rcases Machine.calls_update there with ⟨rfl, rfl⟩ | ⟨_, there⟩
    · rw [mine] at fresh
      cases fresh
      refine ⟨Nat.lt_succ_self _, ?_⟩
      cases taken : world.signRequests.get world.nextId with
      | none => rfl
      | some row => exact absurd (books.rows taken).1 (Nat.lt_irrefl _)
    · obtain ⟨bound, absent⟩ := books.drawn there fresh
      exact ⟨below bound, absent⟩
  · intro one other first second id here there fresh again
    rcases Machine.calls_update here with ⟨rfl, rfl⟩ | ⟨_, was⟩ <;>
      rcases Machine.calls_update there with ⟨rfl, rfl⟩ | ⟨_, stood⟩
    · rfl
    · rw [mine] at fresh
      cases fresh
      exact absurd (books.drawn stood again).1 (Nat.lt_irrefl _)
    · rw [mine] at again
      cases again
      exact absurd (books.drawn was fresh).1 (Nat.lt_irrefl _)
    · exact books.single was stood fresh again
  · intro other rival wallet id there at_
    rcases Machine.calls_update there with ⟨rfl, rfl⟩ | ⟨_, there⟩
    · rw [drawn] at at_
      cases at_
      intro charge member sign same
      exact absurd (same ▸ (books.amounts charge member sign).1) (Nat.lt_irrefl _)
    · exact books.unbilled there at_
  · intro other rival wallet id there at_
    rcases Machine.calls_update there with ⟨rfl, rfl⟩ | ⟨_, there⟩
    · rw [drawn] at at_
      cases at_
    · exact books.billed there at_
  · intro other rival row there owed
    rcases Machine.calls_update there with ⟨rfl, rfl⟩ | ⟨_, there⟩
    · rw [drawn] at owed
      cases owed
    · obtain ⟨bound, charged, apart⟩ := books.paid there owed
      refine ⟨below bound, charged, fun here fresh => ?_⟩
      rcases Machine.calls_update here with ⟨rfl, rfl⟩ | ⟨_, here⟩
      · rw [mine, Option.some.injEq] at fresh
        exact absurd (fresh ▸ bound) (Nat.lt_irrefl _)
      · exact apart here fresh

/-- One more row in the ledger, for an identifier no other call has just drawn. -/
theorem Books.append (books : Books config world calls) {row : BillingCharge} {replaced : SignThread}
    (charges : after.ledger.charges = world.ledger.charges ++ [row]) (requests : after.signRequests = world.signRequests)
    (nextId : world.nextId ≤ after.nextId) (absent : world.ledger.findCharge row.op row.kind = none)
    (known : row.opId < world.nextId) (amount : row.creditsMicro = signAmount config row.kind)
    (network : ∀ charge ∈ world.ledger.charges, charge.opType = "sign" → charge.opId = row.opId →
      charge.network = row.network)
    (others : ∀ {other rival}, other ≠ index → calls other = some rival → (stage rival.history).fresh ≠ some row.opId)
    (fresh : ∀ id, (stage replaced.history).fresh = some id → ∃ args dw, replaced.tag = .prepare args ∧
      0 < config.signPriceMicro ∧ row.op = signKey args.network id ∧ row.kind = .charge ∧
      stage replaced.history = .charged dw id ∧
      ∃ thread, calls index = some thread ∧ stage thread.history = .drawn dw id)
    (paid : (stage replaced.history).paid = none) :
    Books config after (Function.update calls index (some replaced)) := by
  have grown : ∀ {network id}, Charged config world.ledger network id → Charged config after.ledger network id := by
    intro network id charged
    exact charged.mono (by rw [charges]; exact fun _ member => List.mem_append_left _ member)
  have held : ∀ {other rival id}, Function.update calls index (some replaced) other = some rival →
      (stage rival.history).fresh = some id → ∃ before, calls other = some before ∧
        (stage before.history).fresh = some id := by
    intro other rival id there drawn
    rcases Machine.calls_update there with ⟨rfl, rfl⟩ | ⟨_, there⟩
    · obtain ⟨_, _, _, _, _, _, _, thread, found, at_⟩ := fresh id drawn
      exact ⟨thread, found, by rw [at_]; rfl⟩
    · exact ⟨rival, there, drawn⟩
  refine ⟨?_, ?_, ?_, ?_, ?_, ?_, ?_, ?_, ?_⟩
  · rw [charges]
    exact nodup_keys_append books.keys absent
  · rw [charges]
    intro charge member sign
    rcases List.mem_append.mp member with old | new
    · obtain ⟨bound, value⟩ := books.amounts charge old sign
      exact ⟨Nat.lt_of_lt_of_le bound nextId, value⟩
    · rw [List.mem_singleton.mp new]
      exact ⟨Nat.lt_of_lt_of_le known nextId, amount⟩
  · rw [charges]
    intro charge other member there sign also same
    rcases List.mem_append.mp member with old | new <;> rcases List.mem_append.mp there with before | added
    · exact books.networks old before sign also same
    · rw [List.mem_singleton.mp added] at same ⊢
      exact network charge old sign same
    · rw [List.mem_singleton.mp new] at same ⊢
      exact (network other before also same.symm).symm
    · rw [List.mem_singleton.mp new, List.mem_singleton.mp added]
  · rw [requests]
    intro id request there
    obtain ⟨bound, charged⟩ := books.rows there
    exact ⟨Nat.lt_of_lt_of_le bound nextId, grown charged⟩
  · rw [requests]
    intro other rival id there drawn
    obtain ⟨before, was, had⟩ := held there drawn
    obtain ⟨bound, free⟩ := books.drawn was had
    exact ⟨Nat.lt_of_lt_of_le bound nextId, free⟩
  · intro one other first second id here there drawn again
    obtain ⟨before, was, had⟩ := held here drawn
    obtain ⟨earlier, stood, held⟩ := held there again
    exact books.single was stood had held
  · rw [charges]
    intro other rival wallet id there at_ charge member sign
    rcases Machine.calls_update there with ⟨rfl, rfl⟩ | ⟨apart, there⟩
    · obtain ⟨_, _, _, _, _, _, charged, _⟩ := fresh id (by rw [at_]; rfl)
      rw [at_] at charged
      cases charged
    · rcases List.mem_append.mp member with old | new
      · exact books.unbilled there at_ charge old sign
      · rw [List.mem_singleton.mp new]
        intro same
        exact others apart there (by rw [at_, same]; rfl)
  · rw [charges]
    intro other rival wallet id there at_
    rcases Machine.calls_update there with ⟨rfl, rfl⟩ | ⟨apart, there⟩
    · obtain ⟨args, dw, tag, positive, op, kind, _, thread, found, drawn⟩ := fresh id (by rw [at_]; rfl)
      refine ⟨⟨args, tag, positive, row, ?_, op, kind⟩, ?_⟩
      · rw [charges]
        exact List.mem_append_right _ (List.mem_singleton_self _)
      · intro refund member sign refunds
        rcases List.mem_append.mp member with old | new
        · exact books.unbilled found drawn refund old sign
        · rw [List.mem_singleton.mp new, kind] at refunds
          cases refunds
    · obtain ⟨⟨args, tag, charged⟩, unrefunded⟩ := books.billed there at_
      refine ⟨⟨args, tag, grown charged⟩, ?_⟩
      intro refund member sign refunds
      rcases List.mem_append.mp member with old | new
      · exact unrefunded refund old sign refunds
      · rw [List.mem_singleton.mp new]
        intro same
        exact others apart there (by rw [at_, same]; rfl)
  · intro other rival request there owed
    rcases Machine.calls_update there with ⟨rfl, rfl⟩ | ⟨_, there⟩
    · rw [paid] at owed
      cases owed
    · obtain ⟨bound, charged, apart⟩ := books.paid there owed
      refine ⟨Nat.lt_of_lt_of_le bound nextId, grown charged, fun here drawn => ?_⟩
      obtain ⟨before, was, had⟩ := held here drawn
      exact apart was had

/-- The row of a request that was paid for goes in under its own identifier. -/
theorem Books.insert (books : Books config world calls) (found : calls index = some thread) {args : PrepareSignArgs}
    {dw : DWallet} {id : Uuid} {row : SignRequest} {replaced : SignThread} (tag : thread.tag = .prepare args)
    (at_ : stage thread.history = .charged dw id) (inserted : stage replaced.history = .inserted row)
    (own : row.id = id) (network : row.network = args.network) (ledger : after.ledger = world.ledger)
    (nextId : after.nextId = world.nextId)
    (requests : ∀ {other request}, after.signRequests.get other = some request →
      world.signRequests.get other = some request ∨ other = id ∧ request = row) :
    Books config after (Function.update calls index (some replaced)) := by
  have fresh : (stage thread.history).fresh = some id := by
    rw [at_]
    rfl
  obtain ⟨bound, free⟩ := books.drawn found fresh
  obtain ⟨⟨mine, same, charged⟩, unrefunded⟩ := books.billed found at_
  rw [tag] at same
  cases same
  -- Another call with a fresh identifier has another one.
  have held : ∀ {other rival drawn}, Function.update calls index (some replaced) other = some rival →
      (stage rival.history).fresh = some drawn → calls other = some rival ∧ drawn ≠ id := by
    intro other rival drawn there has
    rcases Machine.calls_update there with ⟨rfl, rfl⟩ | ⟨apart, there⟩
    · rw [inserted] at has
      cases has
    · refine ⟨there, ?_⟩
      rintro rfl
      exact apart (books.single there found has fresh)
  refine ⟨?_, ?_, ?_, ?_, ?_, ?_, ?_, ?_, ?_⟩
  · rw [ledger]
    exact books.keys
  · rw [ledger, nextId]
    exact books.amounts
  · rw [ledger]
    exact books.networks
  · rw [ledger, nextId]
    intro other request there
    rcases requests there with old | ⟨rfl, rfl⟩
    · exact books.rows old
    · exact ⟨bound, network ▸ charged⟩
  · rw [nextId]
    intro other rival drawn there has
    obtain ⟨was, apart⟩ := held there has
    obtain ⟨below, absent⟩ := books.drawn was has
    refine ⟨below, ?_⟩
    cases taken : after.signRequests.get drawn with
    | none => rfl
    | some request =>
      rcases requests taken with old | ⟨same, _⟩
      · rw [absent] at old
        cases old
      · exact absurd same apart
  · intro one other first second drawn here there has again
    exact books.single (held here has).1 (held there again).1 has again
  · rw [ledger]
    intro other rival wallet drawn there at_
    exact books.unbilled (held there (by rw [at_]; rfl)).1 at_
  · rw [ledger]
    intro other rival wallet drawn there at_
    exact books.billed (held there (by rw [at_]; rfl)).1 at_
  · rw [ledger, nextId]
    intro other rival request there owed
    rcases Machine.calls_update there with ⟨rfl, rfl⟩ | ⟨_, there⟩
    · rw [inserted] at owed
      cases owed
      refine ⟨own ▸ bound, ?_, fun here has => ?_⟩
      · rw [network, own]
        exact charged
      · exact (held here has).2 own
    · obtain ⟨below, known, apart⟩ := books.paid there owed
      exact ⟨below, known, fun here has => apart (held here has).1 has⟩

theorem Moved.fresh {call : Call} {before next : Stage} {op : Op} {answer : Res op} {id : Uuid}
    (moved : Moved config call before op answer next) (fresh : next.fresh = some id) :
    before = next ∨ op = .randomUUID ∨ ∃ args, op = .ledger (.charge args) := by
  cases moved with
  | drawn args dw drawn => exact .inr (.inl rfl)
  | charged args dw drawn reason charge positive => exact .inr (.inr ⟨_, rfl⟩)
  | quiet call stage op answer free quiet => exact .inl rfl
  | _ => cases fresh

theorem Moved.paid {call : Call} {before next : Stage} {op : Op} {answer : Res op} {row : SignRequest}
    (moved : Moved config call before op answer next) (paid : next.paid = some row) :
    before.paid = some row ∨ (∃ new, op = .sign (.insert new)) ∨
      ∃ id code message, (⟨op, answer⟩ : Entry Op Res) = ⟨.sign (.setFailed id code message), some row⟩ := by
  cases moved with
  | inserted args dw id request => exact .inr (.inl ⟨_, rfl⟩)
  | claimed args request bucket own presignId => exact .inl paid
  | unclaimed args request bucket own => exact .inl paid
  | allocated args request presignId presign => exact .inl paid
  | vanished args request presignId => exact .inl paid
  | dropped args request => exact .inl paid
  | failed call stage id code message request fails =>
    cases paid
    exact .inr (.inr ⟨id, code, message, rfl⟩)
  | openAccount call request => exact .inl paid
  | quiet call stage op answer free quiet => exact .inl paid
  | _ => cases paid

/-- The row a `markFailed` gets back was there, on the same network. -/
theorem failed_row {env : Env} {id : Uuid} {code message : String} {row : SignRequest}
    (executed : exec (.sign (.setFailed id code message)) env world = some (some row, after)) :
    row.id = id ∧ row.status = .failed ∧ after.signRequests.get id = some row ∧
      ∃ old, world.signRequests.get id = some old ∧ row = SignRequest.toFailed env.now code message old := by
  simp only [exec, SignOp.exec, SignTable.set, Option.some.injEq, Prod.mk.injEq] at executed
  obtain ⟨answered, rfl⟩ := executed
  have found := answered
  rw [Table.get_modify, if_pos rfl] at answered
  obtain ⟨old, before, rfl⟩ := Option.map_eq_some_iff.mp answered
  exact ⟨Table.key_of_get found, rfl, found, old, before, rfl⟩

theorem findCharge_sign {ledger : Ledger} {network : String} {id : Uuid} {kind : ChargeKind}
    (absent : ∀ charge ∈ ledger.charges, charge.opType = "sign" → charge.kind = kind → charge.opId ≠ id) :
    ledger.findCharge (signKey network id) kind = none := by
  apply Ledger.findCharge_eq_none
  intro charge member same
  simp only [BillingCharge.key, BillingCharge.op, signKey, Prod.mk.injEq, OpKey.mk.injEq] at same
  exact absent charge member same.1.2.1 same.2 same.1.2.2

variable {system : SignSystem} {env : Env} {rest : Prog Reply}

theorem Books.charge {charge : ChargeArgs} {result : Except Thrown BillingCharge}
    (books : Books config system.world system.calls)
    (act : (machine config).Act (contract config) system index env thread (.ledger (.charge charge)) result rest after) :
    Books config after
      (Function.update system.calls index (some (thread.resume ⟨.ledger (.charge charge), result⟩ rest))) := by
  have executed : exec (.ledger (.charge charge)) env system.world = some (result, after) := act.executed
  have allowed : Allowed config thread.tag (stage thread.history) (.ledger (.charge charge)) := act.before
  obtain ⟨args, dw, id, reason, tag, at_, positive, rfl⟩ := allowed.of_charge
  obtain ⟨answered, ledger, requests, nextId⟩ := exec_charge executed
  have moved : stage (thread.resume ⟨.ledger (.charge ⟨args.userId, args.network, "sign", id, config.signPriceMicro,
      reason⟩), result⟩ rest).history = (Stage.drawn dw id).charges result := by
    rw [← at_]
    rfl
  have fresh : (stage thread.history).fresh = some id := by
    rw [at_]
    rfl
  cases result with
  | error error =>
    refine books.recalls ?_ nextId (fun there => ⟨_, requests ▸ there, rfl⟩) index _ ?_ ?_
    · rw [ledger, Ledger.charge_error answered.symm]
    · intro id fresh
      rw [moved] at fresh
      cases fresh
    · intro row paid
      rw [moved] at paid
      cases paid
  | ok row =>
    have absent : system.world.ledger.findCharge (signKey args.network id) .charge = none :=
      findCharge_sign (fun charge member sign _ => books.unbilled act.found at_ charge member sign)
    have charges := Ledger.charge_ok absent answered.symm
    rw [← ledger] at charges
    refine books.append charges requests nextId absent (books.drawn act.found fresh).1 rfl ?_ ?_ ?_ ?_
    · intro charge member sign same
      exact absurd same (books.unbilled act.found at_ charge member sign)
    · intro other rival apart there drawn
      exact apart (books.single there act.found drawn fresh)
    · intro drawn has
      rw [moved] at has
      cases has
      exact ⟨args, dw, tag, positive, rfl, rfl, moved, thread, act.found, at_⟩
    · rw [moved]
      rfl

theorem Books.refund {refund : RefundArgs} {result : Except Thrown BillingCharge}
    (books : Books config system.world system.calls)
    (act : (machine config).Act (contract config) system index env thread (.ledger (.refund refund)) result rest after) :
    Books config after
      (Function.update system.calls index (some (thread.resume ⟨.ledger (.refund refund), result⟩ rest))) := by
  have executed : exec (.ledger (.refund refund)) env system.world = some (result, after) := act.executed
  have allowed : Allowed config thread.tag (stage thread.history) (.ledger (.refund refund)) := act.before
  obtain ⟨row, reason, at_, rfl⟩ := allowed.of_refund
  obtain ⟨_, ledger, requests, nextId⟩ := exec_refund executed
  obtain ⟨bound, ⟨positive, charge, member, op, kind⟩, apart⟩ := books.paid act.found (by rw [at_]; rfl)
  have sign : charge.opType = "sign" := congrArg OpKey.opType op
  have amount : charge.creditsMicro = -(config.signPriceMicro : Int) := by
    rw [(books.amounts charge member sign).2, kind]
    rfl
  rcases Ledger.refund_charged ⟨row.userId, row.network, "sign", row.id, config.signPriceMicro, reason⟩
    system.world.nextId books.keys member op kind amount (by simpa using positive) with ⟨_, _, same⟩ | ⟨absent, more⟩
  · refine books.recalls ?_ nextId (fun there => ⟨_, requests ▸ there, rfl⟩) index _ ?_ ?_
    · rw [ledger, same]
    · intro id fresh
      cases fresh
    · intro row paid
      cases paid
  · rw [← ledger] at more
    refine books.append more requests nextId absent bound rfl ?_ (fun _ there => apart there) ?_ rfl
    · intro other there also same
      have own : charge.opId = row.id := congrArg OpKey.opId op
      exact (books.networks there member also sign (same.trans own.symm)).trans (congrArg OpKey.network op)
    · intro id fresh
      cases fresh

theorem Books.actInsert {new : NewSignRequest} {result : Except Thrown SignRequest}
    (books : Books config system.world system.calls)
    (act : (machine config).Act (contract config) system index env thread (.sign (.insert new)) result rest after) :
    Books config after (Function.update system.calls index (some (thread.resume ⟨.sign (.insert new), result⟩ rest))) := by
  have executed : exec (.sign (.insert new)) env system.world = some (result, after) := act.executed
  have allowed : Allowed config thread.tag (stage thread.history) (.sign (.insert new)) := act.before
  obtain ⟨args, dw, id, tag, at_, rfl⟩ := allowed.of_insert
  have moved : stage (thread.resume ⟨.sign (.insert (args.newRequest dw id)), result⟩ rest).history =
      (Stage.charged dw id).inserts result := by
    rw [← at_]
    rfl
  rcases exec_insert executed with ⟨error, rfl, rfl, _⟩ | ⟨rfl, _, table, done, rfl⟩
  · refine books.recalls rfl (Nat.le_refl _) (fun there => ⟨_, there, rfl⟩) index _ ?_ ?_
    · intro id fresh
      rw [moved] at fresh
      cases fresh
    · intro row paid
      rw [moved] at paid
      cases paid
  · refine books.insert act.found tag at_ moved rfl rfl rfl rfl ?_
    intro other request there
    rw [Table.get_insert done] at there
    split at there
    next same =>
      cases there
      exact .inr ⟨same, rfl⟩
    · exact .inl there

theorem Books.act {op : Op} {answer : Res op} (books : Books config system.world system.calls)
    (act : (machine config).Act (contract config) system index env thread op answer rest after) :
    Books config after (Function.update system.calls index (some (thread.resume ⟨op, answer⟩ rest))) := by
  have executed : exec op env system.world = some (answer, after) := act.executed
  have allowed : Allowed config thread.tag (stage thread.history) op := act.before
  have found := act.found
  by_cases charging : ∃ args, op = .ledger (.charge args)
  · obtain ⟨charge, rfl⟩ := charging
    exact books.charge act
  by_cases refunding : ∃ args, op = .ledger (.refund args)
  · obtain ⟨refund, rfl⟩ := refunding
    exact books.refund act
  by_cases inserting : ∃ new, op = .sign (.insert new)
  · obtain ⟨new, rfl⟩ := inserting
    exact books.actInsert act
  by_cases drawing : op = .randomUUID
  · subst drawing
    obtain ⟨args, dw, _, at_⟩ := allowed.of_randomUUID
    cases executed
    refine books.draw dw ?_
    change (stage thread.history).next .randomUUID _ = _
    rw [at_]
    rfl
  have charges : after.ledger.charges = system.world.ledger.charges :=
    (exec_charges executed).resolve_right (by rintro (there | there); exacts [charging there, refunding there])
  refine books.recalls charges (exec_nextId executed) ?_ index _ ?_ ?_
  · intro id row there
    obtain ⟨old, before, rfl | ⟨statement, _, change⟩⟩ :=
      old_row_of_exec executed (fun new same => inserting ⟨new, same⟩) there
    · exact ⟨row, before, rfl⟩
    · exact ⟨old, before, change.kept.2.2.1.symm⟩
  · intro id fresh
    rcases (allowed.moved answer).fresh fresh with same | same | same
    · exact ⟨thread, found, rfl, same⟩
    · exact absurd same drawing
    · exact absurd same charging
  · intro row paid
    rcases (allowed.moved answer).paid paid with same | same | ⟨id, code, message, same⟩
    · exact .inl ⟨thread, found, same⟩
    · exact absurd same inserting
    · cases same
      obtain ⟨own, _, _, old, before, rfl⟩ := failed_row executed
      exact .inr ⟨old, own ▸ before, rfl⟩

end Step

theorem Books.jobs {config : Config} {world : World} {calls : Nat → Option SignThread} (jobs : List Job)
    (books : Books config world calls) : Books config { world with jobs := jobs } calls :=
  ⟨books.keys, books.amounts, books.networks, books.rows, books.drawn, books.single, books.unbilled, books.billed, books.paid⟩

theorem Books.move {config : Config} {system : SignSystem} {event : Event Env Call} {world : World}
    {calls : Nat → Option SignThread} (books : Books config system.world system.calls)
    (move : (machine config).Move (contract config) system event world calls) : Books config world calls := by
  cases move with
  | start tag opened free entered path =>
    rw [close_jobs, enter_jobs entered]
    refine Books.jobs _ (Books.jobs _ (books.recalls rfl (Nat.le_refl _) (fun there => ⟨_, there, rfl⟩) _ _ ?_ ?_))
    · intro id fresh
      cases fresh
    · intro row paid
      cases paid
  | step index env thread op answer rest opened act =>
    rw [close_jobs]
    exact (books.act act).jobs _
  | cut index thread found running =>
    change Books config (leave thread.tag none system.world) _
    rw [leave_jobs]
    refine Books.jobs _ (books.recalls rfl (Nat.le_refl _) (fun there => ⟨_, there, rfl⟩) _ _ ?_ ?_)
    · intro id fresh
      exact ⟨thread, found, rfl, rfl⟩
    · intro row paid
      exact .inl ⟨thread, found, paid⟩

/-- The books of every run. -/
theorem books_of_reaches {config : Config} {initial system : SignSystem} (start : Initial initial)
    (reached : (machine config).Reaches initial system) : Books config system.world system.calls := by
  have kept : Machine.Kept (contract config) initial := kept_of_reaches start.threads .refl
  have books : Books config initial.world initial.calls := by
    refine ⟨start.keys, ?_, ?_, ?_, ?_, ?_, ?_, ?_, ?_⟩
    · intro charge member sign
      exact absurd sign (start.charges charge member)
    · intro charge other member _ sign
      exact absurd sign (start.charges charge member)
    · intro id row found
      rw [start.request] at found
      cases found
    all_goals
      intros
      simp_all [start.calls]
  exact (reached.tracked (honours config) (Books config) kept books (fun _ books _ move => books.move move)).2

/-- The network of a charge is the one of its request. -/
theorem Books.network {config : Config} {world : World} {calls : Nat → Option SignThread}
    (books : Books config world calls) {charge : BillingCharge} (member : charge ∈ world.ledger.charges)
    (sign : charge.opType = "sign") {network : String} {id : Uuid} (charged : Charged config world.ledger network id)
    (same : charge.opId = id) : charge.network = network := by
  obtain ⟨_, other, there, op, _⟩ := charged
  have own : other.opId = id := congrArg OpKey.opId op
  have also : other.opType = "sign" := congrArg OpKey.opType op
  exact (books.networks member there sign also (same.trans own.symm)).trans (congrArg OpKey.network op)

/-! ### Refunds that are due -/

theorem Refunded.mono {ledger later : Ledger} {network : String} {id : Uuid} (refunded : Refunded ledger network id)
    (grows : ∀ charge ∈ ledger.charges, charge ∈ later.charges) : Refunded later network id := by
  obtain ⟨refund, member, op, kind⟩ := refunded
  exact ⟨refund, grows refund member, op, kind⟩

/-- The refund a call owes succeeds. -/
theorem Books.refunded {config : Config} {system : SignSystem} {index : Nat} {env : Env} {thread : SignThread}
    {refund : RefundArgs} {result : Except Thrown BillingCharge} {rest : Prog Reply} {after : World} {row : SignRequest}
    (books : Books config system.world system.calls)
    (act : (machine config).Act (contract config) system index env thread (.ledger (.refund refund)) result rest after)
    (owing : stage thread.history = .owing row) : Refunded after.ledger row.network row.id := by
  have executed : exec (.ledger (.refund refund)) env system.world = some (result, after) := act.executed
  have allowed : Allowed config thread.tag (stage thread.history) (.ledger (.refund refund)) := act.before
  obtain ⟨other, reason, at_, rfl⟩ := allowed.of_refund
  rw [owing] at at_
  cases at_
  obtain ⟨_, ⟨positive, charge, member, op, kind⟩, _⟩ := books.paid act.found (by rw [owing]; rfl)
  have sign : charge.opType = "sign" := congrArg OpKey.opType op
  have amount : charge.creditsMicro = -(config.signPriceMicro : Int) := by
    rw [(books.amounts charge member sign).2, kind]
    rfl
  rcases Ledger.refund_charged ⟨row.userId, row.network, "sign", row.id, config.signPriceMicro, reason⟩
    system.world.nextId books.keys member op kind amount (by simpa using positive) with ⟨existing, found, _⟩ | ⟨_, more⟩
  · obtain ⟨there, same, refunds⟩ := Ledger.mem_of_findCharge found
    exact ⟨existing, exec_charges_mono executed existing there, same, refunds⟩
  · rw [← (exec_refund executed).2.1] at more
    have added := List.mem_append_right system.world.ledger.charges (List.mem_singleton_self
      ((RefundArgs.newRefund ⟨row.userId, row.network, "sign", row.id, config.signPriceMicro, reason⟩).row
        system.world.nextId))
    rw [← more] at added
    exact ⟨_, added, rfl, rfl⟩

/-- A call that owes a refund is still running. -/
theorem running_of_owing {config : Config} {system : SignSystem} {index : Nat} {thread : SignThread} {row : SignRequest}
    (kept : Machine.Kept (contract config) system) (books : Books config system.world system.calls)
    (found : system.calls index = some thread) (alive : thread.cut = false)
    (owing : stage thread.history = .owing row) : thread.Running := by
  refine ⟨alive, ?_⟩
  have path := kept index thread found
  have positive : config.signPriceMicro ≠ 0 := by
    obtain ⟨_, ⟨positive, _⟩, _⟩ := books.paid found (by rw [owing]; rfl)
    exact Nat.ne_of_gt positive
  have unended : ∀ result, ¬Ended config (.owing row) thread.tag result := fun _ ended => positive ended.rests
  cases program : thread.program with
  | await op next => rfl
  | ret value =>
    rw [program] at path
    exact absurd (owing ▸ path : Ended config (.owing row) thread.tag (.ok value)) (unended _)
  | raise error =>
    rw [program] at path
    exact absurd (owing ▸ path : Ended config (.owing row) thread.tag (.error error)) (unended _)

end MpcKit.Sign
