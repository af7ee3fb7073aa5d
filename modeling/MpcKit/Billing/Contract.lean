import MpcKit.Billing.Service

/-! What a single billing call has done at each of its statements. The open writes of a
transaction can be read off the call's own history, so the contract says what they are when
the transaction commits: increments that match the rows, and a debit only under a lock that
showed enough credits. -/

namespace MpcKit.Billing
open MpcKit.Backend MpcKit.Async
open Program (fold rescue unwrap Obeys)

abbrev Past := History Op Res

/-- The writes of the open transaction. -/
def posting : Past → Posting
  | [] => .empty
  | ⟨.begin, _⟩ :: _ => .empty
  | ⟨.commit, _⟩ :: _ => .empty
  | ⟨.rollback, _⟩ :: _ => .empty
  | ⟨.addCredits credit, .ok _⟩ :: past => (posting past).addCredit credit
  | ⟨.insertCharge _, .ok row⟩ :: past => (posting past).addCharge row
  | ⟨.insertDeposit _, .ok row⟩ :: past => (posting past).addDeposit row
  | _ :: past => posting past

/-- Balances read under `FOR UPDATE` in the open transaction. -/
def locked : Past → List Credit
  | [] => []
  | ⟨.begin, _⟩ :: _ => []
  | ⟨.commit, _⟩ :: _ => []
  | ⟨.rollback, _⟩ :: _ => []
  | ⟨.lockAccount userId network, .ok (some creditsMicro)⟩ :: past => ⟨userId, network, creditsMicro⟩ :: locked past
  | _ :: past => locked past

/-- The call has committed a transaction that wrote something. -/
def Posted : Past → Prop
  | [] => False
  | ⟨.commit, .ok _⟩ :: past => posting past ≠ .empty ∨ Posted past
  | _ :: past => Posted past

/-- The call has seen or created the account row. -/
def Ensured (past : Past) (userId : Uuid) (network : String) : Prop :=
  (∃ account, ⟨.selectAccount userId network, some account⟩ ∈ past) ∨
    ∃ account, ⟨.insertAccount userId network, some account⟩ ∈ past

/-- A refund row is written only within what the rows read before leave refundable. -/
def Justified (past : Past) (new : NewCharge) : Prop :=
  ∃ chargeRows priorRows,
    ⟨.selectCredits ⟨new.network, new.opType, new.opId⟩ .charge, .ok chargeRows⟩ ∈ past ∧
    ⟨.selectCredits ⟨new.network, new.opType, new.opId⟩ .refund, .ok priorRows⟩ ∈ past ∧
    (chargeRows.map (fun creditsMicro => -creditsMicro)).sum ≠ 0 ∧
    new.creditsMicro ≤ (chargeRows.map (fun creditsMicro => -creditsMicro)).sum - priorRows.sum

/-- No account can end below zero: increments only, or a debit within the locked balance. -/
def Funded (past : Past) : Prop :=
  ∀ userId network, 0 ≤ total (posting past).credits userId network ∨
    ∃ creditsMicro, ⟨userId, network, creditsMicro⟩ ∈ locked past ∧
      0 ≤ creditsMicro + total (posting past).credits userId network

/-- Calls made of one transaction, unlike a deposit or a charge with its refund. -/
def Call.Single : Call → Prop
  | .charge _ => True
  | .refund _ => True
  | _ => False

/-- A charge or refund call commits its one debit or credit with its one row, or nothing. -/
def Call.Writes : Call → Posting → Prop
  | .charge args, written => written = .empty ∨ ∃ id,
      written = ⟨[⟨args.userId, args.network, -args.amountMicro⟩], [args.newCharge.row id], []⟩
  | .refund args, written => written = .empty ∨ ∃ id,
      written = ⟨[⟨args.userId, args.network, args.amountMicro⟩], [args.newRefund.row id], []⟩
  | _, _ => True

def answers : (op : Op) → Res op → Prop
  | .insertCharge new, .ok row => ∃ id, row = new.row id
  | .insertDeposit new, .ok row => ∃ id, row = new.row id
  | .creditsFor _ amountAtomic, .ok converted => 0 ≤ amountAtomic → 0 ≤ converted.1
  | _, _ => True

/-- What the writes of a transaction have to look like when it commits. -/
structure Committable (call : Call) (past : Past) : Prop where
  balanced : (posting past).Balanced
  funded : Funded past
  writes : call.Writes (posting past)

def ready (call : Call) (past : Past) : Op → Prop
  | .begin => posting past = .empty
  | .selectCredits _ _ => (posting past).charges = []
  | .lockAccount _ _ => (posting past).credits = []
  | .addCredits credit => Ensured past credit.userId credit.network
  | .insertCharge new => Ensured past new.userId new.network ∧ match new.kind with
      | .charge => new.creditsMicro < 0
      | .refund => 0 < new.creditsMicro ∧ Justified past new
  | .insertDeposit new => Ensured past new.userId new.network ∧ 0 ≤ new.creditsCredited
  | .commit => Committable call past
  | _ => True

def contract (call : Call) : Contract Op Res Thrown Reply where
  answers := answers
  before past op := ready call past op ∧ (call.Single → ¬Posted past)
  after past result := posting past = .empty ∧ ∀ error, result = .error error → call.Single → ¬Posted past

/-- A part of a call keeps the contract and ends as `after` says. -/
abbrev Meets {α : Type} (call : Call) (after : Past → Except Thrown α → Prop) (past : Past) (program : Prog α) : Prop :=
  program.Obeys ((contract call).ending after) past

/-- Between two transactions. -/
def Idle (call : Call) (past : Past) : Prop := posting past = .empty ∧ (call.Single → ¬Posted past)

/-- How a function made of whole transactions ends. -/
def Ends {α : Type} (call : Call) (past : Past) (result : Except Thrown α) : Prop :=
  posting past = .empty ∧ ∀ error, result = .error error → call.Single → ¬Posted past

/-- An error leaves a function for a caller of another return type. -/
theorem Ends.thrown {α β : Type} {call : Call} {past : Past} {error : Thrown}
    (ended : Ends call past (.error error : Except Thrown α)) : Ends call past (.error error : Except Thrown β) :=
  ⟨ended.1, fun _ _ => ended.2 error rfl⟩

theorem Idle.ends {α : Type} {call : Call} {past : Past} (idle : Idle call past) (result : Except Thrown α) :
    Ends call past result :=
  ⟨idle.1, fun _ _ => idle.2⟩

theorem Ensured.cons {past : Past} {userId : Uuid} {network : String} (ensured : Ensured past userId network)
    (entry : Entry Op Res) : Ensured (entry :: past) userId network := by
  rcases ensured with ⟨account, seen⟩ | ⟨account, created⟩
  · exact .inl ⟨account, List.mem_cons_of_mem _ seen⟩
  · exact .inr ⟨account, List.mem_cons_of_mem _ created⟩

theorem getOrCreateAccount_meets {call : Call} {past : Past} (userId : Uuid) (network : String)
    (idle : Idle call past) :
    Meets call (fun past result => Idle call past ∧ ∀ account, result = .ok account → Ensured past userId network)
      past (getOrCreateAccount userId network) := by
  refine ⟨⟨trivial, idle.2⟩, fun answer _ => ?_⟩
  cases answer with
  | some account => exact ⟨idle, fun _ _ => .inl ⟨account, by simp⟩⟩
  | none =>
    refine ⟨⟨trivial, idle.2⟩, fun answer _ => ?_⟩
    cases answer with
    | some account => exact ⟨idle, fun _ _ => .inr ⟨account, by simp⟩⟩
    | none =>
      refine ⟨⟨trivial, idle.2⟩, fun answer _ => ?_⟩
      cases answer with
      | some account => exact ⟨idle, fun _ _ => .inl ⟨account, by simp⟩⟩
      | none => exact ⟨idle, by simp⟩

/-- A body of a transaction ends with writes that may be committed, or throws. -/
def Closing {α : Type} (call : Call) (past : Past) (result : Except Thrown α) : Prop :=
  (call.Single → ¬Posted past) ∧ ∀ value, result = .ok value → Committable call past

/-- `db.transaction` needs a body that leaves matching, funded writes behind when it returns. -/
theorem transaction_meets {α : Type} {call : Call} {past : Past} {body : Prog α} (idle : Idle call past)
    (inside : Meets call (Closing call) (⟨.begin, .ok ()⟩ :: past) body) :
    Meets call (Ends call) past (transaction body) := by
  refine ⟨⟨idle.1, idle.2⟩, fun answer _ => ?_⟩
  cases answer with
  | error error => exact ⟨rfl, fun _ _ => idle.2⟩
  | ok value =>
    have rolledBack : ∀ past error, (call.Single → ¬Posted past) →
        Meets call (Ends call) past (do perform .rollback; throw error : Prog α) := by
      intro past error unposted
      exact ⟨⟨trivial, unposted⟩, fun _ _ => ⟨rfl, fun _ _ => unposted⟩⟩
    apply Obeys.rescue (fun past result => match result with
      | .ok _ => posting past = .empty
      | .error _ => call.Single → ¬Posted past)
    · apply Obeys.bind inside
      · intro past value closing
        refine ⟨⟨closing.2 value rfl, closing.1⟩, fun answer _ => ?_⟩
        cases answer with
        | ok value => exact rfl
        | error error => exact closing.1
      · intro past error closing
        exact closing.1
    · intro past value closed
      exact ⟨closed, by simp⟩
    · intro past error unposted
      exact rolledBack past error unposted

/-- Throw the error of a statement inside a transaction, or go on with its answer. -/
theorem unwrap_closing {α β : Type} {call : Call} {past : Past} {answer : Except Thrown α} {next : α → Prog β}
    (unposted : call.Single → ¬Posted past)
    (returned : ∀ value, answer = .ok value → Meets call (Closing call) past (next value)) :
    Meets call (Closing call) past ((unwrap answer).bind next) := by
  cases answer with
  | ok value => exact returned value rfl
  | error error => exact ⟨unposted, by simp⟩

/-! ### Charges and refunds -/

theorem balanced_empty : Posting.empty.Balanced := by
  intro userId network
  rfl

/-- One increment and one row with the same account and amount. -/
theorem balanced_charge {credit : Credit} {row : BillingCharge} (user : row.userId = credit.userId)
    (net : row.network = credit.network) (amount : row.creditsMicro = credit.delta) :
    Posting.Balanced ⟨[credit], [row], []⟩ := by
  intro userId network
  have same : Of userId network row ↔ Of userId network credit := by
    simp [Of, Movement.userId, Movement.network, user, net]
  have delta : Movement.delta row = Movement.delta credit := amount
  simp [total_singleton, same, delta]

theorem funded_empty {past : Past} (untouched : posting past = .empty) : Funded past := by
  intro userId network
  left
  simp [untouched, Posting.empty]

/-- An idempotent replay reads and returns; it commits nothing. -/
theorem committable_empty {call : Call} {past : Past} (single : call.Writes .empty)
    (untouched : posting past = .empty) : Committable call past :=
  ⟨untouched ▸ balanced_empty, funded_empty untouched, untouched ▸ single⟩

theorem chargeTransaction_meets {call : Call} {past : Past} (args : ChargeArgs) (positive : 0 < args.amountMicro)
    (idle : Idle call past) (ensured : Ensured past args.userId args.network)
    (writesNothing : call.Writes .empty)
    (writesCharge : ∀ id, call.Writes ⟨[⟨args.userId, args.network, -args.amountMicro⟩], [args.newCharge.row id], []⟩) :
    Meets call (Ends call) past (chargeTransaction args) := by
  apply transaction_meets idle
  refine ⟨⟨trivial, idle.2⟩, fun answer _ => ?_⟩
  refine unwrap_closing idle.2 fun existing same => ?_
  subst same
  cases existing with
  | some existing => exact ⟨idle.2, fun _ _ => committable_empty writesNothing rfl⟩
  | none =>
    refine ⟨⟨rfl, idle.2⟩, fun answer _ => ?_⟩
    refine unwrap_closing idle.2 fun found same => ?_
    subst same
    cases found with
    | none => exact ⟨idle.2, by simp⟩
    | some creditsMicro =>
      dsimp only
      split
      · exact ⟨idle.2, by simp⟩
      next enough =>
        refine ⟨⟨((ensured.cons _).cons _).cons _, idle.2⟩, fun answer _ => ?_⟩
        refine unwrap_closing idle.2 fun updated same => ?_
        subst same
        have negative : args.newCharge.creditsMicro < 0 := by
          simpa [ChargeArgs.newCharge] using positive
        refine ⟨⟨⟨(((ensured.cons _).cons _).cons _).cons _, negative⟩, idle.2⟩, fun answer known => ?_⟩
        cases answer with
        | error error => exact ⟨idle.2, by simp⟩
        | ok row =>
          obtain ⟨id, rfl⟩ := known
          refine ⟨idle.2, fun _ _ => ⟨balanced_charge rfl rfl rfl, ?_, writesCharge id⟩⟩
          intro userId network
          by_cases own : args.userId = userId ∧ args.network = network
          · obtain ⟨rfl, rfl⟩ := own
            refine .inr ⟨creditsMicro, by simp [locked], ?_⟩
            simp only [posting, Posting.addCharge, Posting.addCredit, Posting.empty, List.nil_append, total_singleton,
              Of, Movement.userId, Movement.network, Movement.delta]
            omega
          · left
            simp [posting, Posting.addCharge, Posting.addCredit, Posting.empty, total_singleton, Of,
              Movement.userId, Movement.network, own]

theorem charge_meets {call : Call} {past : Past} (args : ChargeArgs) (idle : Idle call past)
    (writesNothing : call.Writes .empty)
    (writesCharge : ∀ id, call.Writes ⟨[⟨args.userId, args.network, -args.amountMicro⟩], [args.newCharge.row id], []⟩) :
    Meets call (Ends call) past (charge args) := by
  unfold charge
  split
  · exact ⟨idle.1, fun _ _ => idle.2⟩
  next positive =>
    apply Obeys.bind (getOrCreateAccount_meets args.userId args.network idle)
    · intro past account ensured
      exact chargeTransaction_meets args (by omega) ensured.1 (ensured.2 account rfl) writesNothing writesCharge
    · intro past error ensured
      exact ⟨ensured.1.1, fun _ _ => ensured.1.2⟩

theorem refundTransaction_meets {call : Call} {past : Past} (args : RefundArgs) (positive : 0 < args.amountMicro)
    (idle : Idle call past) (ensured : Ensured past args.userId args.network)
    (writesNothing : call.Writes .empty)
    (writesRefund : ∀ id, call.Writes ⟨[⟨args.userId, args.network, args.amountMicro⟩], [args.newRefund.row id], []⟩) :
    Meets call (Ends call) past (refundTransaction args) := by
  apply transaction_meets idle
  refine ⟨⟨trivial, idle.2⟩, fun answer _ => ?_⟩
  refine unwrap_closing idle.2 fun existing same => ?_
  subst same
  cases existing with
  | some existing => exact ⟨idle.2, fun _ _ => committable_empty writesNothing rfl⟩
  | none =>
    refine ⟨⟨rfl, idle.2⟩, fun answer _ => ?_⟩
    refine unwrap_closing idle.2 fun chargeRows same => ?_
    subst same
    dsimp only
    split
    · exact ⟨idle.2, by simp⟩
    next charged =>
      refine ⟨⟨rfl, idle.2⟩, fun answer _ => ?_⟩
      refine unwrap_closing idle.2 fun priorRefundRows same => ?_
      subst same
      split
      · exact ⟨idle.2, by simp⟩
      next refundable =>
        refine ⟨⟨(((ensured.cons _).cons _).cons _).cons _, idle.2⟩, fun answer _ => ?_⟩
        refine unwrap_closing idle.2 fun updated same => ?_
        subst same
        refine ⟨⟨⟨((((ensured.cons _).cons _).cons _).cons _).cons _, positive,
          chargeRows, priorRefundRows, ?_, ?_, charged, by simpa [RefundArgs.newRefund] using refundable⟩, idle.2⟩,
          fun answer known => ?_⟩
        · simp [RefundArgs.newRefund, RefundArgs.op]
        · simp [RefundArgs.newRefund, RefundArgs.op]
        cases answer with
        | error error => exact ⟨idle.2, by simp⟩
        | ok row =>
          obtain ⟨id, rfl⟩ := known
          refine ⟨idle.2, fun _ _ => ⟨balanced_charge rfl rfl rfl, ?_, writesRefund id⟩⟩
          intro userId network
          left
          apply total_nonneg
          intro credit member
          rw [List.mem_singleton.mp member]
          exact positive.le

theorem refund_meets {call : Call} {past : Past} (args : RefundArgs) (idle : Idle call past)
    (writesNothing : call.Writes .empty)
    (writesRefund : ∀ id, call.Writes ⟨[⟨args.userId, args.network, args.amountMicro⟩], [args.newRefund.row id], []⟩) :
    Meets call (Ends call) past (refund args) := by
  unfold refund
  split
  · exact ⟨idle.1, fun _ _ => idle.2⟩
  next positive =>
    apply Obeys.bind (getOrCreateAccount_meets args.userId args.network idle)
    · intro past account ensured
      exact refundTransaction_meets args (by omega) ensured.1 (ensured.2 account rfl) writesNothing writesRefund
    · intro past error ensured
      exact ⟨ensured.1.1, fun _ _ => ensured.1.2⟩

/-! ### Deposits -/

theorem addAmount_nonneg {sums : List (String × Int)} {amount : Int} (coinType : String)
    (known : ∀ coin ∈ sums, 0 ≤ coin.2) (positive : 0 < amount) : ∀ coin ∈ addAmount sums coinType amount, 0 ≤ coin.2 := by
  intro coin member
  unfold addAmount at member
  split at member
  · obtain ⟨entry, inside, rfl⟩ := List.mem_map.mp member
    have before := known entry inside
    split
    · exact Int.add_nonneg before positive.le
    · exact before
  · rcases List.mem_append.mp member with old | new
    · exact known coin old
    · rw [List.mem_singleton.mp new]
      exact positive.le

/-- Only positive balance changes are summed up. -/
theorem creditedSums_nonneg (config : Config) (recipient : String) (changes : List BalanceChange) :
    ∀ coin ∈ creditedSums config recipient changes, 0 ≤ coin.2 := by
  refine List.foldlRecOn (motive := fun sums : List (String × Int) => ∀ coin ∈ sums, 0 ≤ coin.2) changes _ ?_ ?_
  · simp
  · intro sums known change _
    dsimp only
    split
    next credited => exact addAmount_nonneg _ known credited.2.2
    · exact known

theorem getOrCreateDepositAddress_meets {call : Call} {past : Past} (config : Config) (userId : Uuid)
    (network : String) (idle : Idle call past) :
    Meets call (fun past _ => Idle call past) past (getOrCreateDepositAddress config userId network) := by
  apply Obeys.bind (getOrCreateAccount_meets userId network idle)
  · intro past account ensured
    cases account.depositAddress with
    | some address => exact ensured.1
    | none =>
      cases config.deriveDepositAddress userId network with
      | error error => exact ensured.1
      | ok address => exact ⟨⟨trivial, ensured.1.2⟩, fun _ _ => ensured.1⟩
  · intro past error ensured
    exact ensured.1

theorem getBalance_meets {call : Call} {past : Past} (userId : Uuid) (network : String) (idle : Idle call past) :
    Meets call (fun past _ => Idle call past) past (getBalance userId network) := by
  apply Obeys.bind (getOrCreateAccount_meets userId network idle)
  · exact fun past account ensured => ensured.1
  · exact fun past error ensured => ensured.1

theorem verifyDeposit_meets {call : Call} {past : Past} (config : Config) (network digest recipient : String)
    (idle : Idle call past) :
    Meets call (fun past result => Idle call past ∧ ∀ verified, result = .ok verified →
        ∀ coin ∈ verified.amountsAtomic, 0 ≤ coin.2)
      past (verifyDeposit config network digest recipient) := by
  refine ⟨⟨trivial, idle.2⟩, fun answer _ => ?_⟩
  cases answer with
  | error error => exact ⟨idle, by simp⟩
  | ok fetched =>
    match fetched with
    | .failed => exact ⟨idle, by simp⟩
    | .transaction (some error) _ _ => exact ⟨idle, by simp⟩
    | .transaction none none _ => exact ⟨idle, by simp⟩
    | .transaction none (some sender) changes =>
      change Meets call _ _ (if _ then _ else _)
      split
      · exact ⟨idle, by simp⟩
      · refine ⟨idle, fun verified same => ?_⟩
        cases same
        exact creditedSums_nonneg config recipient changes

/-- Inside the deposit transaction: only deposit rows of this account so far, worth `credited` together. -/
structure Depositing (userId : Uuid) (network : String) (past : Past) (credited : Int) : Prop where
  ensured : Ensured past userId network
  uncredited : (posting past).credits = []
  uncharged : (posting past).charges = []
  sums : ∀ user net, total (posting past).deposits user net = total [(⟨userId, network, credited⟩ : Credit)] user net
  nonnegative : 0 ≤ credited

theorem Depositing.skip {userId : Uuid} {network : String} {past : Past} {credited : Int}
    (depositing : Depositing userId network past credited) (coinType : String) (amount : Int)
    (answer : Except Thrown (Int × Int)) :
    Depositing userId network (⟨.creditsFor coinType amount, answer⟩ :: past) credited :=
  ⟨depositing.ensured.cons _, depositing.uncredited, depositing.uncharged, depositing.sums, depositing.nonnegative⟩

theorem Depositing.insert {past : Past} {credited : Int} (new : NewDeposit) (id : Uuid)
    (depositing : Depositing new.userId new.network past credited) (nonnegative : 0 ≤ new.creditsCredited) :
    Depositing new.userId new.network (⟨.insertDeposit new, .ok (new.row id)⟩ :: past)
      (credited + new.creditsCredited) where
  ensured := depositing.ensured.cons _
  uncredited := depositing.uncredited
  uncharged := depositing.uncharged
  sums user net := by
    have before := depositing.sums user net
    simp only [total_singleton] at before
    simp only [posting, Posting.addDeposit, total_append, total_singleton, before]
    by_cases own : new.userId = user ∧ new.network = net
    · simp [Of, Movement.userId, Movement.network, Movement.delta, NewDeposit.row, own]
    · simp [Of, Movement.userId, Movement.network, NewDeposit.row, own]
  nonnegative := Int.add_nonneg depositing.nonnegative nonnegative

theorem insertCoin_meets {call : Call} {past : Past} {userId : Uuid} {network : String} (verified : VerifiedDeposit)
    (state : Int × Option BillingDeposit) (coin : String × Int) (several : ¬call.Single)
    (depositing : Depositing userId network past state.1) (amount : 0 ≤ coin.2) :
    Meets call (Program.between (fun past state => Depositing userId network past state.1) (fun _ _ => True))
      past (insertCoin userId network verified state coin) := by
  refine ⟨⟨trivial, fun single => absurd single several⟩, fun answer known => ?_⟩
  cases answer with
  | error error => trivial
  | ok converted =>
    have nonnegative : 0 ≤ converted.1 := known amount
    have skipped := depositing.skip coin.1 coin.2 (.ok converted)
    refine ⟨⟨⟨skipped.ensured, nonnegative⟩, fun single => absurd single several⟩, fun answer known => ?_⟩
    cases answer with
    | error error => trivial
    | ok row =>
      obtain ⟨id, rfl⟩ := known
      exact Depositing.insert ⟨userId, network, suffixForCoinType verified coin.1, verified.sender, coin.1, coin.2,
        converted.1, converted.2⟩ id skipped nonnegative

theorem depositTransaction_meets {call : Call} {past : Past} {userId : Uuid} {network : String}
    (verified : VerifiedDeposit) (several : ¬call.Single) (idle : Idle call past) (writes : ∀ written, call.Writes written)
    (ensured : Ensured past userId network) (amounts : ∀ coin ∈ verified.amountsAtomic, 0 ≤ coin.2) :
    Meets call (Ends call) past (depositTransaction userId network verified) := by
  apply transaction_meets idle
  apply Obeys.bind (Obeys.fold (fun past state => Depositing userId network past state.1) (fun _ _ => True) ?_ ?_)
  · intro past state depositing
    refine ⟨⟨depositing.ensured, fun single => absurd single several⟩, fun answer _ => ?_⟩
    refine unwrap_closing (fun single => absurd single several) fun updated same => ?_
    subst same
    -- Only the pair of an inserted row and an updated balance is returned, and both are committed.
    have committable : Committable call (⟨.addCredits ⟨userId, network, state.1⟩, .ok updated⟩ :: past) := by
      refine ⟨?_, ?_, writes _⟩
      · intro user net
        simp [posting, Posting.addCredit, depositing.uncredited, depositing.uncharged, depositing.sums]
      · intro user net
        left
        apply total_nonneg
        intro credit member
        simp only [posting, Posting.addCredit, depositing.uncredited, List.nil_append, List.mem_singleton] at member
        rw [member]
        exact depositing.nonnegative
    split
    · exact ⟨fun single => absurd single several, fun _ _ => committable⟩
    · exact ⟨fun single => absurd single several, by simp⟩
  · intro past error _
    exact ⟨fun single => absurd single several, by simp⟩
  · refine ⟨ensured.cons _, rfl, rfl, ?_, le_refl _⟩
    intro user net
    simp [posting, Posting.empty, total_singleton, Movement.delta]
  · intro coin member past state depositing
    exact insertCoin_meets verified state coin several depositing (amounts coin member)

/-- The pre-check converts every coin once and keeps nothing but the sum. -/
theorem preTotal_meets {call : Call} {past : Past} (coins : List (String × Int)) (idle : Idle call past) :
    Meets call (Program.between (fun past _ => Idle call past) (fun past _ => Idle call past)) past
      (fold (fun sum coin => do
        let (credits, _) ← creditsFor coin.1 coin.2
        return sum + credits) (0 : Int) coins) := by
  apply Obeys.fold (fun past _ => Idle call past) (fun past _ => Idle call past) idle
  intro coin _ past sum idle
  refine ⟨⟨trivial, idle.2⟩, fun answer _ => ?_⟩
  cases answer with
  | ok converted => exact idle
  | error error => exact idle

theorem recordDeposit_meets {call : Call} {past : Past} (config : Config) (userId : Uuid) (network txDigest : String)
    (several : ¬call.Single) (writes : ∀ written, call.Writes written) (idle : Idle call past) :
    Meets call (Ends call) past (recordDeposit config userId network txDigest) := by
  refine ⟨⟨trivial, idle.2⟩, fun answer _ => ?_⟩
  cases answer with
  | some prior =>
    have replayed : Idle call (⟨.selectDeposit txDigest, some prior⟩ :: past) := idle
    change Meets call _ _ (if _ then _ else _)
    split
    · exact replayed.ends _
    · split
      · exact idle.ends _
      · apply Obeys.bind (getBalance_meets userId network replayed)
        · exact fun past balance idle => idle.ends _
        · exact fun past error idle => idle.ends _
  | none =>
    have missing : Idle call (⟨.selectDeposit txDigest, none⟩ :: past) := idle
    apply Obeys.bind (getOrCreateDepositAddress_meets config userId network missing) ?_ (fun _ _ idle => idle.ends _)
    intro past recipient idle
    apply Obeys.bind (verifyDeposit_meets config network txDigest recipient idle) ?_ (fun _ _ idle => idle.1.ends _)
    intro past verified checked
    apply Obeys.bind (preTotal_meets verified.amountsAtomic checked.1) ?_ (fun _ _ idle => idle.ends _)
    intro past preTotal idle
    dsimp only
    split
    · exact idle.ends _
    · apply Obeys.bind (getOrCreateAccount_meets userId network idle) ?_ (fun _ _ ensured => ensured.1.ends _)
      intro past account ensured
      apply Obeys.bind (depositTransaction_meets verified several ensured.1 writes (ensured.2 account rfl)
        (checked.2 verified rfl)) ?_ (fun _ _ ended => ⟨ended.1, fun _ _ single => absurd single several⟩)
      intro past credited ended
      refine ⟨⟨trivial, fun single => absurd single several⟩, fun answer _ => ?_⟩
      cases answer with
      | ok value => exact ⟨ended.1, by simp⟩
      | error error => exact ⟨ended.1, fun _ _ single => absurd single several⟩

/-! ### Every call of the service -/

theorem chargeWithRefund_meets {α : Type} {call : Call} {past : Past} (args : ChargeWithRefundArgs) (fn : Prog α)
    (several : ¬call.Single) (writes : ∀ written, call.Writes written) (idle : Idle call past)
    (inside : ∀ past, posting past = .empty → Meets call (fun past _ => posting past = .empty) past fn) :
    Meets call (Ends call) past (chargeWithRefund args fn) := by
  have between : ∀ {past : Past}, posting past = .empty → Idle call past :=
    fun closed => ⟨closed, fun single => absurd single several⟩
  have ends : ∀ {β : Type} {past : Past} {result : Except Thrown β}, posting past = .empty → Ends call past result :=
    fun closed => ⟨closed, fun _ _ single => absurd single several⟩
  refine ⟨⟨trivial, idle.2⟩, fun opId _ => ?_⟩
  have drawn : Idle call (⟨.randomUUID, opId⟩ :: past) := idle
  apply Obeys.bind (charge_meets _ drawn (writes _) (fun _ => writes _)) ?_ (fun _ _ ended => ended.thrown)
  intro past row charged
  apply Obeys.rescue (fun past _ => posting past = .empty) (inside past charged.1) (fun _ _ closed => ends closed)
  intro past error closed
  have refunded : ∀ refundArgs, Meets call (fun past _ => posting past = .empty) past
      (rescue (do let _ ← refund refundArgs; return ()) (fun _ => return ()) : Prog Unit) := by
    intro refundArgs
    apply Obeys.rescue (Ends call)
    · apply Obeys.bind (refund_meets refundArgs (between closed) (writes _) (fun _ => writes _))
      · exact fun _ _ ended => ends ended.1
      · exact fun _ _ ended => ended.thrown
    · exact fun _ _ ended => ended.1
    · exact fun _ _ ended => ended.1
  apply Obeys.bind (refunded _)
  · exact fun _ _ closed => ends closed
  · exact fun _ _ closed => ends closed

theorem reply_obeys {α : Type} {call : Call} {program : Prog α} (reply : α → Reply)
    (meets : Meets call (Ends call) [] program) :
    (program.bind (fun value => .ret (reply value))).Obeys (contract call) [] := by
  change Meets call (Ends call) [] _
  apply Obeys.bind meets
  · intro past value ended
    exact ⟨ended.1, by simp⟩
  · intro past error ended
    exact ended.thrown

theorem program_obeys (config : Config) (call : Call) : (program config call).Obeys (contract call) [] := by
  have idle : Idle call [] := ⟨rfl, fun _ => id⟩
  cases call with
  | recordDeposit userId network txDigest =>
    exact reply_obeys .deposit (recordDeposit_meets config userId network txDigest id (fun _ => trivial) idle)
  | charge args => exact reply_obeys .row (charge_meets args idle (.inl rfl) (fun id => .inr ⟨id, rfl⟩))
  | refund args => exact reply_obeys .row (refund_meets args idle (.inl rfl) (fun id => .inr ⟨id, rfl⟩))
  | chargeWithRefund args =>
    refine reply_obeys .value (chargeWithRefund_meets args _ id (fun _ => ?_) idle ?_)
    · trivial
    intro past closed
    refine ⟨⟨trivial, fun single => single.elim⟩, fun answer _ => ?_⟩
    cases answer with
    | ok value => exact closed
    | error error => exact closed

end MpcKit.Billing
