import MpcKit.Billing.Properties

/-! Deposits against the chain they are read from. A digest names one transaction, whoever
asks and however often, while the list of accepted coin types may differ from call to call:
it is read when a process starts, and pods of two configurations may serve side by side. -/

namespace MpcKit.Billing
open MpcKit.Backend MpcKit.Async
open Program (fold rescue unwrap Obeys)

/-- The transactions of the Sui networks. A digest names at most one, on one network, and is
Base58 text, which has no colon. -/
structure Chain where
  find : String → Option (String × TransactionResult)
  base58 : ∀ digest found, find digest = some found → ':' ∉ digest.toList

namespace Chain

def getTransaction (chain : Chain) (network digest : String) : Except Thrown TransactionResult :=
  match chain.find digest with
  | some (there, result) => if there = network then .ok result else .error (.other "RpcError" "not found")
  | none => .error (.other "RpcError" "not found")

theorem find_of_getTransaction (chain : Chain) {network digest : String} {result : TransactionResult}
    (fetched : chain.getTransaction network digest = .ok result) : chain.find digest = some (network, result) := by
  unfold getTransaction at fetched
  split at fetched
  next there other found =>
    split at fetched
    next same =>
      cases fetched
      rw [found, same]
    · cases fetched
  · cases fetched

/-- A node answers with what is on chain, or its request fails. -/
def inform (chain : Chain) (env : Env) : Op → Env
  | .getTransaction network digest => { env with transaction := match env.transaction with
      | .ok _ => chain.getTransaction network digest
      | .error error => .error error }
  | _ => env

end Chain

def Config.accepting (config : Config) (acceptedCoinTypes : List String) : Config :=
  { config with acceptedCoinTypes := acceptedCoinTypes }

/-- A `recordDeposit` call, and `BILLING_ACCEPTED_COIN_TYPES` of the process that serves it. -/
structure Declaration where
  acceptedCoinTypes : List String
  userId : Uuid
  network : String
  txDigest : String
  deriving DecidableEq

def Declaration.call (declaration : Declaration) : Call :=
  .recordDeposit declaration.userId declaration.network declaration.txDigest

/-- What the declared transaction pays to the caller's deposit address in accepted coins. -/
def Declaration.payment (chain : Chain) (config : Config) (declaration : Declaration) :
    Option (String × VerifiedDeposit) :=
  match chain.find declaration.txDigest, config.deriveDepositAddress declaration.userId declaration.network with
  | some (there, .transaction none (some sender) changes), .ok recipient =>
      if there = declaration.network then some (recipient, ⟨declaration.txDigest, sender,
        creditedSums (config.accepting declaration.acceptedCoinTypes) recipient changes⟩)
      else none
  | _, _ => none

/-- `recordDeposit` calls of any users, served by processes of any accepted lists. -/
def declarations (chain : Chain) (config : Config) :
    Machine Op Res Env Store Declaration Thrown RecordDepositResult where
  exec := fun index op env store => exec index op (chain.inform env op) store
  program := fun declaration => recordDeposit (config.accepting declaration.acceptedCoinTypes)
    declaration.userId declaration.network declaration.txDigest
  enter := fun _ store => some store
  leave := fun index _ result store => match result with
    | some _ => store
    | none => store.rollback index

abbrev DepositSystem := System Op Res Store Declaration Thrown RecordDepositResult

/-- No account, no row and no call yet. -/
def opening : DepositSystem := ⟨⟨[], [], [], 0⟩, []⟩

/-! ### What a call knows at its statements -/

/-- The deposit address of an account is the derived one, once it has any. -/
def Derived (config : Config) (account : BillingAccount) : Prop :=
  ∀ address ∈ account.depositAddress, config.deriveDepositAddress account.userId account.network = .ok address

def Saw (past : Past) (userId : Uuid) (network : String) (account : BillingAccount) : Prop :=
  ⟨.selectAccount userId network, some account⟩ ∈ past ∨ ⟨.insertAccount userId network, some account⟩ ∈ past

/-- The account was there for an insert and is missing for a later select. -/
def Lost : Past → Prop
  | [] => False
  | ⟨.selectAccount userId network, none⟩ :: past => ⟨.insertAccount userId network, none⟩ ∈ past ∨ Lost past
  | _ :: past => Lost past

/-- Answers the store gives: derived addresses only, and no account that went missing. -/
structure Credible (config : Config) (past : Past) : Prop where
  derived : ∀ userId network account, Saw past userId network account → Derived config account
  kept : ¬Lost past
  updated : ∀ credit, ⟨.addCredits credit, .ok none⟩ ∉ past

/-- Nothing outside failed at this statement, and the feed quoted no less than `floor`. -/
def undisturbed (floor : String → Int) : Entry Op Res → Bool
  | ⟨.begin, .error _⟩ => false
  | ⟨.commit, .error _⟩ => false
  | ⟨.addCredits _, .error _⟩ => false
  | ⟨.insertDeposit _, .error error⟩ => error = uniqueViolation
  | ⟨.getTransaction _ _, .error _⟩ => false
  | ⟨.creditsFor _ _, .error _⟩ => false
  | ⟨.creditsFor coinType _, .ok (credits, _)⟩ => floor coinType ≤ credits
  | ⟨.enqueueSweep _ _ _, .error _⟩ => false
  | _ => true

/-- The digest was taken: another row has the key, or its owner is somebody else. -/
def Refused (declaration : Declaration) (past : Past) : Prop :=
  (∃ prior, ⟨.selectDeposit declaration.txDigest, some prior⟩ ∈ past ∧
    ¬(prior.userId = declaration.userId ∧ prior.network = declaration.network)) ∨
  ∃ new, ⟨.insertDeposit new, .error uniqueViolation⟩ ∈ past

/-- The lookup found nothing and the transaction has not ended. -/
structure Declaring (digest : String) (past : Past) : Prop where
  looked : ⟨.selectDeposit digest, none⟩ ∈ past
  uncommitted : ∀ answer, ⟨.commit, answer⟩ ∉ past

/-- The coin of a row with its amount. -/
def BillingDeposit.coin (row : BillingDeposit) : String × Int := (row.coinType, row.amountAtomic)

/-- The rows of the open transaction are the done coins, each at the price the feed answered. -/
structure Inserted (digest : String) (done : List (String × Int)) (past : Past) (rows : List BillingDeposit) : Prop where
  declaring : Declaring digest past
  coins : rows.map BillingDeposit.coin = done
  priced : ∀ row ∈ rows, ⟨.creditsFor row.coinType row.amountAtomic,
    .ok (row.creditsCredited, row.rateMicroPerAtomic)⟩ ∈ past

/-- The paid coins with what they were converted to, and nothing else. -/
def wages (userId : Uuid) (network : String) (rows : List BillingDeposit) : Posting :=
  ⟨[⟨userId, network, (rows.map BillingDeposit.creditsCredited).sum⟩], [], rows⟩

def reads (chain : Chain) : (op : Op) → Res op → Prop
  | .getTransaction network digest, .ok result => chain.find digest = some (network, result)
  | .selectAccount userId network, some account => account.userId = userId ∧ account.network = network
  | .insertAccount userId network, some account => account.userId = userId ∧ account.network = network ∧
      account.depositAddress = none
  | .insertDeposit new, .ok row => ∃ id, row = new.row id
  | _, _ => True

def allowed (chain : Chain) (config : Config) (declaration : Declaration) (past : Past) : Op → Prop
  | .selectDeposit digest => past = [] ∧ digest = declaration.txDigest
  | .setDepositAddress id address =>
      config.deriveDepositAddress declaration.userId declaration.network = .ok address ∧
      ∃ account, Saw past declaration.userId declaration.network account ∧ account.id = id
  | .insertDeposit new => ∃ recipient verified done coin rest, ∃ converted : Int × Int,
      declaration.payment chain config = some (recipient, verified) ∧
      verified.amountsAtomic = done ++ coin :: rest ∧
      Inserted declaration.txDigest done past (posting past).deposits ∧
      new = ⟨declaration.userId, declaration.network, suffixForCoinType verified coin.1, verified.sender, coin.1, coin.2,
        converted.1, converted.2⟩
  | .commit => ∃ recipient verified rows, declaration.payment chain config = some (recipient, verified) ∧
      Inserted declaration.txDigest verified.amountsAtomic past rows ∧
      posting past = wages declaration.userId declaration.network rows
  | _ => True

/-- The declared transaction pays accepted coins worth the minimum even at `floor`. -/
def Worthy (chain : Chain) (config : Config) (floor : String → Int) (declaration : Declaration) : Prop :=
  ∃ recipient verified, declaration.payment chain config = some (recipient, verified) ∧ verified.amountsAtomic ≠ [] ∧
    config.minDepositMicro ≤ (verified.amountsAtomic.map (fun coin => floor coin.1)).sum

/-- A returned call has replayed a row it found or has committed. -/
def Answered (digest : String) (past : Past) (reply : RecordDepositResult) : Prop :=
  reply.duplicate = true ∧ ⟨.selectDeposit digest, some reply.deposit⟩ ∈ past ∧ (∀ answer, ⟨.commit, answer⟩ ∉ past) ∨
    reply.duplicate = false ∧ ⟨.commit, .ok ()⟩ ∈ past

/-- A call about a worthy payment throws only when disturbed or refused. -/
def Excused (chain : Chain) (config : Config) (floor : String → Int) (declaration : Declaration) (past : Past) : Prop :=
  Credible config past → (∀ entry ∈ past, undisturbed floor entry) → Worthy chain config floor declaration →
    Refused declaration past

def declares (chain : Chain) (config : Config) (floor : String → Int) (declaration : Declaration) :
    Contract Op Res Thrown RecordDepositResult where
  answers := reads chain
  before past op := Credible config past → allowed chain config declaration past op
  after past result := match result with
    | .ok reply => Answered declaration.txDigest past reply
    | .error _ => Excused chain config floor declaration past

/-! ### Facts that only grow with the history -/

section Growing

variable {chain : Chain} {config : Config} {floor : String → Int} {declaration : Declaration} {past : Past}
variable {entry : Entry Op Res}

theorem Lost.cons (lost : Lost past) (entry : Entry Op Res) : Lost (entry :: past) := by
  unfold Lost
  split
  next same => cases same
  next same =>
    cases same
    exact .inr lost
  next same =>
    cases same
    exact lost

theorem Credible.tail (credible : Credible config (entry :: past)) : Credible config past where
  derived userId network account saw := by
    apply credible.derived userId network account
    rcases saw with seen | created
    · exact .inl (List.mem_cons_of_mem _ seen)
    · exact .inr (List.mem_cons_of_mem _ created)
  kept lost := credible.kept (lost.cons entry)
  updated credit missing := credible.updated credit (List.mem_cons_of_mem _ missing)

theorem Refused.cons (refused : Refused declaration past) (entry : Entry Op Res) :
    Refused declaration (entry :: past) := by
  rcases refused with ⟨prior, found, foreign⟩ | ⟨new, violated⟩
  · exact .inl ⟨prior, List.mem_cons_of_mem _ found, foreign⟩
  · exact .inr ⟨new, List.mem_cons_of_mem _ violated⟩

theorem Excused.cons (excused : Excused chain config floor declaration past) (entry : Entry Op Res) :
    Excused chain config floor declaration (entry :: past) := by
  intro credible calm worthy
  exact (excused credible.tail (fun other member => calm other (List.mem_cons_of_mem _ member)) worthy).cons entry

/-- A failure from outside excuses the call. -/
theorem excused_of_disturbed (disturbed : undisturbed floor entry = false) :
    Excused chain config floor declaration (entry :: past) := by
  intro _ calm _
  have still := calm entry (by simp)
  rw [disturbed] at still
  cases still

/-- Statements that neither look up, insert nor end anything. -/
def quiet : Op → Bool
  | .selectAccount _ _ => true
  | .insertAccount _ _ => true
  | .setDepositAddress _ _ => true
  | .getTransaction _ _ => true
  | .creditsFor _ _ => true
  | _ => false

/-- A fact that quiet statements do not touch. -/
def Stable (keep : Past → Prop) : Prop :=
  ∀ (entry : Entry Op Res) past, quiet entry.1 = true → keep past → keep (entry :: past)

theorem Declaring.cons {digest : String} (declaring : Declaring digest past) (running : ∀ answer, entry ≠ ⟨.commit, answer⟩) :
    Declaring digest (entry :: past) where
  looked := List.mem_cons_of_mem _ declaring.looked
  uncommitted answer member := by
    rcases List.mem_cons.mp member with same | before
    · exact running answer same.symm
    · exact declaring.uncommitted answer before

theorem ne_commit_of_quiet (silent : quiet entry.1 = true) (answer : Res .commit) : entry ≠ ⟨.commit, answer⟩ := by
  rintro rfl
  cases silent

theorem stable_declaring (digest : String) : Stable (Declaring digest) :=
  fun _ _ silent declaring => declaring.cons (ne_commit_of_quiet silent)

/-- A conclusion drawn from the answers so far stays one. -/
theorem Stable.and_known {keep : Past → Prop} (stable : Stable keep) (config : Config) (fact : Prop) :
    Stable (fun past => keep past ∧ (Credible config past → fact)) :=
  fun entry past silent kept => ⟨stable entry past silent kept.1, fun credible => kept.2 credible.tail⟩

end Growing

theorem payment_of_found {chain : Chain} {config : Config} {declaration : Declaration} {sender recipient : String}
    {changes : List BalanceChange}
    (found : chain.find declaration.txDigest = some (declaration.network, .transaction none (some sender) changes))
    (address : config.deriveDepositAddress declaration.userId declaration.network = .ok recipient) :
    declaration.payment chain config = some (recipient, ⟨declaration.txDigest, sender,
      creditedSums (config.accepting declaration.acceptedCoinTypes) recipient changes⟩) := by
  simp [Declaration.payment, found, address]

/-! ### Walking through `recordDeposit` -/

section Walk

variable {chain : Chain} {config : Config} {floor : String → Int} {declaration : Declaration} {past : Past}

/-- A part of a declaration keeps the contract and ends as `after` says. -/
abbrev Holds {α : Type} (chain : Chain) (config : Config) (floor : String → Int) (declaration : Declaration)
    (after : Past → Except Thrown α → Prop) (past : Past) (program : Prog α) : Prop :=
  program.Obeys ((declares chain config floor declaration).ending after) past

/-- The caller's account, or a history no store gives. -/
def Opened (config : Config) (declaration : Declaration) (past : Past) : Except Thrown BillingAccount → Prop
  | .ok account => Saw past declaration.userId declaration.network account ∧ account.userId = declaration.userId ∧
      account.network = declaration.network
  | .error _ => ¬Credible config past

theorem getOrCreateAccount_holds {keep : Past → Prop} (stable : Stable keep) (kept : keep past) :
    Holds chain config floor declaration (fun past result => keep past ∧ Opened config declaration past result) past
      (getOrCreateAccount declaration.userId declaration.network) := by
  refine ⟨fun _ => trivial, fun answer known => ?_⟩
  have first := stable ⟨.selectAccount declaration.userId declaration.network, answer⟩ past rfl kept
  cases answer with
  | some account => exact ⟨first, .inl (by simp), known⟩
  | none =>
    refine ⟨fun _ => trivial, fun answer known => ?_⟩
    have second := stable ⟨.insertAccount declaration.userId declaration.network, answer⟩ _ rfl first
    cases answer with
    | some account => exact ⟨second, .inr (by simp), known.1, known.2.1⟩
    | none =>
      refine ⟨fun _ => trivial, fun answer known => ?_⟩
      have third := stable ⟨.selectAccount declaration.userId declaration.network, answer⟩ _ rfl second
      cases answer with
      | some account => exact ⟨third, .inl (by simp), known⟩
      | none => exact ⟨third, fun credible => credible.kept (.inl (by simp))⟩

/-- The address that is used is the derived one. -/
def Addressed (config : Config) (declaration : Declaration) (past : Past) : Except Thrown String → Prop
  | .ok recipient => Credible config past →
      config.deriveDepositAddress declaration.userId declaration.network = .ok recipient
  | .error _ => Credible config past →
      ∃ error, config.deriveDepositAddress declaration.userId declaration.network = .error error

theorem getOrCreateDepositAddress_holds {keep : Past → Prop} (stable : Stable keep) (kept : keep past) :
    Holds chain config floor declaration (fun past result => keep past ∧ Addressed config declaration past result) past
      (getOrCreateDepositAddress (config.accepting declaration.acceptedCoinTypes) declaration.userId
        declaration.network) := by
  apply Obeys.bind (getOrCreateAccount_holds stable kept)
  · intro past account opened
    obtain ⟨kept, saw, user, net⟩ := opened
    cases shown : account.depositAddress with
    | some address =>
      refine ⟨kept, fun credible => ?_⟩
      have derived := credible.derived _ _ account saw address shown
      rwa [user, net] at derived
    | none =>
      change Holds chain config floor declaration _ past ((unwrap
        (config.deriveDepositAddress declaration.userId declaration.network)).bind _)
      cases derived : config.deriveDepositAddress declaration.userId declaration.network with
      | error error => exact ⟨kept, fun _ => ⟨error, derived⟩⟩
      | ok address =>
        refine ⟨fun _ => ⟨derived, account, saw, rfl⟩, fun answer _ => ?_⟩
        exact ⟨stable _ _ rfl kept, fun _ => derived⟩
  · intro past error opened
    exact ⟨opened.1, fun credible => absurd credible opened.2⟩

/-- What `verifyDeposit` returns is the declared payment. -/
def Verified (chain : Chain) (config : Config) (floor : String → Int) (declaration : Declaration) (recipient : String)
    (past : Past) : Except Thrown VerifiedDeposit → Prop
  | .ok verified => verified.amountsAtomic ≠ [] ∧
      (Credible config past → declaration.payment chain config = some (recipient, verified))
  | .error _ => Excused chain config floor declaration past

theorem verifyDeposit_holds {keep : Past → Prop} (stable : Stable keep) (kept : keep past) (recipient : String)
    (address : Credible config past →
      config.deriveDepositAddress declaration.userId declaration.network = .ok recipient) :
    Holds chain config floor declaration
      (fun past result => keep past ∧ Verified chain config floor declaration recipient past result) past
      (verifyDeposit (config.accepting declaration.acceptedCoinTypes) declaration.network declaration.txDigest
        recipient) := by
  refine ⟨fun _ => trivial, fun answer known => ?_⟩
  have later := stable ⟨.getTransaction declaration.network declaration.txDigest, answer⟩ past rfl kept
  -- A transaction without a sender or with an error pays nobody.
  have unpaid : ∀ {result}, chain.find declaration.txDigest = some (declaration.network, result) →
      (∀ sender changes, result ≠ .transaction none (some sender) changes) → ∀ past,
      Excused chain config floor declaration past := by
    intro result found bad past _ _ worthy
    obtain ⟨recipient, verified, paid, _⟩ := worthy
    simp only [Declaration.payment, found] at paid
    split at paid
    next sender changes _ same _ =>
      cases same
      exact absurd rfl (bad sender changes)
    · cases paid
  cases answer with
  | error error => exact ⟨later, excused_of_disturbed rfl⟩
  | ok fetched =>
    match fetched with
    | .failed => exact ⟨later, unpaid known (by simp) _⟩
    | .transaction (some error) _ _ => exact ⟨later, unpaid known (by simp) _⟩
    | .transaction none none _ => exact ⟨later, unpaid known (by simp) _⟩
    | .transaction none (some sender) changes =>
      change Holds chain config floor declaration _ _ (if _ then _ else _)
      split
      next nothing =>
        refine ⟨later, fun credible _ worthy => ?_⟩
        obtain ⟨_, verified, paid, nonempty, _⟩ := worthy
        rw [payment_of_found known (address credible.tail)] at paid
        cases paid
        exact absurd nothing nonempty
      next something =>
        exact ⟨later, something, fun credible => payment_of_found known (address credible.tail)⟩

/-- The pre-check sums up at least what the feed quotes at its lowest. -/
theorem preTotal_holds {keep : Past → Prop} (stable : Stable keep) (kept : keep past) (coins : List (String × Int)) :
    Holds chain config floor declaration (Program.between (fun past sum => keep past ∧
        ((∀ entry ∈ past, undisturbed floor entry) → (coins.map (fun coin => floor coin.1)).sum ≤ sum))
      (fun past _ => Excused chain config floor declaration past)) past
      (fold (fun sum coin => do
        let (credits, _) ← creditsFor coin.1 coin.2
        return sum + credits) (0 : Int) coins) := by
  refine Obeys.fold_done (fun done past sum => keep past ∧
    ((∀ entry ∈ past, undisturbed floor entry) → (done.map (fun coin => floor coin.1)).sum ≤ sum)) _ []
    ⟨kept, fun _ => le_refl _⟩ ?_ coins rfl
  intro done coin rest _ past sum summed
  refine ⟨fun _ => trivial, fun answer _ => ?_⟩
  cases answer with
  | error error => exact excused_of_disturbed rfl
  | ok converted =>
    refine ⟨stable _ _ rfl summed.1, fun calm => ?_⟩
    have before := summed.2 (fun entry member => calm entry (List.mem_cons_of_mem _ member))
    have quoted : floor coin.1 ≤ converted.1 := by simpa [undisturbed] using calm _ List.mem_cons_self
    rw [List.map_append, List.sum_append, List.map_singleton, List.sum_singleton]
    exact Int.add_le_add before quoted

/-- `db.transaction` around a body that leaves a committable history or an excuse. -/
theorem transaction_holds {α : Type} {body : Prog α} (ready : Past → α → Prop)
    (inside : Holds chain config floor declaration
      (Program.between ready (fun past _ => Excused chain config floor declaration past)) (⟨.begin, .ok ()⟩ :: past) body)
    (commits : ∀ past value, ready past value → Credible config past → allowed chain config declaration past .commit) :
    Holds chain config floor declaration (Program.between (fun past _ => ⟨.commit, .ok ()⟩ ∈ past)
      (fun past _ => Excused chain config floor declaration past)) past (transaction body) := by
  refine ⟨fun _ => trivial, fun answer _ => ?_⟩
  cases answer with
  | error error => exact excused_of_disturbed rfl
  | ok value =>
    apply Obeys.rescue (Program.between (fun past _ => ⟨.commit, .ok ()⟩ ∈ past)
      (fun past _ => Excused chain config floor declaration past))
    · apply Obeys.bind inside
      · intro past value closing
        refine ⟨commits past value closing, fun answer _ => ?_⟩
        cases answer with
        | ok value => exact List.mem_cons_self
        | error error => exact excused_of_disturbed rfl
      · exact fun past error excused => excused
    · exact fun past value committed => committed
    · intro past error excused
      exact ⟨fun _ => trivial, fun _ _ => excused.cons _⟩

/-- Between two coins of the deposit transaction. -/
structure Looping (chain : Chain) (config : Config) (declaration : Declaration) (recipient : String)
    (verified : VerifiedDeposit) (done : List (String × Int)) (past : Past) (state : Int × Option BillingDeposit) :
    Prop where
  paid : Credible config past → declaration.payment chain config = some (recipient, verified)
  inserted : Inserted declaration.txDigest done past (posting past).deposits
  only : posting past = ⟨[], [], (posting past).deposits⟩
  sum : state.1 = ((posting past).deposits.map BillingDeposit.creditsCredited).sum
  last : done ≠ [] → state.2.isSome

theorem insertCoin_holds {recipient : String} {verified : VerifiedDeposit} {done rest : List (String × Int)}
    {coin : String × Int} {state : Int × Option BillingDeposit} (split : verified.amountsAtomic = done ++ coin :: rest)
    (looping : Looping chain config declaration recipient verified done past state) :
    Holds chain config floor declaration
      (Program.between (Looping chain config declaration recipient verified (done ++ [coin]))
        (fun past _ => Excused chain config floor declaration past)) past
      (insertCoin declaration.userId declaration.network verified state coin) := by
  refine ⟨fun _ => trivial, fun answer _ => ?_⟩
  cases answer with
  | error error => exact excused_of_disturbed rfl
  | ok converted =>
    have waiting : Inserted declaration.txDigest done (⟨.creditsFor coin.1 coin.2, .ok converted⟩ :: past)
        (posting past).deposits :=
      ⟨looping.inserted.declaring.cons (by simp), looping.inserted.coins,
        fun row member => List.mem_cons_of_mem _ (looping.inserted.priced row member)⟩
    refine ⟨fun credible => ⟨recipient, verified, done, coin, rest, converted, looping.paid credible.tail, split,
      waiting, rfl⟩, fun answer known => ?_⟩
    cases answer with
    | error error =>
      intro _ calm _
      have violated : error = uniqueViolation := by simpa [undisturbed] using calm _ List.mem_cons_self
      subst violated
      exact .inr ⟨_, List.mem_cons_self⟩
    | ok row =>
      obtain ⟨id, rfl⟩ := known
      refine ⟨fun credible => looping.paid credible.tail.tail, ⟨waiting.declaring.cons (by simp), ?_, ?_⟩, ?_, ?_, ?_⟩
      · change (((posting past).deposits ++ [_]).map _) = _
        rw [List.map_append, waiting.coins]
        rfl
      · intro row member
        change row ∈ (posting past).deposits ++ [_] at member
        rcases List.mem_append.mp member with before | new
        · exact List.mem_cons_of_mem _ (waiting.priced row before)
        · rw [List.mem_singleton.mp new]
          exact List.mem_cons_of_mem _ List.mem_cons_self
      · change (posting past).addDeposit _ = _
        rw [looping.only]
        rfl
      · change state.1 + converted.1 = (((posting past).deposits ++ [_]).map _).sum
        rw [looping.sum, List.map_append, List.sum_append, List.map_singleton, List.sum_singleton]
        rfl
      · exact fun _ => rfl

theorem depositTransaction_holds {recipient : String} {verified : VerifiedDeposit}
    (declaring : Declaring declaration.txDigest past) (nonempty : verified.amountsAtomic ≠ [])
    (paid : Credible config past → declaration.payment chain config = some (recipient, verified)) :
    Holds chain config floor declaration (Program.between (fun past _ => ⟨.commit, .ok ()⟩ ∈ past)
      (fun past _ => Excused chain config floor declaration past)) past
      (depositTransaction declaration.userId declaration.network verified) := by
  apply transaction_holds (fun past _ => ∃ rows, (Credible config past →
    declaration.payment chain config = some (recipient, verified)) ∧
    Inserted declaration.txDigest verified.amountsAtomic past rows ∧
    posting past = wages declaration.userId declaration.network rows)
  · apply Obeys.bind (Obeys.fold_done (Looping chain config declaration recipient verified)
      (fun past _ => Excused chain config floor declaration past) [] ?_
      (fun done coin rest split past state looping => insertCoin_holds split looping) verified.amountsAtomic rfl)
    · intro past state looping
      refine ⟨fun _ => trivial, fun answer _ => ?_⟩
      cases answer with
      | error error => exact excused_of_disturbed rfl
      | ok updated =>
        obtain ⟨deposit, inserted⟩ := Option.isSome_iff_exists.mp (looping.last nonempty)
        simp only [Program.unwrap, Program.ret_bind, inserted]
        cases updated with
        | none =>
          intro credible
          exact absurd List.mem_cons_self (credible.updated _)
        | some newBalanceMicro =>
          refine ⟨(posting past).deposits, fun credible => looping.paid credible.tail, ⟨?_, ?_, ?_⟩, ?_⟩
          · exact looping.inserted.declaring.cons (by simp)
          · exact looping.inserted.coins
          · exact fun row member => List.mem_cons_of_mem _ (looping.inserted.priced row member)
          · change (posting past).addCredit _ = _
            rw [looping.only, looping.sum]
            rfl
    · exact fun past error excused => excused
    · exact ⟨fun credible => paid credible.tail, ⟨declaring.cons (by simp), rfl, by simp [posting, Posting.empty]⟩,
        rfl, rfl, by simp⟩
  · rintro past value ⟨rows, paid, inserted, written⟩ credible
    exact ⟨recipient, verified, rows, paid credible, inserted, written⟩

/-- The replay branch: read the balance next to the row that was found. -/
theorem replay_holds (prior : BillingDeposit) :
    Holds chain config floor declaration (declares chain config floor declaration).after
      [⟨.selectDeposit declaration.txDigest, some prior⟩]
      (do
        let balance ← getBalance declaration.userId declaration.network
        return (⟨prior, true, balance⟩ : RecordDepositResult)) := by
  have stable : Stable (fun past => ⟨.selectDeposit declaration.txDigest, some prior⟩ ∈ past ∧
      ∀ answer, ⟨.commit, answer⟩ ∉ past) := by
    intro entry past silent kept
    refine ⟨List.mem_cons_of_mem _ kept.1, fun answer member => ?_⟩
    rcases List.mem_cons.mp member with same | before
    · exact ne_commit_of_quiet silent answer same.symm
    · exact kept.2 answer before
  have read : Holds chain config floor declaration (fun past result => match result with
      | .ok _ => ⟨.selectDeposit declaration.txDigest, some prior⟩ ∈ past ∧ ∀ answer, ⟨.commit, answer⟩ ∉ past
      | .error _ => ¬Credible config past)
      [⟨.selectDeposit declaration.txDigest, some prior⟩] (getBalance declaration.userId declaration.network) := by
    apply Obeys.bind (getOrCreateAccount_holds stable ⟨by simp, by simp⟩)
    · exact fun past account opened => opened.1
    · exact fun past error opened => opened.2
  apply Obeys.bind read
  · exact fun past balance kept => .inl ⟨rfl, kept⟩
  · exact fun past error lost credible => absurd credible lost

theorem recordDeposit_obeys (chain : Chain) (config : Config) (floor : String → Int) (declaration : Declaration) :
    (recordDeposit (config.accepting declaration.acceptedCoinTypes) declaration.userId declaration.network
      declaration.txDigest).Obeys (declares chain config floor declaration) [] := by
  refine ⟨fun _ => ⟨rfl, rfl⟩, fun answer _ => ?_⟩
  cases answer with
  | some prior =>
    have foreign : ¬(prior.userId = declaration.userId ∧ prior.network = declaration.network) →
        Excused chain config floor declaration [⟨.selectDeposit declaration.txDigest, some prior⟩] :=
      fun other _ _ _ => .inl ⟨prior, by simp, other⟩
    change Obeys _ _ (if _ then _ else _)
    split
    next other => exact foreign (fun same => other same.1)
    next user =>
      split
      next other => exact foreign (fun same => other same.2)
      next net => exact replay_holds prior
  | none =>
    have declaring : Declaring declaration.txDigest [⟨.selectDeposit declaration.txDigest, none⟩] :=
      ⟨by simp, by simp⟩
    have stable := stable_declaring declaration.txDigest
    change Holds chain config floor declaration (declares chain config floor declaration).after _ _
    apply Obeys.bind (getOrCreateDepositAddress_holds stable declaring)
    · rintro past recipient ⟨declaring, address⟩
      apply Obeys.bind (verifyDeposit_holds stable declaring recipient address)
      · rintro past verified ⟨declaring, nonempty, paid⟩
        have stable := stable.and_known config (declaration.payment chain config = some (recipient, verified))
        apply Obeys.bind (preTotal_holds stable ⟨declaring, paid⟩ verified.amountsAtomic)
        · rintro past preTotal ⟨kept, quoted⟩
          dsimp only
          split
          next below =>
            intro credible calm worthy
            obtain ⟨_, _, declared, _, minimum⟩ := worthy
            rw [kept.2 credible] at declared
            cases declared
            exact absurd (minimum.trans (quoted calm)) (Int.not_le.mpr below)
          next enough =>
            apply Obeys.bind (getOrCreateAccount_holds stable kept)
            · rintro past account ⟨⟨declaring, paid⟩, _⟩
              apply Obeys.bind (depositTransaction_holds declaring nonempty paid)
              · intro past credited committed
                refine ⟨fun _ => trivial, fun answer _ => ?_⟩
                cases answer with
                | ok value => exact .inr ⟨rfl, List.mem_cons_of_mem _ committed⟩
                | error error => exact excused_of_disturbed rfl
              · exact fun past error excused => excused
            · exact fun past error lost credible => absurd credible lost.2
        · exact fun past error excused => excused
      · exact fun past error excused => excused.2
    · rintro past error ⟨_, missing⟩ credible _ worthy
      obtain ⟨other, failed⟩ := missing credible
      obtain ⟨recipient, verified, paid, _⟩ := worthy
      simp only [Declaration.payment, failed] at paid
      split at paid <;> simp_all

end Walk

/-! ### Both contracts of a declaration -/

/-- What a declaration shares with every billing call, and what it says of the payment. -/
def pledge (chain : Chain) (config : Config) (floor : String → Int) (declaration : Declaration) :
    Contract Op Res Thrown RecordDepositResult :=
  ((contract declaration.call).ending (Ends declaration.call)).both (declares chain config floor declaration)

theorem reads_exec {chain : Chain} {index : Nat} {op : Op} {env : Env} {store after : Store} {answer : Res op}
    (executed : exec index op (chain.inform env op) store = some (answer, after)) : reads chain op answer := by
  cases op with
  | insertDeposit new =>
    have known := answers_exec executed
    cases answer with
    | error error => trivial
    | ok row => exact known
  | getTransaction network digest =>
    cases executed
    cases fetched : (chain.inform env (.getTransaction network digest)).transaction with
    | error error => trivial
    | ok result =>
      simp only [Chain.inform] at fetched
      split at fetched
      · exact chain.find_of_getTransaction fetched
      · cases fetched
  | selectAccount userId network =>
    cases executed
    cases found : store.findSlot userId network with
    | none => trivial
    | some slot => exact (has_of_findSlot found).2
  | insertAccount userId network =>
    simp only [exec] at executed
    split at executed
    · cases executed
      trivial
    · cases executed
      exact ⟨rfl, rfl, rfl⟩
  | _ => trivial

theorem pledged (chain : Chain) (config : Config) (floor : String → Int) :
    (declarations chain config).Honours (pledge chain config floor) where
  programs declaration := by
    apply Obeys.both
    · exact recordDeposit_meets _ _ _ _ id (fun _ => trivial) ⟨rfl, fun _ => id⟩
    · exact recordDeposit_obeys chain config floor declaration
  answers executed declaration := ⟨answers_exec executed, reads_exec executed⟩

end MpcKit.Billing
