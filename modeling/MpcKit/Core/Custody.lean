import MpcKit.Core.Answers
import MpcKit.Core.Rosters

/-! Where the caps are. Each cap the coordinator returned stays in the one place it was put, and only
a verified operation obtains an approval for the cap of a shared wallet. -/

namespace MpcKit.Core
open MpcKit.Transact

variable (c : Coordinator)

inductive Cap where
  | dwallet (cap : c.DWalletCap)
  | importedKey (cap : c.ImportedKeyDWalletCap)

variable {c}

def Cap.dwalletId : Cap c → ID
  | .dwallet cap => c.dwalletId cap
  | .importedKey cap => c.importedKeyDwalletId cap

/-- `DWalletKey`, `SharedDWalletKey` and `ImportedKeyDWalletKey`. -/
inductive KeyKind where
  | dwallet
  | shared
  | importedKey
  deriving DecidableEq

/-- A dynamic object field of an account. -/
structure Place where
  accountId : ID
  kind : KeyKind
  dwalletId : ID
  deriving DecidableEq

def Account.capAt (account : Account c) : KeyKind → ID → Option (Cap c)
  | .dwallet, dwalletId => (account.dwallets dwalletId).map (fun stored => .dwallet stored.cap)
  | .shared, dwalletId => (account.shared dwalletId).map (fun stored => .dwallet stored.cap)
  | .importedKey, dwalletId => (account.importedKeys dwalletId).map (fun stored => .importedKey stored.cap)

def Chain.capAt (chain : Chain c) (place : Place) : Option (Cap c) :=
  (chain.accounts place.accountId).bind (fun account => account.capAt place.kind place.dwalletId)

def Event.cap : Event c → Option (Cap c)
  | .received cap => some (.dwallet cap)
  | .receivedImportedKey cap => some (.importedKey cap)
  | _ => none

/-- The caps that an entry records. -/
def recordedCaps (events : List (Event c)) : List (Cap c) := events.filterMap Event.cap

/-! ### One call -/

theorem recordedCaps_approvals (op : SharedOp) (passed : Verified) (cap : c.DWalletCap) :
    recordedCaps (.verified passed :: op.approvals cap) = [] := by
  cases op <;> rfl

/-- An entry leaves all caps of an account where they are, or puts one received cap into a free
field under the cap's own dwallet id. -/
theorem effect_caps {natives : Natives} {ctx : TxContext} {signers : List Credential} {newId : ID}
    {account account' : Account c}
    {label : Option (ID × SharedOp)} {events : List (Event c)}
    (effect : Effect natives ctx signers newId account label account' events) :
    (recordedCaps events = [] ∧ ∀ kind dwalletId, account'.capAt kind dwalletId = account.capAt kind dwalletId) ∨
      ∃ cap kind, recordedCaps events = [cap] ∧ account.capAt kind cap.dwalletId = none ∧
        account'.capAt kind cap.dwalletId = some cap ∧
        ∀ other dwalletId, (other, dwalletId) ≠ (kind, cap.dwalletId) →
          account'.capAt other dwalletId = account.capAt other dwalletId := by
  cases effect with
  | @operated op target before changed found operates =>
    refine .inl ⟨recordedCaps_approvals op _ _, ?_⟩
    intro kind dwalletId
    cases kind with
    | dwallet => rfl
    | importedKey => rfl
    | shared =>
      simp only [Account.capAt, Account.shared_putShared]
      split
      next same =>
        subst same
        rw [found, Option.map_some, Option.map_some, operates.cap_eq]
      next => rfl
  | signedZeroTrust => exact .inl ⟨rfl, fun _ _ => rfl⟩
  | signedImportedKey => exact .inl ⟨rfl, fun _ _ => rfl⟩
  | @storedZeroTrust cap free =>
    refine .inr ⟨.dwallet cap, .dwallet, rfl, ?_, ?_, ?_⟩
    · simp [Account.capAt, Cap.dwalletId, free]
    · simp [Account.capAt, Account.putDwallet, Cap.dwalletId]
    · intro other dwalletId different
      cases other with
      | dwallet =>
        have apart : dwalletId ≠ c.dwalletId cap := fun same => different (by rw [same]; rfl)
        simp [Account.capAt, Account.putDwallet, apart]
      | shared => rfl
      | importedKey => rfl
  | @storedShared cap creds threshold roster free built =>
    refine .inr ⟨.dwallet cap, .shared, rfl, ?_, ?_, ?_⟩
    · simp [Account.capAt, Cap.dwalletId, free]
    · simp [Account.capAt, Account.putShared, Cap.dwalletId]
    · intro other dwalletId different
      cases other with
      | dwallet => rfl
      | shared =>
        have apart : dwalletId ≠ c.dwalletId cap := fun same => different (by rw [same]; rfl)
        simp [Account.capAt, Account.putShared, apart]
      | importedKey => rfl
  | @storedImportedKey cap free =>
    refine .inr ⟨.importedKey cap, .importedKey, rfl, ?_, ?_, ?_⟩
    · simp [Account.capAt, Cap.dwalletId, free]
    · simp [Account.capAt, Account.putImportedKey, Cap.dwalletId]
    · intro other dwalletId different
      cases other with
      | dwallet => rfl
      | shared => rfl
      | importedKey =>
        have apart : dwalletId ≠ c.importedKeyDwalletId cap := fun same => different (by rw [same]; rfl)
        simp [Account.capAt, Account.putImportedKey, apart]

theorem Chain.capAt_putAccount (chain : Chain c) (accountId : ID) (account : Account c) (place : Place) :
    (chain.putAccount accountId account).capAt place =
      if place.accountId = accountId then account.capAt place.kind place.dwalletId else chain.capAt place := by
  unfold Chain.capAt Chain.putAccount
  split <;> simp_all

section
variable {natives : Natives} {chain after : Chain c} {receipt : Receipt c} {input : Tx × Call c}
  {signers : List Credential}

theorem Chain.Distinct.capAt_at (distinct : chain.Distinct) {tx : Tx} (offers : chain.Offers tx) {accountId : ID}
    {account : Account c} (stands : chain.At tx accountId account) {place : Place} (here : place.accountId = accountId) :
    chain.capAt place = account.capAt place.kind place.dwalletId := by
  subst here
  rcases stands with found | ⟨new, rfl⟩
  · simp [Chain.capAt, found]
  · rw [Chain.capAt, new, distinct.free offers]
    cases place.kind <;> rfl

/-- The caps after a transition of the accounts. -/
def Kept (chain : Chain c) (accounts : ID → Option (Account c)) (received : List (Cap c)) : Prop :=
  let capAt := fun place : Place => (accounts place.accountId).bind (fun account => account.capAt place.kind place.dwalletId)
  (received = [] ∧ ∀ place, capAt place = chain.capAt place) ∨
    ∃ cap place, received = [cap] ∧ place.dwalletId = cap.dwalletId ∧ chain.capAt place = none ∧
      capAt place = some cap ∧ ∀ other, other ≠ place → capAt other = chain.capAt other

theorem moved_caps (distinct : chain.Distinct) {tx : Tx} (offers : chain.Offers tx)
    {label : Option (ID × ID × SharedOp)} {accounts : ID → Option (Account c)} {events : List (Event c)}
    (moved : Moved natives chain tx signers label accounts events) : Kept chain accounts (recordedCaps events) := by
  cases moved with
  | still => exact .inl ⟨rfl, fun _ => rfl⟩
  | registered =>
    refine .inl ⟨rfl, fun place => ?_⟩
    refine (Chain.capAt_putAccount chain tx.accountId Account.registerAccount place).trans ?_
    split
    next same => rw [distinct.capAt_at offers (.inr ⟨rfl, rfl⟩) same]
    next => rfl
  | @entered target account account' label events stands effect =>
    have after := Chain.capAt_putAccount chain target account'
    have before : ∀ {place : Place}, place.accountId = target →
        chain.capAt place = account.capAt place.kind place.dwalletId := distinct.capAt_at offers stands
    rcases effect_caps effect with ⟨none, same⟩ | ⟨cap, kind, received, free, stored, others⟩
    · refine .inl ⟨none, fun place => (after place).trans ?_⟩
      split
      next here => rw [same, before here]
      next => rfl
    · refine .inr ⟨cap, ⟨target, kind, cap.dwalletId⟩, received, rfl, ?_, ?_, ?_⟩
      · rw [before rfl]
        exact free
      · exact (after _).trans ((if_pos rfl).trans stored)
      · intro other different
        refine (after other).trans ?_
        split
        next here =>
          rw [before here, others]
          intro same
          cases other
          simp_all
        next => rfl

theorem exec_caps (distinct : chain.Distinct) (done : chain.exec natives input = .ok (receipt, after)) :
    Kept chain after.accounts (recordedCaps receipt.events) := by
  obtain ⟨offers, moved, _⟩ := exec_moved done
  exact moved_caps distinct offers moved

theorem Kept.capAt {accounts : ID → Option (Account c)} {received : List (Cap c)} (kept : Kept chain accounts received)
    {place : Place} {cap : Cap c} (held : chain.capAt place = some cap) :
    (accounts place.accountId).bind (fun account => account.capAt place.kind place.dwalletId) = some cap := by
  rcases kept with ⟨_, same⟩ | ⟨_, new, _, _, free, _, others⟩
  · exact (same place).trans held
  · by_cases here : place = new
    · rw [here, free] at held
      cases held
    · exact (others place here).trans held

/-! ### Sequences of calls -/

/-- The caps of `seen` are exactly those in the accounts, each in one place under its own id. -/
structure Custody (seen : List (Cap c)) (chain : Chain c) : Prop where
  keyed : ∀ {place : Place} {cap : Cap c}, chain.capAt place = some cap → place.dwalletId = cap.dwalletId
  known : ∀ {place : Place} {cap : Cap c}, chain.capAt place = some cap → cap ∈ seen
  held : ∀ {cap : Cap c}, cap ∈ seen → ∃ place, chain.capAt place = some cap
  unique : ∀ {place other : Place} {cap cap' : Cap c}, chain.capAt place = some cap →
    chain.capAt other = some cap' → cap.dwalletId = cap'.dwalletId → place = other

theorem Custody.exec {seen : List (Cap c)} (custody : Custody seen chain) (distinct : chain.Distinct)
    (done : chain.exec natives input = .ok (receipt, after))
    (fresh : ∀ cap ∈ recordedCaps receipt.events, ∀ old ∈ seen, old.dwalletId ≠ cap.dwalletId) :
    Custody (seen ++ recordedCaps receipt.events) after := by
  rcases exec_caps distinct done with ⟨none, same⟩ | ⟨cap, new, received, own, free, stored, others⟩
  · have same : ∀ place, after.capAt place = chain.capAt place := same
    rw [none, List.append_nil]
    constructor
    case keyed =>
      intro place cap held
      exact custody.keyed ((same place) ▸ held)
    case known =>
      intro place cap held
      exact custody.known ((same place) ▸ held)
    case held =>
      intro cap inside
      obtain ⟨place, held⟩ := custody.held inside
      exact ⟨place, (same place).trans held⟩
    case unique =>
      intro place other cap cap' held held' ids
      exact custody.unique ((same place) ▸ held) ((same other) ▸ held') ids
  · have stored : after.capAt new = some cap := stored
    have others : ∀ other, other ≠ new → after.capAt other = chain.capAt other := others
    rw [received] at fresh ⊢
    have cases : ∀ {place : Place} {found : Cap c}, after.capAt place = some found →
        (place = new ∧ found = cap) ∨ chain.capAt place = some found := by
      intro place found held
      by_cases here : place = new
      · subst here
        exact .inl ⟨rfl, Option.some.inj (held.symm.trans stored)⟩
      · exact .inr ((others place here) ▸ held)
    have apart : ∀ {place : Place} {found : Cap c}, chain.capAt place = some found →
        found.dwalletId ≠ cap.dwalletId :=
      fun held => fresh cap (List.mem_singleton.mpr rfl) _ (custody.known held)
    constructor
    case keyed =>
      intro place found held
      rcases cases held with ⟨rfl, rfl⟩ | stood
      · exact own
      · exact custody.keyed stood
    case known =>
      intro place found held
      rcases cases held with ⟨rfl, rfl⟩ | stood
      · exact List.mem_append_right _ (List.mem_singleton.mpr rfl)
      · exact List.mem_append_left _ (custody.known stood)
    case held =>
      intro found inside
      rcases List.mem_append.mp inside with old | inside
      · obtain ⟨place, stood⟩ := custody.held old
        refine ⟨place, (others place ?_).trans stood⟩
        rintro rfl
        rw [free] at stood
        cases stood
      · rw [List.mem_singleton.mp inside]
        exact ⟨new, stored⟩
    case unique =>
      intro place other found found' held held' ids
      rcases cases held with ⟨rfl, rfl⟩ | stood
      · rcases cases held' with ⟨rfl, rfl⟩ | stood'
        · rfl
        · exact absurd ids.symm (apart stood')
      · rcases cases held' with ⟨rfl, rfl⟩ | stood'
        · exact absurd ids (apart stood)
        · exact custody.unique stood stood' ids

end

/-- All caps that the calls of a sequence have recorded. -/
def recorded (natives : Natives) (chain : Chain c) (inputs : List (Tx × Call c)) : List (Cap c) :=
  (records (Chain.exec natives) chain inputs).flatMap (fun record => recordedCaps record.output.events)

section
variable {natives : Natives} {chain : Chain c} {seen : List (Cap c)}

theorem custody_run (inputs : List (Tx × Call c)) (custody : Custody seen chain) (distinct : chain.Distinct)
    (fresh : ((seen ++ recorded natives chain inputs).map Cap.dwalletId).Nodup) :
    Custody (seen ++ recorded natives chain inputs) (final (Chain.exec natives) chain inputs) ∧
      ∀ record ∈ records (Chain.exec natives) chain inputs,
        (∃ before, Custody before record.before) ∧ record.before.Distinct ∧
          record.before.exec natives record.input = .ok (record.output, record.after) := by
  induction inputs generalizing chain seen with
  | nil =>
    rw [recorded, records, List.flatMap_nil, List.append_nil]
    exact ⟨custody, by simp⟩
  | cons input rest ih =>
    cases done : chain.exec natives input with
    | ok result =>
      obtain ⟨receipt, after⟩ := result
      have split : recorded natives chain (input :: rest) =
          recordedCaps receipt.events ++ recorded natives after rest := by
        rw [recorded, records_cons_ok done, List.flatMap_cons, recorded]
      rw [split, ← List.append_assoc] at fresh ⊢
      have new : ∀ cap ∈ recordedCaps receipt.events, ∀ old ∈ seen, old.dwalletId ≠ cap.dwalletId := by
        intro cap inside old before
        rw [List.map_append, List.map_append, List.append_assoc] at fresh
        have apart := (List.nodup_append.mp fresh).2.2
        exact apart _ (List.mem_map_of_mem before) _ (List.mem_append_left _ (List.mem_map_of_mem inside))
      obtain ⟨last, all⟩ := ih (custody.exec distinct done new) (distinct.exec done) fresh
      rw [final_cons, step_of_ok done, records_cons_ok done]
      refine ⟨last, ?_⟩
      intro record inside
      rcases List.mem_cons.mp inside with rfl | later
      · exact ⟨⟨seen, custody⟩, distinct, done⟩
      · exact all record later
    | error abort =>
      have same : recorded natives chain (input :: rest) = recorded natives chain rest := by
        rw [recorded, records_cons_error done, recorded]
      rw [same] at fresh ⊢
      rw [final_cons, step_of_error done, records_cons_error done]
      exact ih custody distinct fresh

theorem capAt_run (inputs : List (Tx × Call c)) (distinct : chain.Distinct) {place : Place} {cap : Cap c}
    (held : chain.capAt place = some cap) : (final (Chain.exec natives) chain inputs).capAt place = some cap := by
  have kept : ∀ {state after : Chain c} {input : Tx × Call c} {receipt : Receipt c},
      (state.Distinct ∧ state.capAt place = some cap) → state.exec natives input = .ok (receipt, after) →
        after.Distinct ∧ after.capAt place = some cap :=
    fun both done => ⟨both.1.exec done, (exec_caps both.1 done).capAt both.2⟩
  exact (final_invariant kept ⟨distinct, held⟩ inputs).2

/-! ### Approvals -/

theorem of_mem_approvals {op : SharedOp} {cap approved : c.DWalletCap} {algorithm hash : UInt32} {message : Bytes}
    (inside : Event.approved approved algorithm hash message ∈ op.approvals cap) :
    approved = cap ∧ (op = .requestSign algorithm hash message ∨ op = .completeFutureSign algorithm hash message) := by
  cases op with
  | requestSign =>
    obtain ⟨rfl, rfl, rfl, rfl⟩ : approved = cap ∧ _ ∧ _ ∧ _ := by
      simpa [SharedOp.approvals] using inside
    exact ⟨rfl, .inl rfl⟩
  | completeFutureSign =>
    obtain ⟨rfl, rfl, rfl, rfl⟩ : approved = cap ∧ _ ∧ _ ∧ _ := by
      simpa [SharedOp.approvals] using inside
    exact ⟨rfl, .inr rfl⟩
  | addCredential => cases inside
  | removeCredential => cases inside
  | setThreshold => cases inside
  | requestFutureSign => cases inside

/-- An approval for the cap of a shared wallet comes from an operation verified on its wrapper. -/
theorem approval_verified {tx : Tx} {signers : List Credential} (custody : Custody seen chain)
    (distinct : chain.Distinct) (offers : chain.Offers tx)
    {label : Option (ID × ID × SharedOp)} {accounts : ID → Option (Account c)} {events : List (Event c)}
    (moved : Moved natives chain tx signers label accounts events) {accountId dwalletId : ID}
    {stored : StoredSharedDWallet c}
    (found : chain.wrapper accountId dwalletId = some stored) {algorithm hash : UInt32} {message : Bytes}
    (approved : Event.approved stored.cap algorithm hash message ∈ events) :
    ∃ op, (op = .requestSign algorithm hash message ∨ op = .completeFutureSign algorithm hash message) ∧
      label = some (accountId, dwalletId, op) ∧ Event.verified (stored.verifying natives op) ∈ events ∧
      auth.verifyThreshold natives stored.credentials (op.challenge natives stored.id stored.nonce) tx.ctx signers
        stored.threshold = .ok () := by
  have here : chain.capAt ⟨accountId, .shared, dwalletId⟩ = some (.dwallet stored.cap) := by
    obtain ⟨account, known, inside⟩ := Option.bind_eq_some_iff.mp found
    simp [Chain.capAt, Account.capAt, known, inside]
  cases moved with
  | still => cases approved
  | registered => cases approved
  | @entered target account account' label events stands effect =>
    have at_target : ∀ {kind : KeyKind} {id : ID},
        chain.capAt ⟨target, kind, id⟩ = account.capAt kind id := distinct.capAt_at offers stands rfl
    cases effect with
    | @operated op wallet before changed there operates =>
      rcases List.mem_cons.mp approved with impossible | approved
      · cases impossible
      obtain ⟨caps, asked⟩ := of_mem_approvals approved
      have other : chain.capAt ⟨target, .shared, wallet⟩ = some (.dwallet before.cap) := by
        rw [at_target, Account.capAt, there, Option.map_some]
      have same := custody.unique here other (by rw [caps])
      injection same with accounts_eq _ wallets_eq
      subst accounts_eq wallets_eq
      rw [distinct.wrapper_at offers stands, there] at found
      obtain rfl : before = stored := Option.some.inj found
      exact ⟨op, asked, rfl, List.mem_cons_self, operates.verified⟩
    | @signedZeroTrust args held signId there =>
      -- The cap would also sit under a zero-trust key.
      have caps : stored.cap = held.cap := by
        simp only [List.mem_cons, Event.approved.injEq, List.not_mem_nil, or_false, reduceCtorEq] at approved
        exact approved.1
      have other : chain.capAt ⟨target, .dwallet, args.dwalletId⟩ = some (.dwallet held.cap) := by
        rw [at_target, Account.capAt, there, Option.map_some]
      have same := custody.unique here other (by rw [caps])
      cases same
    | signedImportedKey => simp at approved
    | storedZeroTrust => simp at approved
    | storedShared => simp at approved
    | storedImportedKey => simp at approved

theorem Custody.genesis (state : c.State) (admin operator : ID) : Custody [] (Chain.genesis state admin operator) := by
  constructor
  case keyed =>
    intro place cap held
    cases held
  case known =>
    intro place cap held
    cases held
  case held =>
    intro cap inside
    cases inside
  case unique =>
    intro place other cap cap' held
    cases held

end

/-! ### What the coordinator returned -/

/-- The cap among the coordinator's answers. -/
def Answer.cap : Answer c → Option (Cap c.logged)
  | .dwalletCap cap => some (.dwallet cap)
  | .importedKeyCap cap => some (.importedKey cap)
  | .approval .. => none

/-- All caps the coordinator returned during a sequence of calls. -/
def received (natives : Natives) (chain : Chain c.logged) (inputs : List (Tx × Call c.logged)) : List (Cap c.logged) :=
  (records (Chain.exec natives) chain inputs).flatMap (fun record => (answers record).filterMap Answer.cap)

theorem answer_cap (event : Event c.logged) : event.answer.bind Answer.cap = event.cap := by
  cases event <;> rfl

/-- Every cap the coordinator returned is recorded, and no other. -/
theorem received_eq (natives : Natives) (chain : Chain c.logged) (inputs : List (Tx × Call c.logged)) :
    received natives chain inputs = recorded natives chain inputs := by
  have keeps : ∀ {state after : Chain c.logged} {input : Tx × Call c.logged} {receipt : Receipt c.logged}, True →
      state.exec natives input = .ok (receipt, after) → True := fun _ _ => trivial
  unfold received recorded
  apply List.flatMap_congr
  intro record inside
  rw [answers_of_exec (records_invariant keeps trivial inside).2, List.filterMap_filterMap]
  simp only [answer_cap, recordedCaps]

theorem approved_of_mem_answers {natives : Natives} {chain after : Chain c.logged} {input : Tx × Call c.logged}
    {receipt : Receipt c.logged} (done : chain.exec natives input = .ok (receipt, after)) {cap : c.DWalletCap}
    {algorithm hash : UInt32} {message : Bytes}
    (given : Answer.approval cap algorithm hash message ∈ answers ⟨chain, input, receipt, after⟩) :
    (Event.approved cap algorithm hash message : Event c.logged) ∈ receipt.events := by
  rw [answers_of_exec done] at given
  obtain ⟨event, inside, same⟩ := List.mem_filterMap.mp given
  cases event <;> cases same
  exact inside

/-- A package just published, next to a coordinator that has returned nothing yet. -/
def sample.loggedGenesis : Chain coordinator.logged := Chain.genesis ⟨start, []⟩ (address 8) (address 9)

end MpcKit.Core
