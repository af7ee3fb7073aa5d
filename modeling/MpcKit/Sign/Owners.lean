import MpcKit.Sign.Books

/-! Whose a request is. Every prepare draws its own identifier; the row under it is inserted,
named and dropped by that prepare alone, and the presigns held for it were claimed by that
prepare. This holds in every run. -/

namespace MpcKit.Sign
open MpcKit.Backend MpcKit.Async
open MpcKit.Billing (Ledger OpKey BillingCharge)

/-- The identifier a call has drawn. -/
def drawnId : History Op Res → Option Uuid
  | [] => none
  | ⟨.randomUUID, id⟩ :: _ => some id
  | _ :: history => drawnId history

/-- The presign a call has claimed. -/
def claimedId : History Op Res → Option Uuid
  | [] => none
  | ⟨.presign (.claim _), some presignId⟩ :: _ => some presignId
  | _ :: history => claimedId history

/-- The dwallet that is asked for is this one on chain. -/
def IsWallet (dwallets : Table DWallet.id) (args : PrepareSignArgs) (suiDwalletId : ObjectId) : Prop :=
  ∃ dw ∈ dwallets.rows, dw.id = args.dwalletId ∧ dw.suiDwalletId = suiDwalletId

/-- A row answers what was asked for. -/
structure Asked (dwallets : Table DWallet.id) (args : PrepareSignArgs) (row : SignRequest) : Prop where
  key : row.HasKey args.userId args.network args.idempotencyKey
  signatureAlgorithm : row.signatureAlgorithm = args.signatureAlgorithm
  hashScheme : row.hashScheme = args.hashScheme
  messageHex : row.messageHex = toHex args.message
  dwallet : IsWallet dwallets args row.suiDwalletId

/-- The row of a prepare that has not stored its presign yet. -/
def Unnamed (world : World) (args : PrepareSignArgs) (id : Uuid) : Prop :=
  ∃ row, world.signRequests.get id = some row ∧ Asked world.dwallets args row ∧ row.presignId = none

/-- A row under the key of a prepare that has its presign: it is there for good. -/
def Named (world : World) (args : PrepareSignArgs) (id : Uuid) : Prop :=
  ∃ row, world.signRequests.get id = some row ∧ row.HasKey args.userId args.network args.idempotencyKey ∧
    row.presignId ≠ none

/-- What a prepare can count on where it stands. -/
def Standing (world : World) (args : PrepareSignArgs) (drawn claimed : Option Uuid) : Stage → Prop
  | .idle => drawn = none ∧ claimed = none
  | .found row _ => drawn = none ∧ claimed = none ∧ Named world args row.id
  | .replaying row _ => drawn = none ∧ claimed = none ∧ Named world args row.id
  | .wallet dw => drawn = none ∧ claimed = none ∧ IsWallet world.dwallets args dw.suiDwalletId
  | .drawn dw id => drawn = some id ∧ claimed = none ∧ IsWallet world.dwallets args dw.suiDwalletId
  | .charged dw id => drawn = some id ∧ claimed = none ∧ IsWallet world.dwallets args dw.suiDwalletId
  | .refused id => drawn = some id ∧ claimed = none
  | .inserted row => drawn = some row.id ∧ claimed = none ∧ Unnamed world args row.id
  | .claimed row presignId => drawn = some row.id ∧ claimed = some presignId ∧ Unnamed world args row.id ∧
      ∃ presign, world.presigns.get presignId = some presign
  | .allocated row presign => drawn = some row.id ∧ claimed = some presign.id ∧ Unnamed world args row.id
  | .dry row => drawn = some row.id ∧ claimed = none ∧ Unnamed world args row.id
  | .named updated presign => claimed = some presign.id ∧ ∃ row, updated = some row ∧ drawn = some row.id ∧
      Asked world.dwallets args row ∧ Named world args row.id
  | .owing row => drawn = some row.id ∧ claimed = none
  | .finished => claimed = none
  | _ => False

/-- The identifier a prepare has been charged for without a row to show for it. -/
def Stage.due : Stage → Option Uuid
  | .charged _ id => some id
  | .refused id => some id
  | .owing row => some row.id
  | _ => none

structure Owners (world : World) (calls : Nat → Option SignThread) : Prop where
  standing : ∀ {index thread args}, calls index = some thread → thread.tag = .prepare args →
    Standing world args (drawnId thread.history) (claimedId thread.history) (stage thread.history)
  bound : ∀ {index thread id}, calls index = some thread → drawnId thread.history = some id → id < world.nextId
  single : ∀ {index other thread rival id}, calls index = some thread → calls other = some rival →
    drawnId thread.history = some id → drawnId rival.history = some id → index = other
  keys : ∀ {id other row rival userId network key}, world.signRequests.get id = some row →
    world.signRequests.get other = some rival → row.HasKey userId network key → rival.HasKey userId network key → id = other
  billed : ∀ {index thread args id charge}, calls index = some thread → thread.tag = .prepare args →
    drawnId thread.history = some id → charge ∈ world.ledger.charges → charge.opType = "sign" → charge.kind = .charge →
    charge.opId = id → Refunded world.ledger charge.network id ∨ (stage thread.history).due = some id ∨
      ∃ row, world.signRequests.get id = some row ∧ row.HasKey args.userId args.network args.idempotencyKey
  claims : ∀ {presignId presign id}, world.presigns.get presignId = some presign → presign.signRequestId = some id →
    Machine.Someone calls (fun thread => (∃ args, thread.tag = .prepare args) ∧
      drawnId thread.history = some id ∧ claimedId thread.history = some presignId)

/-! ### What the acting call leaves to the others -/

theorem drawnId_cons {op : Op} (other : op ≠ .randomUUID) (answer : Res op) (history : History Op Res) :
    drawnId (⟨op, answer⟩ :: history) = drawnId history := by
  cases op with
  | randomUUID => exact absurd rfl other
  | _ => rfl

theorem claimedId_cons {op : Op} (other : ∀ args, op ≠ .presign (.claim args)) (answer : Res op)
    (history : History Op Res) : claimedId (⟨op, answer⟩ :: history) = claimedId history := by
  cases op with
  | presign op =>
    cases op with
    | claim args => exact absurd rfl (other args)
    | _ => rfl
  | _ => rfl

structure Keeps (before after : World) (args : PrepareSignArgs) (drawn : Option Uuid) : Prop where
  unnamed : ∀ id, drawn = some id → Unnamed before args id → Unnamed after args id
  named : ∀ id, Named before args id → Named after args id
  wallet : ∀ suiDwalletId, IsWallet before.dwallets args suiDwalletId → IsWallet after.dwallets args suiDwalletId
  presign : ∀ id presign, before.presigns.get id = some presign → ∃ later, after.presigns.get id = some later

theorem Asked.kept {before after : Table DWallet.id} {args : PrepareSignArgs} {row : SignRequest}
    (asked : Asked before args row) (wallet : ∀ suiDwalletId, IsWallet before args suiDwalletId →
      IsWallet after args suiDwalletId) : Asked after args row :=
  ⟨asked.key, asked.signatureAlgorithm, asked.hashScheme, asked.messageHex, wallet _ asked.dwallet⟩

theorem Standing.keeps {before after : World} {args : PrepareSignArgs} {drawn claimed : Option Uuid} {stage : Stage}
    (standing : Standing before args drawn claimed stage) (keeps : Keeps before after args drawn) :
    Standing after args drawn claimed stage := by
  cases stage with
  | found row presignId => exact ⟨standing.1, standing.2.1, keeps.named _ standing.2.2⟩
  | replaying row presign => exact ⟨standing.1, standing.2.1, keeps.named _ standing.2.2⟩
  | wallet dw => exact ⟨standing.1, standing.2.1, keeps.wallet _ standing.2.2⟩
  | drawn dw id => exact ⟨standing.1, standing.2.1, keeps.wallet _ standing.2.2⟩
  | charged dw id => exact ⟨standing.1, standing.2.1, keeps.wallet _ standing.2.2⟩
  | inserted row => exact ⟨standing.1, standing.2.1, keeps.unnamed _ standing.1 standing.2.2⟩
  | claimed row presignId =>
    obtain ⟨own, taken, unnamed, presign, there⟩ := standing
    exact ⟨own, taken, keeps.unnamed _ own unnamed, keeps.presign _ presign there⟩
  | allocated row presign => exact ⟨standing.1, standing.2.1, keeps.unnamed _ standing.1 standing.2.2⟩
  | dry row => exact ⟨standing.1, standing.2.1, keeps.unnamed _ standing.1 standing.2.2⟩
  | named updated presign =>
    obtain ⟨taken, row, same, own, asked, named⟩ := standing
    exact ⟨taken, row, same, own, asked.kept keeps.wallet, keeps.named _ named⟩
  | _ => exact standing

theorem isWallet_exec {op : Op} {env : Env} {world after : World} {answer : Res op} {args : PrepareSignArgs}
    {suiDwalletId : ObjectId} (executed : exec op env world = some (answer, after))
    (wallet : IsWallet world.dwallets args suiDwalletId) : IsWallet after.dwallets args suiDwalletId := by
  obtain ⟨dw, member, own, same⟩ := wallet
  obtain ⟨later, there, id, sui⟩ := exec_dwallet executed member
  exact ⟨later, there, id.trans own, sui.trans same⟩

theorem HasKey.changed {env : Env} {statement : SignOp} {old row : SignRequest} {userId : Uuid} {network key : String}
    (change : SignChange env statement old row) (has : old.HasKey userId network key) : row.HasKey userId network key := by
  obtain ⟨_, user, net, same, _⟩ := change.kept
  exact ⟨user.trans has.1, net.trans has.2.1, same.trans has.2.2⟩

theorem Asked.changed {env : Env} {statement : SignOp} {old row : SignRequest} {dwallets : Table DWallet.id}
    {args : PrepareSignArgs} (change : SignChange env statement old row) (asked : Asked dwallets args old) :
    Asked dwallets args row := by
  obtain ⟨_, _, _, _, dwallet, algorithm, hash, message⟩ := change.kept
  exact ⟨HasKey.changed change asked.key, algorithm.trans asked.signatureAlgorithm, hash.trans asked.hashScheme,
    message.trans asked.messageHex, dwallet ▸ asked.dwallet⟩

/-- Only `setPresign` gives a row its presign, and nothing takes it away. -/
theorem SignChange.presignId {env : Env} {statement : SignOp} {old row : SignRequest}
    (change : SignChange env statement old row) :
    row.presignId = old.presignId ∨
      ∃ presignId, statement = .setPresign old.id presignId ∧ row.presignId = some presignId := by
  cases change with
  | presign _ presignId => exact .inr ⟨presignId, rfl, rfl⟩
  | _ => exact .inl rfl

/-- An operation keeps what a prepare counts on, unless it drops or names the row of that prepare
or drops a row that has its presign. -/
theorem keeps_of_exec {op : Op} {env : Env} {world after : World} {answer : Res op} {args : PrepareSignArgs}
    {drawn : Option Uuid} (executed : exec op env world = some (answer, after))
    (undropped : ∀ id, op = .sign (.delete id) → drawn ≠ some id ∧
      ∀ row, world.signRequests.get id = some row → row.presignId = none)
    (unset : ∀ id presignId, op = .sign (.setPresign id presignId) → drawn ≠ some id) : Keeps world after args drawn where
  unnamed := by
    rintro id own ⟨row, before, asked, none⟩
    rcases exec_row executed before with rfl | ⟨later, found, rfl | ⟨statement, rfl, change⟩⟩
    · exact absurd own (undropped id rfl).1
    · exact ⟨_, found, asked.kept (fun _ => isWallet_exec executed), none⟩
    · refine ⟨later, found, (asked.changed change).kept (fun _ => isWallet_exec executed), ?_⟩
      rcases change.presignId with same | ⟨presignId, rfl, _⟩
      · exact same.trans none
      · have key := Table.key_of_get before
        exact absurd (key ▸ own) (unset row.id presignId rfl)
  named := by
    rintro id ⟨row, before, key, some⟩
    rcases exec_row executed before with rfl | ⟨later, found, rfl | ⟨statement, rfl, change⟩⟩
    · exact absurd ((undropped id rfl).2 row before) some
    · exact ⟨_, found, key, some⟩
    · refine ⟨later, found, HasKey.changed change key, ?_⟩
      rcases change.presignId with same | ⟨presignId, rfl, same⟩
      · rw [same]
        exact some
      · rw [same]
        simp
  wallet := fun _ => isWallet_exec executed
  presign := by
    intro id presign before
    obtain ⟨later, found, _⟩ := exec_presign executed before
    exact ⟨later, found⟩

/-! ### What the acting call can count on -/

theorem replay_eq_some {existing : Option SignRequest} {row : SignRequest} {presignId : Uuid}
    (usable : replay existing = some (row, presignId)) : existing = some row ∧ row.presignId = some presignId := by
  unfold replay at usable
  obtain ⟨found, there, named⟩ := Option.bind_eq_some_iff.mp usable
  obtain ⟨same, own, equal⟩ := Option.map_eq_some_iff.mp named
  cases equal
  exact ⟨there, own⟩

theorem unnamed_insert {env : Env} {world after : World} {args : PrepareSignArgs} {dw : DWallet} {id : Uuid}
    {row : SignRequest} (executed : exec (.sign (.insert (args.newRequest dw id))) env world = some (.ok row, after))
    (wallet : IsWallet world.dwallets args dw.suiDwalletId) : row.id = id ∧ Unnamed after args id := by
  rcases exec_insert executed with ⟨error, refused, _⟩ | ⟨same, _, table, done, rfl⟩
  · cases refused
  · cases same
    refine ⟨rfl, (args.newRequest dw id).row env.now, ?_, ⟨⟨rfl, rfl, rfl⟩, rfl, rfl, rfl, wallet⟩, rfl⟩
    exact (Table.get_insert done id).trans (if_pos rfl)

section Moved

variable {config : Config} {args : PrepareSignArgs} {before next : Stage} {op : Op} {answer : Res op} {env : Env}
  {world after : World} {history : History Op Res}

theorem Moved.standing (moved : Moved config (.prepare args) before op answer next)
    (executed : exec op env world = some (answer, after)) (known : Answers op answer)
    (standing : Standing world args (drawnId history) (claimedId history) before) :
    Standing after args (drawnId (⟨op, answer⟩ :: history)) (claimedId (⟨op, answer⟩ :: history)) next := by
  cases moved with
  | found _ existing row presignId usable =>
    obtain ⟨there, own⟩ := replay_eq_some usable
    obtain ⟨rfl, reads⟩ := exec_selectByKey executed
    obtain ⟨found, key⟩ := reads row there
    exact ⟨standing.1, standing.2, row, found, key, by rw [own]; simp⟩
  | unfound _ existing unusable => exact standing
  | replaying _ row presignId presign =>
    obtain ⟨_, rfl⟩ := exec_presign_select executed
    exact standing
  | unreplayed _ row presignId => exact ⟨standing.1, standing.2.1⟩
  | wallet _ dw =>
    obtain ⟨rfl, reads⟩ := exec_selectWallet executed
    obtain ⟨member, own⟩ := reads dw rfl
    exact ⟨standing.1, standing.2, dw, member, own, rfl⟩
  | walletless => exact standing.2
  | drawn _ dw id =>
    cases executed
    exact ⟨rfl, standing.2.1, standing.2.2⟩
  | charged _ dw id reason charge positive => exact ⟨standing.1, standing.2.1, isWallet_exec executed standing.2.2⟩
  | uncharged _ dw id reason error positive => exact standing.2.1
  | inserted _ dw id row =>
    obtain ⟨own, unnamed⟩ := unnamed_insert executed standing.2.2
    subst own
    exact ⟨standing.1, standing.2.1, unnamed⟩
  | refused _ dw id error => exact ⟨standing.1, standing.2.1⟩
  | claimed _ row bucket own presignId =>
    obtain ⟨own, _, row, there, rest⟩ := standing
    rcases exec_claim executed with ⟨none, _⟩ | ⟨picked, same, found, _, rfl⟩
    · cases none
    · cases same
      exact ⟨own, rfl, ⟨row, there, rest⟩, _, Table.modify_row found⟩
  | unclaimed _ row bucket own =>
    rcases exec_claim executed with ⟨_, rfl⟩ | ⟨picked, same, _⟩
    · exact standing
    · cases same
  | allocated _ row presignId presign =>
    obtain ⟨_, rfl⟩ := exec_presign_select executed
    obtain ⟨own, taken, unnamed, _⟩ := standing
    have same : presign.id = presignId := known presign rfl
    exact ⟨own, same ▸ taken, unnamed⟩
  | vanished _ row presignId =>
    -- No presign row is ever deleted.
    obtain ⟨_, _, _, presign, there⟩ := standing
    rw [(exec_presign_select executed).1] at there
    cases there
  | named _ row presign updated =>
    obtain ⟨own, taken, current, there, asked, _⟩ := standing
    obtain ⟨rfl, found, wallets⟩ := exec_setPresign executed
    rw [there] at found
    have changed : SignChange env (.setPresign current.id presign.id) current
        (SignRequest.toPresign env.now presign.id current) := .presign current presign.id
    have key : current.id = row.id := Table.key_of_get there
    rw [there]
    refine ⟨taken, _, rfl, own.trans (congrArg some key.symm), ?_, _, key ▸ found, HasKey.changed changed asked.key, ?_⟩
    · rw [wallets]
      exact asked.changed changed
    · simp [SignRequest.toPresign]
  | dropped _ row => exact ⟨standing.1, standing.2.1⟩
  | failed _ _ id code message row fails =>
    cases fails with
    | quiet _ _ _ _ quiet => exact quiet.elim
  | unfailed _ _ id code message fails =>
    cases fails with
    | quiet _ _ _ _ quiet => exact quiet.elim
  | openAccount _ row => exact standing
  | refunded _ row reason result => exact standing.2
  | quiet _ _ _ _ free quiet =>
    rw [drawnId_cons (by rintro rfl; exact quiet.elim), claimedId_cons (by rintro args rfl; exact quiet.elim)]
    refine standing.keeps (keeps_of_exec executed ?_ ?_)
    · rintro id rfl
      exact quiet.elim
    · rintro id presignId rfl
      exact quiet.elim

end Moved

/-! ### One step -/

/-- No two rows share an idempotency key. -/
theorem keys_exec {op : Op} {env : Env} {world after : World} {answer : Res op}
    (executed : exec op env world = some (answer, after))
    (keys : ∀ {id other row rival userId network key}, world.signRequests.get id = some row →
      world.signRequests.get other = some rival → row.HasKey userId network key → rival.HasKey userId network key → id = other)
    {id other : Uuid} {row rival : SignRequest} {userId : Uuid} {network key : String}
    (found : after.signRequests.get id = some row) (there : after.signRequests.get other = some rival)
    (has : row.HasKey userId network key) (also : rival.HasKey userId network key) : id = other := by
  -- A row is an old one with the same key, or the only one with the key of an insert.
  have source : ∀ {id row}, after.signRequests.get id = some row → row.HasKey userId network key →
      (∃ old, world.signRequests.get id = some old ∧ old.HasKey userId network key) ∨
        ∃ new, op = .sign (.insert new) ∧ id = new.id ∧
          ∀ earlier ∈ world.signRequests.rows, ¬earlier.HasKey userId network key := by
    intro id row found has
    rcases row_of_exec executed found with before | ⟨new, same, own, rfl, _, free⟩ | ⟨old, statement, _, before, change⟩
    · exact .inl ⟨row, before, has⟩
    · obtain ⟨rfl, rfl, rfl⟩ := has
      exact .inr ⟨new, same, own, free⟩
    · obtain ⟨_, user, net, same, _⟩ := change.kept
      exact .inl ⟨old, before, user.symm.trans has.1, net.symm.trans has.2.1, same.symm.trans has.2.2⟩
  rcases source found has with ⟨old, before, kept⟩ | ⟨new, inserted, own, free⟩ <;>
    rcases source there also with ⟨earlier, stood, held⟩ | ⟨second, again, mine, unused⟩
  · exact keys before stood kept held
  · exact absurd kept (unused old (Table.mem_of_get before))
  · exact absurd held (free earlier (Table.mem_of_get stood))
  · rw [inserted] at again
    cases again
    exact own.trans mine.symm

/-- Who holds a presign after a statement held it before, or has just claimed it. -/
theorem PresignChange.holder {env : Env} {statement : PresignOp} {old presign : Presign} {id : Uuid}
    (change : PresignChange env statement old presign) (held : presign.signRequestId = some id) :
    old.signRequestId = some id ∨ ∃ args, statement = .claim args ∧ args.signRequestId = id := by
  cases change with
  | claim _ args ready => exact .inr ⟨args, rfl, Option.some.inj held⟩
  | rollback => cases held
  | rescue => cases held
  | _ => exact .inl held

section Step

variable {config : Config} {system : SignSystem} {index : Nat} {env : Env} {thread : SignThread} {op : Op}
  {answer : Res op} {rest : Prog Reply} {world : World}

/-- What the acting call does keeps what every other prepare counts on. -/
theorem Owners.keeps (owners : Owners system.world system.calls)
    (act : (machine config).Act (contract config) system index env thread op answer rest world) {other : Nat}
    {rival : SignThread} (apart : other ≠ index) (there : system.calls other = some rival) (args : PrepareSignArgs) :
    Keeps system.world world args (drawnId rival.history) := by
  have allowed : Allowed config thread.tag (stage thread.history) op := act.before
  refine keeps_of_exec act.executed ?_ ?_
  · rintro id rfl
    obtain ⟨asked, row, tag, dry, rfl⟩ := allowed.of_delete
    have standing := owners.standing act.found tag
    rw [dry] at standing
    obtain ⟨own, _, current, found, _, none⟩ := standing
    refine ⟨fun drawn => apart (owners.single there act.found drawn own), fun other also => ?_⟩
    rw [found] at also
    cases also
    exact none
  · rintro id presignId rfl
    obtain ⟨asked, row, presign, tag, at_, rfl, _⟩ := allowed.of_setPresign
    have standing := owners.standing act.found tag
    rw [at_] at standing
    exact fun drawn => apart (owners.single there act.found drawn standing.1)

/-- A drawn identifier is an old one, or the next one. -/
theorem drawn_of_act (act : (machine config).Act (contract config) system index env thread op answer rest world)
    {id : Uuid} (drawn : drawnId (thread.resume ⟨op, answer⟩ rest).history = some id) :
    drawnId thread.history = some id ∨
      (op = .randomUUID ∧ id = system.world.nextId ∧ world.nextId = system.world.nextId + 1) := by
  change drawnId (⟨op, answer⟩ :: thread.history) = some id at drawn
  by_cases drawing : op = .randomUUID
  · subst drawing
    have executed : exec .randomUUID env system.world = some (answer, world) := act.executed
    cases executed
    exact .inr ⟨rfl, (Option.some.inj drawn).symm, rfl⟩
  · rw [drawnId_cons drawing] at drawn
    exact .inl drawn

/-- A prepare draws once and claims once. -/
theorem Owners.keeps_ids (owners : Owners system.world system.calls)
    (act : (machine config).Act (contract config) system index env thread op answer rest world) {id presignId : Uuid}
    (drawn : drawnId thread.history = some id) (claimed : claimedId thread.history = some presignId) :
    drawnId (thread.resume ⟨op, answer⟩ rest).history = some id ∧
      claimedId (thread.resume ⟨op, answer⟩ rest).history = some presignId := by
  have allowed : Allowed config thread.tag (stage thread.history) op := act.before
  constructor
  · change drawnId (⟨op, answer⟩ :: thread.history) = some id
    rw [drawnId_cons]
    · exact drawn
    · rintro rfl
      obtain ⟨args, dw, tag, at_⟩ := allowed.of_randomUUID
      have standing := owners.standing act.found tag
      rw [at_, drawn] at standing
      cases standing.1
  · change claimedId (⟨op, answer⟩ :: thread.history) = some presignId
    rw [claimedId_cons]
    · exact claimed
    · rintro bucket rfl
      obtain ⟨args, row, tag, at_, _⟩ := allowed.of_claim
      have standing := owners.standing act.found tag
      rw [at_, claimed] at standing
      cases standing.2.1

theorem Owners.claims_act (owners : Owners system.world system.calls)
    (act : (machine config).Act (contract config) system index env thread op answer rest world)
    {presignId id : Uuid} {presign : Presign} (found : world.presigns.get presignId = some presign)
    (held : presign.signRequestId = some id) :
    Machine.Someone (Function.update system.calls index (some (thread.resume ⟨op, answer⟩ rest))) (fun thread =>
      (∃ args, thread.tag = .prepare args) ∧ drawnId thread.history = some id ∧
        claimedId thread.history = some presignId) := by
  have executed : exec op env system.world = some (answer, world) := act.executed
  have allowed : Allowed config thread.tag (stage thread.history) op := act.before
  have kept : ∀ old, system.world.presigns.get presignId = some old → old.signRequestId = some id →
      Machine.Someone (Function.update system.calls index (some (thread.resume ⟨op, answer⟩ rest))) (fun thread =>
        (∃ args, thread.tag = .prepare args) ∧ drawnId thread.history = some id ∧
          claimedId thread.history = some presignId) := by
    intro old before had
    refine (owners.claims before had).update (fun acting there holds => ?_)
    rw [act.found] at there
    cases there
    exact ⟨holds.1, owners.keeps_ids act holds.2.1 holds.2.2⟩
  rcases presign_of_exec executed found with before | ⟨old, statement, rfl, before, change⟩ | ⟨_, new, rfl, _⟩
  · exact kept presign before held
  · rcases change.holder held with had | ⟨bucket, rfl, own⟩
    · exact kept old before had
    · obtain ⟨args, row, tag, at_, same⟩ := allowed.of_claim
      have standing := owners.standing act.found tag
      rw [at_] at standing
      rcases exec_claim executed with ⟨_, rfl⟩ | ⟨picked, rfl, _, _, rfl⟩
      · exact kept presign found held
      · -- Only the picked row is touched, so this presign is the one claimed.
        by_cases picks : presignId = picked.id
        · refine .here index ⟨⟨args, tag⟩, ?_, congrArg some picks.symm⟩
          exact standing.1.trans (congrArg some (same.symm.trans own))
        · change (system.world.presigns.modify picked.id _).get presignId = some presign at found
          rw [Table.get_modify, if_neg picks] at found
          exact kept presign found held
  · cases held

/-- A charge a prepare has nothing to show for: it gets its row, or it is given back. -/
theorem due_act (books : Books config system.world system.calls)
    (act : (machine config).Act (contract config) system index env thread op answer rest world) {args : PrepareSignArgs}
    (tag : thread.tag = .prepare args) {charge : BillingCharge} (member : charge ∈ system.world.ledger.charges)
    (sign : charge.opType = "sign") (due : (stage thread.history).due = some charge.opId) :
    Refunded world.ledger charge.network charge.opId ∨ ((stage thread.history).next op answer).due = some charge.opId ∨
      ∃ row, world.signRequests.get charge.opId = some row ∧ row.HasKey args.userId args.network args.idempotencyKey := by
  have executed : exec op env system.world = some (answer, world) := act.executed
  have allowed : Allowed config thread.tag (stage thread.history) op := act.before
  have still : op.Quiet → (stage thread.history).Free → ((stage thread.history).next op answer).due = some charge.opId := by
    intro quiet free
    rw [next_quiet quiet free]
    exact due
  cases at_ : stage thread.history with
  | charged dw id =>
    rw [at_] at still due allowed
    cases due
    rcases allowed.of_charged with quiet | ⟨new, rfl⟩
    · exact .inr (.inl (still quiet trivial))
    · obtain ⟨asked, wallet, own, same, stood, rfl⟩ := allowed.of_insert
      rw [tag] at same
      cases same
      cases stood
      rcases exec_insert executed with ⟨error, rfl, _⟩ | ⟨rfl, _, table, done, rfl⟩
      · exact .inr (.inl rfl)
      · exact .inr (.inr ⟨_, (Table.get_insert done _).trans (if_pos rfl), rfl, rfl, rfl⟩)
  | refused id =>
    rw [at_] at still allowed
    exact .inr (.inl (still allowed.of_refused trivial))
  | owing row =>
    rw [at_] at due allowed
    have own : row.id = charge.opId := Option.some.inj due
    rcases allowed.of_owing with rfl | ⟨refund, rfl⟩
    · exact .inr (.inl due)
    · obtain ⟨_, charged, _⟩ := books.paid act.found (by rw [at_]; rfl)
      rw [books.network member sign charged own.symm, ← own]
      exact .inl (books.refunded act at_)
  | _ =>
    rw [at_] at due
    cases due

theorem Owners.billed_act (owners : Owners system.world system.calls) (books : Books config system.world system.calls)
    (act : (machine config).Act (contract config) system index env thread op answer rest world) {other : Nat}
    {rival : SignThread} {args : PrepareSignArgs} {charge : BillingCharge}
    (there : Function.update system.calls index (some (thread.resume ⟨op, answer⟩ rest)) other = some rival)
    (tag : rival.tag = .prepare args) (drawn : drawnId rival.history = some charge.opId)
    (member : charge ∈ world.ledger.charges) (sign : charge.opType = "sign") (kind : charge.kind = .charge) :
    Refunded world.ledger charge.network charge.opId ∨ (stage rival.history).due = some charge.opId ∨
      ∃ row, world.signRequests.get charge.opId = some row ∧ row.HasKey args.userId args.network args.idempotencyKey := by
  have executed : exec op env system.world = some (answer, world) := act.executed
  have allowed : Allowed config thread.tag (stage thread.history) op := act.before
  -- The row of a charge stays until the prepare that drew its identifier drops it.
  have stays : ∀ row, system.world.signRequests.get charge.opId = some row →
      row.HasKey args.userId args.network args.idempotencyKey →
      (op = .sign (.delete charge.opId)) ∨ ∃ row, world.signRequests.get charge.opId = some row ∧
        row.HasKey args.userId args.network args.idempotencyKey := by
    intro row before has
    rcases exec_row executed before with same | ⟨later, found, rfl | ⟨statement, _, change⟩⟩
    · exact .inl same
    · exact .inr ⟨later, found, has⟩
    · exact .inr ⟨later, found, HasKey.changed change has⟩
  rcases Machine.calls_update there with ⟨rfl, rfl⟩ | ⟨apart, was⟩
  · rcases charge_of_exec executed member with old | ⟨new, rfl, same⟩ | ⟨refund, _, rfl⟩
    · rcases drawn_of_act act drawn with before | ⟨_, next, _⟩
      · rcases owners.billed act.found tag before old sign kind rfl with refunded | due | ⟨row, found, has⟩
        · exact .inl (refunded.mono (exec_charges_mono executed))
        · exact due_act books act tag old sign due
        · rcases stays row found has with rfl | present
          · obtain ⟨_, row, _, dry, own⟩ := allowed.of_delete
            refine .inr (.inl ?_)
            change ((stage thread.history).next _ _).due = _
            rw [dry]
            exact congrArg some own
          · exact .inr (.inr present)
      · exact absurd (next ▸ (books.amounts charge old sign).1) (Nat.lt_irrefl _)
    · obtain ⟨asked, dw, id, reason, _, at_, _, rfl⟩ := allowed.of_charge
      subst same
      obtain ⟨answered, after, _⟩ := exec_charge executed
      cases answer with
      | ok row =>
        refine .inr (.inl ?_)
        change ((stage thread.history).next _ _).due = _
        rw [at_]
        rfl
      | error error =>
        rw [after, Ledger.charge_error answered.symm] at member
        exact absurd rfl (books.unbilled act.found at_ _ member sign)
    · cases kind
  · rcases charge_of_exec executed member with old | ⟨new, rfl, same⟩ | ⟨refund, _, rfl⟩
    · rcases owners.billed was tag drawn old sign kind rfl with refunded | due | ⟨row, found, has⟩
      · exact .inl (refunded.mono (exec_charges_mono executed))
      · exact .inr (.inl due)
      · rcases stays row found has with rfl | present
        · obtain ⟨_, row, mine, dry, own⟩ := allowed.of_delete
          have standing := owners.standing act.found mine
          rw [dry] at standing
          exact absurd (owners.single was act.found drawn (standing.1.trans (congrArg some own))) apart
        · exact .inr (.inr present)
    · obtain ⟨asked, dw, id, reason, mine, at_, _, rfl⟩ := allowed.of_charge
      subst same
      have standing := owners.standing act.found mine
      rw [at_] at standing
      exact absurd (owners.single was act.found drawn standing.1) apart
    · cases kind

theorem Owners.act (owners : Owners system.world system.calls) (books : Books config system.world system.calls)
    (act : (machine config).Act (contract config) system index env thread op answer rest world) :
    Owners world (Function.update system.calls index (some (thread.resume ⟨op, answer⟩ rest))) where
  standing := by
    intro other rival args there tag
    rcases Machine.calls_update there with ⟨rfl, rfl⟩ | ⟨apart, there⟩
    · have tag : thread.tag = .prepare args := tag
      have moved := (act.before : Allowed config thread.tag (stage thread.history) op).moved answer
      rw [tag] at moved
      exact moved.standing act.executed act.known (owners.standing act.found tag)
    · exact (owners.standing there tag).keeps (owners.keeps act apart there args)
  bound := by
    intro other rival id there drawn
    have grows := exec_nextId act.executed
    rcases Machine.calls_update there with ⟨rfl, rfl⟩ | ⟨_, there⟩
    · rcases drawn_of_act act drawn with before | ⟨_, rfl, next⟩
      · exact Nat.lt_of_lt_of_le (owners.bound act.found before) grows
      · rw [next]
        exact Nat.lt_succ_self _
    · exact Nat.lt_of_lt_of_le (owners.bound there drawn) grows
  single := by
    intro one other first second id here there drawn again
    have fresh : ∀ {other rival}, system.calls other = some rival → drawnId rival.history = some id →
        drawnId (thread.resume ⟨op, answer⟩ rest).history = some id → index = other := by
      intro other rival there held drawn
      rcases drawn_of_act act drawn with before | ⟨_, rfl, _⟩
      · exact owners.single act.found there before held
      · exact absurd (owners.bound there held) (Nat.lt_irrefl _)
    rcases Machine.calls_update here with ⟨rfl, rfl⟩ | ⟨_, was⟩ <;>
      rcases Machine.calls_update there with ⟨rfl, rfl⟩ | ⟨_, stood⟩
    · rfl
    · exact fresh stood again drawn
    · exact (fresh was drawn again).symm
    · exact owners.single was stood drawn again
  keys := keys_exec act.executed owners.keys
  billed := by
    rintro other rival args id charge there tag drawn member sign kind rfl
    exact owners.billed_act books act there tag drawn member sign kind
  claims := owners.claims_act act

end Step

theorem Owners.jobs {world : World} {calls : Nat → Option SignThread} (jobs : List Job) (owners : Owners world calls) :
    Owners { world with jobs := jobs } calls :=
  ⟨owners.standing, owners.bound, owners.single, owners.keys, owners.billed, owners.claims⟩

/-- Only the calls change, by one that has done nothing, or the same as before. -/
theorem Owners.recalls {world : World} {calls : Nat → Option SignThread} (owners : Owners world calls) (index : Nat)
    (replaced : SignThread) (same : replaced.history = [] ∧ calls index = none ∨
      ∃ thread, calls index = some thread ∧ thread.tag = replaced.tag ∧ thread.history = replaced.history) :
    Owners world (Function.update calls index (some replaced)) := by
  have held : ∀ {other rival id}, Function.update calls index (some replaced) other = some rival →
      drawnId rival.history = some id → ∃ before, calls other = some before ∧ before.tag = rival.tag ∧
        before.history = rival.history := by
    intro other rival id there drawn
    rcases Machine.calls_update there with ⟨rfl, rfl⟩ | ⟨_, there⟩
    · rcases same with ⟨nothing, _⟩ | before
      · rw [nothing] at drawn
        cases drawn
      · exact before
    · exact ⟨rival, there, rfl, rfl⟩
  refine ⟨?_, ?_, ?_, owners.keys, ?_, ?_⟩
  · intro other rival args there tag
    rcases Machine.calls_update there with ⟨rfl, rfl⟩ | ⟨_, there⟩
    · rcases same with ⟨nothing, _⟩ | ⟨thread, found, own, history⟩
      · rw [nothing]
        exact ⟨rfl, rfl⟩
      · rw [← history]
        exact owners.standing found (own.trans tag)
    · exact owners.standing there tag
  · intro other rival id there drawn
    obtain ⟨before, was, _, history⟩ := held there drawn
    exact owners.bound was (history ▸ drawn)
  · intro one other first second id here there drawn again
    obtain ⟨before, was, _, history⟩ := held here drawn
    obtain ⟨earlier, stood, _, past⟩ := held there again
    exact owners.single was stood (history ▸ drawn) (past ▸ again)
  · intro other rival args id charge there tag drawn
    obtain ⟨before, was, own, history⟩ := held there drawn
    rw [← history] at drawn ⊢
    exact owners.billed was (own.trans tag) drawn
  · intro presignId presign id found holder
    refine (owners.claims found holder).update (fun acting there holds => ?_)
    rcases same with ⟨_, free⟩ | ⟨thread, was, own, history⟩
    · rw [free] at there
      cases there
    · rw [was] at there
      cases there
      rw [← own, ← history]
      exact holds

theorem Owners.move {config : Config} {system : SignSystem} {event : Event Env Call} {world : World}
    {calls : Nat → Option SignThread} (owners : Owners system.world system.calls)
    (books : Books config system.world system.calls)
    (move : (machine config).Move (contract config) system event world calls) : Owners world calls := by
  cases move with
  | start tag opened free entered path =>
    rw [close_jobs, enter_jobs entered]
    exact Owners.jobs _ (Owners.jobs _ (owners.recalls _ _ (.inl ⟨rfl, free⟩)))
  | step index env thread op answer rest opened act =>
    rw [close_jobs]
    exact (owners.act books act).jobs _
  | cut index thread found running =>
    change Owners (leave thread.tag none system.world) _
    rw [leave_jobs]
    exact Owners.jobs _ (owners.recalls _ _ (.inr ⟨thread, found, rfl, rfl⟩))

/-- Who owns what, in every run. -/
theorem owners_of_reaches {config : Config} {initial system : SignSystem} (start : Initial initial)
    (reached : (machine config).Reaches initial system) : Owners system.world system.calls := by
  have kept : Machine.Kept (contract config) initial := kept_of_reaches start.threads .refl
  have owners : Owners initial.world initial.calls := by
    refine ⟨?_, ?_, ?_, ?_, ?_, ?_⟩
    · intro index thread args found
      rw [start.calls] at found
      cases found
    · intro index thread id found
      rw [start.calls] at found
      cases found
    · intro index other thread rival id found
      rw [start.calls] at found
      cases found
    · intro id other row rival userId network key found
      rw [start.request] at found
      cases found
    · intro index thread args id charge found
      rw [start.calls] at found
      cases found
    · intro presignId presign id found held
      rw [start.presigns presign (Table.mem_of_get found)] at held
      cases held
  exact (reached.tracked (honours config) Owners kept owners
    (fun reached owners _ move => owners.move (books_of_reaches start reached) move)).2

end MpcKit.Sign
