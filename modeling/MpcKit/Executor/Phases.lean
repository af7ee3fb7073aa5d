import MpcKit.Executor.Pipeline
import MpcKit.Sign.Walks

/-! What the phase of a thrown error says about the transaction, on every run of the
executor, and what the sign worker makes of it. -/

namespace MpcKit.Executor
open MpcKit.Backend MpcKit.Async
open Program (unwrap)

abbrev Trace := History Op Res

/-! ### Reading a run -/

/-- The entry hands the lock to the call. -/
def grants : Entry Op Res → Bool
  | ⟨.set _ _ _, .ok granted⟩ => granted
  | ⟨.queueJoin _, granted⟩ => granted
  | ⟨.queueWait _, _⟩ => true
  | _ => false

/-- The transaction builder rejects what it is told, or no byte of the `execute_tx` request leaves. -/
def hinders : Entry Op Res → Bool
  | ⟨.setSender _, .error _⟩ => true
  | ⟨.setGasOwner _, .error _⟩ => true
  | ⟨.setGasPayment _, .error _⟩ => true
  | ⟨.setGasBudget _, .error _⟩ => true
  | ⟨.executeTx _ _ _, sent⟩ => !sent.left
  | _ => false

/-- Bytes of an `execute_tx` request leave the backend. -/
def submits : Entry Op Res → Bool
  | ⟨.executeTx _ _ _, sent⟩ => sent.left
  | _ => false

def consumes : Entry Op Res → Bool
  | ⟨.executeTx _ _ _, sent⟩ => sent.consumed
  | _ => false

/-- An `execute_tx` request was sent. -/
def submitted (trace : Trace) : Bool := trace.any submits
def granted (trace : Trace) : Bool := trace.any grants
def hindered (trace : Trace) : Bool := trace.any hinders
/-- The transaction consumed its input objects. -/
def consumed (trace : Trace) : Bool := trace.any consumes

@[simp] theorem submitted_cons (entry : Entry Op Res) (trace : Trace) :
    submitted (entry :: trace) = (submits entry || submitted trace) := rfl
@[simp] theorem granted_cons (entry : Entry Op Res) (trace : Trace) :
    granted (entry :: trace) = (grants entry || granted trace) := rfl
@[simp] theorem hindered_cons (entry : Entry Op Res) (trace : Trace) :
    hindered (entry :: trace) = (hinders entry || hindered trace) := rfl
@[simp] theorem consumed_cons (entry : Entry Op Res) (trace : Trace) :
    consumed (entry :: trace) = (consumes entry || consumed trace) := rfl

/-- A block that failed left its inputs as they were. A request that never left is not answered, and
consumes nothing. -/
def atomic : (op : Op) → Res op → Prop
  | .executeTx _ _ _, sent =>
      (∀ json block error, sent.reply = .body (.ok json) → json.txBlockResponse = some block →
        block.status = some (.failure error) → sent.consumed = false) ∧
      (sent.left = false → (∃ failure, sent.reply = .failed failure) ∧ sent.consumed = false)
  | _, _ => True

/-- A run of the executor to its end. -/
def Runs (config : Config) (network : String) (tx : Transaction) (trace : Trace) (result : Except Thrown ExecutedTx) :
    Prop := (execute config network tx).Ends atomic trace result

/-- The phase of what is thrown tells the truth. -/
def Truthful (trace : Trace) : Except Thrown ExecutedTx → Prop
  | .ok _ => True
  | .error error => (error.phase = .preflight ↔ submitted trace = false) ∧
      (error.phase = .reverted → consumed trace = false)

/-- The lock was handed over, the builder took every setting, and a request that was made left. -/
def Unhindered (trace : Trace) : Prop := granted trace = true ∧ hindered trace = false

/-! ### The stages of a run -/

/-- Nothing has been done yet but waiting for the lock. -/
structure Waiting (trace : Trace) : Prop where
  submitted : submitted trace = false
  granted : granted trace = false
  consumed : consumed trace = false
  hindered : hindered trace = false

/-- The lock is held and nothing was sent. -/
structure Holding (trace : Trace) : Prop where
  submitted : submitted trace = false
  granted : granted trace = true
  consumed : consumed trace = false
  hindered : hindered trace = false

/-- The entry says nothing about the transaction. -/
structure Neutral (entry : Entry Op Res) : Prop where
  submits : submits entry = false
  consumes : consumes entry = false
  hinders : hinders entry = false

theorem Waiting.cons {trace : Trace} {entry : Entry Op Res} (waiting : Waiting trace) (neutral : Neutral entry)
    (grantsNot : grants entry = false) : Waiting (entry :: trace) := by
  constructor
  · simp [neutral.submits, waiting.submitted]
  · simp [grantsNot, waiting.granted]
  · simp [neutral.consumes, waiting.consumed]
  · simp [neutral.hinders, waiting.hindered]

theorem Waiting.grant {trace : Trace} {entry : Entry Op Res} (waiting : Waiting trace) (neutral : Neutral entry)
    (grant : grants entry = true) : Holding (entry :: trace) := by
  constructor
  · simp [neutral.submits, waiting.submitted]
  · simp [grant]
  · simp [neutral.consumes, waiting.consumed]
  · simp [neutral.hinders, waiting.hindered]

theorem Holding.cons {trace : Trace} {entry : Entry Op Res} (holding : Holding trace) (neutral : Neutral entry) :
    Holding (entry :: trace) := by
  constructor
  · simp [neutral.submits, holding.submitted]
  · simp [holding.granted]
  · simp [neutral.consumes, holding.consumed]
  · simp [neutral.hinders, holding.hindered]

/-- The contract of the executor: its errors are truthful exactly on unhindered runs. -/
def faithful : Contract Op Res Thrown ExecutedTx where
  answers := atomic
  before _ _ := True
  after trace result := Truthful trace result ↔ Unhindered trace

/-- How waiting for the lock ends. -/
def Waited (trace : Trace) : Except Thrown Bool → Prop
  | .ok true => Holding trace
  | .ok false => Waiting trace
  | .error error => Waiting trace ∧ error.phase = .unknown

theorem poll_obeys (options : LockOptions) (key : String) (token : Uuid) (deadline : Time) (turns : Nat) (trace : Trace)
    (waiting : Waiting trace) :
    (poll options key token deadline turns).Obeys (faithful.ending Waited) trace := by
  induction turns generalizing trace with
  | zero => exact waiting
  | succ turns ih =>
    refine ⟨trivial, fun now _ => ?_⟩
    have later : Waiting (⟨.now, now⟩ :: trace) := waiting.cons ⟨rfl, rfl, rfl⟩ rfl
    show Program.Obeys (faithful.ending Waited) _ (Program.bind (.ret now) _)
    simp only [Program.bind]
    split
    · refine ⟨trivial, fun answer _ => ?_⟩
      cases answer with
      | error failure => exact ⟨later.cons ⟨rfl, rfl, rfl⟩ rfl, rfl⟩
      | ok taken => cases taken with
        | true => exact later.grant ⟨rfl, rfl, rfl⟩ rfl
        | false =>
          refine ⟨trivial, fun _ _ => ?_⟩
          exact ih _ ((later.cons ⟨rfl, rfl, rfl⟩ rfl).cons ⟨rfl, rfl, rfl⟩ rfl)
    · exact later

theorem acquire_obeys (config : Config) (options : LockOptions) (key : String) (token : Uuid) (trace : Trace)
    (waiting : Waiting trace) :
    (acquire config options key token).Obeys (faithful.ending Waited) trace := by
  unfold acquire
  split
  · refine ⟨trivial, fun start _ => ?_⟩
    exact poll_obeys options key token _ config.turns _ (waiting.cons ⟨rfl, rfl, rfl⟩ rfl)
  · refine ⟨trivial, fun answer _ => ?_⟩
    cases answer with
    | true => exact waiting.grant ⟨rfl, rfl, rfl⟩ rfl
    | false => exact ⟨trivial, fun _ _ => (waiting.cons ⟨rfl, rfl, rfl⟩ rfl).grant ⟨rfl, rfl, rfl⟩ rfl⟩

/-- How a step under a `catch` that says `preflight` ends. -/
def Prepared {α : Type} (trace : Trace) : Except Thrown α → Prop
  | .ok _ => Holding trace
  | .error error => Holding trace ∧ error.phase = .preflight

theorem reserveGas_obeys (config : Config) (trace : Trace) (holding : Holding trace) :
    ((reserveGas config).rescue (fun error => throw (tagged .preflight "reserve_gas" error))).Obeys
      (faithful.ending Prepared) trace := by
  refine Program.Obeys.rescue (fun trace _ => Holding trace) ?_ (fun _ _ kept => kept) (fun _ _ kept => ⟨kept, rfl⟩)
  refine ⟨trivial, fun reply _ => ?_⟩
  have kept : Holding (⟨.reserveGas config.gasBudgetMist config.reserveDurationSecs, reply⟩ :: trace) :=
    holding.cons ⟨rfl, rfl, rfl⟩
  show Program.Obeys _ _ (Program.bind (pass (gasStationPost "/v1/reserve_gas" reply)) _)
  cases gasStationPost "/v1/reserve_gas" reply with
  | error failure => exact kept
  | ok body =>
    simp only [pass, Program.bind]
    split <;> exact kept

theorem buildAndSign_obeys (network : String) (trace : Trace) (holding : Holding trace) :
    ((buildAndSign network).rescue (fun error => throw (tagged .preflight "tx build/sign" error))).Obeys
      (faithful.ending Prepared) trace := by
  refine Program.Obeys.rescue (fun trace _ => Holding trace) ?_ (fun _ _ kept => kept) (fun _ _ kept => ⟨kept, rfl⟩)
  refine ⟨trivial, fun answer _ => ?_⟩
  have kept : Holding (⟨.build network, answer⟩ :: trace) := holding.cons ⟨rfl, rfl, rfl⟩
  cases answer with
  | error failure => exact kept
  | ok bytes =>
    refine ⟨trivial, fun answer _ => ?_⟩
    cases answer with
    | error failure => exact kept.cons ⟨rfl, rfl, rfl⟩
    | ok signature => exact kept.cons ⟨rfl, rfl, rfl⟩

theorem reply_of_posted {β : Type} {path : String} {reply : Reply β} {json : β}
    (posted : gasStationPost path reply = .ok json) : reply = .body (.ok json) := by
  cases reply with
  | failed failure => cases posted
  | refused status text => cases text <;> cases posted
  | body answer =>
    simp only [gasStationPost] at posted
    rw [posted]

/-- A request was sent, whose answer is known to be `exec`. -/
structure Sent (trace : Trace) (exec : ExecuteTxResponse) : Prop where
  submitted : submitted trace = true
  granted : granted trace = true
  hindered : hindered trace = false
  rolledBack : ∀ block error, exec.txBlockResponse = some block → block.status = some (.failure error) →
    consumed trace = false

/-- A request was made, and left or not. -/
structure Made (trace : Trace) : Prop where
  granted : granted trace = true
  submitted : submitted trace = !hindered trace

/-- How the request itself ends. -/
def Posted (trace : Trace) : Except Thrown ExecuteTxResponse → Prop
  | .ok exec => Sent trace exec
  | .error _ => Made trace

/-- How the request under the `catch` that says `unknown` ends. -/
def Answered (trace : Trace) : Except Thrown ExecuteTxResponse → Prop
  | .ok exec => Sent trace exec
  | .error error => Made trace ∧ error.phase = .unknown

theorem Holding.made {trace : Trace} (holding : Holding trace) (reservationId : Nat) (txBytes : Bytes)
    (userSig : String)
    (answer : Submission) : Made (⟨.executeTx reservationId txBytes userSig, answer⟩ :: trace) := by
  constructor
  · simp [holding.granted]
  · simp [submits, hinders, holding.submitted, holding.hindered]

/-- Only a request that left is answered. -/
theorem Holding.sent {trace : Trace} (holding : Holding trace) {reservationId : Nat} {txBytes : Bytes}
    {userSig : String}
    {answer : Submission} (known : atomic (.executeTx reservationId txBytes userSig) answer) {exec : ExecuteTxResponse}
    (answered : answer.reply = .body (.ok exec)) :
    Sent (⟨.executeTx reservationId txBytes userSig, answer⟩ :: trace) exec := by
  have left : answer.left = true := by
    by_contra stayed
    obtain ⟨⟨failure, failed⟩, _⟩ := known.2 (Bool.eq_false_iff.mpr stayed)
    rw [failed] at answered
    cases answered
  refine ⟨?_, ?_, ?_, fun block error there failed => ?_⟩
  · simp [submits, left]
  · simp [holding.granted]
  · simp [hinders, left, holding.hindered]
  · simp [consumes, known.1 exec block error answered there failed, holding.consumed]

theorem executeTx_obeys (reservationId : Nat) (txBytes : Bytes) (userSig : String) (trace : Trace)
    (holding : Holding trace) :
    ((executeTx reservationId txBytes userSig).rescue (fun error => throw (tagged .unknown "execute_tx" error))).Obeys
      (faithful.ending Answered) trace := by
  refine Program.Obeys.rescue Posted ?_ (fun _ _ kept => kept) (fun _ _ kept => ⟨kept, rfl⟩)
  refine ⟨trivial, fun answer known => ?_⟩
  show Program.Obeys _ _ (Program.bind (pass (gasStationPost "/v1/execute_tx" answer.reply)) _)
  cases posted : gasStationPost "/v1/execute_tx" answer.reply with
  | error failure => exact holding.made reservationId txBytes userSig answer
  | ok body =>
    simp only [pass, Program.bind]
    split
    · exact holding.made reservationId txBytes userSig answer
    · exact holding.sent known (reply_of_posted posted)

/-- An error that does not say `preflight` though nothing was sent. -/
def Untagged (trace : Trace) (result : Except Thrown ExecutedTx) : Prop :=
  submitted trace = false ∧ ∃ error, result = .error error ∧ error.phase = .unknown

theorem Untagged.not_truthful {trace : Trace} {result : Except Thrown ExecutedTx} (untagged : Untagged trace result) :
    ¬Truthful trace result := by
  obtain ⟨silent, error, rfl, phase⟩ := untagged
  simp [Truthful, phase, silent]

/-- How a run ends: its errors tell the truth unless something else threw before the request. -/
structure Told (smooth : Trace → Prop) (trace : Trace) (result : Except Thrown ExecutedTx) : Prop where
  truthful : smooth trace → Truthful trace result
  hindered : ¬smooth trace → Untagged trace result
  landed : ∀ executed, result = .ok executed → submitted trace = true

theorem Told.iff {smooth : Trace → Prop} {trace : Trace} {result : Except Thrown ExecutedTx}
    (told : Told smooth trace result) : Truthful trace result ↔ smooth trace := by
  constructor
  · intro truthful
    by_contra hindered
    exact (told.hindered hindered).not_truthful truthful
  · exact told.truthful

/-- How the critical section ends. -/
def Finished (trace : Trace) (result : Except Thrown ExecutedTx) : Prop :=
  granted trace = true ∧ Told (fun trace => hindered trace = false) trace result

theorem Holding.throws {trace : Trace} {error : Thrown} (holding : Holding trace) (preflight : error.phase = .preflight) :
    Finished trace (.error error) := by
  refine ⟨holding.granted, fun _ => ?_, fun rough => absurd holding.hindered rough, fun executed same => by cases same⟩
  simp [Truthful, preflight, holding.submitted]

/-- An untagged error where nothing was sent. -/
theorem Holding.balks {trace : Trace} {entry : Entry Op Res} {error : Thrown} (holding : Holding trace)
    (balk : hinders entry = true) (quiet : submits entry = false) (untagged : error.phase = .unknown) :
    Finished (entry :: trace) (.error error) := by
  refine ⟨by simp [holding.granted], fun smooth => ?_, fun _ => ⟨?_, error, rfl, untagged⟩,
    fun executed same => by cases same⟩
  · simp [balk] at smooth
  · simp [quiet, holding.submitted]

/-- One setting of the transaction builder. -/
theorem setting_obeys {op : Op} {result : Res op → Except Failure Unit} {next : Unit → Prog ExecutedTx} {trace : Trace}
    (holding : Holding trace) (quiet : ∀ answer, submits ⟨op, answer⟩ = false)
    (consumesNot : ∀ answer, consumes ⟨op, answer⟩ = false)
    (taken : ∀ answer, result answer = .ok () → hinders ⟨op, answer⟩ = false)
    (rejected : ∀ answer failure, result answer = .error failure → hinders ⟨op, answer⟩ = true)
    (rest : ∀ trace, Holding trace → (next ()).Obeys (faithful.ending Finished) trace) :
    (perform op >>= fun answer => pass (result answer) >>= next).Obeys (faithful.ending Finished) trace := by
  refine ⟨trivial, fun answer _ => ?_⟩
  show Program.Obeys _ _ (Program.bind (pass (result answer)) _)
  cases told : result answer with
  | ok done => exact rest _ (holding.cons ⟨quiet answer, consumesNot answer, taken answer told⟩)
  | error failure => exact holding.balks (rejected answer failure told) (quiet answer) rfl

/-- An error of the request says `unknown`, which is wrong when no byte of it left. -/
theorem Made.throws {trace : Trace} {error : Thrown} (made : Made trace) (unknown : error.phase = .unknown) :
    Finished trace (.error error) := by
  refine ⟨made.granted, fun smooth => ?_, fun rough => ⟨?_, error, rfl, unknown⟩, fun executed same => by cases same⟩
  · simp [Truthful, unknown, made.submitted, smooth]
  · have stayed : hindered trace = true := by simpa using rough
    rw [made.submitted, stayed]
    rfl

theorem readBlock_finished {trace : Trace} {exec : ExecuteTxResponse} (sent : Sent trace exec) :
    Finished trace (readBlock exec) := by
  have truthful : Truthful trace (readBlock exec) := by
    unfold readBlock
    split
    · simp [Truthful, Thrown.phase, sent.submitted]
    next block found =>
      have there : exec.txBlockResponse = some block := (Option.filter_eq_some_iff.mp found).1
      split
      next error failed =>
        have clean := sent.rolledBack block error there failed
        simp [Truthful, Thrown.phase, sent.submitted, clean]
      next other =>
        cases translateBlock block with
        | ok executed => trivial
        | error failure => simp [Truthful, Except.mapError, Failure.thrown, Thrown.phase, sent.submitted]
  exact ⟨sent.granted, fun _ => truthful, fun rough => absurd sent.hindered rough, fun _ _ => sent.submitted⟩

theorem executeUnlocked_obeys (config : Config) (network : String) (tx : Transaction) (trace : Trace)
    (holding : Holding trace) :
    (executeUnlocked config network tx).Obeys (faithful.ending Finished) trace := by
  -- Everything after the sender is set.
  have rest : ∀ trace, Holding trace → (executeSent config network).Obeys (faithful.ending Finished) trace := by
    intro trace holding
    refine Program.Obeys.bind (reserveGas_obeys config trace holding) ?_ (fun _ _ kept => kept.1.throws kept.2)
    intro trace reserved holding
    refine setting_obeys holding (fun _ => rfl) (fun _ => rfl) ?_ ?_ (fun trace holding => ?_)
    · rintro answer rfl; rfl
    · rintro answer failure rfl; rfl
    refine setting_obeys holding (fun _ => rfl) (fun _ => rfl) ?_ ?_ (fun trace holding => ?_)
    · rintro answer rfl; rfl
    · rintro answer failure rfl; rfl
    refine setting_obeys holding (fun _ => rfl) (fun _ => rfl) ?_ ?_ (fun trace holding => ?_)
    · rintro answer rfl; rfl
    · rintro answer failure rfl; rfl
    refine Program.Obeys.bind (buildAndSign_obeys network trace holding) ?_ (fun _ _ kept => kept.1.throws kept.2)
    rintro trace ⟨txBytes, userSig⟩ holding
    refine Program.Obeys.bind (executeTx_obeys reserved.reservationId txBytes userSig trace holding) ?_ ?_
    · intro trace exec sent
      exact Program.obeys_unwrap (readBlock_finished sent)
    · intro trace error answered
      exact answered.1.throws answered.2
  unfold executeUnlocked
  split
  · refine setting_obeys holding (fun _ => rfl) (fun _ => rfl) ?_ ?_ rest
    · rintro answer rfl; rfl
    · rintro answer failure rfl; rfl
  · exact rest trace holding

/-- An entry that says nothing about the transaction. -/
theorem Finished.cons {trace : Trace} {entry : Entry Op Res} {result : Except Thrown ExecutedTx}
    (finished : Finished trace result) (neutral : Neutral entry) : Finished (entry :: trace) result := by
  have same : submitted (entry :: trace) = submitted trace := by simp [neutral.submits]
  have smooth : hindered (entry :: trace) = hindered trace := by simp [neutral.hinders]
  have spared : consumed (entry :: trace) = consumed trace := by simp [neutral.consumes]
  refine ⟨by simp [finished.1], fun clear => ?_, fun rough => ?_, fun executed ok => ?_⟩
  · rw [smooth] at clear
    have truthful := finished.2.truthful clear
    cases result with
    | ok executed => trivial
    | error error => simpa only [Truthful, same, spared] using truthful
  · rw [smooth] at rough
    have untagged := finished.2.hindered rough
    exact ⟨same.trans untagged.1, untagged.2⟩
  · exact same.trans (finished.2.landed executed ok)

theorem Finished.told {trace : Trace} {result : Except Thrown ExecutedTx} (finished : Finished trace result) :
    Told Unhindered trace result where
  truthful smooth := finished.2.truthful smooth.2
  hindered rough := finished.2.hindered (fun smooth => rough ⟨finished.1, smooth⟩)
  landed := finished.2.landed

theorem release_obeys (config : Config) (key : String) (token : Uuid) (trace : Trace) (result : Except Thrown ExecutedTx)
    (finished : Finished trace result) :
    ((release config key token).bind (fun _ => unwrap result)).Obeys (faithful.ending (Told Unhindered)) trace := by
  unfold release
  split
  · exact ⟨trivial, fun _ _ => Program.obeys_unwrap (finished.cons ⟨rfl, rfl, rfl⟩).told⟩
  · exact ⟨trivial, fun _ _ => Program.obeys_unwrap (finished.cons ⟨rfl, rfl, rfl⟩).told⟩

/-- Without the lock nothing was sent. -/
theorem Waiting.told {trace : Trace} {error : Thrown} (waiting : Waiting trace) (untagged : error.phase = .unknown) :
    Told Unhindered trace (.error error) where
  truthful smooth := by simp [Unhindered, waiting.granted] at smooth
  hindered _ := ⟨waiting.submitted, error, rfl, untagged⟩
  landed executed same := by cases same

theorem execute_obeys (config : Config) (network : String) (tx : Transaction) :
    (execute config network tx).Obeys (faithful.ending (Told Unhindered)) [] := by
  have waiting : Waiting [] := ⟨rfl, rfl, rfl, rfl⟩
  refine ⟨trivial, fun token _ => ?_⟩
  have acquired := acquire_obeys config LockOptions.default (lockKey network) token [⟨.randomUUID, token⟩]
    (waiting.cons ⟨rfl, rfl, rfl⟩ rfl)
  show Program.Obeys _ _ (Program.bind (acquire config LockOptions.default (lockKey network) token) _)
  refine Program.Obeys.bind acquired ?_ (fun _ _ waited => waited.1.told waited.2)
  intro trace acquired waited
  cases acquired with
  | false => exact waited.told rfl
  | true =>
    refine Program.Obeys.ensure Finished (executeUnlocked_obeys config network tx trace waited) ?_
    exact release_obeys config (lockKey network) token

theorem told {config : Config} {network : String} {tx : Transaction} {trace : Trace} {result : Except Thrown ExecutedTx}
    (runs : Runs config network tx trace result) : Told Unhindered trace result :=
  (execute_obeys config network tx).ends runs

theorem submission_obeys (executor : Except Failure Config) (network : String) (tx : Transaction) :
    (submission executor network tx).Obeys (faithful.ending (Told Unhindered)) [] := by
  cases executor with
  | ok config => exact execute_obeys config network tx
  | error failure =>
    have waiting : Waiting [] := ⟨rfl, rfl, rfl, rfl⟩
    exact waiting.told rfl

/-! ### The sign worker -/

abbrev Log := History Sign.Op Sign.Res

def attempt : Entry Sign.Op Sign.Res → Option (Sign.SignZeroTrust × Except Thrown Sign.ExecutedTx)
  | ⟨.chain (.execute tx), answer⟩ => some (tx, answer)
  | _ => none

def spends : Entry Sign.Op Sign.Res → Option Uuid
  | ⟨.presign (.markUsed presignId), _⟩ => some presignId
  | _ => none

def readies : Entry Sign.Op Sign.Res → Option Uuid
  | ⟨.presign (.rollbackToReady presignId), _⟩ => some presignId
  | _ => none

/-- Something the transaction is made of could not be had: the Ika client, the dWallet row, its account,
the built block. -/
def misses : Entry Sign.Op Sign.Res → Bool
  | ⟨.chain (.getIkaClient _), .error _⟩ => true
  | ⟨.wallet (.selectBySui _), found⟩ => (found.bind Sign.DWallet.accountId).isNone
  | ⟨.wallet (.selectAccount _), none⟩ => true
  | ⟨.chain (.buildSignZeroTrust _), .error _⟩ => true
  | _ => false

/-- The transactions a worker had executed, with their answers. -/
def attempts (log : Log) : List (Sign.SignZeroTrust × Except Thrown Sign.ExecutedTx) := log.filterMap attempt
/-- The presigns it marked used. -/
def spent (log : Log) : List Uuid := log.filterMap spends
/-- The presigns it put back to `ready`. -/
def readied (log : Log) : List Uuid := log.filterMap readies
def stalled (log : Log) : Bool := log.any misses

/-- The worker found the request queued with a presign whose row is still there. -/
structure Works (signRequestId : Uuid) (log : Log) (sr : Sign.SignRequest) (presignId : Uuid) : Prop where
  found : ⟨.sign (.select signRequestId), some sr⟩ ∈ log
  queued : sr.status = .queued
  presign : sr.presignId = some presignId
  there : ⟨.presign (.select presignId), none⟩ ∉ log

theorem Works.cons {signRequestId presignId : Uuid} {log : Log} {sr : Sign.SignRequest}
    (works : Works signRequestId log sr presignId) {entry : Entry Sign.Op Sign.Res}
    (there : entry ≠ ⟨.presign (.select presignId), none⟩) : Works signRequestId (entry :: log) sr presignId where
  found := .tail _ works.found
  queued := works.queued
  presign := works.presign
  there := by
    rw [List.mem_cons, not_or]
    exact ⟨there.symm, works.there⟩

def Decodes (hex : String) : Prop := ∃ bytes, Sign.fromHex hex = .ok bytes

/-- The row has everything it must bring to the transaction. -/
structure Filled (sr : Sign.SignRequest) : Prop where
  signature : ∃ hex, Sign.present sr.messageCentralizedSignatureHex = some hex ∧ Decodes hex
  session : ∃ hex, Sign.present sr.sessionIdentifierHex = some hex ∧ Decodes hex
  message : Decodes sr.messageHex

/-- All the transaction is made of was there. -/
structure Outfitted (log : Log) (sr : Sign.SignRequest) : Prop where
  filled : Filled sr
  found : stalled log = false

/-- Operations that look up nothing for the transaction, do not submit it and settle no presign. -/
def Plain : Sign.Op → Prop
  | .sign (.select _) => False
  | .presign (.select _) => False
  | .presign (.markUsed _) => False
  | .presign (.rollbackToReady _) => False
  | .wallet _ => False
  | .chain (.getIkaClient _) => False
  | .chain (.buildSignZeroTrust _) => False
  | .chain (.execute _) => False
  | _ => True

/-- Whatever a worker does after it has submitted. -/
def Single : Sign.Op → Prop
  | .presign (.markUsed _) => True
  | .presign (.rollbackToReady _) => True
  | op => Plain op

theorem Plain.single {op : Sign.Op} (plain : Plain op) : Single op := by
  cases op with
  | presign op => cases op <;> first | exact plain | trivial
  | _ => exact plain

/-- The log has grown by operations that follow a submission. -/
structure Later (before after : Log) : Prop where
  attempts : attempts after = attempts before
  stalled : stalled after = stalled before
  rows : ∀ id row, ⟨.sign (.select id), some row⟩ ∈ after ↔
    (⟨.sign (.select id), some row⟩ : Entry Sign.Op Sign.Res) ∈ before
  gone : ∀ id, ⟨.presign (.select id), none⟩ ∈ after ↔
    (⟨.presign (.select id), none⟩ : Entry Sign.Op Sign.Res) ∈ before

theorem Later.refl (log : Log) : Later log log := ⟨rfl, rfl, fun _ _ => .rfl, fun _ => .rfl⟩

theorem Later.cons {before after : Log} (later : Later before after) {op : Sign.Op} (single : Single op)
    (answer : Sign.Res op) : Later before (⟨op, answer⟩ :: after) := by
  have unread : attempt ⟨op, answer⟩ = none ∧ misses ⟨op, answer⟩ = false := by
    cases op with
    | sign op => cases op <;> first | exact single.elim | exact ⟨rfl, rfl⟩
    | presign op => cases op <;> first | exact single.elim | exact ⟨rfl, rfl⟩
    | wallet op => exact single.elim
    | chain op => cases op <;> first | exact single.elim | exact ⟨rfl, rfl⟩
    | _ => exact ⟨rfl, rfl⟩
  have row : ∀ id row, (⟨.sign (.select id), some row⟩ : Entry Sign.Op Sign.Res) ≠ ⟨op, answer⟩ := by
    rintro id row ⟨⟩
    exact single
  have gone : ∀ id, (⟨.presign (.select id), none⟩ : Entry Sign.Op Sign.Res) ≠ ⟨op, answer⟩ := by
    rintro id ⟨⟩
    exact single
  refine ⟨?_, ?_, fun id found => ?_, fun id => ?_⟩
  · rw [Executor.attempts, List.filterMap_cons_none unread.1, ← Executor.attempts, later.attempts]
  · rw [Executor.stalled, List.any_cons, unread.2, Bool.false_or, ← Executor.stalled, later.stalled]
  · rw [List.mem_cons, or_iff_right (row id found), later.rows]
  · rw [List.mem_cons, or_iff_right (gone id), later.gone]

theorem Later.works {before after : Log} (later : Later before after) {signRequestId presignId : Uuid}
    {sr : Sign.SignRequest} : Works signRequestId after sr presignId ↔ Works signRequestId before sr presignId := by
  constructor
  · rintro ⟨found, queued, presign, there⟩
    exact ⟨(later.rows _ _).mp found, queued, presign, fun gone => there ((later.gone _).mpr gone)⟩
  · rintro ⟨found, queued, presign, there⟩
    exact ⟨(later.rows _ _).mpr found, queued, presign, fun gone => there ((later.gone _).mp gone)⟩

theorem Later.outfitted {before after : Log} (later : Later before after) {sr : Sign.SignRequest} :
    Outfitted after sr ↔ Outfitted before sr := by
  constructor
  · rintro ⟨filled, found⟩
    exact ⟨filled, later.stalled.symm.trans found⟩
  · rintro ⟨filled, found⟩
    exact ⟨filled, later.stalled.trans found⟩

/-- The log has grown by plain operations. -/
structure Grown (before after : Log) : Prop where
  later : Later before after
  spent : spent after = spent before
  readied : readied after = readied before

theorem Grown.refl (log : Log) : Grown log log := ⟨.refl log, rfl, rfl⟩

theorem Grown.cons {before after : Log} (grown : Grown before after) {op : Sign.Op} (plain : Plain op)
    (answer : Sign.Res op) : Grown before (⟨op, answer⟩ :: after) := by
  have unsettled : spends ⟨op, answer⟩ = none ∧ readies ⟨op, answer⟩ = none := by
    cases op with
    | presign op => cases op <;> first | exact plain.elim | exact ⟨rfl, rfl⟩
    | _ => exact ⟨rfl, rfl⟩
  refine ⟨grown.later.cons plain.single answer, ?_, ?_⟩
  · rw [Executor.spent, List.filterMap_cons_none unsettled.1, ← Executor.spent, grown.spent]
  · rw [Executor.readied, List.filterMap_cons_none unsettled.2, ← Executor.readied, grown.readied]

/-- A submission whose failure does not prove that the cap was spared. -/
def Doubtful : Except Thrown Sign.ExecutedTx → Prop
  | .ok _ => True
  | .error error => error.phase = .unknown

/-- The worker gave up before the submission, for want of something. -/
structure Stuck (signRequestId : Uuid) (log : Log) : Prop where
  attempts : attempts log = []
  spent : spent log = []
  readied : readied log = []
  unfit : ∀ sr presignId, Works signRequestId log sr presignId → ¬Outfitted log sr

/-- The worker submitted for this row and presign. -/
structure Tried (signRequestId : Uuid) (log : Log) (sr : Sign.SignRequest) (presignId : Uuid)
    (answer : Except Thrown Sign.ExecutedTx) : Prop where
  attempts : ∃ tx, attempts log = [(tx, answer)]
  works : Works signRequestId log sr presignId
  only : ∀ other otherId, Works signRequestId log other otherId → other = sr ∧ otherId = presignId
  outfitted : Outfitted log sr

/-- How the worker leaves the presign after its submission. -/
def Settled (log : Log) (presignId : Uuid) : Except Thrown Sign.ExecutedTx → Prop
  | .ok _ => True
  | .error error => (error.phase = .unknown → presignId ∈ spent log) ∧
      (error.phase ≠ .unknown → spent log = [] ∧ presignId ∈ readied log)

/-- How the worker ends. -/
def Concluded (signRequestId : Uuid) (log : Log) : Prop :=
  Stuck signRequestId log ∨
    ∃ sr presignId answer, Tried signRequestId log sr presignId answer ∧ Settled log presignId answer

/-- The worker submits once, and marks a presign used only after a submission that may have landed. -/
def Justified (log : Log) : Sign.Op → Prop
  | .chain (.execute _) => attempts log = [] ∧ spent log = []
  | .presign (.markUsed _) => ∃ tx answer, attempts log = [(tx, answer)] ∧ Doubtful answer
  | _ => True

def concluding (signRequestId : Uuid) : Contract Sign.Op Sign.Res Thrown Unit where
  answers _ _ := True
  before log op := Justified log op
  after log _ := Concluded signRequestId log

theorem concluding_ending (signRequestId : Uuid) :
    (concluding signRequestId).ending (fun log _ => Concluded signRequestId log) = concluding signRequestId := rfl

theorem Stuck.grown {signRequestId : Uuid} {before after : Log} (stuck : Stuck signRequestId before)
    (grown : Grown before after) : Stuck signRequestId after where
  attempts := grown.later.attempts.trans stuck.attempts
  spent := grown.spent.trans stuck.spent
  readied := grown.readied.trans stuck.readied
  unfit sr presignId works := by
    rw [grown.later.outfitted]
    exact stuck.unfit sr presignId (grown.later.works.mp works)

theorem Tried.later {signRequestId presignId : Uuid} {before after : Log} {sr : Sign.SignRequest}
    {answer : Except Thrown Sign.ExecutedTx} (tried : Tried signRequestId before sr presignId answer)
    (later : Later before after) : Tried signRequestId after sr presignId answer where
  attempts := by
    obtain ⟨tx, same⟩ := tried.attempts
    exact ⟨tx, later.attempts.trans same⟩
  works := later.works.mpr tried.works
  only other otherId works := tried.only other otherId (later.works.mp works)
  outfitted := later.outfitted.mpr tried.outfitted

theorem Plain.justified {op : Sign.Op} (plain : Plain op) (log : Log) : Justified log op := by
  cases op with
  | chain op => cases op <;> first | exact plain.elim | trivial
  | presign op => cases op <;> first | exact plain.elim | trivial
  | _ => trivial

theorem plain_obeys {program : Sign.Prog Unit} {signRequestId : Uuid} {log : Log} (only : program.Only Plain)
    (ended : ∀ later, Grown log later → Concluded signRequestId later) :
    program.Obeys (concluding signRequestId) log := by
  rw [← concluding_ending]
  refine only.obeys (fun later => Grown log later) (.refl log) ?_ (fun later _ grown => ended later grown)
  intro later op plain grown
  exact ⟨plain.justified later, fun answer => grown.cons plain answer⟩

/-- A part of the worker that gives up. -/
theorem Stuck.obeys {program : Sign.Prog Unit} {signRequestId : Uuid} {log : Log} (stuck : Stuck signRequestId log)
    (only : program.Only Plain) : program.Obeys (concluding signRequestId) log :=
  plain_obeys only (fun _ grown => .inl (stuck.grown grown))

theorem refundCredits_only (args : Billing.RefundArgs) : (Sign.refundCredits args).Only Plain := by
  unfold Sign.refundCredits
  split
  · trivial
  · refine ⟨trivial, fun _ => ⟨trivial, fun answer => ?_⟩⟩
    cases answer <;> trivial

theorem markFailed_only (config : Sign.Config) (id : Uuid) (presignId : Option Uuid) (code message : String) :
    (Sign.markFailed config id presignId code message).Only Plain := by
  cases presignId with
  | none =>
    refine ⟨trivial, fun failed => ?_⟩
    cases failed with
    | none => trivial
    | some row => exact (refundCredits_only _).bind (fun _ => trivial)
  | some presignId =>
    refine ⟨trivial, fun failed => ?_⟩
    cases failed with
    | none => exact ⟨trivial, fun _ => trivial⟩
    | some row => exact (refundCredits_only _).bind (fun _ => ⟨trivial, fun _ => trivial⟩)

theorem Single.justified {op : Sign.Op} (single : Single op) {log : Log}
    (landed : ∃ tx answer, attempts log = [(tx, answer)] ∧ Doubtful answer) : Justified log op := by
  cases op with
  | chain op => cases op <;> first | exact single.elim | trivial
  | presign op => cases op <;> first | exact landed | trivial
  | _ => trivial

theorem finishSign_only (config : Sign.Config) (sr : Sign.SignRequest) (presignId : Uuid) (executed : Sign.ExecutedTx) :
    (Sign.finishSign config sr presignId executed).Only Single := by
  have failed : ∀ presignId code message, (Sign.markFailed config sr.id presignId code message).Only Single :=
    fun _ _ _ => (markFailed_only _ _ _ _ _).mono (fun _ => Plain.single)
  refine Program.only_perform trivial (fun _ => Program.only_perform trivial (fun _ => ?_))
  split
  · exact Program.only_perform trivial (fun _ => failed _ _ _)
  · refine Program.only_perform trivial (fun _ => Program.Only.bind (Program.Only.rescue ?_ ?_) ?_)
    · refine (Program.only_unwrap _).bind (fun curve => (Program.only_unwrap _).bind (fun _ => ?_))
      refine Program.only_perform trivial (fun answer => (Program.only_unwrap answer).bind (fun signature => ?_))
      cases signature <;> trivial
    · intro error
      exact Program.only_perform trivial (fun _ => (failed _ _ _).bind (fun _ => trivial))
    · intro signature
      refine Program.only_perform trivial (fun _ => Program.only_perform trivial (fun _ => ?_))
      exact Program.only_perform trivial (fun answer => Program.only_unwrap answer)

theorem finishSign_obeys (config : Sign.Config) {signRequestId presignId : Uuid} {log : Log} {sr : Sign.SignRequest}
    {executed : Sign.ExecutedTx} (tried : Tried signRequestId log sr presignId (.ok executed)) :
    (Sign.finishSign config sr presignId executed).Obeys (concluding signRequestId) log := by
  rw [← concluding_ending]
  refine (finishSign_only config sr presignId executed).obeys (fun later => Later log later) (.refl log) ?_ ?_
  · intro later op single grown
    obtain ⟨tx, landed⟩ := (tried.later grown).attempts
    exact ⟨single.justified ⟨tx, _, landed, trivial⟩, fun answer => grown.cons single answer⟩
  · intro later result grown
    exact .inr ⟨sr, presignId, _, tried.later grown, trivial⟩

theorem abandonSubmit_obeys (config : Sign.Config) {signRequestId presignId : Uuid} {log : Log} {sr : Sign.SignRequest}
    {error : Thrown} (tried : Tried signRequestId log sr presignId (.error error)) (unspent : spent log = []) :
    (Sign.abandonSubmit config sr presignId error).Obeys (concluding signRequestId) log := by
  have failed : ∀ code message, (Program.bind (Sign.markFailed config sr.id (some presignId) code message)
      (fun _ => (throw error : Sign.Prog Unit))).Only Plain :=
    fun _ _ => (markFailed_only _ _ _ _ _).bind (fun _ => trivial)
  -- Both safe phases put the presign back first.
  have safe : error.phase ≠ .unknown → ∀ code message, Program.Obeys (concluding signRequestId)
      (⟨.presign (.rollbackToReady presignId), ()⟩ :: log) (Program.bind
        (Sign.markFailed config sr.id (some presignId) code message) (fun _ => throw error)) := by
    intro known code message
    refine plain_obeys (failed code message) (fun later grown => ?_)
    have put : Later log (⟨.presign (.rollbackToReady presignId), ()⟩ :: log) :=
      (Later.refl log).cons (by trivial : Single (.presign (.rollbackToReady presignId))) ()
    refine .inr ⟨sr, presignId, _, (tried.later put).later grown.later,
      fun unknown => absurd unknown known, fun _ => ?_⟩
    refine ⟨grown.spent.trans unspent, ?_⟩
    rw [grown.readied]
    exact List.mem_cons_self
  unfold Sign.abandonSubmit
  cases phase : error.phase with
  | unknown =>
    obtain ⟨tx, landed⟩ := tried.attempts
    refine ⟨⟨tx, _, landed, phase⟩, fun answer _ => ?_⟩
    refine plain_obeys (failed _ _) (fun later grown => ?_)
    have marked : Later log (⟨.presign (.markUsed presignId), answer⟩ :: log) :=
      (Later.refl log).cons (by trivial : Single (.presign (.markUsed presignId))) answer
    refine .inr ⟨sr, presignId, _, (tried.later marked).later grown.later, fun _ => ?_, fun known => absurd phase known⟩
    rw [grown.spent]
    exact List.mem_cons_self
  | preflight => exact ⟨trivial, fun _ _ => safe (by simp [phase]) _ _⟩
  | reverted => exact ⟨trivial, fun _ _ => safe (by simp [phase]) _ _⟩

/-! ### Up to the submission -/

/-- The worker is at this row and presign, nothing was missing yet and nothing submitted. -/
structure Preparing (signRequestId : Uuid) (log : Log) (sr : Sign.SignRequest) (presignId : Uuid) : Prop where
  attempts : attempts log = []
  spent : spent log = []
  readied : readied log = []
  works : Works signRequestId log sr presignId
  row : ∀ other, ⟨.sign (.select signRequestId), some other⟩ ∈ log → other = sr
  found : stalled log = false

/-- What the worker looks up or builds. -/
inductive Lookup : Sign.Op → Prop where
  | presign (presignId : Uuid) : Lookup (.presign (.select presignId))
  | client (network : String) : Lookup (.chain (.getIkaClient network))
  | wallet (suiDwalletId : ObjectId) : Lookup (.wallet (.selectBySui suiDwalletId))
  | account (id : Uuid) : Lookup (.wallet (.selectAccount id))
  | block (tx : Sign.SignZeroTrust) : Lookup (.chain (.buildSignZeroTrust tx))

/-- A lookup submits nothing and settles no presign. -/
theorem Lookup.unsettled {op : Sign.Op} (lookup : Lookup op) (answer : Sign.Res op) (log : Log) :
    attempts (⟨op, answer⟩ :: log) = attempts log ∧ spent (⟨op, answer⟩ :: log) = spent log ∧
      readied (⟨op, answer⟩ :: log) = readied log := by
  cases lookup <;> exact ⟨rfl, rfl, rfl⟩

namespace Preparing

variable {signRequestId presignId : Uuid} {log : Log} {sr : Sign.SignRequest}

/-- No other row was read. -/
theorem same (preparing : Preparing signRequestId log sr presignId) {other : Sign.SignRequest} {otherId : Uuid}
    (found : ⟨.sign (.select signRequestId), some other⟩ ∈ log) (presign : other.presignId = some otherId) :
    other = sr ∧ otherId = presignId := by
  have row := preparing.row other found
  subst row
  exact ⟨rfl, Option.some.inj (presign.symm.trans preparing.works.presign)⟩

/-- A lookup that finds what it looks for. -/
theorem cons (preparing : Preparing signRequestId log sr presignId) {op : Sign.Op} (lookup : Lookup op)
    (answer : Sign.Res op) (there : (⟨op, answer⟩ : Entry Sign.Op Sign.Res) ≠ ⟨.presign (.select presignId), none⟩)
    (hit : misses ⟨op, answer⟩ = false) : Preparing signRequestId (⟨op, answer⟩ :: log) sr presignId := by
  obtain ⟨attempted, spends, readies⟩ := lookup.unsettled answer log
  refine ⟨attempted.trans preparing.attempts, spends.trans preparing.spent, readies.trans preparing.readied,
    preparing.works.cons there, ?_, ?_⟩
  · intro other member
    rcases List.mem_cons.mp member with same | before
    · cases lookup <;> cases same
    · exact preparing.row other before
  · rw [stalled, List.any_cons, hit, Bool.false_or]
    exact preparing.found

/-- The row itself lacks something. -/
theorem lacks (preparing : Preparing signRequestId log sr presignId) (unfilled : ¬Filled sr) :
    Stuck signRequestId log := by
  refine ⟨preparing.attempts, preparing.spent, preparing.readied, fun other otherId works outfitted => ?_⟩
  obtain ⟨rfl, _⟩ := preparing.same works.found works.presign
  exact unfilled outfitted.filled

/-- A lookup that misses. -/
theorem misses (preparing : Preparing signRequestId log sr presignId) {op : Sign.Op} (lookup : Lookup op)
    (answer : Sign.Res op) (missed : Executor.misses ⟨op, answer⟩ = true) :
    Stuck signRequestId (⟨op, answer⟩ :: log) := by
  obtain ⟨attempted, spends, readies⟩ := lookup.unsettled answer log
  refine ⟨attempted.trans preparing.attempts, spends.trans preparing.spent, readies.trans preparing.readied, ?_⟩
  intro other otherId _ outfitted
  have hit := outfitted.found
  rw [stalled, List.any_cons, missed, Bool.true_or] at hit
  cases hit

/-- The presign row is gone. -/
theorem gone (preparing : Preparing signRequestId log sr presignId) :
    Stuck signRequestId (⟨.presign (.select presignId), none⟩ :: log) := by
  refine ⟨preparing.attempts, preparing.spent, preparing.readied, fun other otherId works _ => ?_⟩
  obtain ⟨rfl, rfl⟩ := preparing.same (by simpa using works.found) works.presign
  exact works.there List.mem_cons_self

theorem tried (preparing : Preparing signRequestId log sr presignId) (filled : Filled sr) (tx : Sign.SignZeroTrust)
    (answer : Except Thrown Sign.ExecutedTx) :
    Tried signRequestId (⟨.chain (.execute tx), answer⟩ :: log) sr presignId answer := by
  refine ⟨⟨tx, congrArg _ preparing.attempts⟩, preparing.works.cons (by simp), ?_, ⟨filled, preparing.found⟩⟩
  intro other otherId works
  exact preparing.same (by simpa using works.found) works.presign

end Preparing

theorem unwrap_obeys {α : Type} {result : Except Thrown α} {next : α → Sign.Prog Unit} {signRequestId : Uuid}
    {log : Log}
    (returned : ∀ value, result = .ok value → (next value).Obeys (concluding signRequestId) log)
    (thrown : ∀ error, result = .error error → Stuck signRequestId log) :
    (Program.bind (unwrap result) next).Obeys (concluding signRequestId) log := by
  cases result with
  | ok value => exact returned value rfl
  | error error => exact .inl (thrown error rfl)

theorem not_decodes {hex : String} {error : Thrown} (malformed : Sign.fromHex hex = .error error) : ¬Decodes hex := by
  rintro ⟨bytes, decoded⟩
  rw [malformed] at decoded
  cases decoded

theorem submitSign_obeys (config : Sign.Config) {sr : Sign.SignRequest} {signRequestId presignId : Uuid} {log : Log}
    (preparing : Preparing signRequestId log sr presignId) (filled : Filled sr) (tx : Sign.SignZeroTrust) :
    (Sign.submitSign config sr presignId tx).Obeys (concluding signRequestId) log := by
  refine Program.obeys_perform trivial (fun built _ => ?_)
  cases built with
  | error error => exact .inl (preparing.misses (.block tx) (.error error) rfl)
  | ok _ =>
    have preparing := preparing.cons (.block tx) (.ok ()) (by simp) rfl
    refine Program.obeys_perform ⟨preparing.attempts, preparing.spent⟩ (fun answer _ => ?_)
    cases answer with
    | ok executed => exact finishSign_obeys config (preparing.tried filled tx _)
    | error error => exact abandonSubmit_obeys config (preparing.tried filled tx _) preparing.spent

theorem signQueued_obeys (config : Sign.Config) {sr : Sign.SignRequest} {signRequestId presignId : Uuid}
    {signatureHex sessionHex : String} {log : Log} (preparing : Preparing signRequestId log sr presignId)
    (signature : Sign.present sr.messageCentralizedSignatureHex = some signatureHex)
    (session : Sign.present sr.sessionIdentifierHex = some sessionHex) :
    (Sign.signQueued config sr presignId signatureHex sessionHex).Obeys (concluding signRequestId) log := by
  refine Program.obeys_perform trivial (fun found _ => ?_)
  cases found with
  | none => exact preparing.gone.obeys (markFailed_only _ _ _ _ _)
  | some presign =>
    have preparing := preparing.cons (.presign presignId) (some presign) (by simp) rfl
    refine unwrap_obeys (fun signed decodedSignature => ?_) (fun error malformed => preparing.lacks ?_)
    rotate_left
    · rintro ⟨⟨hex, same, decodes⟩, _, _⟩
      obtain rfl := Option.some.inj (signature.symm.trans same)
      exact not_decodes malformed decodes
    refine unwrap_obeys (fun identifier decodedSession => ?_) (fun error malformed => preparing.lacks ?_)
    rotate_left
    · rintro ⟨_, ⟨hex, same, decodes⟩, _⟩
      obtain rfl := Option.some.inj (session.symm.trans same)
      exact not_decodes malformed decodes
    refine Program.obeys_perform trivial (fun client _ => ?_)
    cases client with
    | error error => exact .inl (preparing.misses (.client sr.network) (.error error) rfl)
    | ok coordinatorId =>
      have preparing := preparing.cons (.client sr.network) (.ok coordinatorId) (by simp) rfl
      refine Program.obeys_perform trivial (fun found _ => ?_)
      cases found with
      | none => exact (preparing.misses (.wallet sr.suiDwalletId) none rfl).obeys (markFailed_only _ _ _ _ _)
      | some dw =>
        dsimp only
        cases linked : dw.accountId with
        | none => exact .inl (preparing.misses (.wallet sr.suiDwalletId) (some dw) (by simp [misses, linked]))
        | some accountId =>
          have preparing := preparing.cons (.wallet sr.suiDwalletId) (some dw) (by simp) (by simp [misses, linked])
          refine Program.obeys_perform trivial (fun found _ => ?_)
          cases found with
          | none => exact .inl (preparing.misses (.account accountId) none rfl)
          | some account =>
            have preparing := preparing.cons (.account accountId) (some account) (by simp) rfl
            refine unwrap_obeys (fun message decodedMessage => ?_) (fun error malformed => preparing.lacks ?_)
            rotate_left
            · rintro ⟨_, _, decodes⟩
              exact not_decodes malformed decodes
            have filled : Filled sr :=
              ⟨⟨_, signature, _, decodedSignature⟩, ⟨_, session, _, decodedSession⟩, _, decodedMessage⟩
            exact submitSign_obeys config preparing filled _

theorem processSignJob_obeys (config : Sign.Config) (signRequestId : Uuid) :
    (Sign.processSignJob config signRequestId).Obeys (concluding signRequestId) [] := by
  refine Program.obeys_perform trivial (fun found _ => ?_)
  have stuck : (∀ sr presignId, found = some sr → sr.status = .queued → sr.presignId = some presignId → ¬Filled sr) →
      Stuck signRequestId [⟨.sign (.select signRequestId), found⟩] := by
    intro unfilled
    refine ⟨rfl, rfl, rfl, fun sr presignId works outfitted => ?_⟩
    have same : some sr = found := by simpa using works.found
    exact unfilled sr presignId same.symm works.queued works.presign outfitted.filled
  cases found with
  | none => exact .inl (stuck (by simp))
  | some sr =>
    dsimp only
    split
    next idle => exact .inl (stuck (by rintro _ _ ⟨⟩ queued; exact absurd queued idle))
    next queued =>
      rw [not_not] at queued
      split
      next none =>
        refine (stuck ?_).obeys (markFailed_only _ _ _ _ _)
        rintro _ presignId ⟨⟩ _ there
        rw [none] at there
        cases there
      next presignId there =>
        have preparing : Preparing signRequestId [⟨.sign (.select signRequestId), some sr⟩] sr presignId := by
          refine ⟨rfl, rfl, rfl, ⟨List.mem_singleton_self _, queued, there, by simp⟩, ?_, rfl⟩
          intro other member
          simpa using member
        split
        next signature session => exact signQueued_obeys config preparing signature session
        next missing =>
          refine (preparing.lacks ?_).obeys (markFailed_only _ _ _ _ _)
          rintro ⟨⟨_, signature, _⟩, ⟨_, session, _⟩, _⟩
          exact missing _ _ signature session

/-- A presign that was marked used follows a submission that may have landed. -/
def Accounted (log : Log) : Prop :=
  spent log = [] ∨ ∃ tx answer, attempts log = [(tx, answer)] ∧ Doubtful answer

theorem accounted {config : Sign.Config} {signRequestId : Uuid} {log : Log} {rest : Sign.Prog Unit}
    (path : (Sign.processSignJob config signRequestId).Path (concluding signRequestId).answers log rest) :
    Accounted log := by
  induction path with
  | refl => exact .inl rfl
  | @step log op next answer path known ih =>
    have before := ((processSignJob_obeys config signRequestId).path path).1
    cases op with
    | chain op => cases op with
      | execute tx => exact .inl before.2
      | _ => exact ih
    | presign op => cases op with
      | markUsed presignId => exact .inr before
      | _ => exact ih
    | _ => exact ih

/-! ### Together -/

/-- The transaction as the worker reads it. -/
def ExecutedTx.forSign (executed : ExecutedTx) : Sign.ExecutedTx :=
  ⟨executed.digest, executed.events.map (fun event => ⟨event.type, event.signId⟩)⟩

/-- What the worker handed to the executor, and the run that came of it. -/
structure Trial where
  tx : Sign.SignZeroTrust
  trace : Trace
  result : Except Thrown ExecutedTx

/-- What the worker heard of the run. -/
def Trial.heard (trial : Trial) : Sign.SignZeroTrust × Except Thrown Sign.ExecutedTx :=
  (trial.tx, trial.result.map ExecutedTx.forSign)

/-- A run of the worker up to some point: what it had executed, if anything, was a run of the executor. -/
structure WorkerRuns (signConfig : Sign.Config) (executor : Except Failure Config) (signRequestId : Uuid) (log : Log)
    (rest : Sign.Prog Unit) (trial : Option Trial) : Prop where
  worker : (Sign.processSignJob signConfig signRequestId).Path (fun _ _ => True) log rest
  submits : attempts log = (trial.map Trial.heard).toList
  runs : ∀ run ∈ trial, (submission executor run.tx.network ⟨none⟩).Ends atomic run.trace run.result

/-- The transaction left the backend. -/
def departed (trial : Option Trial) : Bool := trial.any (fun run => submitted run.trace)

/-- The presign is marked used only for a transaction that left the backend. -/
def Spared (log : Log) (trial : Option Trial) : Prop := spent log ≠ [] → departed trial = true

/-- Where nothing was submitted the presign of the queued row went back to `ready`. -/
def Restored (signRequestId : Uuid) (log : Log) (trial : Option Trial) : Prop :=
  departed trial = false → ∀ sr presignId, Works signRequestId log sr presignId → presignId ∈ readied log

/-- What was executed ran unhindered. -/
def Smooth (trial : Option Trial) : Prop := ∀ run ∈ trial, Unhindered run.trace

/-- A queued row that has its presign reaches the submission, which runs unhindered. -/
def Provided (signRequestId : Uuid) (log : Log) (trial : Option Trial) : Prop :=
  ∀ sr presignId, Works signRequestId log sr presignId → Outfitted log sr ∧ Smooth trial

namespace WorkerRuns

variable {signConfig : Sign.Config} {executor : Except Failure Config} {signRequestId : Uuid} {log : Log}
  {trial : Option Trial}

/-- The one submission of a worker that tried is a run of the executor. -/
theorem exists_run {rest : Sign.Prog Unit} {tx : Sign.SignZeroTrust} {answer : Except Thrown Sign.ExecutedTx}
    (runs : WorkerRuns signConfig executor signRequestId log rest trial) (tried : attempts log = [(tx, answer)]) :
    ∃ run, trial = some run ∧ answer = run.result.map ExecutedTx.forSign ∧
      Told Unhindered run.trace run.result := by
  cases trial with
  | none =>
    rw [runs.submits] at tried
    cases tried
  | some run =>
    rw [runs.submits] at tried
    cases tried
    exact ⟨run, rfl, rfl, (submission_obeys executor run.tx.network ⟨none⟩).ends (runs.runs run rfl)⟩

theorem spared {rest : Sign.Prog Unit} (runs : WorkerRuns signConfig executor signRequestId log rest trial)
    (smooth : Smooth trial) : Spared log trial := by
  intro marked
  rcases accounted runs.worker with unspent | ⟨tx, answer, tried, doubtful⟩
  · exact absurd unspent marked
  · obtain ⟨run, rfl, rfl, told⟩ := runs.exists_run tried
    show submitted run.trace = true
    cases same : run.result with
    | ok executed => exact told.landed executed same
    | error error =>
      have truthful := told.truthful (smooth run rfl)
      rw [same] at truthful doubtful
      have unknown : error.phase = .unknown := doubtful
      simpa [Truthful, unknown] using truthful

theorem stuck {rest : Sign.Prog Unit} (runs : WorkerRuns signConfig executor signRequestId log rest trial)
    (stuck : Stuck signRequestId log) : trial = none := by
  have none := runs.submits
  rw [stuck.attempts] at none
  cases trial with
  | none => rfl
  | some run => cases none

theorem provided {final : Except Thrown Unit}
    (runs : WorkerRuns signConfig executor signRequestId log (unwrap final) trial) (spared : Spared log trial)
    (restored : Restored signRequestId log trial) : Provided signRequestId log trial := by
  intro sr presignId works
  rcases (processSignJob_obeys signConfig signRequestId).ends runs.worker with stuck | ⟨row, id, answer, tried, settled⟩
  · obtain rfl := runs.stuck stuck
    have put := restored rfl sr presignId works
    rw [stuck.readied] at put
    cases put
  · obtain ⟨rfl, rfl⟩ := tried.only sr presignId works
    refine ⟨tried.outfitted, ?_⟩
    obtain ⟨tx, submits⟩ := tried.attempts
    obtain ⟨run, rfl, rfl, told⟩ := runs.exists_run submits
    rintro _ ⟨⟩
    by_contra hindered
    obtain ⟨silent, error, failed, unknown⟩ := told.hindered hindered
    rw [failed] at settled
    have sent : submitted run.trace = true := spared (List.ne_nil_of_mem (settled.1 unknown))
    rw [silent] at sent
    cases sent

theorem restored {final : Except Thrown Unit}
    (runs : WorkerRuns signConfig executor signRequestId log (unwrap final) trial)
    (provided : Provided signRequestId log trial) : Spared log trial ∧ Restored signRequestId log trial := by
  rcases (processSignJob_obeys signConfig signRequestId).ends runs.worker with
      stuck | ⟨sr, presignId, answer, tried, settled⟩
  · exact ⟨fun marked => absurd stuck.spent marked,
      fun _ sr presignId works => absurd (provided sr presignId works).1 (stuck.unfit sr presignId works)⟩
  · have smooth := (provided sr presignId tried.works).2
    refine ⟨runs.spared smooth, fun silent other otherId works => ?_⟩
    obtain ⟨rfl, rfl⟩ := tried.only other otherId works
    obtain ⟨tx, submits⟩ := tried.attempts
    obtain ⟨run, rfl, rfl, told⟩ := runs.exists_run submits
    have unsent : submitted run.trace = false := silent
    cases same : run.result with
    | ok executed =>
      rw [told.landed executed same] at unsent
      cases unsent
    | error error =>
      have truthful := told.truthful (smooth run rfl)
      rw [same] at truthful settled
      have preflight : error.phase = .preflight := truthful.1.mpr unsent
      exact (settled.2 (by simp [preflight])).2

end WorkerRuns

/-- The phases tell the truth exactly where the lock is handed over, the builder takes every setting
and an `execute_tx` request leaves once it is made. The worker treats the presign accordingly exactly
where, besides, all that the transaction of a queued row is made of was there. -/
theorem phases_truthful_iff_unhindered (config : Config) :
    (∀ network tx trace result, Runs config network tx trace result → (Truthful trace result ↔ Unhindered trace)) ∧
    ∀ signConfig executor signRequestId log rest trial, WorkerRuns signConfig executor signRequestId log rest trial →
      (Smooth trial → Spared log trial) ∧
      ∀ final, rest = unwrap final →
        (Spared log trial ∧ Restored signRequestId log trial ↔ Provided signRequestId log trial) := by
  refine ⟨fun network tx trace result runs => (told runs).iff, ?_⟩
  intro signConfig executor signRequestId log rest trial runs
  refine ⟨runs.spared, ?_⟩
  rintro final rfl
  exact ⟨fun kept => runs.provided kept.1 kept.2, runs.restored⟩

/-- An environment in which Redis answers `redis` and the pool has no coins. -/
def noCoins (redis : Except Failure Bool) : (op : Op) → Res op
  | .randomUUID => 1
  | .now => 0
  | .set _ _ _ => redis
  | .sleep _ => ()
  | .release _ _ => .ok ()
  | .queueJoin _ => true
  | .queueWait _ => ()
  | .queueRelease _ => ()
  | .setSender _ => .ok ()
  | .reserveGas _ _ => .body (.ok ⟨none, some "no coins available"⟩)
  | .setGasOwner _ => .ok ()
  | .setGasPayment _ => .ok ()
  | .setGasBudget _ => .ok ()
  | .build _ => .ok []
  | .signTransaction _ => .ok ""
  | .executeTx _ _ _ => ⟨.body (.ok ⟨none, none⟩), true, false⟩

theorem atomic_noCoins (redis : Except Failure Bool) (op : Op) : atomic op (noCoins redis op) := by
  cases op with
  | executeTx reservationId txBytes userSig =>
    refine ⟨?_, fun stayed => by cases stayed⟩
    rintro json block error ⟨⟩ found failed
    cases found
  | _ => trivial

def sampleConfig : Config := ⟨true, "0xhot", 500000000, 30, 3⟩

/-- The run of one submission in that environment. -/
def sampleTrace (redis : Except Failure Bool) : Trace :=
  ((execute sampleConfig "testnet" ⟨none⟩).follow (noCoins redis) 10 []).1

theorem sampleTrace_runs (redis : Except Failure Bool) (error : Thrown)
    (ended : ((execute sampleConfig "testnet" ⟨none⟩).follow (noCoins redis) 10 []).2.outcome = some (.error error)) :
    Runs sampleConfig "testnet" ⟨none⟩ (sampleTrace redis) (.error error) :=
  Program.ends_of_follow (atomic_noCoins redis) ended

def noCoinsError : Thrown := .tx ⟨.preflight, "reserve_gas failed: gas-station reserve_gas error: no coins available", none⟩

def redisDown : Failure := ⟨"MaxRetriesPerRequestError", "Reached the max retries per request limit (which is 1)."⟩

def sampleRow : Sign.SignRequest :=
  ⟨1, 7, "testnet", "key", "0xd", some 2, 0, 0, 0, "", some "00", some "00", .queued, none, none, none, none, none, 0, none⟩

def samplePresign : Sign.Presign := ⟨2, "testnet", "0xcap", 0, 0, "0xn", .allocated, none, some 1, some 0, none, 0, 0⟩

def sampleWallet : Sign.DWallet :=
  ⟨3, 7, some 4, "testnet", "0xd", 0, "0xn", some "0xn", "zero_trust", .active, "dkg", some "accept"⟩

def sampleTx : Sign.SignZeroTrust := ⟨"testnet", "0xa", "0xc", "0xd", "0xcap", 0, 0, [], [0], [0]⟩

instance : Inhabited Thrown := ⟨.other "" ""⟩

def anyAnswer (op : Sign.Op) : Sign.Res op := by
  cases op with
  | sign op => cases op <;> exact default
  | presign op => cases op <;> exact default
  | ledger op => cases op <;> exact default
  | wallet op => cases op <;> exact default
  | queue op => exact default
  | chain op => cases op <;> exact default
  | randomUUID => exact 0
  | now => exact 0

/-- What a worker on `sampleRow` is answered when its submission throws `error`. -/
def sampleAnswers (error : Thrown) : (op : Sign.Op) → Sign.Res op
  | .sign (.select _) => some sampleRow
  | .presign (.select _) => some samplePresign
  | .wallet (.selectBySui _) => some sampleWallet
  | .wallet (.selectAccount _) => some ⟨4, 7, "testnet", "0xa", "dkg"⟩
  | .chain (.getIkaClient _) => .ok "0xc"
  | .chain (.buildSignZeroTrust _) => .ok ()
  | .chain (.execute _) => .error error
  | op => anyAnswer op

def sampleLog (error : Thrown) : Log :=
  ((Sign.processSignJob ⟨4, 10⟩ 1).follow (sampleAnswers error) 12 []).1

def sampleTrial (redis : Except Failure Bool) (error : Thrown) : Trial := ⟨sampleTx, sampleTrace redis, .error error⟩

theorem sampleLog_runs (redis : Except Failure Bool) (error : Thrown)
    (ended : ((execute sampleConfig "testnet" ⟨none⟩).follow (noCoins redis) 10 []).2.outcome = some (.error error))
    (submits : attempts (sampleLog error) = [(sampleTx, .error error)])
    (finished : ((Sign.processSignJob ⟨4, 10⟩ 1).follow (sampleAnswers error) 12 []).2.outcome = some (.error error)) :
    WorkerRuns ⟨4, 10⟩ (.ok sampleConfig) 1 (sampleLog error) (unwrap (.error error))
      (some (sampleTrial redis error)) := by
  refine ⟨Program.ends_of_follow (fun _ => trivial) finished, submits, ?_⟩
  rintro _ ⟨⟩
  exact sampleTrace_runs redis error ended

/-- The row of the sample has all it needs, and so had the worker. -/
theorem sampleLog_outfitted (error : Thrown) (found : stalled (sampleLog error) = false) {sr : Sign.SignRequest}
    {presignId : Uuid} (works : Works 1 (sampleLog error) sr presignId) : Outfitted (sampleLog error) sr := by
  have start : (Sign.processSignJob ⟨4, 10⟩ 1).Path (fun op answer => sampleAnswers error op = answer) [] _ := .refl
  have answered := (start.follow (fun _ => rfl) 12).answered works.found
  obtain rfl : sampleRow = sr := Option.some.inj answered
  have zero : Decodes "00" := ⟨[0], by decide +kernel⟩
  exact ⟨⟨⟨"00", by decide +kernel, zero⟩, ⟨"00", by decide +kernel, zero⟩, ⟨[], by decide +kernel⟩⟩, found⟩

theorem phases_truthful_sample : Truthful (sampleTrace (.ok true)) (.error noCoinsError) ∧
    Spared (sampleLog noCoinsError) (some (sampleTrial (.ok true) noCoinsError)) ∧
    Restored 1 (sampleLog noCoinsError) (some (sampleTrial (.ok true) noCoinsError)) ∧
    readied (sampleLog noCoinsError) = [2] := by
  have smooth : Unhindered (sampleTrace (.ok true)) := ⟨by decide +kernel, by decide +kernel⟩
  have runs := sampleTrace_runs (.ok true) noCoinsError (by decide +kernel)
  have work := sampleLog_runs (.ok true) noCoinsError (by decide +kernel) (by decide +kernel) (by decide +kernel)
  have claim := phases_truthful_iff_unhindered sampleConfig
  have provided : Provided 1 (sampleLog noCoinsError) (some (sampleTrial (.ok true) noCoinsError)) := by
    refine fun sr presignId works => ⟨sampleLog_outfitted _ (by decide +kernel) works, ?_⟩
    rintro _ ⟨⟩
    exact smooth
  have settled := ((claim.2 _ _ _ _ _ _ work).2 _ rfl).mpr provided
  exact ⟨(claim.1 _ _ _ _ runs).mpr smooth, settled.1, settled.2, by decide +kernel⟩

/-- Redis is down and nothing was sent, but what is thrown does not say so and the presign is marked used. -/
theorem not_truthful_when_redis_is_down : ∃ log run,
    WorkerRuns ⟨4, 10⟩ (.ok sampleConfig) 1 log (unwrap (.error redisDown.thrown)) (some run) ∧
    submitted run.trace = false ∧ ¬Truthful run.trace run.result ∧ spent log = [2] := by
  have work := sampleLog_runs (.error redisDown) redisDown.thrown (by decide +kernel) (by decide +kernel) (by decide +kernel)
  refine ⟨_, _, work, by decide +kernel, ?_, by decide +kernel⟩
  rintro ⟨told, _⟩
  have preflight : redisDown.thrown.phase = .preflight := told.mpr (by decide +kernel)
  cases preflight

end MpcKit.Executor
