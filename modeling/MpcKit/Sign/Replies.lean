import MpcKit.Sign.Idempotency

/-! What a prepare answers with. A fresh prepare answers with the row and the presign it asked
for; a replay answers with whatever the key finds, and either may have lost its presign to a
sweep before it answers. -/

namespace MpcKit.Sign
open MpcKit.Backend MpcKit.Async

/-- The presign is held for a request, and it is this one on chain. -/
def Holding (world : World) (presignId id : Uuid) (cap : ObjectId) : Prop :=
  ∃ presign, world.presigns.get presignId = some presign ∧ presign.suiObjectId = cap ∧
    presign.signRequestId = some id ∧ presign.status ≠ .ready

/-- The row is what was asked for and the presign is held for it. -/
def Faithful (world : World) (args : PrepareSignArgs) (result : PrepareSignResult) : Prop :=
  ∃ row, result.signRequest = some row ∧ Asked world.dwallets args row ∧
    ∃ presignId, Holding world presignId row.id result.presignSuiObjectId

/-- What call number `index` asked for and got, once it has answered. -/
def replied (system : SignSystem) (index : Nat) : Option (PrepareSignArgs × PrepareSignResult) :=
  match system.calls index with
  | some thread => match thread.tag, thread.program with
      | .prepare args, .ret (.prepared result) => some (args, result)
      | _, _ => none
  | none => none

/-- The presign a prepare is going to answer with. -/
def Stage.promised : Stage → Option Uuid
  | .replaying _ presign => some presign.id
  | .claimed _ presignId => some presignId
  | .allocated _ presign => some presign.id
  | .named _ presign => some presign.id
  | _ => none

/-- Statements that put a presign back into the pool. -/
def Frees (table : PresignTable) (presignId : Uuid) : Op → Prop
  | .presign (.rollbackToReady id) => id = presignId
  | .presign (.promote id) => id = presignId
  | .presign (.rescueExpired cutoff) => ∃ presign ∈ table.get presignId, presign.Expired .allocated cutoff
  | _ => False

instance (table : PresignTable) (presignId : Uuid) (op : Op) : Decidable (Frees table presignId op) := by
  unfold Frees
  induction op using Op.casesOn with
  | presign op => induction op using PresignOp.casesOn <;> infer_instance
  | _ => infer_instance

instance (dwallets : Table DWallet.id) (args : PrepareSignArgs) (row : SignRequest) : Decidable (Asked dwallets args row) :=
  decidable_of_iff (row.HasKey args.userId args.network args.idempotencyKey ∧
    row.signatureAlgorithm = args.signatureAlgorithm ∧ row.hashScheme = args.hashScheme ∧
    row.messageHex = toHex args.message ∧ ∃ dw ∈ dwallets.rows, dw.id = args.dwalletId ∧ dw.suiDwalletId = row.suiDwalletId)
    ⟨fun ⟨key, algorithm, hash, message, dwallet⟩ => ⟨key, algorithm, hash, message, dwallet⟩,
      fun asked => ⟨asked.key, asked.signatureAlgorithm, asked.hashScheme, asked.messageHex, asked.dwallet⟩⟩

/-- A replay finds a row that answers what is asked, and its presign is still held for it. -/
def Replays (world : World) (args : PrepareSignArgs) (stage : Stage) : Op → Prop
  | .sign (.selectByKey _ _ _) => ∀ row ∈ world.signRequests.rows,
      row.HasKey args.userId args.network args.idempotencyKey → row.presignId ≠ none → Asked world.dwallets args row
  | .presign (.select presignId) => match stage with
      | .found row _ => ∀ presign ∈ world.presigns.get presignId,
          presign.signRequestId = some row.id ∧ presign.status ≠ .ready
      | _ => True
  | _ => True

instance (world : World) (args : PrepareSignArgs) (stage : Stage) (op : Op) : Decidable (Replays world args stage op) := by
  unfold Replays
  induction op using Op.casesOn with
  | sign op => induction op using SignOp.casesOn <;> infer_instance
  | presign op => induction op using PresignOp.casesOn with
    | select presignId => induction stage using Stage.casesOn <;> infer_instance
    | _ => infer_instance
  | _ => infer_instance

def Call.prepares : Call → Option PrepareSignArgs
  | .prepare args => some args
  | _ => none

/-- Replays agree with what is asked, and nobody frees a presign that a prepare is going to
answer with. -/
def Honoured (system : SignSystem) (event : Event Env Call) : Prop :=
  (∀ pair ∈ acting system event, ∀ args ∈ pair.1.tag.prepares,
    Replays system.world args (stage pair.1.history) pair.2) ∧
  ∀ op ∈ system.performs event, ∀ thread ∈ system.threads, thread.Running →
    ∀ presignId ∈ (stage thread.history).promised, ¬Frees system.world.presigns presignId op

instance (system : SignSystem) (event : Event Env Call) : Decidable (Honoured system event) :=
  inferInstanceAs (Decidable (_ ∧ _))

/-! ### What a prepare has secured -/

def Secured (world : World) (args : PrepareSignArgs) : Stage → Prop
  | .found row _ => Asked world.dwallets args row
  | .replaying row presign => Asked world.dwallets args row ∧ Holding world presign.id row.id presign.suiObjectId
  | .claimed row presignId => ∃ cap, Holding world presignId row.id cap
  | .allocated row presign => Holding world presign.id row.id presign.suiObjectId
  | .named updated presign => ∃ row, updated = some row ∧ Holding world presign.id row.id presign.suiObjectId
  | _ => True

/-- A presign stays held as long as nobody frees it: only ready ones are claimed. -/
theorem Holding.exec {op : Op} {env : Env} {world after : World} {answer : Res op} {presignId id : Uuid} {cap : ObjectId}
    (holding : Holding world presignId id cap) (executed : exec op env world = some (answer, after))
    (unfreed : ¬Frees world.presigns presignId op) : Holding after presignId id cap := by
  obtain ⟨presign, there, mirrors, held, taken⟩ := holding
  obtain ⟨later, found, same, rfl | ⟨statement, rfl, change⟩⟩ := exec_presign executed there
  · exact ⟨_, found, mirrors, held, taken⟩
  · refine ⟨later, found, same.trans mirrors, ?_⟩
    have own := Table.key_of_get there
    cases change with
    | claim _ args ready => exact absurd ready.2.2.2.2 taken
    | rollback => exact absurd own unfreed
    | promote => exact absurd own unfreed
    | rescue _ cutoff expired => exact absurd ⟨presign, there, expired⟩ unfreed
    | consumedPending => exact ⟨held, by simp [Presign.toConsumedPending]⟩
    | used => exact ⟨held, by simp [Presign.toUsed]⟩
    | quarantine => exact ⟨held, by simp [Presign.toFailed]⟩
    | park => exact ⟨held, by simp [Presign.toFailed]⟩
    | touch => exact ⟨held, taken⟩

theorem Secured.exec {op : Op} {env : Env} {world after : World} {answer : Res op} {args : PrepareSignArgs} {stage : Stage}
    (secured : Secured world args stage) (executed : exec op env world = some (answer, after))
    (unfreed : ∀ presignId ∈ stage.promised, ¬Frees world.presigns presignId op) : Secured after args stage := by
  cases stage with
  | found row presignId => exact Asked.kept secured (fun _ => isWallet_exec executed)
  | replaying row presign =>
    exact ⟨secured.1.kept (fun _ => isWallet_exec executed), secured.2.exec executed (unfreed _ rfl)⟩
  | claimed row presignId =>
    obtain ⟨cap, holding⟩ := secured
    exact ⟨cap, holding.exec executed (unfreed _ rfl)⟩
  | allocated row presign => exact Holding.exec secured executed (unfreed _ rfl)
  | named updated presign =>
    obtain ⟨row, same, holding⟩ := secured
    exact ⟨row, same, holding.exec executed (unfreed _ rfl)⟩
  | _ => trivial

section Moved

variable {config : Config} {args : PrepareSignArgs} {before next : Stage} {op : Op} {answer : Res op} {env : Env}
  {world after : World}

theorem Moved.secured (moved : Moved config (.prepare args) before op answer next)
    (executed : exec op env world = some (answer, after)) (known : Answers op answer)
    (replays : Replays world args before op) (unfreed : ∀ presignId ∈ before.promised, ¬Frees world.presigns presignId op)
    (unnamed : ∀ row presign, before = .allocated row presign → Unnamed world args row.id)
    (secured : Secured world args before) : Secured after args next := by
  cases moved with
  | found _ existing row presignId usable =>
    obtain ⟨there, own⟩ := replay_eq_some usable
    obtain ⟨rfl, reads⟩ := exec_selectByKey executed
    obtain ⟨found, key⟩ := reads row there
    exact replays row (Table.mem_of_get found) key (by rw [own]; simp)
  | replaying _ row presignId presign =>
    obtain ⟨found, rfl⟩ := exec_presign_select executed
    obtain ⟨held, taken⟩ := replays presign found
    have own : presign.id = presignId := known presign rfl
    exact ⟨secured, presign, own ▸ found, rfl, held, taken⟩
  | claimed _ row bucket own presignId =>
    rcases exec_claim executed with ⟨none, _⟩ | ⟨picked, same, found, _, rfl⟩
    · cases none
    · cases same
      refine ⟨_, _, (Table.modify_row found).trans (congrArg some (if_pos rfl)), rfl, congrArg some own, ?_⟩
      simp [Presign.toAllocated]
  | allocated _ row presignId presign =>
    obtain ⟨found, rfl⟩ := exec_presign_select executed
    obtain ⟨cap, held, there, _, holder, taken⟩ := secured
    rw [found] at there
    cases there
    have own : presign.id = presignId := known presign rfl
    exact ⟨presign, own ▸ found, rfl, holder, taken⟩
  | named _ row presign updated =>
    obtain ⟨current, there, _⟩ := unnamed row presign rfl
    obtain ⟨rfl, _, _⟩ := exec_setPresign executed
    have own : current.id = row.id := Table.key_of_get there
    refine ⟨SignRequest.toPresign env.now presign.id current, by rw [there]; rfl, ?_⟩
    have holding := Holding.exec secured executed (unfreed _ rfl)
    exact own ▸ holding
  | quiet _ _ _ _ free quiet => exact secured.exec executed unfreed
  | failed _ _ id code message row fails =>
    cases fails with
    | quiet _ _ _ _ quiet => exact quiet.elim
  | unfailed _ _ id code message fails =>
    cases fails with
    | quiet _ _ _ _ quiet => exact quiet.elim
  | _ => trivial

end Moved

/-- Every prepare that is running has what it is going to answer with. -/
def AllSecured (world : World) (calls : Nat → Option SignThread) : Prop :=
  ∀ index thread args, calls index = some thread → thread.tag = .prepare args → thread.Running →
    Secured world args (stage thread.history)

section Step

variable {config : Config} {system : SignSystem} {index : Nat} {env : Env} {thread : SignThread} {op : Op}
  {answer : Res op} {rest : Prog Reply} {world : World}

theorem AllSecured.acting (secured : AllSecured system.world system.calls)
    (owners : Owners system.world system.calls) (honoured : Honoured system (.step index env))
    (act : (machine config).Act (contract config) system index env thread op answer rest world) {args : PrepareSignArgs}
    (tag : thread.tag = .prepare args) : Secured world args ((stage thread.history).next op answer) := by
  have moved := (act.before : Allowed config thread.tag (stage thread.history) op).moved answer
  rw [tag] at moved
  obtain ⟨next, awaits, _⟩ := act.awaits
  have running : thread.Running := ⟨act.alive, by rw [awaits]; rfl⟩
  refine moved.secured act.executed act.known ?_ ?_ ?_ (secured index thread args act.found tag running)
  · exact honoured.1 _ (acting_of_act act) args (by rw [tag]; rfl)
  · exact honoured.2 op act.performs thread (List.mem_of_getElem? act.found) running
  · intro row presign at_
    have standing := owners.standing act.found tag
    rw [at_] at standing
    exact standing.2.2

theorem AllSecured.act (secured : AllSecured system.world system.calls) (owners : Owners system.world system.calls)
    (honoured : Honoured system (.step index env))
    (act : (machine config).Act (contract config) system index env thread op answer rest world) :
    AllSecured world (Function.update system.calls index (some (thread.resume ⟨op, answer⟩ rest))) := by
  intro other rival args there tag running
  rcases Machine.calls_update there with ⟨rfl, rfl⟩ | ⟨_, was⟩
  · exact secured.acting owners honoured act tag
  · exact (secured other rival args was tag running).exec act.executed
      (honoured.2 op act.performs rival (List.mem_of_getElem? was) running)

end Step

theorem secured_of_run {config : Config} {initial system : SignSystem} (start : Initial initial)
    (run : (machine config).Run Honoured initial system) : AllSecured system.world system.calls := by
  have kept : Machine.Kept (contract config) initial := kept_of_reaches start.threads .refl
  have secured : AllSecured initial.world initial.calls := by
    intro index thread args found
    rw [start.calls] at found
    cases found
  refine (run.tracked (honours config) AllSecured kept secured ?_).2
  intro system event world calls reached secured honoured move
  cases move with
  | start tag opened free entered path =>
    rw [close_jobs, enter_jobs entered]
    intro other rival args there own running
    rcases Machine.calls_update there with ⟨rfl, rfl⟩ | ⟨_, was⟩
    · trivial
    · exact secured other rival args was own running
  | step index env thread op answer rest opened act =>
    rw [close_jobs]
    have stays := secured.act (owners_of_reaches start reached) honoured act
    exact stays
  | cut index thread found running =>
    change AllSecured (leave thread.tag none system.world) _
    rw [leave_jobs]
    intro other rival args there own running
    rcases Machine.calls_update there with ⟨rfl, rfl⟩ | ⟨_, was⟩
    · cases running.1
    · exact secured other rival args was own running

/-! ### The statement -/

theorem replied_eq_some {system : SignSystem} {index : Nat} {args : PrepareSignArgs} {result : PrepareSignResult}
    (answered : replied system index = some (args, result)) : ∃ thread, system.calls index = some thread ∧
      thread.tag = .prepare args ∧ thread.program = .ret (.prepared result) := by
  unfold replied at answered
  split at answered
  next thread found =>
    split at answered
    next asked value tag program =>
      cases answered
      exact ⟨thread, found, tag, program⟩
    · cases answered
  · cases answered

def conflictingEvents : List (Event Env Call) :=
  .start (samplePrepare "first" [7]) :: steps 0 13 calm ++ .start (samplePrepare "first" [8]) :: steps 1 4 calm

end MpcKit.Sign
