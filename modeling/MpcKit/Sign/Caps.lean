import MpcKit.Sign.Lifecycle

/-! A presign whose cap was consumed on chain does not come back into the pool, as long as
nobody returns a presign to the pool whose submission may have landed. -/

namespace MpcKit.Sign
open MpcKit.Backend MpcKit.Async

/-- No presign is on offer whose cap is gone. -/
def Fresh (world : World) : Prop :=
  ∀ presign ∈ world.presigns.rows, presign.status = .ready → presign.suiObjectId ∉ world.chain.consumed

/-- A submission of this presign may have landed, and the row does not say so yet. -/
def Stage.lands (presignId : Uuid) : Stage → Prop
  | .landing _ presign => presign.id = presignId
  | _ => False

instance (presignId : Uuid) (stage : Stage) : Decidable (stage.lands presignId) := by
  unfold Stage.lands
  induction stage using Stage.casesOn <;> infer_instance

/-- Some worker that was not cut off is about to mark the presign. -/
def Landing (system : SignSystem) (presignId : Uuid) : Prop :=
  ∃ thread ∈ system.threads, thread.cut = false ∧ (stage thread.history).lands presignId

instance (system : SignSystem) (presignId : Uuid) : Decidable (Landing system presignId) :=
  inferInstanceAs (Decidable (∃ _ ∈ _, _))

/-- What is written back to the pool is `allocated` (or there already) and no worker is about to
mark it, a presign is promoted out of `pending`, and a submission lands only while its presign is
out of the pool. -/
def Returns (system : SignSystem) (env : Env) : Op → Prop
  | .presign (.rollbackToReady id) => ∀ presign ∈ system.world.presigns.get id,
      presign.status = .ready ∨ presign.status = .allocated ∧ ¬Landing system id
  | .presign (.rescueExpired cutoff) => ∀ presign ∈ system.world.presigns.rows,
      presign.Expired .allocated cutoff → ¬Landing system presign.id
  | .presign (.promote id) => ∀ presign ∈ system.world.presigns.get id,
      presign.status = .ready ∨ presign.status = .pending
  | .chain (.execute tx) => env.outcome.lands → ∀ presign ∈ system.world.presigns.rows,
      presign.suiObjectId = tx.presignCapId → presign.status ≠ .ready ∧ presign.status ≠ .pending
  | _ => True

instance (system : SignSystem) (env : Env) (op : Op) : Decidable (Returns system env op) := by
  unfold Returns
  induction op using Op.casesOn with
  | presign op => induction op using PresignOp.casesOn <;> infer_instance
  | chain op => induction op using ChainOp.casesOn <;> infer_instance
  | _ => infer_instance

/-- A worker is not cut off between a landed submission and the mark of a presign that is still
`allocated`. -/
def Guarded (system : SignSystem) : Event Env Call → Prop
  | .cut index => ∀ thread ∈ system.calls index, ∀ presign ∈ system.world.presigns.rows,
      (stage thread.history).lands presign.id → presign.status = .allocated →
      presign.suiObjectId ∉ system.world.chain.consumed
  | .step index env => ∀ pair ∈ acting system (.step index env), Returns system env pair.2
  | .start _ => True

instance (system : SignSystem) (event : Event Env Call) : Decidable (Guarded system event) := by
  unfold Guarded
  induction event using Event.casesOn <;> infer_instance

/-! ### What a consumed cap leaves behind -/

def Lands (calls : Nat → Option SignThread) (presignId : Uuid) : Prop :=
  Machine.Someone calls (fun thread => thread.cut = false ∧ (stage thread.history).lands presignId)

/-- Statuses that keep a presign out of the pool for good. -/
def PresignStatus.Spent (status : PresignStatus) : Prop :=
  status = .consumedPending ∨ status = .used ∨ status = .failed

/-- The presign a worker has in hand. -/
def Stage.inHand : Stage → Option Presign
  | .holding _ presign => some presign
  | .landing _ presign => some presign
  | _ => none

structure Burned (world : World) (calls : Nat → Option SignThread) : Prop where
  caps : (world.presigns.rows.map Presign.suiObjectId).Nodup
  recorded : ∀ cap ∈ world.chain.consumed, ∃ id row, world.presigns.get id = some row ∧ row.suiObjectId = cap
  held : ∀ {index thread presign}, calls index = some thread → (stage thread.history).inHand = some presign →
    ∃ row, world.presigns.get presign.id = some row ∧ row.suiObjectId = presign.suiObjectId
  burned : ∀ {id row}, world.presigns.get id = some row → row.suiObjectId ∈ world.chain.consumed →
    row.status.Spent ∨ row.status = .allocated ∧ Lands calls id

theorem Burned.fresh {world : World} {calls : Nat → Option SignThread} (link : Burned world calls) : Fresh world := by
  intro presign member ready consumed
  rcases link.burned (Table.get_of_mem member) consumed with spent | ⟨allocated, _⟩
  · rw [ready] at spent
    rcases spent with same | same | same <;> cases same
  · rw [ready] at allocated
    cases allocated

theorem Lands.landing {system : SignSystem} {presignId : Uuid} (lands : Lands system.calls presignId) :
    Landing system presignId := by
  obtain ⟨index, thread, found, alive, lands⟩ := lands
  exact ⟨thread, List.mem_of_getElem? found, alive, lands⟩

/-- Only the calls change, and nobody picks up or drops a landing. -/
theorem Burned.recalls {world : World} {calls : Nat → Option SignThread} (link : Burned world calls) (index : Nat)
    (replaced : SignThread)
    (hand : ∀ presign, (stage replaced.history).inHand = some presign →
      ∃ row, world.presigns.get presign.id = some row ∧ row.suiObjectId = presign.suiObjectId)
    (still : ∀ {id row thread}, world.presigns.get id = some row → row.suiObjectId ∈ world.chain.consumed →
      row.status = .allocated → calls index = some thread → thread.cut = false → (stage thread.history).lands id →
      replaced.cut = false ∧ (stage replaced.history).lands id) :
    Burned world (Function.update calls index (some replaced)) where
  caps := link.caps
  recorded := link.recorded
  held := by
    intro other thread presign found inHand
    rcases Machine.calls_update found with ⟨rfl, rfl⟩ | ⟨_, found⟩
    · exact hand presign inHand
    · exact link.held found inHand
  burned := by
    intro id row found consumed
    rcases link.burned found consumed with spent | ⟨allocated, lands⟩
    · exact .inl spent
    · exact .inr ⟨allocated, lands.update (fun thread there was => still found consumed allocated there was.1 was.2)⟩

/-- A worker gets its presign by reading the row. -/
theorem Moved.inHand {config : Config} {call : Call} {before after : Stage} {op : Op} {answer : Res op}
    {presign : Presign} (moved : Moved config call before op answer after) (inHand : after.inHand = some presign) :
    before.inHand = some presign ∨
      ∃ presignId, (⟨op, answer⟩ : Entry Op Res) = ⟨.presign (.select presignId), some presign⟩ := by
  cases moved with
  | holding id job row presignId read =>
    cases inHand
    exact .inr ⟨presignId, rfl⟩
  | landing id job row held tx cap result => exact .inl inHand
  | quiet call stage op answer free quiet => exact .inl inHand
  | _ => cases inHand

theorem lands_inv {stage : Stage} {presignId : Uuid} (lands : stage.lands presignId) :
    ∃ row presign, stage = .landing row presign ∧ presign.id = presignId := by
  cases stage <;> first | exact lands.elim | exact ⟨_, _, rfl, lands⟩

section Step

variable {config : Config} {system : SignSystem} {index : Nat} {env : Env} {thread : SignThread} {op : Op}
  {answer : Res op} {rest : Prog Reply} {world : World}

/-- The step of a worker that may have landed marks its presign. -/
theorem spent_of_landing (act : (machine config).Act (contract config) system index env thread op answer rest world)
    {id : Uuid} {row : Presign} (found : world.presigns.get id = some row) (lands : (stage thread.history).lands id) :
    row.status.Spent := by
  have executed : exec op env system.world = some (answer, world) := act.executed
  have allowed : Allowed config thread.tag (stage thread.history) op := act.before
  obtain ⟨request, presign, at_, rfl⟩ := lands_inv lands
  rw [at_] at allowed
  rcases allowed.of_landing with rfl | rfl
  · cases executed
    change (system.world.presigns.modify presign.id (Presign.toConsumedPending env.now)).get presign.id = _ at found
    rw [Table.get_modify, if_pos rfl] at found
    obtain ⟨old, _, rfl⟩ := Option.map_eq_some_iff.mp found
    exact .inl rfl
  · cases executed
    change (system.world.presigns.modify presign.id (Presign.toUsed env.now)).get presign.id = _ at found
    rw [Table.get_modify, if_pos rfl] at found
    obtain ⟨old, _, rfl⟩ := Option.map_eq_some_iff.mp found
    exact .inr (.inl rfl)

/-- Another worker that is about to mark a presign still is after this step. -/
theorem lands_after (act : (machine config).Act (contract config) system index env thread op answer rest world)
    {id : Uuid} (lands : Lands system.calls id) (other : ¬(stage thread.history).lands id) :
    Lands (Function.update system.calls index (some (thread.resume ⟨op, answer⟩ rest))) id := by
  refine lands.update (fun acting found landing => ?_)
  rw [act.found] at found
  cases found
  exact absurd landing.2 other

/-- A row that was there before, whatever this step did to it. -/
theorem Burned.old_row (link : Burned system.world system.calls)
    (act : (machine config).Act (contract config) system index env thread op answer rest world)
    (returns : Returns system env op) {id : Uuid} {old row : Presign} (before : system.world.presigns.get id = some old)
    (found : world.presigns.get id = some row) (consumed : old.suiObjectId ∈ system.world.chain.consumed) :
    row.status.Spent ∨ row.status = .allocated ∧
      Lands (Function.update system.calls index (some (thread.resume ⟨op, answer⟩ rest))) id := by
  by_cases lands : (stage thread.history).lands id
  · exact .inl (spent_of_landing act found lands)
  have own := Table.key_of_get before
  have was := link.burned before consumed
  have kept : old.status.Spent ∨ old.status = .allocated ∧
      Lands (Function.update system.calls index (some (thread.resume ⟨op, answer⟩ rest))) id := by
    rcases was with spent | ⟨allocated, landing⟩
    · exact .inl spent
    · exact .inr ⟨allocated, lands_after act landing lands⟩
  have executed : exec op env system.world = some (answer, world) := act.executed
  obtain ⟨now, there, _, change⟩ := exec_presign executed before
  rw [found] at there
  cases there
  rcases change with rfl | ⟨statement, rfl, change⟩
  · exact kept
  -- Only what is out of the pool was consumed, so none of the writes to `ready` can hit the row.
  have inPool : ¬(old.status = .ready ∨ old.status = .pending) := by
    rintro (status | status) <;> rw [status] at was <;>
      rcases was with (same | same | same) | ⟨same, _⟩ <;> cases same
  have landing : old.status = .allocated → Landing system id := by
    intro status
    rcases was with spent | ⟨_, landing⟩
    · rw [status] at spent
      rcases spent with same | same | same <;> cases same
    · exact landing.landing
  cases change with
  | claim _ args ready => exact absurd (.inl ready.2.2.2.2) inPool
  | consumedPending _ => exact .inl (.inl rfl)
  | used _ => exact .inl (.inr (.inl rfl))
  | rollback _ =>
    rcases returns old (own ▸ before) with ready | ⟨allocated, free⟩
    · exact absurd (.inl ready) inPool
    · exact absurd (own.symm ▸ landing allocated) free
  | promote _ => exact absurd (returns old (own ▸ before)) inPool
  | quarantine _ => exact .inl (.inr (.inr rfl))
  | touch _ => exact kept
  | rescue _ cutoff expired =>
    exact absurd (own.symm ▸ landing expired.1) (returns old (Table.mem_of_get before) expired)
  | park _ cutoff expired => exact .inl (.inr (.inr rfl))

/-- The presign a landed submission carried: its row is there, and its worker is about to mark it. -/
theorem Burned.landed (link : Burned system.world system.calls) {tx : SignZeroTrust}
    {answer : Res (.chain (.execute tx))}
    (act : (machine config).Act (contract config) system index env thread (.chain (.execute tx)) answer rest world)
    (landed : env.outcome.lands = true) (live : tx.presignCapId ∈ system.world.chain.live) :
    ∃ id row, system.world.presigns.get id = some row ∧ row.suiObjectId = tx.presignCapId ∧
      Lands (Function.update system.calls index (some (thread.resume ⟨.chain (.execute tx), answer⟩ rest))) id := by
  have executed : exec (.chain (.execute tx)) env system.world = some (answer, world) := act.executed
  have allowed : Allowed config thread.tag (stage thread.history) (.chain (.execute tx)) := act.before
  obtain ⟨request, presign, at_, cap⟩ := allowed.of_execute
  obtain ⟨row, found, same⟩ := link.held act.found (by rw [at_]; rfl : (stage thread.history).inHand = some presign)
  refine ⟨presign.id, row, found, same.trans cap.symm, .here index ⟨act.alive, ?_⟩⟩
  have given : answer = submitAnswer env true := by
    rw [(exec_execute executed).1, decide_eq_true live]
  change ((stage thread.history).next (.chain (.execute tx)) answer).lands presign.id
  rw [at_, given]
  rcases submitAnswer_landed landed with ⟨ok, result⟩ | ⟨error, result, unknown⟩
  · simp only [result, Stage.next, Stage.submits]
    rfl
  · simp only [result, Stage.next, Stage.submits, if_pos unknown]
    rfl

theorem Burned.act (link : Burned system.world system.calls)
    (act : (machine config).Act (contract config) system index env thread op answer rest world)
    (returns : Returns system env op) :
    Burned world (Function.update system.calls index (some (thread.resume ⟨op, answer⟩ rest))) where
  caps := by
    have executed : exec op env system.world = some (answer, world) := act.executed
    rcases exec_presigns executed with ⟨statement, rfl, same⟩ | same
    · rw [same]
      exact statement.caps_exec link.caps
    · rw [same]
      exact link.caps
  recorded := by
    intro cap consumed
    have executed : exec op env system.world = some (answer, world) := act.executed
    have known : ∃ id row, system.world.presigns.get id = some row ∧ row.suiObjectId = cap := by
      rcases exec_consumed executed with same | ⟨tx, rfl, landed, live, more⟩
      · rw [same] at consumed
        exact link.recorded cap consumed
      · rw [more] at consumed
        rcases List.mem_cons.mp consumed with rfl | earlier
        · obtain ⟨id, row, found, same, _⟩ := link.landed act landed live
          exact ⟨id, row, found, same⟩
        · exact link.recorded cap earlier
    obtain ⟨id, row, found, rfl⟩ := known
    obtain ⟨later, there, same, _⟩ := exec_presign executed found
    exact ⟨id, later, there, same⟩
  held := by
    intro other acting presign found inHand
    have executed : exec op env system.world = some (answer, world) := act.executed
    have known : ∃ row, system.world.presigns.get presign.id = some row ∧ row.suiObjectId = presign.suiObjectId := by
      rcases Machine.calls_update found with ⟨rfl, rfl⟩ | ⟨_, found⟩
      · have allowed : Allowed config thread.tag (stage thread.history) op := act.before
        rcases (allowed.moved answer).inHand inHand with before | ⟨presignId, read⟩
        · exact link.held act.found before
        · cases read
          have there := (exec_presign_select executed).1
          have own := Table.key_of_get there
          exact ⟨presign, own.symm ▸ there, rfl⟩
      · exact link.held found inHand
    obtain ⟨row, there, same⟩ := known
    obtain ⟨later, now, kept, _⟩ := exec_presign executed there
    exact ⟨later, now, kept.trans same⟩
  burned := by
    intro id row found consumed
    have executed : exec op env system.world = some (answer, world) := act.executed
    rcases exec_consumed executed with same | ⟨tx, rfl, landed, live, more⟩
    · rw [same] at consumed
      cases before : system.world.presigns.get id with
      | some old =>
        obtain ⟨later, there, kept, _⟩ := exec_presign executed before
        rw [found] at there
        cases there
        exact link.old_row act returns before found (kept ▸ consumed)
      | none =>
        -- A row that is new mirrors a cap no row had, and every consumed cap has one.
        rcases presign_of_exec executed found with there | ⟨old, _, _, there, _⟩ | ⟨_, new, rfl, unused⟩
        · rw [before] at there
          cases there
        · rw [before] at there
          cases there
        · obtain ⟨other, earlier, there, taken⟩ := link.recorded _ consumed
          exact absurd taken (unused earlier (Table.mem_of_get there))
    · rw [(exec_execute executed).2] at found
      by_cases carried : row.suiObjectId = tx.presignCapId
      · obtain ⟨other, earlier, there, cap, lands⟩ := link.landed act landed live
        have single : earlier = row := List.inj_on_of_nodup_map link.caps (Table.mem_of_get there)
          (Table.mem_of_get found) (cap.trans carried.symm)
        subst single
        have same : id = other := (Table.key_of_get found).symm.trans (Table.key_of_get there)
        rw [same]
        obtain ⟨notReady, notPending⟩ := returns landed earlier (Table.mem_of_get found) carried
        cases status : earlier.status with
        | pending => exact absurd status notPending
        | ready => exact absurd status notReady
        | allocated => exact .inr ⟨rfl, lands⟩
        | consumedPending => exact .inl (.inl rfl)
        | used => exact .inl (.inr (.inl rfl))
        | failed => exact .inl (.inr (.inr rfl))
      · rw [more] at consumed
        have earlier := (List.mem_cons.mp consumed).resolve_left carried
        exact link.old_row act returns found ((exec_execute executed).2 ▸ found) earlier

end Step

theorem Burned.move {config : Config} {system : SignSystem} {event : Event Env Call} {world : World}
    {calls : Nat → Option SignThread} (link : Burned system.world system.calls) (guarded : Guarded system event)
    (move : (machine config).Move (contract config) system event world calls) : Burned world calls := by
  cases move with
  | start tag opened free entered path =>
    rw [close_jobs, enter_jobs entered]
    have kept := link.recalls system.threads.length ((machine config).fresh tag)
      (fun _ inHand => by cases inHand) (fun _ _ _ found => by rw [free] at found; cases found)
    exact ⟨kept.caps, kept.recorded, kept.held, kept.burned⟩
  | step index env thread op answer rest opened act =>
    have kept := link.act act (guarded _ (acting_of_act act))
    rw [close_jobs]
    exact ⟨kept.caps, kept.recorded, kept.held, kept.burned⟩
  | cut index thread found running =>
    have kept := link.recalls index { thread with cut := true }
      (fun _ inHand => link.held found inHand) (by
        intro id row acting there consumed allocated same _ lands
        rw [found] at same
        cases same
        have own := Table.key_of_get there
        exact absurd consumed (guarded thread found row (Table.mem_of_get there) (own.symm ▸ lands) allocated))
    change Burned (leave thread.tag none system.world) _
    rw [leave_jobs]
    exact ⟨kept.caps, kept.recorded, kept.held, kept.burned⟩

/-- In every run that returns to the pool only what no submission may have touched, no presign is
on offer whose cap was consumed. -/
theorem burned_never_ready (config : Config) {initial system : SignSystem} (start : Initial initial)
    (run : (machine config).Run Guarded initial system) : Fresh system.world := by
  have kept : Machine.Kept (contract config) initial := kept_of_reaches start.threads .refl
  have link : Burned initial.world initial.calls := by
    refine ⟨start.caps, ?_, ?_, ?_⟩
    · intro cap consumed
      rw [start.consumed] at consumed
      cases consumed
    · intro index thread presign found
      rw [start.calls] at found
      cases found
    · intro id row _ consumed
      rw [start.consumed] at consumed
      cases consumed
  exact (run.tracked (honours config) Burned kept link (fun _ link guarded move => link.move guarded move)).2.fresh

/-! ### A cap that is gone and on offer -/

/-- The worker has submitted, but before it marks the presign the sweep takes the reservation
for expired. -/
def resurrectedEvents : List (Event Env Call) :=
  .start (samplePrepare "first" [7]) :: steps 0 13 calm ++
  .start (sampleSubmit 10) :: steps 1 3 calm ++
  .start (.process 10 0) :: steps 2 7 later ++
  .start (.sweepExpired 300) :: steps 3 2 later

theorem burned_ready : ∃ system, (machine sampleConfig).Reaches sampleStart system ∧ ¬Fresh system.world := by
  obtain ⟨system, reached, presign, member, ready, consumed⟩ :
      ∃ system, (machine sampleConfig).Reaches sampleStart system ∧
        ∃ presign ∈ system.world.presigns.rows, presign.status = .ready ∧
          presign.suiObjectId ∈ system.world.chain.consumed :=
    Machine.exists_reaches resurrectedEvents (by decide +kernel)
  exact ⟨system, reached, fun fresh => fresh presign member ready consumed⟩

theorem sampleStart_initial : Initial sampleStart := by
  constructor <;> decide

theorem burned_never_ready_sample : ∃ system, (machine sampleConfig).Run Guarded sampleStart system ∧
    "0xcap" ∈ system.world.chain.consumed ∧ Fresh system.world := by
  obtain ⟨system, run, consumed⟩ : ∃ system, (machine sampleConfig).Run Guarded sampleStart system ∧
      "0xcap" ∈ system.world.chain.consumed :=
    Machine.exists_run signedEvents (by decide +kernel)
  exact ⟨system, run, consumed, burned_never_ready sampleConfig sampleStart_initial run⟩

end MpcKit.Sign
