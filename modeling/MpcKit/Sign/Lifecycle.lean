import MpcKit.Sign.Exclusivity
import MpcKit.Sign.Walks

/-! The status of a sign request moves `prepared`, `queued`, `submitted`, `completed`, or ends in
`failed`, as long as every write finds the status its call has seen last. -/

namespace MpcKit.Sign
open MpcKit.Backend MpcKit.Async

/-- The status changes a sign request is meant to make. -/
def SignStatus.Transition : SignStatus → SignStatus → Prop
  | .prepared, .queued => True
  | .queued, .submitted => True
  | .submitted, .completed => True
  | .prepared, .failed => True
  | .queued, .failed => True
  | .submitted, .failed => True
  | _, _ => False

/-- What is final about a request that has ended. -/
def SignRequest.SameEnd (old row : SignRequest) : Prop :=
  row.status = old.status ∧ row.signatureHex = old.signatureHex ∧ row.errorCode = old.errorCode

instance (old row : SignRequest) : Decidable (old.SameEnd row) := inferInstanceAs (Decidable (_ ∧ _))

/-- Every status change is a transition, and a request that has ended stays as it is. -/
structure Lawful (before after : SignTable) : Prop where
  changes : ∀ {id old row}, before.get id = some old → after.get id = some row →
    row.status = old.status ∨ old.status.Transition row.status
  ended : ∀ {id old}, before.get id = some old → ¬old.status.Live → ∃ row, after.get id = some row ∧ old.SameEnd row

/-- The status of its row a call has read or written last. -/
def Stage.seen : Stage → Option SignStatus
  | .owned row => some row.status
  | .working _ status => some status
  | _ => none

/-- A status write finds the status its call has seen last, or the one it writes; a request is
failed or dropped while it is open, or failed again for the same reason. -/
def Current (table : SignTable) (seen : Option SignStatus) : Op → Prop
  | .sign (.setQueued id _ _) => ∀ row ∈ table.get id, some row.status = seen ∨ row.status = .queued
  | .sign (.setSubmitted id _) => ∀ row ∈ table.get id, some row.status = seen ∨ row.status = .submitted
  | .sign (.setCompleted id _) => ∀ row ∈ table.get id, some row.status = seen
  | .sign (.setFailed id code _) => ∀ row ∈ table.get id,
      row.status.Live ∨ row.status = .failed ∧ row.errorCode = some code
  | .sign (.delete id) => ∀ row ∈ table.get id, row.status.Live
  | _ => True

instance (table : SignTable) (seen : Option SignStatus) (op : Op) : Decidable (Current table seen op) := by
  unfold Current
  induction op using Op.casesOn with
  | sign op => induction op using SignOp.casesOn <;> infer_instance
  | _ => infer_instance

def Undisturbed (system : SignSystem) (event : Event Env Call) : Prop :=
  ∀ pair ∈ acting system event, Current system.world.signRequests (stage pair.1.history).seen pair.2

instance (system : SignSystem) (event : Event Env Call) : Decidable (Undisturbed system event) :=
  inferInstanceAs (Decidable (∀ _ ∈ _, _))

theorem Lawful.refl (table : SignTable) : Lawful table table where
  changes := by
    intro id old row before after
    rw [before] at after
    cases after
    exact .inl rfl
  ended := by
    intro id old before _
    exact ⟨old, before, rfl, rfl, rfl⟩

/-- The one statement-level fact: an update allowed by the protocol that finds a current row
makes a transition, and changes nothing about a request that has ended. -/
theorem SignChange.lawful {config : Config} {env : Env} {call : Call} {stage : Stage} {op : SignOp}
    {table : SignTable} {old row : SignRequest} (change : SignChange env op old row)
    (before : table.get old.id = some old) (allowed : Allowed config call stage (.sign op))
    (current : Current table stage.seen (.sign op)) :
    (row.status = old.status ∨ old.status.Transition row.status) ∧ (¬old.status.Live → old.SameEnd row) := by
  cases change with
  | presign _ presignId => exact ⟨.inl rfl, fun _ => ⟨rfl, rfl, rfl⟩⟩
  | session _ session => exact ⟨.inl rfl, fun _ => ⟨rfl, rfl, rfl⟩⟩
  | queued _ signature session =>
    obtain ⟨read, rfl, _, prepared⟩ := allowed.of_setQueued
    rcases current old before with same | same
    · have status : old.status = .prepared := (Option.some.inj same).trans prepared
      exact ⟨.inr (by rw [status]; trivial), fun closed => absurd (by rw [status]; decide) closed⟩
    · exact ⟨.inl same.symm, fun closed => absurd (by rw [same]; decide) closed⟩
  | submitted _ digest =>
    obtain ⟨read, rfl, _⟩ := allowed.of_setSubmitted
    rcases current old before with same | same
    · have status : old.status = .queued := Option.some.inj same
      exact ⟨.inr (by rw [status]; trivial), fun closed => absurd (by rw [status]; decide) closed⟩
    · exact ⟨.inl same.symm, fun closed => absurd (by rw [same]; decide) closed⟩
  | completed _ signature =>
    obtain ⟨read, rfl, _⟩ := allowed.of_setCompleted
    have status : old.status = .submitted := Option.some.inj (current old before)
    exact ⟨.inr (by rw [status]; trivial), fun closed => absurd (by rw [status]; decide) closed⟩
  | failed _ code message =>
    rcases current old before with live | ⟨same, reason⟩
    · refine ⟨.inr ?_, fun closed => absurd live closed⟩
      change old.status.Transition .failed
      cases status : old.status with
      | completed => exact absurd status live.1
      | failed => exact absurd status live.2
      | _ => trivial
    · exact ⟨.inl same.symm, fun _ => ⟨same.symm, rfl, reason.symm⟩⟩

theorem Lawful.exec {config : Config} {op : Op} {env : Env} {world after : World} {answer : Res op} {call : Call}
    {stage : Stage} (allowed : Allowed config call stage op) (current : Current world.signRequests stage.seen op)
    (executed : exec op env world = some (answer, after)) : Lawful world.signRequests after.signRequests where
  changes := by
    intro id old row before found
    rcases row_of_exec executed found with same | ⟨new, _, _, _, free, _⟩ | ⟨other, statement, rfl, there, change⟩
    · rw [before] at same
      cases same
      exact .inl rfl
    · rw [before] at free
      cases free
    · rw [before] at there
      cases there
      exact (change.lawful ((Table.key_of_get before).symm ▸ before) allowed current).1
  ended := by
    intro id old before closed
    rcases exec_row executed before with rfl | ⟨row, found, rfl | ⟨statement, rfl, change⟩⟩
    · exact absurd (current old before) closed
    · exact ⟨row, found, rfl, rfl, rfl⟩
    · exact ⟨row, found, (change.lawful ((Table.key_of_get before).symm ▸ before) allowed current).2 closed⟩

theorem Lawful.move {config : Config} {system : SignSystem} {event : Event Env Call} {world : World}
    {calls : Nat → Option SignThread} (undisturbed : Undisturbed system event)
    (move : (machine config).Move (contract config) system event world calls) :
    Lawful system.world.signRequests world.signRequests := by
  cases move with
  | start tag opened free entered path =>
    rw [close_jobs, enter_jobs entered]
    exact .refl _
  | step index env thread op answer rest opened act =>
    have done : Lawful system.world.signRequests opened.signRequests :=
      Lawful.exec act.before (undisturbed _ (acting_of_act act)) act.executed
    rw [close_jobs]
    exact done
  | cut index thread found running =>
    change Lawful system.world.signRequests (leave thread.tag none system.world).signRequests
    rw [leave_jobs]
    exact .refl _

/-- In every run whose status writes find what their calls have seen, each step makes only the
intended status changes, and whatever has ended stays as it is for the rest of the run. -/
theorem status_machine (config : Config) {initial system : SignSystem} (idle : initial.threads = [])
    (run : (machine config).Run Undisturbed initial system) :
    (∀ event after, Undisturbed system event → (machine config).next system event = some after →
      Lawful system.world.signRequests after.world.signRequests) ∧
    ∀ later, (machine config).Run Undisturbed system later → ∀ id old, system.world.signRequests.get id = some old →
      ¬old.status.Live → ∃ row, later.world.signRequests.get id = some row ∧ old.SameEnd row := by
  have lawful : ∀ {system event after}, (machine config).Run Undisturbed initial system → Undisturbed system event →
      (machine config).next system event = some after → Lawful system.world.signRequests after.world.signRequests := by
    intro system event after run undisturbed stepped
    have kept := kept_of_reaches idle run.reaches
    exact Lawful.move undisturbed (kept.move (honours config) (Machine.effect_of_next _ stepped))
  refine ⟨fun event after => lawful run, ?_⟩
  intro later onwards id old before closed
  induction onwards with
  | refl => exact ⟨old, before, rfl, rfl, rfl⟩
  | step onwards undisturbed stepped ih =>
    obtain ⟨row, found, status, signature, reason⟩ := ih
    have still : ¬row.status.Live := by
      rw [status]
      exact closed
    obtain ⟨final, there, same, kept, code⟩ := (lawful (run.trans onwards) undisturbed stepped).ended found still
    exact ⟨final, there, same.trans status, kept.trans signature, code.trans reason⟩

/-! ### A completed request that fails -/

/-- The sweep has read the request as stuck; before it goes on, the request is submitted and signed. -/
def overwrittenEvents : List (Event Env Call) :=
  .start (samplePrepare "first" [7]) :: steps 0 13 calm ++
  .start (.sweepStuckPrepared 300) :: steps 1 2 later ++
  .start (sampleSubmit 10) :: steps 2 3 later ++
  .start (.process 10 0) :: steps 3 14 later ++ steps 1 1 later

theorem completed_overwritten : ∃ system event after, (machine sampleConfig).Reaches sampleStart system ∧
    (machine sampleConfig).next system event = some after ∧
    ¬Lawful system.world.signRequests after.world.signRequests := by
  obtain ⟨system, reached, after, stepped, old, before, row, found, completed, failed⟩ :
      ∃ system, (machine sampleConfig).Reaches sampleStart system ∧
        ∃ after ∈ (machine sampleConfig).next system (.step 1 later),
          ∃ old ∈ system.world.signRequests.get 10, ∃ row ∈ after.world.signRequests.get 10,
            old.status = .completed ∧ row.status = .failed :=
    Machine.exists_reaches overwrittenEvents (by decide +kernel)
  refine ⟨system, .step 1 later, after, reached, stepped, fun lawful => ?_⟩
  rcases lawful.changes before found with same | transition
  · rw [completed, failed] at same
    cases same
  · rw [completed, failed] at transition
    exact transition

/-- A request that goes all the way to its signature. -/
def signedEvents : List (Event Env Call) :=
  .start (samplePrepare "first" [7]) :: steps 0 13 calm ++
  .start (sampleSubmit 10) :: steps 1 3 calm ++
  .start (.process 10 0) :: steps 2 13 calm

theorem status_machine_sample : ∃ system, (machine sampleConfig).Run Undisturbed sampleStart system ∧
    (∃ row ∈ system.world.signRequests.get 10, row.status = .completed) ∧
    ∀ event after, Undisturbed system event → (machine sampleConfig).next system event = some after →
      Lawful system.world.signRequests after.world.signRequests := by
  obtain ⟨system, run, completed⟩ : ∃ system, (machine sampleConfig).Run Undisturbed sampleStart system ∧
      ∃ row ∈ system.world.signRequests.get 10, row.status = .completed :=
    Machine.exists_run signedEvents (by decide +kernel)
  exact ⟨system, run, completed, (status_machine sampleConfig rfl run).1⟩

end MpcKit.Sign
