import MpcKit.Sign.Effects

/-! No two open sign requests carry the same presign, as long as nobody takes a presign away
from an open request that still names it. -/

namespace MpcKit.Sign
open MpcKit.Backend MpcKit.Async

/-- Neither completed nor failed. -/
def SignStatus.Live (status : SignStatus) : Prop := status ≠ .completed ∧ status ≠ .failed

instance (status : SignStatus) : Decidable status.Live := inferInstanceAs (Decidable (_ ∧ _))

def Exclusive (world : World) : Prop :=
  ∀ first ∈ world.signRequests.rows, ∀ second ∈ world.signRequests.rows, first.status.Live → second.status.Live →
    ∀ presignId, first.presignId = some presignId → second.presignId = some presignId → first = second

/-- An allocation finds no ready presign that an open request still names, a prepare records a
presign that is still reserved for it, and a request is not reopened after it has ended. -/
def Reserves (world : World) : Op → Prop
  | .presign (.claim args) => ∀ presign ∈ world.presigns.rows, presign.Matches args →
      ∀ row ∈ world.signRequests.rows, row.status.Live → row.presignId ≠ some presign.id
  | .sign (.setPresign id presignId) =>
      ∃ presign ∈ world.presigns.get presignId, presign.signRequestId = some id
  | .sign (.setQueued id _ _) => ∀ row ∈ world.signRequests.get id, row.status.Live
  | .sign (.setSubmitted id _) => ∀ row ∈ world.signRequests.get id, row.status.Live
  | _ => True

instance (world : World) (op : Op) : Decidable (Reserves world op) := by
  unfold Reserves
  induction op using Op.casesOn with
  | sign op => induction op using SignOp.casesOn <;> infer_instance
  | presign op => induction op using PresignOp.casesOn <;> infer_instance
  | _ => infer_instance

/-- An open request that names a presign is the only one, and the presign names no other. -/
structure Reserved (world : World) : Prop where
  unique : ∀ {one other first second presignId}, world.signRequests.get one = some first →
    world.signRequests.get other = some second → first.status.Live → second.status.Live →
    first.presignId = some presignId → second.presignId = some presignId → one = other
  owner : ∀ {id row presignId presign holder}, world.signRequests.get id = some row → row.status.Live →
    row.presignId = some presignId → world.presigns.get presignId = some presign →
    presign.signRequestId = some holder → holder = id

theorem Reserved.exclusive {world : World} (reserved : Reserved world) : Exclusive world := by
  intro first one second other live alive presignId names same
  have found := Table.get_of_mem one
  have there := Table.get_of_mem other
  rw [← reserved.unique found there live alive names same, found] at there
  exact Option.some.inj there

/-- A named presign of an open request was there before, unless this very statement records it. -/
theorem named_before {env : Env} {world : World} {op : SignOp} {id presignId : Uuid} {row : SignRequest}
    (reserves : Reserves world (.sign op)) (found : (op.exec env world.signRequests).2.get id = some row)
    (live : row.status.Live) (names : row.presignId = some presignId) :
    (∃ old, world.signRequests.get id = some old ∧ old.status.Live ∧ old.presignId = some presignId) ∨
      op = .setPresign id presignId := by
  rcases SignOp.row_exec found with before | ⟨new, rfl, rfl, rfl, _⟩ | ⟨old, before, change⟩
  · exact .inl ⟨row, before, live, names⟩
  · cases names
  · have own := Table.key_of_get before
    cases change with
    | presign _ recorded =>
      cases names
      exact .inr (by rw [own])
    | queued _ signature session => exact .inl ⟨old, before, reserves old (own.symm ▸ before), names⟩
    | submitted _ digest => exact .inl ⟨old, before, reserves old (own.symm ▸ before), names⟩
    | session _ session => exact .inl ⟨old, before, live, names⟩
    | completed _ signature => exact absurd rfl live.1
    | failed _ code message => exact absurd rfl live.2

theorem Reserved.sign {env : Env} {world : World} {op : SignOp} (reserved : Reserved world)
    (reserves : Reserves world (.sign op)) :
    Reserved { world with signRequests := (op.exec env world.signRequests).2 } where
  unique := by
    intro one other first second presignId found there live alive names same
    rcases named_before reserves found live names with ⟨old, before, was, had⟩ | recorded
    · rcases named_before reserves there alive same with ⟨elder, earlier, lived, held⟩ | recorded
      · exact reserved.unique before earlier was lived had held
      · subst recorded
        obtain ⟨presign, stored, mine⟩ := reserves
        exact (reserved.owner before was had stored mine).symm
    · rcases named_before reserves there alive same with ⟨elder, earlier, lived, held⟩ | again
      · subst recorded
        obtain ⟨presign, stored, mine⟩ := reserves
        exact reserved.owner earlier lived held stored mine
      · rw [recorded] at again
        cases again
        rfl
  owner := by
    intro id row presignId presign holder found live names stored held
    rcases named_before reserves found live names with ⟨old, before, was, had⟩ | recorded
    · exact reserved.owner before was had stored held
    · subst recorded
      obtain ⟨reservedFor, there, mine⟩ := reserves
      rw [show world.presigns.get presignId = some presign from stored] at there
      cases there
      rw [mine] at held
      exact (Option.some.inj held).symm

theorem Reserved.presign {env : Env} {world : World} {op : PresignOp} {next : Uuid} (reserved : Reserved world)
    (reserves : Reserves world (.presign op)) :
    Reserved { world with presigns := (op.exec env world.presigns world.nextId).2.1, nextId := next } where
  unique := reserved.unique
  owner := by
    intro id row presignId presign holder found live names stored held
    rcases PresignOp.row_exec stored with before | ⟨old, before, change⟩ | ⟨_, new, rfl, _⟩
    · exact reserved.owner found live names before held
    · cases change with
      | claim _ args ready =>
        have open_ := reserves old (Table.mem_of_get before) ready row (Table.mem_of_get found) live
        rw [Table.key_of_get before] at open_
        exact absurd names open_
      | rollback _ => cases held
      | rescue _ cutoff expired => cases held
      | _ => exact reserved.owner found live names before held
    · cases held

theorem Reserved.exec {op : Op} {env : Env} {world after : World} {answer : Res op}
    (reserved : Reserved world) (reserves : Reserves world op) (executed : exec op env world = some (answer, after)) :
    Reserved after := by
  cases op with
  | sign op =>
    cases executed
    exact reserved.sign reserves
  | presign op =>
    cases executed
    exact reserved.presign reserves
  | ledger op =>
    cases executed
    exact ⟨reserved.unique, reserved.owner⟩
  | wallet op =>
    cases executed
    exact ⟨reserved.unique, reserved.owner⟩
  | queue op =>
    cases executed
    exact ⟨reserved.unique, reserved.owner⟩
  | chain op =>
    obtain ⟨reply, _, same⟩ := Option.map_eq_some_iff.mp executed
    cases same
    exact ⟨reserved.unique, reserved.owner⟩
  | randomUUID =>
    cases executed
    exact ⟨reserved.unique, reserved.owner⟩
  | now =>
    cases executed
    exact reserved

def sampleConfig : Config := ⟨10, 5⟩

/-- Every request gets through and every transaction succeeds. -/
def calm : Env where
  now := 0
  locked := []
  rpc := .ok ()
  coordinatorId := "0xcoordinator"
  objectError := false
  presignId := some "0xsession"
  presignBytes := some [1]
  networkEncryptionKeyId := some "0xnek"
  outcome := .success
  digest := "digest"
  events := [⟨"0x1::sign::SignRequested", some "0xsign"⟩]
  signature := some [2]
  caps := []
  page := ⟨[], false, none⟩
  capBatch := []
  sessionBatch := []
  fieldValue := none

/-- An hour after everything else. -/
def later : Env := { calm with now := 3600000 }

/-- One user with credits, one active dwallet and one ready presign. -/
def sampleStart : SignSystem where
  threads := []
  world := {
    signRequests := .empty _
    presigns := ⟨[⟨2, "testnet", "0xcap", 0, 0, "0xnek", .ready, none, none, none, none, 0, 0⟩], by simp⟩
    ledger := ⟨[⟨3, 1, "testnet", 100, none⟩], [], []⟩
    dwallets := ⟨[⟨1, 1, some 1, "testnet", "0xdwallet", 0, "0xnek", some "0xnek", "zero_trust", .active, "dkg",
      some "accept"⟩], by simp⟩
    accounts := ⟨[⟨1, 1, "testnet", "0xaccount", "dkg"⟩], by simp⟩
    jobs := []
    chain := ⟨["0xcap"], []⟩
    nextId := 10 }

def samplePrepare (key : String) (message : Bytes) : Call := .prepare ⟨1, "testnet", key, 1, 0, 0, message⟩

def sampleSubmit (signRequestId : Uuid) : Call := .submit ⟨1, "testnet", signRequestId, [1], [2]⟩

def steps (index count : Nat) (env : Env) : List (Event Env Call) := List.replicate count (.step index env)

/-- The first request is queued when the reservation expires; the sweep returns its presign to
the pool and the next prepare gets it. -/
def sharedEvents : List (Event Env Call) :=
  .start (samplePrepare "first" [7]) :: steps 0 13 calm ++
  .start (sampleSubmit 10) :: steps 1 3 calm ++
  .start (.sweepExpired 300) :: steps 2 3 later ++
  .start (samplePrepare "second" [8]) :: steps 3 13 later

end MpcKit.Sign
