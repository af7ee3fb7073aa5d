import MpcKit.Sdk.Worker

/-! Which promises of `WebWorkerCryptoEngine` wait, and what they are resolved with. -/

namespace MpcKit.Sdk
open MpcKit.Async

/-! ### Settling -/

@[simp] theorem ClientCall.settle_id (call : ClientCall) (outcome : Except Rejection Result) :
    (call.settle outcome).id = call.id := rfl

@[simp] theorem ClientCall.settle_request (call : ClientCall) (outcome : Except Rejection Result) :
    (call.settle outcome).request = call.request := rfl

theorem ClientCall.settle_ne_none (call : ClientCall) (outcome : Except Rejection Result) :
    (call.settle outcome).settlement ≠ none := by
  unfold ClientCall.settle
  cases call.settlement <;> simp

theorem ClientCall.settle_settled {call : ClientCall} {outcome earlier : Except Rejection Result}
    (settled : call.settlement = some earlier) : call.settle outcome = call := by
  obtain ⟨id, request, settlement⟩ := call
  cases settled
  rfl

theorem ClientCall.settle_twice (call : ClientCall) (outcome : Except Rejection Result) :
    (call.settle outcome).settle outcome = call.settle outcome := by
  obtain ⟨id, request, settlement⟩ := call
  cases settlement <;> rfl

namespace Ipc

variable {ipc : Ipc} {promise : Nat}

theorem calls_settle (ipc : Ipc) (promise : Nat) (outcome : Except Rejection Result) (other : Nat) :
    (ipc.settle promise outcome).calls[other]? =
      (ipc.calls[other]?).map (fun call => if promise = other then call.settle outcome else call) := by
  simp only [settle, List.getElem?_modify]
  by_cases same : promise = other <;> simp [same]

/-- Every pending promise is rejected. -/
theorem calls_rejectAll (ipc : Ipc) (error : MPCKitError) (other : Nat) :
    (ipc.rejectAll error).calls[other]? = (ipc.calls[other]?).map (fun call =>
      if other ∈ ipc.pending.map Prod.snd then call.settle (.error (.mpckit error)) else call) := by
  have folded : ∀ (entries : List (Nat × Nat)) (ipc : Ipc),
      (entries.foldl (fun ipc entry => ipc.settle entry.2 (.error (.mpckit error))) ipc).calls[other]? =
        (ipc.calls[other]?).map (fun call =>
          if other ∈ entries.map Prod.snd then call.settle (.error (.mpckit error)) else call) := by
    intro entries
    induction entries with
    | nil => simp
    | cons entry entries ih =>
      intro ipc
      rw [List.foldl_cons, ih, calls_settle, Option.map_map]
      congr 1
      funext call
      simp only [Function.comp_apply, List.map_cons, List.mem_cons]
      by_cases later : other ∈ entries.map Prod.snd
      · by_cases same : entry.2 = other
        · rw [if_pos later, if_pos same, if_pos (.inr later), ClientCall.settle_twice]
        · rw [if_pos later, if_neg same, if_pos (.inr later)]
      · by_cases same : entry.2 = other
        · rw [if_neg later, if_pos same, if_pos (.inl same.symm)]
        · rw [if_neg later, if_neg same, if_neg (by rintro (equal | there); exacts [same equal.symm, later there])]
  exact folded ipc.pending ipc

theorem fields_rejectAll (ipc : Ipc) (error : MPCKitError) :
    (ipc.rejectAll error).nextId = ipc.nextId ∧ (ipc.rejectAll error).calls.length = ipc.calls.length ∧
      (ipc.rejectAll error).terminated = ipc.terminated ∧ (ipc.rejectAll error).inbox = ipc.inbox ∧
      (ipc.rejectAll error).replies = ipc.replies := by
  have folded : ∀ (entries : List (Nat × Nat)) (ipc : Ipc),
      let after := entries.foldl (fun ipc entry => ipc.settle entry.2 (.error (.mpckit error))) ipc
      after.nextId = ipc.nextId ∧ after.calls.length = ipc.calls.length ∧ after.terminated = ipc.terminated ∧
        after.inbox = ipc.inbox ∧ after.replies = ipc.replies := by
    intro entries
    induction entries with
    | nil => exact fun ipc => ⟨rfl, rfl, rfl, rfl, rfl⟩
    | cons entry entries ih =>
      intro ipc
      have rest := ih (ipc.settle entry.2 (.error (.mpckit error)))
      simp only [List.foldl_cons]
      simpa [settle] using rest
  exact folded ipc.pending ipc

end Ipc

/-! ### The map of pending calls -/

/-- The entries of the map are the promises that are not settled. -/
structure Tidy (ipc : Ipc) : Prop where
  numbered : ipc.nextId = ipc.calls.length + 1
  ids : ∀ {promise call}, ipc.calls[promise]? = some call → call.id = promise + 1
  keyed : ∀ entry ∈ ipc.pending, entry.1 = entry.2 + 1
  once : (ipc.pending.map Prod.snd).Nodup
  waits : ∀ promise, promise ∈ ipc.pending.map Prod.snd ↔ ∃ call, ipc.calls[promise]? = some call ∧ call.settlement = none
  stopped : ipc.terminated = true → ipc.pending = []

section Tidy

variable {ipc : Ipc}

theorem tidy_constructed : Tidy .constructed where
  numbered := rfl
  ids found := by cases found
  keyed _ member := absurd member List.not_mem_nil
  once := List.nodup_nil
  waits promise := ⟨fun member => absurd member List.not_mem_nil, fun ⟨_, found, _⟩ => by cases found⟩
  stopped impossible := by cases impossible

theorem Tidy.call (tidy : Tidy ipc) (request : Request) (running : ipc.terminated = false) :
    Tidy (ipc.call request (.ok ())) where
  numbered := by simp [Ipc.call, tidy.numbered]
  ids := by
    intro promise call found
    simp only [Ipc.call, List.getElem?_append] at found
    split at found
    · exact tidy.ids found
    next beyond =>
      obtain ⟨last, rfl⟩ := List.getElem?_eq_some_iff.mp found
      simp only [List.length_singleton] at last
      simp only [List.getElem_singleton, tidy.numbered]
      omega
  keyed := by
    intro entry member
    rcases List.mem_append.mp member with before | new
    · exact tidy.keyed entry before
    · rw [List.mem_singleton.mp new]
      exact tidy.numbered
  once := by
    have absent : ipc.calls.length ∉ ipc.pending.map Prod.snd := by
      rw [tidy.waits]
      rintro ⟨call, found, _⟩
      exact absurd (List.getElem?_eq_some_iff.mp found).1 (Nat.lt_irrefl _)
    simpa [Ipc.call, List.nodup_append] using ⟨tidy.once, fun other id member same =>
      absent (List.mem_map.mpr ⟨(id, other), member, same⟩)⟩
  waits := by
    intro promise
    simp only [Ipc.call, List.map_append, List.mem_append, tidy.waits, List.getElem?_append]
    by_cases inside : promise < ipc.calls.length
    · have other : promise ≠ ipc.calls.length := Nat.ne_of_lt inside
      simp [inside, other]
    · by_cases last : promise = ipc.calls.length
      · simp [last]
      · have beyond : ¬promise - ipc.calls.length = 0 := by omega
        simp [inside, last, beyond]
  stopped stopped := by
    have same : ipc.terminated = true := stopped
    rw [running] at same
    cases same

theorem Tidy.rejectAll (tidy : Tidy ipc) (error : MPCKitError) : Tidy (ipc.rejectAll error) where
  numbered := by
    obtain ⟨next, length, _⟩ := ipc.fields_rejectAll error
    rw [next, length, tidy.numbered]
  ids := by
    intro promise call found
    rw [Ipc.calls_rejectAll] at found
    obtain ⟨before, there, rfl⟩ := Option.map_eq_some_iff.mp found
    have known := tidy.ids there
    split <;> exact known
  keyed _ member := absurd member List.not_mem_nil
  once := List.nodup_nil
  waits := by
    intro promise
    refine ⟨fun member => absurd member List.not_mem_nil, ?_⟩
    rintro ⟨call, found, waiting⟩
    rw [Ipc.calls_rejectAll] at found
    obtain ⟨before, there, rfl⟩ := Option.map_eq_some_iff.mp found
    split at waiting
    · exact absurd waiting (ClientCall.settle_ne_none _ _)
    next gone => exact absurd ((tidy.waits promise).mpr ⟨before, there, waiting⟩) gone
  stopped _ := rfl

theorem Tidy.terminate (tidy : Tidy ipc) : Tidy ipc.terminate :=
  have rejected := tidy.rejectAll ⟨"worker terminated", 0, "WORKER_TERMINATED"⟩
  ⟨rejected.numbered, rejected.ids, rejected.keyed, rejected.once, rejected.waits, fun _ => rfl⟩

/-- The entry of an id is the one of its promise. -/
theorem Tidy.entry (tidy : Tidy ipc) {id : Nat} {entry : Nat × Nat} (found : ipc.pending.find? (fun entry => entry.1 = id) = some entry) :
    entry ∈ ipc.pending ∧ id = entry.2 + 1 ∧ ∃ call, ipc.calls[entry.2]? = some call ∧ call.id = id ∧ call.settlement = none := by
  have member := List.mem_of_find?_eq_some found
  have same : entry.1 = id := by simpa using List.find?_some found
  have keyed := tidy.keyed entry member
  obtain ⟨call, there, waiting⟩ := (tidy.waits entry.2).mp (List.mem_map_of_mem member)
  refine ⟨member, same ▸ keyed, call, there, ?_, waiting⟩
  rw [tidy.ids there, ← keyed, same]

/-- The entry is deleted and its promise settled. -/
theorem Tidy.settle (tidy : Tidy ipc) {id : Nat} {entry : Nat × Nat}
    (found : ipc.pending.find? (fun entry => entry.1 = id) = some entry) (outcome : Except Rejection Result) :
    Tidy ({ ipc with pending := ipc.pending.filter (fun entry => entry.1 ≠ id) }.settle entry.2 outcome) where
  numbered := by simp [Ipc.settle, tidy.numbered]
  ids := by
    intro promise call there
    rw [Ipc.calls_settle] at there
    obtain ⟨before, earlier, rfl⟩ := Option.map_eq_some_iff.mp there
    have known := tidy.ids earlier
    split <;> exact known
  keyed other member := tidy.keyed other (List.mem_filter.mp member).1
  once := tidy.once.sublist (List.filter_sublist.map Prod.snd)
  waits := by
    intro promise
    obtain ⟨member, own, _⟩ := tidy.entry found
    have left : promise ∈ (ipc.pending.filter (fun entry => entry.1 ≠ id)).map Prod.snd ↔
        promise ∈ ipc.pending.map Prod.snd ∧ promise ≠ entry.2 := by
      simp only [List.mem_map, List.mem_filter, decide_eq_true_eq]
      constructor
      · rintro ⟨other, ⟨there, apart⟩, rfl⟩
        refine ⟨⟨other, there, rfl⟩, fun same => apart ?_⟩
        rw [tidy.keyed other there, same, own]
      · rintro ⟨⟨other, there, rfl⟩, apart⟩
        refine ⟨other, ⟨there, fun same => apart ?_⟩, rfl⟩
        have keyed := tidy.keyed other there
        omega
    have calls := Ipc.calls_settle { ipc with pending := ipc.pending.filter (fun entry => entry.1 ≠ id) } entry.2 outcome promise
    rw [calls]
    change promise ∈ (ipc.pending.filter (fun entry => entry.1 ≠ id)).map Prod.snd ↔ _
    rw [left, tidy.waits]
    by_cases same : entry.2 = promise
    · constructor
      · rintro ⟨_, apart⟩
        exact absurd same.symm apart
      · rintro ⟨call, there, waiting⟩
        obtain ⟨before, _, rfl⟩ := Option.map_eq_some_iff.mp there
        rw [if_pos same] at waiting
        exact absurd waiting (ClientCall.settle_ne_none _ _)
    · simp [same, Ne.symm same]
  stopped stopped := by
    have none : ipc.pending = [] := tidy.stopped stopped
    simp [Ipc.settle, none]

end Tidy

/-! ### What becomes of the promises -/

/-- Promises are only added, and a settled one stays as it is. -/
def Onward (before after : Ipc) : Prop :=
  ∀ (promise : Nat) (call : ClientCall), before.calls[promise]? = some call → ∃ later : ClientCall,
    after.calls[promise]? = some later ∧ later.id = call.id ∧ later.request = call.request ∧ (call.settlement.isSome = true → later = call)

theorem onward_refl {before after : Ipc} (same : after.calls = before.calls) : Onward before after :=
  fun _ call found => ⟨call, same ▸ found, rfl, rfl, fun _ => rfl⟩

theorem Onward.trans {first second third : Ipc} (one : Onward first second) (two : Onward second third) :
    Onward first third := by
  intro promise call found
  obtain ⟨middle, there, id, request, kept⟩ := one promise call found
  obtain ⟨later, last, id', request', kept'⟩ := two promise middle there
  refine ⟨later, last, id'.trans id, request'.trans request, fun settled => ?_⟩
  have same := kept settled
  subst same
  exact kept' settled

theorem onward_settle (ipc : Ipc) (promise : Nat) (outcome : Except Rejection Result) :
    Onward ipc (ipc.settle promise outcome) := by
  intro other call found
  refine ⟨_, by rw [Ipc.calls_settle, found]; rfl, ?_⟩
  split
  · refine ⟨rfl, rfl, fun settled => ?_⟩
    obtain ⟨earlier, same⟩ := Option.isSome_iff_exists.mp settled
    exact ClientCall.settle_settled same
  · exact ⟨rfl, rfl, fun _ => rfl⟩

theorem onward_rejectAll (ipc : Ipc) (error : MPCKitError) : Onward ipc (ipc.rejectAll error) := by
  intro other call found
  refine ⟨_, by rw [Ipc.calls_rejectAll, found]; rfl, ?_⟩
  split
  · refine ⟨rfl, rfl, fun settled => ?_⟩
    obtain ⟨earlier, same⟩ := Option.isSome_iff_exists.mp settled
    exact ClientCall.settle_settled same
  · exact ⟨rfl, rfl, fun _ => rfl⟩

theorem onward_call (ipc : Ipc) (request : Request) (posted : Except Raised Unit) : Onward ipc (ipc.call request posted) := by
  have added : ∀ inbox, Onward ipc { ipc with
      nextId := ipc.nextId + 1, calls := ipc.calls ++ [⟨ipc.nextId, request, none⟩],
      pending := ipc.pending ++ [(ipc.nextId, ipc.calls.length)], inbox := inbox } := by
    intro inbox promise call found
    have inside := (List.getElem?_eq_some_iff.mp found).1
    exact ⟨call, by simpa [List.getElem?_append, inside] using found, rfl, rfl, fun _ => rfl⟩
  cases posted with
  | ok _ => exact added _
  | error error => exact (added ipc.inbox).trans (onward_settle _ _ _)

theorem onward_onMessage (ipc : Ipc) (data : Data) : Onward ipc (ipc.onMessage data) := by
  cases data with
  | foreign => exact onward_refl rfl
  | response id ok result error =>
    simp only [Ipc.onMessage]
    split
    · exact onward_refl rfl
    · split
      · exact onward_settle { ipc with pending := ipc.pending.filter (fun entry => entry.1 ≠ id) } _ _
      · split
        · exact onward_settle { ipc with pending := ipc.pending.filter (fun entry => entry.1 ≠ id) } _ _
        · exact onward_refl rfl

theorem onward_enter {task : Task} {ipc after : Ipc} (entered : task.enter ipc = some after) : Onward ipc after := by
  cases task with
  | call request posted =>
    cases entered
    exact onward_call ipc request posted
  | deliver reply =>
    obtain ⟨response, _, rfl⟩ := Option.map_eq_some_iff.mp entered
    exact onward_onMessage ipc _
  | message data =>
    cases entered
    exact onward_onMessage ipc data
  | error text =>
    cases entered
    exact onward_rejectAll ipc _
  | terminate =>
    cases entered
    exact onward_rejectAll ipc _
  | handle request =>
    simp only [Task.enter] at entered
    split at entered
    · cases entered
    · split at entered
      · cases entered
        exact onward_refl rfl
      · cases entered

theorem calls_close (index : Nat) (task : Task) (program : EngineProg Result) (ipc : Ipc) :
    (rpc.close index task program ipc).calls = ipc.calls := by
  unfold Machine.close
  split
  · change (Task.leave task _ ipc).calls = ipc.calls
    unfold Task.leave
    split <;> rfl
  · rfl

/-- The engine touches nothing but its cache. -/
theorem exec_frame {index : Nat} {op : EngineOp} {env : EngineEnv} {ipc after : Ipc} {answer : EngineOp.Res op}
    (executed : rpc.exec index op env ipc = some (answer, after)) : after = { ipc with cache := after.cache } := by
  have same : (execEngine op env ipc).2 = after := congrArg Prod.snd (Option.some.inj executed)
  rw [← same]
  cases op <;> rfl

/-- A promise settles at most once: whatever happens later, it stays as it is. -/
theorem onward_run {condition : RpcSystem → Event EngineEnv Task → Prop} {system later : RpcSystem}
    (run : rpc.Run condition system later) : Onward system.world later.world := by
  refine run.invariant (fun later => Onward system.world later.world) (onward_refl rfl) ?_
  intro later event after onward _ effect
  cases effect with
  | start task world entered => exact onward.trans ((onward_enter entered).trans (onward_refl (calls_close _ _ _ _)))
  | step index env thread op rest answer world found alive awaits executed =>
    refine onward.trans (onward_refl ?_)
    rw [calls_close, exec_frame executed]
  | cut index thread found running =>
    refine onward.trans (onward_refl ?_)
    change (Task.leave thread.tag none later.world).calls = later.world.calls
    unfold Task.leave
    split <;> rfl

/-! ### Where results come from -/

/-- Some promise was handed out for this request under this id. -/
def Asked (ipc : Ipc) (request : RpcRequest) : Prop :=
  ∃ (promise : Nat) (call : ClientCall), ipc.calls[promise]? = some call ∧ call.id = request.id ∧
    call.request = request.request

theorem Asked.onward {before after : Ipc} {request : RpcRequest} (asked : Asked before request)
    (onward : Onward before after) : Asked after request := by
  obtain ⟨promise, call, found, id, same⟩ := asked
  obtain ⟨later, there, id', same', _⟩ := onward promise call found
  exact ⟨promise, later, there, id'.trans id, same'.trans same⟩

/-- The worker has run the engine's method for this request, and the result is what it returned. -/
def Produced (calls : Nat → Option RpcThread) (request : RpcRequest) (result : Result) : Prop :=
  Machine.Someone calls (fun thread => thread.tag = .handle request ∧ thread.program.outcome = some (.ok result))

structure Served (ipc : Ipc) (calls : Nat → Option RpcThread) : Prop where
  posted : ∀ request ∈ ipc.inbox, Asked ipc request
  handled : ∀ index thread request, calls index = some thread → thread.tag = .handle request → Asked ipc request
  replied : ∀ id result, .ok id result ∈ ipc.replies → ∃ request, Asked ipc ⟨id, request⟩ ∧ Produced calls ⟨id, request⟩ result
  resolved : ∀ (promise : Nat) (call : ClientCall) result, ipc.calls[promise]? = some call → call.settlement = some (.ok result) →
    Produced calls ⟨call.id, call.request⟩ result

section Served

variable {ipc : Ipc} {calls : Nat → Option RpcThread}

theorem served_constructed : Served .constructed (fun _ => none) where
  posted _ member := absurd member List.not_mem_nil
  handled _ _ _ found := by cases found
  replied _ _ member := absurd member List.not_mem_nil
  resolved _ _ _ found := by cases found

/-- Nothing new was posted, answered or resolved. -/
theorem Served.quiet (served : Served ipc calls) {after : Ipc} (onward : Onward ipc after)
    (inbox : after.inbox = ipc.inbox) (replies : after.replies = ipc.replies)
    (resolved : ∀ (promise : Nat) (call : ClientCall) result, after.calls[promise]? = some call →
      call.settlement = some (.ok result) → ipc.calls[promise]? = some call) : Served after calls where
  posted request member := (served.posted request (inbox ▸ member)).onward onward
  handled index thread request found tag := (served.handled index thread request found tag).onward onward
  replied id result member := by
    obtain ⟨request, asked, produced⟩ := served.replied id result (replies ▸ member)
    exact ⟨request, asked.onward onward, produced⟩
  resolved promise call result found settled :=
    served.resolved promise call result (resolved promise call result found settled) settled

theorem Served.rejectAll (served : Served ipc calls) (error : MPCKitError) : Served (ipc.rejectAll error) calls := by
  obtain ⟨_, _, _, inbox, replies⟩ := ipc.fields_rejectAll error
  refine served.quiet (onward_rejectAll ipc error) inbox replies (fun promise call result found settled => ?_)
  rw [Ipc.calls_rejectAll] at found
  obtain ⟨before, there, rfl⟩ := Option.map_eq_some_iff.mp found
  split at settled
  next member =>
    rw [if_pos member]
    obtain ⟨id, request, settlement⟩ := before
    cases settlement with
    | none => cases settled
    | some earlier => exact there
  next apart =>
    rw [if_neg apart]
    exact there

/-- A promise is settled with what `outcome` says; if it is resolved, then with a result of the engine. -/
theorem Served.settle (served : Served ipc calls) (tidy : Tidy ipc) {id : Nat} {entry : Nat × Nat}
    (found : ipc.pending.find? (fun entry => entry.1 = id) = some entry) {outcome : Except Rejection Result}
    (source : ∀ result, outcome = .ok result → ∃ request, Asked ipc ⟨id, request⟩ ∧ Produced calls ⟨id, request⟩ result) :
    Served ({ ipc with pending := ipc.pending.filter (fun entry => entry.1 ≠ id) }.settle entry.2 outcome) calls := by
  have onward := onward_settle { ipc with pending := ipc.pending.filter (fun entry => entry.1 ≠ id) } entry.2 outcome
  refine ⟨fun request member => (served.posted request member).onward onward,
    fun index thread request found tag => (served.handled index thread request found tag).onward onward, ?_, ?_⟩
  · intro other result member
    obtain ⟨request, asked, produced⟩ := served.replied other result member
    exact ⟨request, asked.onward onward, produced⟩
  · intro promise call result there settled
    rw [Ipc.calls_settle] at there
    obtain ⟨before, earlier, rfl⟩ := Option.map_eq_some_iff.mp there
    by_cases same : entry.2 = promise
    · rw [if_pos same] at settled ⊢
      obtain ⟨_, own, waiting, here, named, unsettled⟩ := tidy.entry found
      rw [same] at here
      have equal : before = waiting := Option.some.inj (earlier.symm.trans here)
      subst equal
      have resolved : outcome = .ok result := by
        simpa [ClientCall.settle, unsettled] using settled
      obtain ⟨request, ⟨other, asking, listed, number, requested⟩, produced⟩ := source result resolved
      have keyed := tidy.ids listed
      have place : other = promise := by
        simp only at number
        omega
      rw [place] at listed
      have asked : asking = before := Option.some.inj (listed.symm.trans here)
      subst asked
      rw [ClientCall.settle_id, ClientCall.settle_request, named, requested]
      exact produced
    · rw [if_neg same] at settled ⊢
      exact served.resolved promise before result earlier settled

/-- Other calls of the system go on. -/
theorem Served.recall (served : Served ipc calls) {index : Nat} {replaced : RpcThread}
    (asked : ∀ request, replaced.tag = .handle request → Asked ipc request)
    (ended : ∀ thread, calls index = some thread → thread.program.outcome ≠ none →
      replaced.tag = thread.tag ∧ replaced.program = thread.program) :
    Served ipc (Function.update calls index (some replaced)) := by
  have produced : ∀ request result, Produced calls request result →
      Produced (Function.update calls index (some replaced)) request result := by
    intro request result someone
    refine someone.update (fun thread found done => ?_)
    obtain ⟨tag, program⟩ := ended thread found (by rw [done.2]; exact Option.some_ne_none _)
    exact ⟨tag.trans done.1, program ▸ done.2⟩
  refine ⟨served.posted, ?_, ?_, ?_⟩
  · intro other thread request found tag
    rcases Machine.calls_update found with ⟨_, rfl⟩ | ⟨_, found⟩
    · exact asked request tag
    · exact served.handled other thread request found tag
  · intro id result member
    obtain ⟨request, known, done⟩ := served.replied id result member
    exact ⟨request, known, produced _ _ done⟩
  · intro promise call result found settled
    exact produced _ _ (served.resolved promise call result found settled)

end Served

/-! ### The runs in which nothing is lost -/

/-- A message that is none of the worker's replies settles no promise with a result of its own, and leaves
none unsettled. -/
def Data.Harmless (ipc : Ipc) : Data → Prop
  | .foreign => True
  | .response id ok _ error => id ∈ ipc.pending.map Prod.fst → ok = false ∧ error.isSome = true

/-- `postMessage` takes every call, no call comes after `terminate`, and no malformed message names a
pending call. -/
def Guarded (system : RpcSystem) : Event EngineEnv Task → Prop
  | .start (.call _ posted) => posted.isOk = true ∧ system.world.terminated = false
  | .start (.message data) => data.Harmless system.world
  | _ => True

theorem onMessage_cases (ipc : Ipc) {data : Data}
    (answers : ∀ id ok result error, data = .response id ok result error → id ∈ ipc.pending.map Prod.fst →
      ok = true ∨ error.isSome = true) :
    ipc.onMessage data = ipc ∨ ∃ id entry outcome, ipc.pending.find? (fun entry => entry.1 = id) = some entry ∧
      ipc.onMessage data = { ipc with pending := ipc.pending.filter (fun entry => entry.1 ≠ id) }.settle entry.2 outcome ∧
      ∀ result, outcome = .ok result → ∃ error, data = .response id true result error := by
  cases data with
  | foreign => exact .inl rfl
  | response id ok result error =>
    cases found : ipc.pending.find? (fun entry => entry.1 = id) with
    | none =>
      left
      simp only [Ipc.onMessage, found]
    | some entry =>
      right
      have named : id ∈ ipc.pending.map Prod.fst := by
        have same : entry.1 = id := by simpa using List.find?_some found
        exact List.mem_map.mpr ⟨entry, List.mem_of_find?_eq_some found, same⟩
      cases ok with
      | true =>
        refine ⟨id, entry, .ok result, found, by simp only [Ipc.onMessage, found, if_true], ?_⟩
        rintro other ⟨⟩
        exact ⟨error, rfl⟩
      | false =>
        rcases answers id false result error rfl named with impossible | given
        · cases impossible
        · obtain ⟨⟨name, message⟩, rfl⟩ := Option.isSome_iff_exists.mp given
          refine ⟨id, entry, .error (.mpckit ⟨message, 500, name⟩), found, ?_, fun result impossible => by cases impossible⟩
          simp [Ipc.onMessage, found]

/-- Both invariants of the world. -/
def Sorted (ipc : Ipc) (calls : Nat → Option RpcThread) : Prop := Tidy ipc ∧ Served ipc calls

theorem Sorted.onMessage {ipc : Ipc} {calls : Nat → Option RpcThread} (sorted : Sorted ipc calls) {data : Data}
    (answers : ∀ id ok result error, data = .response id ok result error → id ∈ ipc.pending.map Prod.fst →
      ok = true ∨ error.isSome = true)
    (source : ∀ id result error, data = .response id true result error → id ∈ ipc.pending.map Prod.fst →
      ∃ request, Asked ipc ⟨id, request⟩ ∧ Produced calls ⟨id, request⟩ result) : Sorted (ipc.onMessage data) calls := by
  rcases onMessage_cases ipc answers with same | ⟨id, entry, outcome, found, same, resolved⟩
  · rw [same]
    exact sorted
  · rw [same]
    refine ⟨sorted.1.settle found outcome, sorted.2.settle sorted.1 found (fun result resolves => ?_)⟩
    obtain ⟨error, rfl⟩ := resolved result resolves
    have own : entry.1 = id := by simpa using List.find?_some found
    exact source id result error rfl (List.mem_map.mpr ⟨entry, List.mem_of_find?_eq_some found, own⟩)

theorem Sorted.enter {ipc after : Ipc} {calls : Nat → Option RpcThread} {system : RpcSystem} (sorted : Sorted ipc calls)
    {task : Task} (same : system.world = ipc) (guarded : Guarded system (.start task)) (entered : task.enter ipc = some after) :
    Sorted after calls ∧ ∀ request, task = .handle request → Asked after request := by
  cases task with
  | call request posted =>
    cases entered
    obtain ⟨taken, running⟩ := guarded
    cases posted with
    | error error => cases taken
    | ok _ =>
      refine ⟨⟨sorted.1.call request (same ▸ running), ?_⟩, fun request impossible => by cases impossible⟩
      have onward := onward_call ipc request (.ok ())
      refine ⟨?_, fun index thread request found tag => (sorted.2.handled index thread request found tag).onward onward, ?_, ?_⟩
      · intro other member
        rcases List.mem_append.mp member with before | new
        · exact (sorted.2.posted other before).onward onward
        · rw [List.mem_singleton.mp new]
          exact ⟨ipc.calls.length, ⟨ipc.nextId, request, none⟩, by simp [Ipc.call], rfl, rfl⟩
      · intro id result member
        obtain ⟨request, asked, produced⟩ := sorted.2.replied id result member
        exact ⟨request, asked.onward onward, produced⟩
      · intro promise call result found settled
        simp only [Ipc.call, List.getElem?_append] at found
        split at found
        · exact sorted.2.resolved promise call result found settled
        · obtain rfl := List.mem_singleton.mp (List.mem_of_getElem? found)
          cases settled
  | deliver reply =>
    obtain ⟨response, found, rfl⟩ := Option.map_eq_some_iff.mp entered
    have member := List.mem_of_getElem? found
    refine ⟨sorted.onMessage ?_ ?_, fun request impossible => by cases impossible⟩
    · intro id ok result error shape _
      cases response <;> cases shape
      · exact .inl rfl
      · exact .inr rfl
    · intro id result error shape _
      cases response <;> cases shape
      exact sorted.2.replied _ _ member
  | message data =>
    cases entered
    have harmless : data.Harmless ipc := same ▸ guarded
    refine ⟨sorted.onMessage ?_ ?_, fun request impossible => by cases impossible⟩
    · rintro id ok result error rfl named
      exact .inr (harmless named).2
    · rintro id result error rfl named
      cases (harmless named).1
  | error text =>
    cases entered
    exact ⟨⟨sorted.1.rejectAll _, sorted.2.rejectAll _⟩, fun request impossible => by cases impossible⟩
  | terminate =>
    cases entered
    have rejected := sorted.2.rejectAll ⟨"worker terminated", 0, "WORKER_TERMINATED"⟩
    exact ⟨⟨sorted.1.terminate, rejected.posted, rejected.handled, rejected.replied, rejected.resolved⟩,
      fun request impossible => by cases impossible⟩
  | handle request =>
    simp only [Task.enter] at entered
    split at entered
    · cases entered
    next first rest waiting =>
      split at entered
      next own =>
        cases entered
        subst own
        have posted := sorted.2.posted
        rw [waiting] at posted
        refine ⟨⟨⟨sorted.1.numbered, sorted.1.ids, sorted.1.keyed, sorted.1.once, sorted.1.waits, sorted.1.stopped⟩,
          fun other member => posted other (List.mem_cons_of_mem _ member), sorted.2.handled, sorted.2.replied,
          sorted.2.resolved⟩, ?_⟩
        rintro _ ⟨⟩
        exact posted first List.mem_cons_self
      · cases entered

/-- What the end of a handler adds to the replies is borne out by the handler. -/
theorem Sorted.close {ipc : Ipc} {calls : Nat → Option RpcThread} (sorted : Sorted ipc calls) (index : Nat)
    (thread : RpcThread) (found : calls index = some thread) :
    Sorted (rpc.close index thread.tag thread.program ipc) calls := by
  unfold Machine.close
  split
  next result ended =>
    change Sorted (Task.leave thread.tag (some result) ipc) calls
    cases tag : thread.tag with
    | handle request =>
      refine ⟨⟨sorted.1.numbered, sorted.1.ids, sorted.1.keyed, sorted.1.once, sorted.1.waits, sorted.1.stopped⟩,
        sorted.2.posted, sorted.2.handled, ?_, sorted.2.resolved⟩
      intro id value member
      rcases List.mem_append.mp member with before | new
      · exact sorted.2.replied id value before
      · have same := List.mem_singleton.mp new
        cases result with
        | ok returned =>
          cases same
          exact ⟨request.request, sorted.2.handled index thread request found tag, index, thread, found, tag, ended⟩
        | error error => cases error <;> cases same
    | _ => exact sorted
  · exact sorted

theorem Sorted.effect {system after : RpcSystem} {event : Event EngineEnv Task}
    (sorted : Sorted system.world system.calls) (guarded : Guarded system event) (effect : rpc.Effect system event after) :
    Sorted after.world after.calls := by
  cases effect with
  | start task world entered =>
    obtain ⟨kept, asked⟩ := sorted.enter rfl guarded entered
    have free : system.calls system.threads.length = none := by simp [System.calls]
    rw [Machine.calls_start]
    have begun : Sorted world (Function.update system.calls system.threads.length (some (rpc.fresh task))) := by
      refine ⟨kept.1, kept.2.recall (fun request tag => asked request tag) ?_⟩
      intro thread found
      rw [free] at found
      cases found
    exact begun.close _ (rpc.fresh task) (Function.update_self _ _ _)
  | step index env thread op rest answer world found alive awaits executed =>
    have frame := exec_frame executed
    have moved : Sorted world system.calls := by
      rw [frame]
      exact ⟨⟨sorted.1.numbered, sorted.1.ids, sorted.1.keyed, sorted.1.once, sorted.1.waits, sorted.1.stopped⟩,
        sorted.2.posted, sorted.2.handled, sorted.2.replied, sorted.2.resolved⟩
    rw [Machine.calls_set found]
    have resumed : Sorted world (Function.update system.calls index (some (thread.resume ⟨op, answer⟩ (rest answer)))) := by
      refine ⟨moved.1, moved.2.recall (fun request tag => moved.2.handled index thread request found tag) ?_⟩
      intro acting there ended
      have same : thread = acting := Option.some.inj (found.symm.trans there)
      rw [← same, awaits] at ended
      exact absurd rfl ended
    exact resumed.close index (thread.resume ⟨op, answer⟩ (rest answer)) (Function.update_self _ _ _)
  | cut index thread found running =>
    rw [Machine.calls_set found]
    have kept : Sorted system.world (Function.update system.calls index (some { thread with cut := true })) := by
      refine ⟨sorted.1, sorted.2.recall (fun request tag => sorted.2.handled index thread request found tag) ?_⟩
      intro acting there ended
      have same : thread = acting := Option.some.inj (found.symm.trans there)
      exact ⟨same ▸ rfl, same ▸ rfl⟩
    have left : Task.leave thread.tag none system.world = system.world := by
      cases thread.tag <;> rfl
    change Sorted (Task.leave thread.tag none system.world) _
    rw [left]
    exact kept

theorem sorted_run {system : RpcSystem} (run : rpc.Run Guarded opened system) : Sorted system.world system.calls := by
  refine run.invariant (fun system => Sorted system.world system.calls) ⟨tidy_constructed, ?_⟩
    (fun system event after sorted guarded effect => sorted.effect guarded effect)
  have none : System.calls opened = fun _ => none := by
    funext index
    simp [System.calls, opened]
  rw [none]
  exact served_constructed

/-- The map holds exactly the promises that wait, a promise is resolved only with what `InlineCryptoEngine`
returned for its own method and arguments, and after `terminate` none waits. -/
structure Correct (system : RpcSystem) : Prop where
  once : (system.world.pending.map Prod.snd).Nodup
  pending : ∀ promise, promise ∈ system.world.pending.map Prod.snd ↔
    ∃ call : ClientCall, system.world.calls[promise]? = some call ∧ call.settlement = none
  resolved : ∀ call ∈ system.world.calls, ∀ result, call.settlement = some (.ok result) →
    ∃ thread ∈ system.threads, thread.tag = .handle ⟨call.id, call.request⟩ ∧
      (InlineCryptoEngine.dispatch call.request).Ends (fun _ _ => True) thread.history (.ok result)
  terminated : system.world.terminated = true → ∀ call ∈ system.world.calls, call.settlement ≠ none

/-- As long as no call is refused by `postMessage` or made after `terminate`, and no malformed message names a
pending call, the calls are served correctly, and what is settled stays as it is. -/
theorem rpc_correct {system : RpcSystem} (run : rpc.Run Guarded opened system) :
    Correct system ∧ ∀ later, rpc.Run Guarded system later → ∀ (promise : Nat) (call : ClientCall),
      system.world.calls[promise]? = some call → call.settlement ≠ none → later.world.calls[promise]? = some call := by
  obtain ⟨tidy, served⟩ := sorted_run run
  refine ⟨⟨tidy.once, tidy.waits, ?_, ?_⟩, ?_⟩
  · intro call member result settled
    obtain ⟨promise, found⟩ := List.mem_iff_getElem?.mp member
    obtain ⟨index, thread, there, tag, ended⟩ := served.resolved promise call result found settled
    have listed := List.mem_of_getElem? there
    refine ⟨thread, listed, tag, ?_⟩
    have path := run.path rfl listed
    rw [tag, Program.unwrap_of_outcome ended] at path
    exact path
  · intro terminated call member waiting
    obtain ⟨promise, found⟩ := List.mem_iff_getElem?.mp member
    have entry := (tidy.waits promise).mpr ⟨call, found, waiting⟩
    rw [tidy.stopped terminated] at entry
    exact absurd entry List.not_mem_nil
  · intro later onward promise call found settled
    obtain ⟨kept, there, _, _, same⟩ := onward_run onward promise call found
    rw [there, same (Option.isSome_iff_ne_none.mpr settled)]

/-! ### Calls that are lost -/

/-- A call after `terminate` waits for a worker that is gone. -/
def lateCall : List (Event EngineEnv Task) := [.start .terminate, .start (.call (.closeSession "session") (.ok ()))]

theorem late_call_waits : ∃ system, rpc.Reaches opened system ∧ ¬Correct system := by
  obtain ⟨system, reached, terminated, call, member, waits⟩ : ∃ system, rpc.Reaches opened system ∧
      system.world.terminated = true ∧ ∃ call ∈ system.world.calls, call.settlement = none :=
    Machine.exists_reaches lateCall (by decide)
  exact ⟨system, reached, fun correct => correct.terminated terminated call member waits⟩

/-- What the library answers in the examples. -/
def sampleLibrary : EngineEnv := ⟨.ok [], .ok ⟨.ed25519, "0x1", [1], [2]⟩, .ok [3], .ok ⟨[], [], [], []⟩⟩

/-- Two calls, answered in the other order, the second one twice. -/
def servedCalls : List (Event EngineEnv Task) :=
  [.start (.call (.closeSession "session") (.ok ())), .start (.call (.signEncryptionKey "other") (.ok ())),
    .start (.handle ⟨1, .closeSession "session"⟩), .start (.handle ⟨2, .signEncryptionKey "other"⟩),
    .step 3 sampleLibrary, .step 2 sampleLibrary, .start (.deliver 0), .start (.deliver 1), .start (.deliver 0),
    .start .terminate]

instance (data : Data) (ipc : Ipc) : Decidable (data.Harmless ipc) := by
  unfold Data.Harmless
  induction data using Data.casesOn <;> infer_instance

instance (system : RpcSystem) (event : Event EngineEnv Task) : Decidable (Guarded system event) := by
  unfold Guarded
  induction event using Event.casesOn with
  | start task => induction task using Task.casesOn <;> infer_instance
  | _ => infer_instance

theorem rpc_correct_sample : ∃ system, rpc.Run Guarded opened system ∧ Correct system ∧
    system.world.calls.map ClientCall.settlement =
      [some (.ok .undefined), some (.error (.mpckit ⟨"unknown session other; call openSession first", 500, "Error"⟩))] := by
  obtain ⟨system, run, settled⟩ : ∃ system, rpc.Run Guarded opened system ∧ system.world.calls.map ClientCall.settlement =
      [some (.ok .undefined), some (.error (.mpckit ⟨"unknown session other; call openSession first", 500, "Error"⟩))] :=
    Machine.exists_run servedCalls (by decide +kernel)
  exact ⟨system, run, (rpc_correct run).1, settled⟩

end MpcKit.Sdk
