import MpcKit.Executor.Lock

/-! `withLock` without Redis, for any callers. Each key of a process has a line of callers: the first
one owns the lock, the others wait behind it in the order in which they asked. -/

namespace MpcKit.Executor
open MpcKit.Backend MpcKit.Async

variable {α : Type}

/-- The operations of `inProcessQueue`. -/
def Op.Queue : Op → Prop
  | .queueJoin _ => True
  | .queueWait _ => True
  | .queueRelease _ => True
  | _ => False

/-- A call of `withLock` in some process. `fn` may do and await anything; a lock it takes itself is
one more call, for which it waits. -/
structure Caller (α : Type) where
  pod : Nat
  key : String
  fn : Prog α
  apart : fn.Only (fun op => ¬op.Queue)

abbrev LockId := Nat × String

def Caller.lock (caller : Caller α) : LockId := (caller.pod, caller.key)

def lockMachine (config : Config) : Machine Op Res Env World (Caller α) Thrown α where
  exec := exec
  program caller := withLock config caller.key caller.fn
  enter caller world := some { world with pods := world.pods ++ [caller.pod] }
  leave _ _ _ world := world

abbrev QueueSystem (α : Type) := System Op Res World (Caller α) Thrown α
abbrev QueueThread (α : Type) := Thread Op Res (Caller α) Thrown α

/-- A call of a running process is not cut off: its promises go on. -/
def Uncut (_ : QueueSystem α) : Event Env (Caller α) → Prop
  | .cut _ => False
  | _ => True

/-! ### How far a call has come -/

/-- `done` is what `fn` has performed. -/
inductive Stage where
  | asking
  | waiting
  | running (done : History Op Res)
  | finished (done : History Op Res)

namespace Stage

def next (stage : Stage) : (op : Op) → Res op → Stage
  | .queueJoin _, joined => if joined then .running [] else .waiting
  | .queueWait _, _ => .running []
  | .queueRelease _, _ => match stage with
      | .running done => .finished done
      | other => other
  | op, answer => match stage with
      | .running done => .running (⟨op, answer⟩ :: done)
      | other => other

/-- The call has asked and has not released yet. -/
def Active : Stage → Prop
  | .waiting => True
  | .running _ => True
  | _ => False

/-- The call owns the lock; `fn` runs until the release is awaited. -/
def Owns : Stage → Prop
  | .running _ => True
  | _ => False

theorem Owns.active {stage : Stage} (owns : stage.Owns) : stage.Active := by
  cases stage with
  | running done => trivial
  | _ => cases owns

theorem next_apart {done : History Op Res} {op : Op} (apart : ¬op.Queue) (answer : Res op) :
    (running done).next op answer = .running (⟨op, answer⟩ :: done) := by
  cases op <;> first | rfl | exact absurd trivial apart

end Stage

inductive Queueing (key : String) : Stage → Op → Prop where
  | token : Queueing key .asking .randomUUID
  | join : Queueing key .asking (.queueJoin key)
  | wait : Queueing key .waiting (.queueWait key)
  | body (done : History Op Res) (op : Op) (apart : ¬op.Queue) : Queueing key (.running done) op
  | release (done : History Op Res) : Queueing key (.running done) (.queueRelease key)

def queueing (key : String) : Protocol Op Res Stage where
  initial := .asking
  next := Stage.next
  Allowed := Queueing key
  answers _ _ := True

/-- The part of `fn` that is left runs on, and ends as `fn` does. -/
theorem body_follows (key : String) {fn rest : Prog α} {done : History Op Res}
    (path : fn.Path (fun _ _ => True) done rest) (apart : rest.Only (fun op => ¬op.Queue)) :
    (queueing key).Follows (.running done) rest
      (fun stage result => ∃ done, stage = .running done ∧ fn.Ends (fun _ _ => True) done result) := by
  induction rest generalizing done with
  | ret value => exact .ret ⟨done, rfl, path⟩
  | raise error => exact .raise ⟨done, rfl, path⟩
  | await op next recurse =>
    refine .await (.body done op apart.1) (fun answer _ => ?_)
    have moved : (queueing key).next (.running done) op answer = .running (⟨op, answer⟩ :: done) :=
      Stage.next_apart apart.1 answer
    rw [moved]
    exact recurse answer (.step path trivial) (apart.2 answer)

theorem acquire_queueing {config : Config} (inProcess : config.redis = false) (options : LockOptions) (key : String)
    (token : Uuid) :
    (queueing key).Follows .asking (acquire config options key token)
      (fun stage result => stage = .running [] ∧ result = .ok true) := by
  unfold acquire
  rw [inProcess]
  refine .perform .join (fun joined _ => ?_)
  cases joined with
  | true => exact .ret ⟨rfl, rfl⟩
  | false => exact .perform .wait (fun _ _ => .ret ⟨rfl, rfl⟩)

/-- The call ends after its release, as its `fn` did. -/
def Through (caller : Caller α) (stage : Stage) (result : Except Thrown α) : Prop :=
  ∃ done, stage = .finished done ∧ caller.fn.Ends (fun _ _ => True) done result

theorem withLock_follows {config : Config} (inProcess : config.redis = false) (caller : Caller α) :
    (queueing caller.key).Follows .asking (withLock config caller.key caller.fn) (Through caller) := by
  unfold withLock
  refine .perform .token (fun token _ => ?_)
  refine (acquire_queueing inProcess _ caller.key token).bind (fun stage acquired ended => ?_)
    (fun stage error ended => by cases ended.2)
  obtain ⟨rfl, same⟩ := ended
  cases same
  refine (body_follows caller.key .refl caller.apart).ensure (fun stage result ended => ?_)
  obtain ⟨done, rfl, ends⟩ := ended
  unfold release
  rw [inProcess]
  exact .perform (.release done) (fun _ _ => Protocol.follows_unwrap ⟨done, rfl, ends⟩)

def queued (caller : Caller α) : Contract Op Res Thrown α := (queueing caller.key).contract (Through caller)

theorem queue_honours {config : Config} (inProcess : config.redis = false) :
    (lockMachine config : Machine Op Res Env World (Caller α) Thrown α).Honours queued where
  programs caller := (withLock_follows inProcess caller).obeys
  answers _ _ := trivial

def stage (thread : QueueThread α) : Stage := (queueing thread.tag.key).state thread.history

/-! ### The queue of a lock -/

/-- The calls that wait for a lock, in order. -/
def World.queue (world : World) (lock : LockId) : List Nat :=
  (world.waiters.filter (fun waiter => waiter.1 = lock.1 ∧ waiter.2.1 = lock.2)).map (fun waiter => waiter.2.2)

/-- What the locks of a process are made of. -/
structure World.Same (world after : World) : Prop where
  held : after.held = world.held
  waiters : after.waiters = world.waiters
  turns : after.turns = world.turns
  pods : after.pods = world.pods

theorem same_of_apart {index : Nat} {op : Op} {env : Env} {world after : World} {answer : Res op} (apart : ¬op.Queue)
    (executed : exec index op env world = some (answer, after)) : world.Same after := by
  cases op with
  | set key token ttlMs =>
    obtain rfl : (World.set? _ env index key token ttlMs).2 = after := congrArg Prod.snd (Option.some.inj executed)
    unfold World.set?
    split <;> split <;> exact ⟨rfl, rfl, rfl, rfl⟩
  | release key token =>
    obtain rfl : (World.release? _ env key token).2 = after := congrArg Prod.snd (Option.some.inj executed)
    have released : ∀ world : World, world.Same (world.release key token) := by
      intro world
      unfold World.release
      split
      · split <;> exact ⟨rfl, rfl, rfl, rfl⟩
      · exact ⟨rfl, rfl, rfl, rfl⟩
    obtain ⟨held, waiters, turns, pods⟩ := released { world with clock := env.clock }
    unfold World.release?
    split
    · exact ⟨held, waiters, turns, pods⟩
    · split
      · exact ⟨held, waiters, turns, pods⟩
      · exact ⟨rfl, rfl, rfl, rfl⟩
  | queueJoin key => exact absurd trivial apart
  | queueWait key => exact absurd trivial apart
  | queueRelease key => exact absurd trivial apart
  | _ =>
    cases executed
    exact ⟨rfl, rfl, rfl, rfl⟩

theorem queue_append (world : World) (lock other : LockId) (index : Nat) (waiters : List (Nat × String × Nat))
    (appended : waiters = world.waiters ++ [(lock.1, lock.2, index)]) :
    World.queue { world with waiters := waiters } other =
      if other = lock then world.queue lock ++ [index] else world.queue other := by
  subst appended
  unfold World.queue
  rw [List.filter_append, List.map_append]
  split
  next same =>
    subst same
    simp
  next different =>
    have apart : ¬(lock.1 = other.1 ∧ lock.2 = other.2) := fun same => different (Prod.ext same.1 same.2).symm
    simp [apart]

/-- The first waiter of a lock, and the queues without it. -/
theorem queue_first {world : World} {lock : LockId} {first : Nat} {rest : List Nat} (queue : world.queue lock = first :: rest) :
    ∃ waiter, world.waiters.find? (fun waiter => waiter.1 = lock.1 ∧ waiter.2.1 = lock.2) = some waiter ∧
      waiter.2.2 = first ∧ ∀ other, World.queue { world with waiters := world.waiters.erase waiter } other =
        if other = lock then rest else world.queue other := by
  unfold World.queue at queue
  obtain ⟨waiter, later, filtered, rfl, rfl⟩ := List.map_eq_cons_iff.mp queue
  have found : world.waiters.find? (fun waiter => waiter.1 = lock.1 ∧ waiter.2.1 = lock.2) = some waiter := by
    rw [← List.head?_filter, filtered, List.head?_cons]
  obtain ⟨matched, front, back, split, skipped⟩ := List.find?_eq_some_iff_append.mp found
  rw [decide_eq_true_eq] at matched
  have absent : waiter ∉ front := by
    intro member
    have refused := skipped waiter member
    simp only [Bool.not_eq_true', decide_eq_false_iff_not] at refused
    exact refused matched
  have erased : world.waiters.erase waiter = front ++ back := by
    rw [split, List.erase_append_right _ absent, List.erase_cons_head]
  have none_front : front.filter (fun waiter => waiter.1 = lock.1 ∧ waiter.2.1 = lock.2) = [] := by
    rw [List.filter_eq_nil_iff]
    intro other member
    have refused := skipped other member
    simp only [Bool.not_eq_true', decide_eq_false_iff_not] at refused
    rw [decide_eq_true_eq]
    exact refused
  have after_first : later = back.filter (fun waiter => waiter.1 = lock.1 ∧ waiter.2.1 = lock.2) := by
    rw [split, List.filter_append, none_front, List.nil_append, List.filter_cons_of_pos (by simpa using matched)]
      at filtered
    exact (List.cons.inj filtered).2.symm
  refine ⟨waiter, found, rfl, fun other => ?_⟩
  unfold World.queue
  simp only
  rw [erased]
  by_cases same : other = lock
  · rw [if_pos same, same, List.filter_append, none_front, List.nil_append, after_first]
  · rw [if_neg same, split, List.filter_append, List.filter_append, List.filter_cons_of_neg]
    simp only [decide_eq_true_eq]
    rintro ⟨pod, key⟩
    exact same (Prod.ext (pod.symm.trans matched.1) (key.symm.trans matched.2))

theorem queue_nil {world : World} {lock : LockId} (queue : world.queue lock = []) :
    world.waiters.find? (fun waiter => waiter.1 = lock.1 ∧ waiter.2.1 = lock.2) = none := by
  unfold World.queue at queue
  rw [List.map_eq_nil_iff, List.filter_eq_nil_iff] at queue
  exact List.find?_eq_none.mpr queue

/-! ### Lines -/

/-- The lock each call is for, and how far it has come. -/
abbrev Places := Nat → Option (LockId × Stage)

theorem update_places {places : Places} {index other : Nat} {lock wanted : LockId} {stage found : Stage} :
    Function.update places index (some (lock, stage)) other = some (wanted, found) ↔
      other = index ∧ lock = wanted ∧ stage = found ∨ other ≠ index ∧ places other = some (wanted, found) := by
  by_cases same : other = index
  · subst same
    simp
  · simp [same]

/-- The owner of each lock with the calls behind it, and what the processes keep of them. -/
structure Lines (line : LockId → List Nat) (world : World) (places : Places) : Prop where
  started : ∀ index, (places index).isSome = true ↔ index < world.pods.length
  pod : ∀ index lock stage, places index = some (lock, stage) → world.pods.getD index 0 = lock.1
  member : ∀ lock index, index ∈ line lock ↔ ∃ stage, places index = some (lock, stage) ∧ stage.Active
  once : ∀ lock, (line lock).Nodup
  owner : ∀ index lock stage, places index = some (lock, stage) → stage.Owns → (line lock).head? = some index
  turn : ∀ index, index ∈ world.turns ↔
    ∃ lock, places index = some (lock, .waiting) ∧ (line lock).head? = some index
  turns : world.turns.Nodup
  held : ∀ lock, lock ∈ world.held ↔ line lock ≠ []
  heldOnce : world.held.Nodup
  queue : ∀ lock, world.queue lock = (line lock).tail

namespace Lines

variable {line : LockId → List Nat} {world after : World} {places : Places} {index : Nat} {lock : LockId}

theorem congr (lines : Lines line world places) (same : world.Same after) : Lines line after places where
  started := by rw [same.pods]; exact lines.started
  pod := by rw [same.pods]; exact lines.pod
  member := lines.member
  once := lines.once
  owner := lines.owner
  turn := by rw [same.turns]; exact lines.turn
  turns := by rw [same.turns]; exact lines.turns
  held := by rw [same.held]; exact lines.held
  heldOnce := by rw [same.held]; exact lines.heldOnce
  queue other := by rw [World.queue, same.waiters]; exact lines.queue other

theorem started_moved (lines : Lines line world places) {before later : Stage}
    (here : places index = some (lock, before)) (other : Nat) :
    (Function.update places index (some (lock, later)) other).isSome = true ↔ other < world.pods.length := by
  rw [← lines.started]
  by_cases same : other = index
  · subst same
    simp [here]
  · rw [Function.update_of_ne same]

theorem pod_moved (lines : Lines line world places) {before later : Stage} (here : places index = some (lock, before))
    (other : Nat) (wanted : LockId) (stage : Stage)
    (found : Function.update places index (some (lock, later)) other = some (wanted, stage)) :
    world.pods.getD other 0 = wanted.1 := by
  rcases update_places.mp found with ⟨rfl, rfl, _⟩ | ⟨_, earlier⟩
  · exact lines.pod other lock _ here
  · exact lines.pod other wanted stage earlier

/-- A call that stands in line as it did. -/
theorem stay (lines : Lines line world places) {before later : Stage} (here : places index = some (lock, before))
    (active : before.Active ↔ later.Active) (owns : later.Owns → before.Owns) (asked : before ≠ .waiting)
    (moved : later ≠ .waiting) : Lines line world (Function.update places index (some (lock, later))) where
  started := lines.started_moved here
  pod := lines.pod_moved here
  member wanted other := by
    rw [lines.member]
    by_cases same : other = index
    · subst same
      simp [here, active]
    · simp [same]
  once := lines.once
  owner other wanted stage found now := by
    rcases update_places.mp found with ⟨rfl, rfl, rfl⟩ | ⟨_, found⟩
    · exact lines.owner other lock before here (owns now)
    · exact lines.owner other wanted stage found now
  turn other := by
    rw [lines.turn]
    by_cases same : other = index
    · subst same
      simp [here, asked, moved]
    · simp [same]
  turns := lines.turns
  held := lines.held
  heldOnce := lines.heldOnce
  queue := lines.queue

theorem vacant (lines : Lines line world places) : places world.pods.length = none := by
  cases here : places world.pods.length with
  | none => rfl
  | some place =>
    have inside := (lines.started world.pods.length).mp (by rw [here]; rfl)
    exact absurd inside (Nat.lt_irrefl _)

/-- A new call. -/
theorem start (lines : Lines line world places) (caller : LockId) :
    Lines line { world with pods := world.pods ++ [caller.1] }
      (Function.update places world.pods.length (some (caller, .asking))) where
  started other := by
    by_cases same : other = world.pods.length
    · subst same
      simp
    · rw [Function.update_of_ne same, lines.started, List.length_append, List.length_singleton]
      omega
  pod other wanted stage found := by
    rcases update_places.mp found with ⟨rfl, rfl, _⟩ | ⟨different, found⟩
    · simp
    · have inside := (lines.started other).mp (by rw [found]; rfl)
      rw [List.getD_eq_getElem?_getD, List.getElem?_append_left inside, ← List.getD_eq_getElem?_getD]
      exact lines.pod other wanted stage found
  member wanted other := by
    rw [lines.member]
    by_cases same : other = world.pods.length
    · subst same
      simp [lines.vacant, Stage.Active]
    · simp [same]
  once := lines.once
  owner other wanted stage found now := by
    rcases update_places.mp found with ⟨_, _, rfl⟩ | ⟨_, found⟩
    · cases now
    · exact lines.owner other wanted stage found now
  turn other := by
    rw [lines.turn]
    by_cases same : other = world.pods.length
    · subst same
      simp [lines.vacant]
    · simp [same]
  turns := lines.turns
  held := lines.held
  heldOnce := lines.heldOnce
  queue := lines.queue

/-- Nobody who is not active stands in a line. -/
theorem absent (lines : Lines line world places) {stage : Stage} (here : places index = some (lock, stage))
    (idle : ¬stage.Active) (other : LockId) : index ∉ line other := by
  intro member
  obtain ⟨found, there, active⟩ := (lines.member other index).mp member
  rw [here] at there
  cases there
  exact idle active

theorem once_joined (lines : Lines line world places) (here : places index = some (lock, .asking)) (wanted : LockId) :
    (Function.update line lock (line lock ++ [index]) wanted).Nodup := by
  by_cases same : wanted = lock
  · subst same
    rw [Function.update_self, List.nodup_append]
    refine ⟨lines.once wanted, by simp, fun one member two single => ?_⟩
    rw [List.mem_singleton.mp single]
    rintro rfl
    exact lines.absent here (fun active => active) wanted member
  · rw [Function.update_of_ne same]
    exact lines.once wanted

theorem member_joined (lines : Lines line world places) (here : places index = some (lock, .asking)) {later : Stage}
    (active : later.Active) (wanted : LockId) (other : Nat) :
    other ∈ Function.update line lock (line lock ++ [index]) wanted ↔
      ∃ stage, Function.update places index (some (lock, later)) other = some (wanted, stage) ∧ stage.Active := by
  have before := lines.member wanted other
  by_cases mine : other = index
  · subst mine
    have absent := lines.absent here (fun active => active)
    by_cases same : wanted = lock
    · subst same
      simp [active]
    · simp [same, Ne.symm same, absent]
  · rw [Function.update_of_ne mine, ← before]
    by_cases same : wanted = lock
    · subst same
      simp [mine]
    · simp [same]

/-- A call that asks while the lock is held goes to the end of its line. -/
theorem wait (lines : Lines line world places) (here : places index = some (lock, .asking)) (busy : lock ∈ world.held) :
    Lines (Function.update line lock (line lock ++ [index]))
      { world with waiters := world.waiters ++ [(lock.1, lock.2, index)] }
      (Function.update places index (some (lock, .waiting))) := by
  have occupied : line lock ≠ [] := (lines.held lock).mp busy
  have absent := lines.absent here (fun active => active)
  have head : ∀ wanted, (Function.update line lock (line lock ++ [index]) wanted).head? = (line wanted).head? := by
    intro wanted
    by_cases same : wanted = lock
    · subst same
      rw [Function.update_self, List.head?_append_of_ne_nil _ occupied]
    · rw [Function.update_of_ne same]
  have behind : ∀ wanted, (line wanted).head? ≠ some index := fun wanted first =>
    absent wanted (List.mem_of_head? first)
  constructor
  · exact lines.started_moved here
  · exact lines.pod_moved here
  · exact lines.member_joined here trivial
  · exact lines.once_joined here
  · intro other wanted stage found now
    rw [head]
    rcases update_places.mp found with ⟨_, _, rfl⟩ | ⟨_, found⟩
    · cases now
    · exact lines.owner other wanted stage found now
  · intro other
    rw [lines.turn]
    simp only [head]
    by_cases same : other = index
    · subst same
      simp [here, behind]
    · simp [same]
  · exact lines.turns
  · intro wanted
    rw [lines.held]
    by_cases same : wanted = lock
    · subst same
      simp [occupied]
    · simp [same]
  · exact lines.heldOnce
  · intro wanted
    rw [queue_append world lock wanted index _ rfl]
    by_cases same : wanted = lock
    · subst same
      rw [if_pos rfl, Function.update_self, List.tail_append_of_ne_nil occupied, lines.queue]
    · rw [if_neg same, Function.update_of_ne same, lines.queue]

/-- A call that asks while the lock is free owns it at once. -/
theorem own (lines : Lines line world places) (here : places index = some (lock, .asking)) (free : lock ∉ world.held) :
    Lines (Function.update line lock (line lock ++ [index])) { world with held := lock :: world.held }
      (Function.update places index (some (lock, .running []))) := by
  have empty : line lock = [] := not_not.mp (fun occupied => free ((lines.held lock).mpr occupied))
  have alone : ∀ other stage, places other = some (lock, stage) → ¬stage.Active := by
    intro other stage there active
    have member := (lines.member lock other).mpr ⟨stage, there, active⟩
    rw [empty] at member
    cases member
  constructor
  · exact lines.started_moved here
  · exact lines.pod_moved here
  · exact lines.member_joined here trivial
  · exact lines.once_joined here
  · intro other wanted stage found now
    rcases update_places.mp found with ⟨rfl, rfl, _⟩ | ⟨_, earlier⟩
    · rw [Function.update_self, empty]
      rfl
    · have different : wanted ≠ lock := by
        rintro rfl
        exact alone other stage earlier now.active
      rw [Function.update_of_ne different]
      exact lines.owner other wanted stage earlier now
  · intro other
    rw [lines.turn]
    by_cases mine : other = index
    · subst mine
      simp [here]
    · rw [Function.update_of_ne mine]
      refine exists_congr fun wanted => and_congr_right fun waits => ?_
      have different : wanted ≠ lock := by
        rintro rfl
        exact alone other _ waits trivial
      rw [Function.update_of_ne different]
  · exact lines.turns
  · intro wanted
    rw [List.mem_cons, lines.held]
    by_cases same : wanted = lock
    · subst same
      simp
    · simp [same]
  · exact List.nodup_cons.mpr ⟨free, lines.heldOnce⟩
  · intro wanted
    have kept : World.queue { world with held := lock :: world.held } wanted = world.queue wanted := rfl
    rw [kept, lines.queue]
    by_cases same : wanted = lock
    · subst same
      rw [Function.update_self, empty]
      rfl
    · rw [Function.update_of_ne same]

/-- The call at the head of the line takes its turn. -/
theorem take (lines : Lines line world places) (here : places index = some (lock, .waiting)) (turn : index ∈ world.turns) :
    Lines line { world with turns := world.turns.erase index }
      (Function.update places index (some (lock, .running []))) := by
  obtain ⟨wanted, there, first⟩ := (lines.turn index).mp turn
  rw [here] at there
  cases there
  constructor
  · exact lines.started_moved here
  · exact lines.pod_moved here
  · intro wanted other
    rw [lines.member]
    by_cases same : other = index
    · subst same
      simp [here, Stage.Active]
    · simp [same]
  · exact lines.once
  · intro other wanted stage found now
    rcases update_places.mp found with ⟨rfl, rfl, _⟩ | ⟨_, found⟩
    · exact first
    · exact lines.owner other wanted stage found now
  · intro other
    rw [lines.turns.mem_erase_iff, lines.turn]
    by_cases same : other = index
    · subst same
      simp
    · simp [same]
  · exact lines.turns.erase index
  · exact lines.held
  · exact lines.heldOnce
  · exact lines.queue

theorem line_eq (lines : Lines line world places) {done : History Op Res}
    (here : places index = some (lock, .running done)) : line lock = index :: world.queue lock := by
  have first := lines.owner index lock _ here trivial
  rw [lines.queue]
  cases whole : line lock with
  | nil => rw [whole] at first; cases first
  | cons head rest =>
    rw [whole] at first
    cases first
    rfl

/-- The owner has left its line. -/
theorem member_left (lines : Lines line world places) {done : History Op Res}
    (here : places index = some (lock, .running done)) (wanted : LockId) (other : Nat) :
    other ∈ Function.update line lock (line lock).tail wanted ↔
      ∃ stage, Function.update places index (some (lock, .finished done)) other = some (wanted, stage) ∧ stage.Active := by
  have before := lines.member wanted other
  have whole := lines.line_eq here
  have once := lines.once lock
  rw [whole, List.nodup_cons] at once
  by_cases mine : other = index
  · subst mine
    by_cases same : wanted = lock
    · subst same
      simp [whole, once.1, Stage.Active]
    · have absent : other ∉ line wanted := by
        rw [before]
        rintro ⟨stage, there, _⟩
        rw [here] at there
        cases there
        exact same rfl
      simp [same, absent, Ne.symm same]
  · rw [Function.update_of_ne mine, ← before]
    by_cases same : wanted = lock
    · subst same
      simp [whole, mine]
    · simp [same]

theorem once_left (lines : Lines line world places) (wanted : LockId) :
    (Function.update line lock (line lock).tail wanted).Nodup := by
  by_cases same : wanted = lock
  · subst same
    rw [Function.update_self]
    exact (lines.once wanted).sublist (List.tail_sublist _)
  · rw [Function.update_of_ne same]
    exact lines.once wanted

/-- Only the owner ran. -/
theorem owner_left (lines : Lines line world places) {done : History Op Res}
    (here : places index = some (lock, .running done)) (other : Nat) (wanted : LockId) (stage : Stage)
    (found : Function.update places index (some (lock, .finished done)) other = some (wanted, stage))
    (now : stage.Owns) : (Function.update line lock (line lock).tail wanted).head? = some other := by
  rcases update_places.mp found with ⟨_, _, rfl⟩ | ⟨apart, earlier⟩
  · cases now
  · have first := lines.owner other wanted stage earlier now
    have different : wanted ≠ lock := by
      rintro rfl
      rw [lines.owner index wanted _ here trivial] at first
      exact apart (Option.some.inj first).symm
    rw [Function.update_of_ne different]
    exact first

/-- Whose turn it is then: the call behind the owner, and who had its turn in another line. -/
theorem turn_left (lines : Lines line world places) {done : History Op Res}
    (here : places index = some (lock, .running done)) (other : Nat) :
    (∃ wanted, Function.update places index (some (lock, .finished done)) other = some (wanted, .waiting) ∧
      (Function.update line lock (line lock).tail wanted).head? = some other) ↔
    (places other = some (lock, .waiting) ∧ (line lock).tail.head? = some other) ∨ other ∈ world.turns := by
  rw [lines.turn]
  constructor
  · rintro ⟨wanted, found, first⟩
    rcases update_places.mp found with ⟨_, _, impossible⟩ | ⟨_, waits⟩
    · cases impossible
    · by_cases same : wanted = lock
      · subst same
        rw [Function.update_self] at first
        exact .inl ⟨waits, first⟩
      · rw [Function.update_of_ne same] at first
        exact .inr ⟨wanted, waits, first⟩
  · rintro (⟨waits, first⟩ | ⟨wanted, waits, first⟩)
    · have apart : other ≠ index := by
        rintro rfl
        rw [here] at waits
        cases waits
      exact ⟨lock, update_places.mpr (.inr ⟨apart, waits⟩), by rw [Function.update_self]; exact first⟩
    · have apart : other ≠ index := by
        rintro rfl
        rw [here] at waits
        cases waits
      have different : wanted ≠ lock := by
        rintro rfl
        rw [lines.owner index wanted _ here trivial] at first
        exact apart (Option.some.inj first).symm
      exact ⟨wanted, update_places.mpr (.inr ⟨apart, waits⟩), by rw [Function.update_of_ne different]; exact first⟩

/-- The call behind the owner waits, and it is not its turn. -/
theorem next_waits (lines : Lines line world places) {done : History Op Res} {first : Nat} {rest : List Nat}
    (here : places index = some (lock, .running done)) (queue : world.queue lock = first :: rest) :
    places first = some (lock, .waiting) ∧ first ∉ world.turns := by
  have whole := lines.line_eq here
  rw [queue] at whole
  have once := lines.once lock
  rw [whole, List.nodup_cons, List.nodup_cons] at once
  obtain ⟨ahead, _⟩ := once
  have apart : first ≠ index := fun same => ahead (same ▸ List.mem_cons_self)
  have waits : places first = some (lock, .waiting) := by
    obtain ⟨stage, there, active⟩ := (lines.member lock first).mp (by rw [whole]; simp)
    cases stage with
    | waiting => exact there
    | running other =>
      have same := lines.owner first lock _ there trivial
      rw [whole] at same
      exact absurd (Option.some.inj same).symm apart
    | _ => cases active
  refine ⟨waits, fun turn => ?_⟩
  obtain ⟨wanted, there, same⟩ := (lines.turn first).mp turn
  rw [waits] at there
  cases there
  rw [whole] at same
  exact apart (Option.some.inj same).symm

/-- The owner leaves its line, and the call behind it gets its turn. -/
theorem handOver (lines : Lines line world places) {done : History Op Res} {first : Nat} {rest : List Nat}
    {waiter : Nat × String × Nat} (here : places index = some (lock, .running done))
    (queue : world.queue lock = first :: rest) (named : waiter.2.2 = first)
    (queues : ∀ other, World.queue { world with waiters := world.waiters.erase waiter } other =
      if other = lock then rest else world.queue other) :
    Lines (Function.update line lock (line lock).tail)
      { world with waiters := world.waiters.erase waiter, turns := waiter.2.2 :: world.turns }
      (Function.update places index (some (lock, .finished done))) := by
  have whole := lines.line_eq here
  rw [queue] at whole
  obtain ⟨waits, fresh⟩ := lines.next_waits here queue
  constructor
  · exact lines.started_moved here
  · exact lines.pod_moved here
  · exact lines.member_left here
  · exact lines.once_left
  · exact lines.owner_left here
  · intro other
    rw [List.mem_cons, named, lines.turn_left here, whole, List.tail_cons, List.head?_cons]
    refine or_congr_left ⟨?_, fun next => (Option.some.inj next.2).symm⟩
    rintro rfl
    exact ⟨waits, rfl⟩
  · rw [named]
    exact List.nodup_cons.mpr ⟨fresh, lines.turns⟩
  · intro wanted
    rw [lines.held]
    by_cases same : wanted = lock
    · subst same
      simp [whole]
    · simp [same]
  · exact lines.heldOnce
  · intro wanted
    have kept := queues wanted
    by_cases same : wanted = lock
    · subst same
      rw [if_pos rfl] at kept
      rw [Function.update_self, whole]
      exact kept
    · rw [if_neg same] at kept
      rw [Function.update_of_ne same, ← lines.queue]
      exact kept

/-- The last of its line frees the lock. -/
theorem free (lines : Lines line world places) {done : History Op Res} (here : places index = some (lock, .running done))
    (queue : world.queue lock = []) :
    Lines (Function.update line lock (line lock).tail) { world with held := world.held.erase lock }
      (Function.update places index (some (lock, .finished done))) := by
  have whole := lines.line_eq here
  rw [queue] at whole
  constructor
  · exact lines.started_moved here
  · exact lines.pod_moved here
  · exact lines.member_left here
  · exact lines.once_left
  · exact lines.owner_left here
  · intro other
    rw [lines.turn_left here, whole, List.tail_cons, List.head?_nil]
    simp
  · exact lines.turns
  · intro wanted
    rw [lines.heldOnce.mem_erase_iff, lines.held]
    by_cases same : wanted = lock
    · subst same
      simp [whole]
    · simp [same]
  · exact lines.heldOnce.erase lock
  · intro wanted
    have kept : World.queue { world with held := world.held.erase lock } wanted = world.queue wanted := rfl
    rw [kept]
    by_cases same : wanted = lock
    · subst same
      rw [Function.update_self, whole, queue]
      rfl
    · rw [Function.update_of_ne same, lines.queue]

/-- What a release does to the process of the call. -/
theorem release (lines : Lines line world places) {done : History Op Res}
    (here : places index = some (lock, .running done)) :
    Lines (Function.update line lock (line lock).tail) (world.queueRelease index lock.2)
      (Function.update places index (some (lock, .finished done))) := by
  have pod := lines.pod index lock _ here
  unfold World.queueRelease
  rw [pod]
  cases queue : world.queue lock with
  | nil =>
    simp only [queue_nil queue]
    exact lines.free here queue
  | cons first rest =>
    obtain ⟨waiter, found, named, queues⟩ := queue_first queue
    simp only [found]
    exact lines.handOver here queue named queues

theorem join (lines : Lines line world places) (here : places index = some (lock, .asking)) :
    Lines (Function.update line lock (line lock ++ [index])) (world.queueJoin index lock.2).2
      (Function.update places index
        (some (lock, if (world.queueJoin index lock.2).1 then .running [] else .waiting))) := by
  have pod := lines.pod index lock _ here
  unfold World.queueJoin
  rw [pod]
  by_cases busy : (lock.1, lock.2) ∈ world.held
  · simp only [busy, if_true, Bool.false_eq_true, if_false]
    exact lines.wait here busy
  · simp only [busy, if_false, if_true]
    exact (lines.own here busy).congr ⟨rfl, rfl, rfl, rfl⟩

end Lines

/-! ### Steps of the calls -/

/-- What an operation of a call does to its line. -/
def advance (line : LockId → List Nat) (lock : LockId) (index : Nat) : Op → LockId → List Nat
  | .queueJoin _ => Function.update line lock (line lock ++ [index])
  | .queueRelease _ => Function.update line lock (line lock).tail
  | _ => line

theorem advance_apart {line : LockId → List Nat} {lock : LockId} {index : Nat} {op : Op} (apart : ¬op.Queue) :
    advance line lock index op = line := by
  cases op <;> first | rfl | exact absurd trivial apart

theorem advance_other {line : LockId → List Nat} {lock wanted : LockId} (different : wanted ≠ lock) (index : Nat) (op : Op) :
    advance line lock index op wanted = line wanted := by
  cases op <;> first | rfl | exact Function.update_of_ne different _ _

theorem Lines.act {line : LockId → List Nat} {world after : World} {places : Places} {index : Nat} {lock : LockId}
    {env : Env} {stage : Stage} {op : Op} {answer : Res op} (lines : Lines line world places)
    (here : places index = some (lock, stage)) (permitted : Queueing lock.2 stage op)
    (executed : exec index op env world = some (answer, after)) :
    Lines (advance line lock index op) after (Function.update places index (some (lock, stage.next op answer))) := by
  have clocked : Lines line { world with clock := env.clock } places := lines.congr ⟨rfl, rfl, rfl, rfl⟩
  cases permitted with
  | token =>
    cases executed
    exact (lines.stay here Iff.rfl id (by simp) (by simp)).congr ⟨rfl, rfl, rfl, rfl⟩
  | join =>
    have both := Option.some.inj executed
    obtain rfl : (World.queueJoin _ index lock.2).1 = answer := congrArg Prod.fst both
    obtain rfl : (World.queueJoin _ index lock.2).2 = after := congrArg Prod.snd both
    exact clocked.join here
  | wait =>
    simp only [exec, Executor.act] at executed
    split at executed
    next turn =>
      cases executed
      exact (clocked.take here turn).congr ⟨rfl, rfl, rfl, rfl⟩
    next => cases executed
  | body done op apart =>
    have active : Stage.Active (.running done) ↔ Stage.Active (.running (⟨op, answer⟩ :: done)) := Iff.rfl
    rw [advance_apart apart, Stage.next_apart apart]
    exact (lines.stay here active (fun _ => trivial) (by simp) (by simp)).congr (same_of_apart apart executed)
  | release done =>
    cases executed
    exact clocked.release here

def places (calls : Nat → Option (QueueThread α)) : Places :=
  fun index => (calls index).map (fun thread => (thread.tag.lock, stage thread))

theorem places_of {calls : Nat → Option (QueueThread α)} {index : Nat} {thread : QueueThread α}
    (found : calls index = some thread) : places calls index = some (thread.tag.lock, stage thread) := by
  rw [places, found]
  rfl

theorem places_eq_some {calls : Nat → Option (QueueThread α)} {index : Nat} {lock : LockId} {found : Stage} :
    places calls index = some (lock, found) ↔
      ∃ thread, calls index = some thread ∧ thread.tag.lock = lock ∧ stage thread = found := by
  simp [places]

theorem places_update (calls : Nat → Option (QueueThread α)) (index : Nat) (thread : QueueThread α) :
    places (Function.update calls index (some thread)) =
      Function.update (places calls) index (some (thread.tag.lock, stage thread)) := by
  funext other
  by_cases same : other = index
  · subst same
    simp [places]
  · simp [places, same]

/-- The calls of the running processes stand in their lines. -/
structure Orderly (line : LockId → List Nat) (world : World) (calls : Nat → Option (QueueThread α)) : Prop where
  alive : ∀ index thread, calls index = some thread → thread.cut = false
  lines : Lines line world (places calls)

theorem close_queue (config : Config) (index : Nat) (caller : Caller α) (program : Prog α) (world : World) :
    (lockMachine config).close index caller program world = world := by
  unfold Machine.close
  split <;> rfl

/-- What one event does to the lines: nothing, or what the acting call's operation does to its own. -/
inductive Advance (line : LockId → List Nat) (world : World) (places : Places) :
    (LockId → List Nat) → World → Places → Prop where
  | start (lock : LockId) (after : World) (same : World.Same { world with pods := world.pods ++ [lock.1] } after) :
      Advance line world places line after (Function.update places world.pods.length (some (lock, .asking)))
  | act (index : Nat) (lock : LockId) (env : Env) (stage : Stage) (op : Op) (answer : Res op) (after : World)
      (here : places index = some (lock, stage)) (permitted : Queueing lock.2 stage op)
      (executed : exec index op env world = some (answer, after)) :
      Advance line world places (advance line lock index op) after
        (Function.update places index (some (lock, stage.next op answer)))

theorem Orderly.move {config : Config} {line : LockId → List Nat} {system : QueueSystem α}
    {event : Event Env (Caller α)} {world : World} {calls : Nat → Option (QueueThread α)}
    (orderly : Orderly line system.world system.calls) (uncut : Uncut system event)
    (move : (lockMachine config).Move queued system event world calls) :
    ∃ later, Orderly later world calls ∧
      Advance line system.world (places system.calls) later world (places calls) := by
  cases move with
  | start caller world free entered path =>
    cases entered
    rw [close_queue]
    have numbered : ∀ index, index < system.threads.length ↔ index < system.world.pods.length := by
      intro index
      rw [← orderly.lines.started]
      simp [places, System.calls]
    have fresh : system.threads.length = system.world.pods.length := by
      have first := numbered system.threads.length
      have last := numbered system.world.pods.length
      omega
    refine ⟨line, ⟨fun other later found => ?_, ?_⟩, ?_⟩
    · rcases Machine.calls_update found with ⟨_, rfl⟩ | ⟨_, earlier⟩
      · rfl
      · exact orderly.alive other later earlier
    · rw [places_update, fresh]
      exact orderly.lines.start caller.lock
    · rw [places_update, fresh]
      exact .start caller.lock _ ⟨rfl, rfl, rfl, rfl⟩
  | step index env thread op answer rest after act =>
    rw [close_queue, places_update]
    have here := places_of act.found
    have permitted : Queueing thread.tag.lock.2 (stage thread) op := act.before
    refine ⟨advance line thread.tag.lock index op, ⟨fun other later found => ?_, ?_⟩,
      .act index thread.tag.lock env (stage thread) op answer after here permitted act.executed⟩
    · rcases Machine.calls_update found with ⟨_, rfl⟩ | ⟨_, earlier⟩
      · exact act.alive
      · exact orderly.alive other later earlier
    · rw [places_update]
      exact orderly.lines.act here permitted act.executed
  | cut index thread found running => exact absurd uncut (fun impossible => impossible)

theorem orderly_of_run {config : Config} (inProcess : config.redis = false) {initial system : QueueSystem α}
    (idle : initial.threads = []) {line : LockId → List Nat} (start : Orderly line initial.world initial.calls)
    (run : (lockMachine config).Run Uncut initial system) :
    Machine.Kept queued system ∧ ∃ line, Orderly line system.world system.calls :=
  run.tracked (queue_honours inProcess) (fun world calls => ∃ line, Orderly line world calls)
    (fun index thread found => by simp [idle] at found) ⟨line, start⟩
    (fun _ ⟨_, orderly⟩ uncut move => by
      obtain ⟨later, after, _⟩ := orderly.move uncut move
      exact ⟨later, after⟩)

/-! ### Who asked first -/

/-- The first call asked for the lock before the second. -/
inductive Precedes (line : LockId → List Nat) (places : Places) (lock : LockId) (first second : Nat) : Prop where
  | through (done : History Op Res) (finished : places first = some (lock, .finished done))
  | unasked (ahead : first ∈ line lock) (idle : ∀ stage, places second = some (lock, stage) → stage = .asking)
  | behind (before between after : List Nat) (order : line lock = before ++ first :: (between ++ second :: after))

/-- A call of another lock, or one that goes on asking, does not disturb who has not asked. -/
theorem idle_update {places : Places} {lock caller : LockId} {second index : Nat} {stage later : Stage}
    (idle : ∀ stage, places second = some (lock, stage) → stage = .asking) (here : places index = some (caller, stage))
    (quiet : second = index → lock = caller → stage = .asking → later = .asking) (found : Stage)
    (there : Function.update places index (some (caller, later)) second = some (lock, found)) : found = .asking := by
  rcases update_places.mp there with ⟨rfl, rfl, rfl⟩ | ⟨_, earlier⟩
  · exact quiet rfl rfl (idle stage here)
  · exact idle found earlier

theorem Precedes.advance {line later : LockId → List Nat} {world after : World} {places moved : Places} {lock : LockId}
    {first second : Nat} (precedes : Precedes line places lock first second) (lines : Lines line world places)
    (advance : Advance line world places later after moved) : Precedes later moved lock first second := by
  cases advance with
  | start caller after same =>
    cases precedes with
    | through done finished =>
      refine .through done (update_places.mpr (.inr ⟨?_, finished⟩))
      rintro rfl
      rw [lines.vacant] at finished
      cases finished
    | unasked ahead idle =>
      refine .unasked ahead (fun stage found => ?_)
      rcases update_places.mp found with ⟨_, _, rfl⟩ | ⟨_, earlier⟩
      · rfl
      · exact idle stage earlier
    | behind before between after order => exact .behind before between after order
  | act index caller env stage op answer after here permitted executed =>
    cases precedes with
    | through done finished =>
      refine .through done (update_places.mpr (.inr ⟨?_, finished⟩))
      rintro rfl
      rw [here] at finished
      cases finished
      cases permitted
    | unasked ahead idle =>
      cases permitted with
      | token => exact .unasked ahead (idle_update idle here fun _ _ _ => rfl)
      | join =>
        by_cases same : lock = caller
        · subst same
          by_cases mine : second = index
          · subst mine
            obtain ⟨before, between, order⟩ := List.append_of_mem ahead
            refine .behind before between [] ?_
            rw [Executor.advance, Function.update_self, order]
            simp
          · refine .unasked ?_ (idle_update idle here fun impossible => absurd impossible mine)
            rw [Executor.advance, Function.update_self]
            exact List.mem_append_left _ ahead
        · refine .unasked ?_ (idle_update idle here fun _ impossible => absurd impossible same)
          rw [Executor.advance, Function.update_of_ne same]
          exact ahead
      | wait => exact .unasked ahead (idle_update idle here fun _ _ impossible => by cases impossible)
      | body done op apart =>
        rw [advance_apart apart]
        exact .unasked ahead (idle_update idle here fun _ _ impossible => by cases impossible)
      | release done =>
        by_cases same : lock = caller
        · subst same
          by_cases mine : first = index
          · subst mine
            exact .through done (update_places.mpr (.inl ⟨rfl, rfl, rfl⟩))
          · refine .unasked ?_ (idle_update idle here fun _ _ impossible => by cases impossible)
            rw [lines.line_eq here] at ahead
            rw [Executor.advance, Function.update_self, lines.line_eq here]
            exact (List.mem_cons.mp ahead).resolve_left mine
        · refine .unasked ?_ (idle_update idle here fun _ impossible => absurd impossible same)
          rw [Executor.advance, Function.update_of_ne same]
          exact ahead
    | behind before between rest order =>
      cases permitted with
      | token => exact .behind before between rest order
      | join =>
        by_cases same : lock = caller
        · subst same
          refine .behind before between (rest ++ [index]) ?_
          rw [Executor.advance, Function.update_self, order]
          simp
        · refine .behind before between rest ?_
          rw [Executor.advance, Function.update_of_ne same]
          exact order
      | wait => exact .behind before between rest order
      | body done op apart =>
        rw [advance_apart apart]
        exact .behind before between rest order
      | release done =>
        by_cases same : lock = caller
        · subst same
          have whole := lines.line_eq here
          cases before with
          | nil =>
            rw [order, List.nil_append] at whole
            obtain rfl := (List.cons.inj whole).1
            exact .through done (update_places.mpr (.inl ⟨rfl, rfl, rfl⟩))
          | cons head more =>
            refine .behind more between rest ?_
            rw [Executor.advance, Function.update_self, order]
            rfl
        · refine .behind before between rest ?_
          rw [Executor.advance, Function.update_of_ne same]
          exact order

/-- A call that owns the lock, or has owned it, comes after every call that asked before it. -/
theorem Precedes.finished {line : LockId → List Nat} {world : World} {places : Places} {lock : LockId}
    {first second : Nat} (precedes : Precedes line places lock first second) (lines : Lines line world places)
    {stage : Stage} (here : places second = some (lock, stage)) (asked : stage ≠ .asking) (served : stage ≠ .waiting) :
    ∃ done, places first = some (lock, .finished done) := by
  cases precedes with
  | through done finished => exact ⟨done, finished⟩
  | unasked ahead idle => exact absurd (idle stage here) asked
  | behind before between after order =>
    have once := lines.once lock
    have member : second ∈ line lock := by
      rw [order]
      simp
    obtain ⟨found, there, active⟩ := (lines.member lock second).mp member
    rw [here] at there
    cases there
    cases stage with
    | running done =>
      have head := lines.owner second lock _ here trivial
      rw [order] at head once
      cases before with
      | nil =>
        cases Option.some.inj head
        simp at once
      | cons front more =>
        cases Option.some.inj head
        simp at once
    | asking => exact absurd rfl asked
    | waiting => exact absurd rfl served
    | finished done => cases active

theorem Run.order {config : Config} (inProcess : config.redis = false) {system later : QueueSystem α}
    {line : LockId → List Nat} {lock : LockId} {first second : Nat} (kept : Machine.Kept queued system)
    (orderly : Orderly line system.world system.calls)
    (precedes : Precedes line (places system.calls) lock first second)
    (run : (lockMachine config).Run Uncut system later) :
    ∃ line, Orderly line later.world later.calls ∧ Precedes line (places later.calls) lock first second := by
  have link := run.tracked (queue_honours inProcess)
    (fun world calls => ∃ line, Orderly line world calls ∧ Precedes line (places calls) lock first second)
    kept ⟨line, orderly, precedes⟩
    (fun _ ⟨line, orderly, precedes⟩ uncut move => by
      obtain ⟨after, still, advance⟩ := orderly.move uncut move
      exact ⟨after, still, precedes.advance orderly.lines advance⟩)
  exact link.2

/-! ### The lock in every state -/

/-- The call's turn has come: it owns the lock, or the release before it has woken it up. -/
def HasTurn (world : World) (index : Nat) (thread : QueueThread α) : Prop :=
  (stage thread).Owns ∨ index ∈ world.turns

/-- The lock's state and its callers, at any moment. -/
structure Served (config : Config) (system : QueueSystem α) : Prop where
  exclusive : ∀ index other first second, system.calls index = some first → system.calls other = some second →
    first.tag.lock = second.tag.lock → HasTurn system.world index first → HasTurn system.world other second →
    index = other
  held : ∀ lock, lock ∈ system.world.held ↔
    ∃ index thread, system.calls index = some thread ∧ thread.tag.lock = lock ∧ HasTurn system.world index thread
  waiting : ∀ index thread, system.calls index = some thread → stage thread = .waiting →
    (index ∈ system.world.turns ∧ index ∉ system.world.queue thread.tag.lock) ∨
    (index ∉ system.world.turns ∧ (system.world.queue thread.tag.lock).count index = 1 ∧
      thread.tag.lock ∈ system.world.held)
  progress : (∃ thread ∈ system.threads, thread.program.outcome = none) →
    ∀ env, ∃ index after, (lockMachine config).next system (.step index env) = some after
  results : ∀ thread ∈ system.threads, ∀ result, thread.program.outcome = some result →
    ∃ done, stage thread = .finished done ∧ thread.tag.fn.Ends (fun _ _ => True) done result

/-- What a step of one call does to the locks. -/
structure Handed (system after : QueueSystem α) (index : Nat) (thread : QueueThread α) : Prop where
  handed : thread.program.awaits = some (.queueRelease thread.tag.key) →
    ∀ first rest, system.world.queue thread.tag.lock = first :: rest →
      thread.tag.lock ∈ after.world.held ∧ after.world.queue thread.tag.lock = rest ∧ first ∉ system.world.turns ∧
        ∀ other, other ∈ after.world.turns ↔ other = first ∨ other ∈ system.world.turns
  freed : thread.program.awaits = some (.queueRelease thread.tag.key) → system.world.queue thread.tag.lock = [] →
    thread.tag.lock ∉ after.world.held ∧ ∀ other, other ∈ after.world.turns ↔ other ∈ system.world.turns
  apart : ∀ lock, lock ≠ thread.tag.lock → (lock ∈ after.world.held ↔ lock ∈ system.world.held) ∧
    after.world.queue lock = system.world.queue lock ∧
    ∀ other caller, system.calls other = some caller → caller.tag.lock = lock →
      (other ∈ after.world.turns ↔ other ∈ system.world.turns)

section
variable {config : Config} {system after : QueueSystem α} {line : LockId → List Nat}

theorem Orderly.holds_first (orderly : Orderly line system.world system.calls) {index : Nat} {thread : QueueThread α}
    (found : system.calls index = some thread) (holds : HasTurn system.world index thread) :
    (line thread.tag.lock).head? = some index := by
  rcases holds with owns | turn
  · exact orderly.lines.owner index _ _ (places_of found) owns
  · obtain ⟨lock, here, first⟩ := (orderly.lines.turn index).mp turn
    rw [places_of found] at here
    obtain ⟨rfl, _⟩ := Prod.mk.inj (Option.some.inj here)
    exact first

/-- The first of a line owns the lock or has been woken up. -/
theorem Orderly.first_holds (orderly : Orderly line system.world system.calls) {lock : LockId} {index : Nat}
    (first : (line lock).head? = some index) :
    ∃ thread, system.calls index = some thread ∧ thread.tag.lock = lock ∧ HasTurn system.world index thread := by
  obtain ⟨found, here, active⟩ := (orderly.lines.member lock index).mp (List.mem_of_head? first)
  obtain ⟨thread, there, same, reached⟩ := places_eq_some.mp here
  refine ⟨thread, there, same, ?_⟩
  cases found with
  | running done =>
    refine .inl ?_
    rw [reached]
    trivial
  | waiting => exact .inr ((orderly.lines.turn index).mpr ⟨lock, here, first⟩)
  | _ => cases active

/-- A call that has asked and not released has not ended. -/
theorem pending_of_active (kept : Machine.Kept queued system) {index : Nat} {thread : QueueThread α}
    (found : system.calls index = some thread) (active : (stage thread).Active) : thread.program.outcome = none := by
  cases ended : thread.program.outcome with
  | none => rfl
  | some result =>
    obtain ⟨done, finished, _⟩ : Through thread.tag (stage thread) result := (kept index thread found).of_outcome ended
    rw [finished] at active
    cases active

/-- Who holds a lock can go on. -/
theorem Orderly.goes_on (orderly : Orderly line system.world system.calls) (kept : Machine.Kept queued system)
    {index : Nat} {thread : QueueThread α} (found : system.calls index = some thread)
    (pending : thread.program.outcome = none) (free : stage thread = .waiting → index ∈ system.world.turns)
    (env : Env) : ∃ after, (lockMachine config).next system (.step index env) = some after := by
  have path := kept index thread found
  have alive := orderly.alive index thread found
  cases awaits : thread.program with
  | ret value => rw [awaits] at pending; cases pending
  | raise error => rw [awaits] at pending; cases pending
  | await op next =>
    rw [awaits] at path
    have permitted : Queueing thread.tag.key (stage thread) op := path.1
    have executes : ∃ answer after, exec index op env system.world = some (answer, after) := by
      cases waiting : op with
      | queueWait key =>
        rw [waiting] at permitted
        have stopped : stage thread = .waiting := by
          generalize stage thread = reached at permitted
          cases permitted with
          | wait => rfl
          | body done op apart => exact absurd trivial apart
        simp only [exec, act]
        rw [if_pos (free stopped)]
        exact ⟨(), _, rfl⟩
      | _ => exact ⟨_, _, rfl⟩
    obtain ⟨answer, world, executed⟩ := executes
    exact ⟨_, Machine.next_step _ found alive awaits executed⟩

theorem Orderly.served (orderly : Orderly line system.world system.calls) (kept : Machine.Kept queued system) :
    Served config system := by
  have ended : ∀ index thread, system.calls index = some thread → ∀ result, thread.program.outcome = some result →
      Through thread.tag (stage thread) result := fun index thread found result value =>
    (kept index thread found).of_outcome value
  constructor
  · intro index other first second found there same holds also
    have head := orderly.holds_first found holds
    rw [same, orderly.holds_first there also] at head
    exact (Option.some.inj head).symm
  · intro lock
    rw [orderly.lines.held]
    constructor
    · intro occupied
      obtain ⟨index, rest, whole⟩ := List.exists_cons_of_ne_nil occupied
      have front : (line lock).head? = some index := by
        rw [whole]
        rfl
      obtain ⟨thread, found, same, holds⟩ := orderly.first_holds front
      exact ⟨index, thread, found, same, holds⟩
    · rintro ⟨index, thread, found, rfl, holds⟩ empty
      have head := orderly.holds_first found holds
      rw [empty] at head
      cases head
  · intro index thread found waits
    have here := places_of found
    rw [waits] at here
    have member : index ∈ line thread.tag.lock := (orderly.lines.member _ index).mpr ⟨_, here, trivial⟩
    have once := orderly.lines.once thread.tag.lock
    obtain ⟨head, rest, whole⟩ := List.exists_cons_of_ne_nil (List.ne_nil_of_mem member)
    rw [orderly.lines.queue, orderly.lines.held, whole, List.tail_cons]
    rw [whole] at member once
    obtain ⟨fresh, distinct⟩ := List.nodup_cons.mp once
    by_cases mine : index = head
    · subst mine
      exact .inl ⟨(orderly.lines.turn index).mpr ⟨_, here, by rw [whole]; rfl⟩, fresh⟩
    · have behind : index ∈ rest := (List.mem_cons.mp member).resolve_left mine
      refine .inr ⟨fun turn => ?_, (by rw [distinct.count, if_pos behind]), List.cons_ne_nil _ _⟩
      have first := orderly.holds_first found (.inr turn)
      rw [whole] at first
      exact mine (Option.some.inj first).symm
  · rintro ⟨thread, member, pending⟩ env
    obtain ⟨index, found⟩ := List.mem_iff_getElem?.mp member
    by_cases stuck : stage thread = .waiting ∧ index ∉ system.world.turns
    · have here := places_of found
      rw [stuck.1] at here
      have inLine : index ∈ line thread.tag.lock := (orderly.lines.member _ index).mpr ⟨_, here, trivial⟩
      obtain ⟨head, rest, whole⟩ := List.exists_cons_of_ne_nil (List.ne_nil_of_mem inLine)
      have front : (line thread.tag.lock).head? = some head := by
        rw [whole]
        rfl
      obtain ⟨owner, there, same, holds⟩ := orderly.first_holds front
      have active : (stage owner).Active := by
        rcases holds with owns | turn
        · exact owns.active
        · obtain ⟨lock, waits, _⟩ := (orderly.lines.turn head).mp turn
          rw [places_of there] at waits
          rw [(Prod.mk.inj (Option.some.inj waits)).2]
          trivial
      have turn : stage owner = .waiting → head ∈ system.world.turns := by
        intro waits
        rcases holds with owns | turn
        · rw [waits] at owns
          cases owns
        · exact turn
      obtain ⟨after, stepped⟩ := orderly.goes_on kept there (pending_of_active kept there active) turn env
      exact ⟨head, after, stepped⟩
    · have turn : stage thread = .waiting → index ∈ system.world.turns := fun waits =>
        not_not.mp (fun missing => stuck ⟨waits, missing⟩)
      obtain ⟨after, stepped⟩ := orderly.goes_on kept found pending turn env
      exact ⟨index, after, stepped⟩
  · intro thread member result value
    obtain ⟨index, found⟩ := List.mem_iff_getElem?.mp member
    obtain ⟨done, finished, ends⟩ := ended index thread found result value
    exact ⟨done, finished, ends⟩

theorem Orderly.handed (orderly : Orderly line system.world system.calls) (kept : Machine.Kept queued system)
    (inProcess : config.redis = false) {index : Nat} {env : Env} {thread : QueueThread α}
    (found : system.calls index = some thread)
    (stepped : (lockMachine config).next system (.step index env) = some after) :
    Handed system after index thread := by
  have here := places_of found
  have move := kept.move (queue_honours inProcess) (Machine.effect_of_next _ stepped)
  generalize reaches : after.world = moved at move
  generalize after.calls = calls at move
  cases move with
  | step _ _ acting op answer rest reached act =>
    cases found.symm.trans act.found
    rw [close_queue] at reaches
    have permitted : Queueing thread.tag.lock.2 (stage thread) op := act.before
    have lines := orderly.lines.act here permitted act.executed
    rw [← reaches] at lines
    have awaiting : thread.program.awaits = some op := by
      obtain ⟨next, awaits, _⟩ := act.awaits
      rw [awaits]
      rfl
    have owner : thread.program.awaits = some (.queueRelease thread.tag.key) → op = .queueRelease thread.tag.key ∧
        ∃ done, stage thread = .running done := by
      intro releases
      obtain rfl : op = .queueRelease thread.tag.key := Option.some.inj (awaiting.symm.trans releases)
      refine ⟨rfl, ?_⟩
      generalize stage thread = reachedStage at permitted
      cases permitted with
      | release done => exact ⟨done, rfl⟩
      | body done op apart => exact absurd trivial apart
    constructor
    · intro releases first rest queue
      obtain ⟨rfl, done, running⟩ := owner releases
      rw [running] at here lines
      change Lines (Function.update line _ (line _).tail) after.world
        (Function.update _ index (some (thread.tag.lock, .finished done))) at lines
      have whole := orderly.lines.line_eq here
      rw [queue] at whole
      obtain ⟨waits, fresh⟩ := orderly.lines.next_waits here queue
      refine ⟨(lines.held _).mpr ?_, ?_, fresh, fun other => ?_⟩
      · rw [Function.update_self, whole]
        exact List.cons_ne_nil _ _
      · rw [lines.queue, Function.update_self, whole]
        rfl
      · rw [lines.turn, orderly.lines.turn_left here, whole, List.tail_cons, List.head?_cons]
        refine or_congr_left ⟨fun next => (Option.some.inj next.2).symm, ?_⟩
        rintro rfl
        exact ⟨waits, rfl⟩
    · intro releases queue
      obtain ⟨rfl, done, running⟩ := owner releases
      rw [running] at here lines
      change Lines (Function.update line _ (line _).tail) after.world
        (Function.update _ index (some (thread.tag.lock, .finished done))) at lines
      have whole := orderly.lines.line_eq here
      rw [queue] at whole
      refine ⟨fun held => (lines.held _).mp held ?_, fun other => ?_⟩
      · rw [Function.update_self, whole]
        rfl
      · rw [lines.turn, orderly.lines.turn_left here, whole, List.tail_cons, List.head?_nil]
        simp
    · intro lock different
      have kept : advance line thread.tag.lock index op lock = line lock := advance_other different index op
      refine ⟨?_, ?_, fun other caller there same => ?_⟩
      · rw [lines.held, orderly.lines.held, kept]
      · rw [lines.queue, orderly.lines.queue, kept]
      · have elsewhere : other ≠ index := by
          rintro rfl
          cases found.symm.trans there
          exact different same.symm
        have place : places system.calls other = some (lock, stage caller) := by
          rw [places_of there, same]
        rw [lines.turn, orderly.lines.turn, Function.update_of_ne elsewhere]
        refine exists_congr fun wanted => and_congr_right fun waits => ?_
        rw [place] at waits
        obtain ⟨rfl, _⟩ := Prod.mk.inj (Option.some.inj waits)
        rw [kept]

end

theorem orderly_empty : Orderly (fun _ => []) emptyWorld (System.calls (⟨emptyWorld, []⟩ : QueueSystem α)) := by
  refine ⟨fun index thread found => (by cases found), ?_⟩
  constructor
  · exact fun index => ⟨fun known => (by cases known), fun inside => absurd inside (Nat.not_lt_zero _)⟩
  · exact fun index lock found here => (by cases here)
  · exact fun lock index => ⟨fun member => (by cases member), fun ⟨found, here, _⟩ => (by cases here)⟩
  · exact fun lock => List.nodup_nil
  · exact fun index lock found here => (by cases here)
  · exact fun index => ⟨fun member => (by cases member), fun ⟨lock, here, _⟩ => (by cases here)⟩
  · exact List.nodup_nil
  · exact fun lock => ⟨fun member => (by cases member), fun occupied => absurd rfl occupied⟩
  · exact List.nodup_nil
  · exact fun lock => rfl

/-- `withLock` without Redis. In every run of any callers of any keys, the lock has one owner at a time,
it passes from the owner to the call that has waited longest, and every call ends as its `fn` did. -/
theorem in_process_lock (config : Config) (inProcess : config.redis = false) (system : QueueSystem α)
    (run : (lockMachine config).Run Uncut ⟨emptyWorld, []⟩ system) :
    Served config system ∧
      (∀ index env thread after, system.calls index = some thread →
        (lockMachine config).next system (.step index env) = some after → Handed system after index thread) ∧
      ∀ later, (lockMachine config).Run Uncut system later → ∀ first second early late,
        system.calls first = some early → stage early ≠ .asking →
        (∀ rival, system.calls second = some rival → stage rival = .asking) →
        later.calls second = some late → late.tag.lock = early.tag.lock →
        stage late ≠ .asking → stage late ≠ .waiting →
        ∃ thread done, later.calls first = some thread ∧ stage thread = .finished done := by
  obtain ⟨kept, line, orderly⟩ := orderly_of_run inProcess rfl orderly_empty run
  refine ⟨orderly.served kept, fun index env thread after found stepped =>
    orderly.handed kept inProcess found stepped, ?_⟩
  intro later onward first second early late found asked idle there same hasAsked served
  have here := places_of found
  have precedes : Precedes line (places system.calls) early.tag.lock first second := by
    cases reached : stage early with
    | asking => exact absurd reached asked
    | finished done =>
      rw [reached] at here
      exact .through done here
    | waiting =>
      rw [reached] at here
      refine .unasked ((orderly.lines.member _ first).mpr ⟨_, here, trivial⟩) (fun other place => ?_)
      obtain ⟨rival, known, _, stood⟩ := places_eq_some.mp place
      rw [← stood]
      exact idle rival known
    | running done =>
      rw [reached] at here
      refine .unasked ((orderly.lines.member _ first).mpr ⟨_, here, trivial⟩) (fun other place => ?_)
      obtain ⟨rival, known, _, stood⟩ := places_eq_some.mp place
      rw [← stood]
      exact idle rival known
  obtain ⟨last, final, still⟩ := Run.order inProcess kept orderly precedes onward
  have place : places later.calls second = some (early.tag.lock, stage late) := by
    rw [places_of there, same]
  obtain ⟨done, finished⟩ := still.finished final.lines place hasAsked served
  obtain ⟨thread, known, _, stood⟩ := places_eq_some.mp finished
  exact ⟨thread, done, known, stood⟩

def localConfig : Config := ⟨false, "0xhot", 500000000, 30, 1⟩

/-- A caller whose `fn` looks at the clock and returns or throws. -/
def clockCaller (key : String) (throws : Bool) : Caller Unit where
  pod := 0
  key := key
  fn := (Program.perform .now).bind (fun _ => if throws then .raise (.other "Error" "refused") else .ret ())
  apart := by
    refine ⟨fun impossible => impossible, fun answer => ?_⟩
    cases throws <;> trivial

/-- Two callers of one key and one of another; the first one throws and hands over. -/
def threeCallers : List (Event Env (Caller Unit)) :=
  [.start (clockCaller "a" true), .start (clockCaller "a" false), .start (clockCaller "b" false)] ++
    ([0, 0, 1, 1, 2, 2, 0, 0].map fun index => .step index (calm 1))

instance (system : QueueSystem α) (event : Event Env (Caller α)) : Decidable (Uncut system event) := by
  unfold Uncut
  induction event using Event.casesOn <;> infer_instance

theorem in_process_lock_sample :
    ∃ system : QueueSystem Unit, (lockMachine localConfig).Run Uncut ⟨emptyWorld, []⟩ system ∧
      system.world.turns = [1] ∧ Served localConfig system ∧
      (∀ index env thread after, system.calls index = some thread →
        (lockMachine localConfig).next system (.step index env) = some after → Handed system after index thread) ∧
      ∀ later, (lockMachine localConfig).Run Uncut system later → ∀ first second early late,
        system.calls first = some early → stage early ≠ .asking →
        (∀ rival, system.calls second = some rival → stage rival = .asking) →
        later.calls second = some late → late.tag.lock = early.tag.lock →
        stage late ≠ .asking → stage late ≠ .waiting →
        ∃ thread done, later.calls first = some thread ∧ stage thread = .finished done := by
  obtain ⟨system, run, turns⟩ : ∃ system : QueueSystem Unit,
      (lockMachine localConfig).Run Uncut ⟨emptyWorld, []⟩ system ∧ system.world.turns = [1] :=
    Machine.exists_run threeCallers (by decide +kernel)
  exact ⟨system, run, turns, in_process_lock localConfig rfl system run⟩

end MpcKit.Executor
