import Mathlib.Logic.Function.Basic
import MpcKit.Async.Program

/-! Calls of async functions over one shared world, interleaved at their awaits.
A step lets one call perform its next operation; a call may also be cut off between two
operations, as a crashed process or a lost connection does. -/

namespace MpcKit.Async

/-- One call: what was asked, what is left to do, and what it has done. -/
structure Thread (Op : Type) (Res : Op → Type) (Tag ε α : Type) where
  tag : Tag
  program : Program Op Res ε α
  history : History Op Res
  cut : Bool

structure System (Op : Type) (Res : Op → Type) (World Tag ε α : Type) where
  world : World
  threads : List (Thread Op Res Tag ε α)

inductive Event (Env Tag : Type) where
  | start (tag : Tag)
  | step (index : Nat) (env : Env)
  | cut (index : Nat)

structure Machine (Op : Type) (Res : Op → Type) (Env World Tag ε α : Type) where
  /-- One atomic operation of call number `index`. `none` while it has to wait. -/
  exec : Nat → (op : Op) → Env → World → Option (Res op × World)
  program : Tag → Program Op Res ε α
  /-- Whether a call may start, and what its start does to the world. -/
  enter : Tag → World → Option World
  /-- What the end of a call does to the world; `none` when it was cut off. -/
  leave : Nat → Tag → Option (Except ε α) → World → World

namespace Thread

variable {Op : Type} {Res : Op → Type} {Tag ε α : Type}

/-- Still to be continued: neither cut off nor returned nor thrown. -/
def Running (thread : Thread Op Res Tag ε α) : Prop :=
  thread.cut = false ∧ thread.program.outcome = none

instance (thread : Thread Op Res Tag ε α) : Decidable thread.Running :=
  inferInstanceAs (Decidable (thread.cut = false ∧ thread.program.outcome = none))

def resume (thread : Thread Op Res Tag ε α) (entry : Entry Op Res)
    (program : Program Op Res ε α) : Thread Op Res Tag ε α :=
  { thread with program := program, history := entry :: thread.history }

/-- The same call later on: its history has only grown. -/
def Continues (thread later : Thread Op Res Tag ε α) : Prop :=
  later.tag = thread.tag ∧ thread.history <:+ later.history

end Thread

/-- What call number `index` has done so far; nothing once it was cut off. -/
def System.past {Op : Type} {Res : Op → Type} {World Tag ε α : Type}
    (system : System Op Res World Tag ε α) (index : Nat) : History Op Res :=
  match system.threads[index]? with
  | some thread => if thread.cut then [] else thread.history
  | none => []

/-- The calls by their number. -/
def System.calls {Op : Type} {Res : Op → Type} {World Tag ε α : Type} (system : System Op Res World Tag ε α)
    (index : Nat) : Option (Thread Op Res Tag ε α) := system.threads[index]?

/-- The same call under another tag. -/
def Thread.retag {Op : Type} {Res : Op → Type} {Tag Label ε α : Type} (rename : Tag → Label)
    (thread : Thread Op Res Tag ε α) : Thread Op Res Label ε α :=
  ⟨rename thread.tag, thread.program, thread.history, thread.cut⟩

def System.retag {Op : Type} {Res : Op → Type} {World Tag Label ε α : Type} (rename : Tag → Label)
    (system : System Op Res World Tag ε α) : System Op Res World Label ε α :=
  ⟨system.world, system.threads.map (Thread.retag rename)⟩

/-- The operation an event performs, if it is the step of a call that awaits one. -/
def System.performs {Op : Type} {Res : Op → Type} {Env World Tag ε α : Type}
    (system : System Op Res World Tag ε α) : Event Env Tag → Option Op
  | .step index _ => match system.threads[index]? with
      | some thread => match thread.program with
          | .await op _ => some op
          | _ => none
      | none => none
  | _ => none

namespace Machine

variable {Op : Type} {Res : Op → Type} {Env World Tag ε α : Type}
variable (machine : Machine Op Res Env World Tag ε α)

/-- The end of a call takes effect in the very step that ends it. -/
def close (index : Nat) (tag : Tag) (program : Program Op Res ε α) (world : World) : World :=
  match program.outcome with
  | some result => machine.leave index tag (some result) world
  | none => world

def fresh (tag : Tag) : Thread Op Res Tag ε α := ⟨tag, machine.program tag, [], false⟩

def next (system : System Op Res World Tag ε α) : Event Env Tag → Option (System Op Res World Tag ε α)
  | .start tag => match machine.enter tag system.world with
      | none => none
      | some world => some ⟨machine.close system.threads.length tag (machine.program tag) world,
          system.threads ++ [machine.fresh tag]⟩
  | .step index env => match system.threads[index]? with
      | none => none
      | some thread => match thread.cut, thread.program with
          | false, .await op rest => match machine.exec index op env system.world with
              | none => none
              | some (answer, world) => some ⟨machine.close index thread.tag (rest answer) world,
                  system.threads.set index (thread.resume ⟨op, answer⟩ (rest answer))⟩
          | _, _ => none
  | .cut index => match system.threads[index]? with
      | none => none
      | some thread => match thread.cut, thread.program.outcome with
          | false, none => some ⟨machine.leave index thread.tag none system.world,
              system.threads.set index { thread with cut := true }⟩
          | _, _ => none

/-- Everything one event can do. -/
inductive Effect (system : System Op Res World Tag ε α) :
    Event Env Tag → System Op Res World Tag ε α → Prop where
  | start (tag : Tag) (world : World) (entered : machine.enter tag system.world = some world) :
      Effect system (.start tag) ⟨machine.close system.threads.length tag (machine.program tag) world,
        system.threads ++ [machine.fresh tag]⟩
  | step (index : Nat) (env : Env) (thread : Thread Op Res Tag ε α) (op : Op)
      (rest : Res op → Program Op Res ε α) (answer : Res op) (world : World)
      (found : system.threads[index]? = some thread) (alive : thread.cut = false)
      (awaits : thread.program = .await op rest)
      (executed : machine.exec index op env system.world = some (answer, world)) :
      Effect system (.step index env) ⟨machine.close index thread.tag (rest answer) world,
        system.threads.set index (thread.resume ⟨op, answer⟩ (rest answer))⟩
  | cut (index : Nat) (thread : Thread Op Res Tag ε α)
      (found : system.threads[index]? = some thread) (running : thread.Running) :
      Effect system (.cut index) ⟨machine.leave index thread.tag none system.world,
        system.threads.set index { thread with cut := true }⟩

theorem effect_of_next {system after : System Op Res World Tag ε α} {event : Event Env Tag}
    (stepped : machine.next system event = some after) : machine.Effect system event after := by
  cases event with
  | start tag =>
    simp only [next] at stepped
    split at stepped
    · cases stepped
    next world entered =>
      cases stepped
      exact .start tag world entered
  | step index env =>
    simp only [next] at stepped
    split at stepped
    · cases stepped
    next thread found =>
      split at stepped
      next op rest alive awaits =>
        split at stepped
        · cases stepped
        next answer world executed =>
          cases stepped
          exact .step index env thread op rest answer world found alive awaits executed
      · cases stepped
  | cut index =>
    simp only [next] at stepped
    split at stepped
    · cases stepped
    next thread found =>
      split at stepped
      next alive pending =>
        cases stepped
        exact .cut index thread found ⟨alive, pending⟩
      · cases stepped

theorem next_start {system : System Op Res World Tag ε α} {tag : Tag} {world : World}
    (entered : machine.enter tag system.world = some world) :
    machine.next system (.start tag) = some ⟨machine.close system.threads.length tag (machine.program tag) world,
      system.threads ++ [machine.fresh tag]⟩ := by
  simp only [next, entered]

theorem next_step {system : System Op Res World Tag ε α} {index : Nat} {env : Env} {thread : Thread Op Res Tag ε α}
    {op : Op} {rest : Res op → Program Op Res ε α} {answer : Res op} {world : World}
    (found : system.threads[index]? = some thread) (alive : thread.cut = false) (awaits : thread.program = .await op rest)
    (executed : machine.exec index op env system.world = some (answer, world)) :
    machine.next system (.step index env) = some ⟨machine.close index thread.tag (rest answer) world,
      system.threads.set index (thread.resume ⟨op, answer⟩ (rest answer))⟩ := by
  obtain ⟨tag, program, history, cut⟩ := thread
  cases alive
  cases awaits
  simp only [next, found, executed]

/-- A call that has returned or thrown takes no further step. -/
theorem next_of_ended {system : System Op Res World Tag ε α} {index : Nat} {env : Env} {thread : Thread Op Res Tag ε α}
    {result : Except ε α} (found : system.threads[index]? = some thread) (ended : thread.program.outcome = some result) :
    machine.next system (.step index env) = none := by
  obtain ⟨tag, program, history, cut⟩ := thread
  cases program with
  | ret value => simp only [next, found]
  | raise error => simp only [next, found]
  | await op rest => cases ended

/-- States reached by steps that all meet `condition` in the state they start from. -/
inductive Run (condition : System Op Res World Tag ε α → Event Env Tag → Prop)
    (initial : System Op Res World Tag ε α) : System Op Res World Tag ε α → Prop where
  | refl : Run condition initial initial
  | step {system after : System Op Res World Tag ε α} {event : Event Env Tag}
      (run : Run condition initial system) (meets : condition system event)
      (stepped : machine.next system event = some after) : Run condition initial after

/-- Every interleaving, without a condition. -/
abbrev Reaches (initial system : System Op Res World Tag ε α) : Prop :=
  machine.Run (fun _ _ => True) initial system

def play (system : System Op Res World Tag ε α) :
    List (Event Env Tag) → Option (System Op Res World Tag ε α)
  | [] => some system
  | event :: events => match machine.next system event with
      | none => none
      | some after => play after events

variable {machine}

theorem play_of_next {system after : System Op Res World Tag ε α} {event : Event Env Tag} {events : List (Event Env Tag)}
    (stepped : machine.next system event = some after) : machine.play system (event :: events) = machine.play after events := by
  simp only [play, stepped]

theorem Run.trans {condition : System Op Res World Tag ε α → Event Env Tag → Prop}
    {initial middle final : System Op Res World Tag ε α}
    (first : machine.Run condition initial middle) (second : machine.Run condition middle final) :
    machine.Run condition initial final := by
  induction second with
  | refl => exact first
  | step _ meets stepped ih => exact .step ih meets stepped

theorem reaches_of_play {initial final : System Op Res World Tag ε α} {events : List (Event Env Tag)}
    (played : machine.play initial events = some final) : machine.Reaches initial final := by
  induction events generalizing initial with
  | nil =>
    cases played
    exact .refl
  | cons event events ih =>
    simp only [play] at played
    split at played
    · cases played
    next after stepped => exact Run.trans (.step .refl trivial stepped) (ih played)

/-- A concrete schedule shows a reachable state with a property. -/
theorem exists_reaches {initial : System Op Res World Tag ε α} {property : System Op Res World Tag ε α → Prop}
    (events : List (Event Env Tag)) (played : ∃ system ∈ machine.play initial events, property system) :
    ∃ system, machine.Reaches initial system ∧ property system := by
  obtain ⟨system, ended, shown⟩ := played
  exact ⟨system, reaches_of_play ended, shown⟩

/-- The same with the condition of a run checked at every event. -/
def playWhere (machine : Machine Op Res Env World Tag ε α)
    (condition : System Op Res World Tag ε α → Event Env Tag → Prop) [∀ system event, Decidable (condition system event)]
    (system : System Op Res World Tag ε α) : List (Event Env Tag) → Option (System Op Res World Tag ε α)
  | [] => some system
  | event :: events => if condition system event then
      match machine.next system event with
      | none => none
      | some after => playWhere machine condition after events
    else none

theorem run_of_playWhere {condition : System Op Res World Tag ε α → Event Env Tag → Prop}
    [∀ system event, Decidable (condition system event)] {initial final : System Op Res World Tag ε α}
    {events : List (Event Env Tag)} (played : machine.playWhere condition initial events = some final) :
    machine.Run condition initial final := by
  induction events generalizing initial with
  | nil =>
    cases played
    exact .refl
  | cons event events ih =>
    simp only [playWhere] at played
    split at played
    next meets =>
      split at played
      · cases played
      next after stepped => exact Run.trans (.step .refl meets stepped) (ih played)
    · cases played

theorem exists_run {condition : System Op Res World Tag ε α → Event Env Tag → Prop}
    [∀ system event, Decidable (condition system event)] {initial : System Op Res World Tag ε α}
    {property : System Op Res World Tag ε α → Prop} (events : List (Event Env Tag))
    (played : ∃ system ∈ machine.playWhere condition initial events, property system) :
    ∃ system, machine.Run condition initial system ∧ property system := by
  obtain ⟨system, ended, shown⟩ := played
  exact ⟨system, run_of_playWhere ended, shown⟩

/-- Invariant rule: what holds at the start and survives every admissible event holds throughout. -/
theorem Run.invariant {condition : System Op Res World Tag ε α → Event Env Tag → Prop}
    {initial system : System Op Res World Tag ε α} (holds : System Op Res World Tag ε α → Prop)
    (start : holds initial)
    (preserved : ∀ system event after, holds system → condition system event →
      machine.Effect system event after → holds after)
    (run : machine.Run condition initial system) : holds system := by
  induction run with
  | refl => exact start
  | step _ meets stepped ih => exact preserved _ _ _ ih meets (machine.effect_of_next stepped)

theorem performs_of_awaits {system : System Op Res World Tag ε α} {index : Nat} {env : Env}
    {thread : Thread Op Res Tag ε α} {op : Op} {rest : Res op → Program Op Res ε α}
    (found : system.threads[index]? = some thread) (awaits : thread.program = .await op rest) :
    system.performs (.step index env : Event Env Tag) = some op := by
  simp [System.performs, found, awaits]

/-- Invariant rule for the world alone, when every performed operation meets a condition on it. -/
theorem Run.keeps {allowed : World → Op → Prop} {initial system : System Op Res World Tag ε α}
    (holds : World → Prop) (start : holds initial.world)
    (entered : ∀ {tag world after}, holds world → machine.enter tag world = some after → holds after)
    (ended : ∀ {index tag result world}, holds world → holds (machine.leave index tag result world))
    (performed : ∀ {index op env world answer after}, holds world → allowed world op →
      machine.exec index op env world = some (answer, after) → holds after)
    (run : machine.Run (fun system event => ∀ op ∈ system.performs event, allowed system.world op) initial system) :
    holds system.world := by
  have closed : ∀ {index tag program world}, holds world → holds (machine.close index tag program world) := by
    intro index tag program world kept
    unfold close
    split
    · exact ended kept
    · exact kept
  apply run.invariant (fun system => holds system.world) start
  intro system event after kept meets effect
  cases effect with
  | start tag world opened => exact closed (entered kept opened)
  | step index env thread op rest answer world found alive awaits executed =>
    exact closed (performed kept (meets op (performs_of_awaits found awaits)) executed)
  | cut index thread found running => exact ended kept

/-- Every function keeps its contract, and every operation answers as the contract says. -/
structure Honours (machine : Machine Op Res Env World Tag ε α) (contract : Tag → Contract Op Res ε α) : Prop where
  programs : ∀ tag, (machine.program tag).Obeys (contract tag) []
  answers : ∀ {index op env world answer after}, machine.exec index op env world = some (answer, after) →
    ∀ tag, (contract tag).answers op answer

/-- Each call is somewhere on a path that meets its contract. -/
def Kept (contract : Tag → Contract Op Res ε α) (system : System Op Res World Tag ε α) : Prop :=
  ∀ (index : Nat) (thread : Thread Op Res Tag ε α), system.threads[index]? = some thread →
    thread.program.Obeys (contract thread.tag) thread.history

theorem Kept.effect {contract : Tag → Contract Op Res ε α} (honours : machine.Honours contract)
    {system after : System Op Res World Tag ε α} {event : Event Env Tag} (kept : Kept contract system)
    (effect : machine.Effect system event after) : Kept contract after := by
  intro index thread found
  cases effect with
  | start tag world entered =>
    rw [List.getElem?_append] at found
    split at found
    · exact kept index thread found
    · rw [List.getElem?_singleton] at found
      split at found
      · cases found
        exact honours.programs tag
      · cases found
  | step stepped env acting op rest answer world here alive awaits executed =>
    rw [List.getElem?_set] at found
    split at found
    · split at found
      · cases found
        have path := kept stepped acting here
        rw [awaits] at path
        exact path.2 answer (honours.answers executed acting.tag)
      · cases found
    · exact kept index thread found
  | cut stopped acting here running =>
    rw [List.getElem?_set] at found
    split at found
    · split at found
      · cases found
        exact kept stopped acting here
      · cases found
    · exact kept index thread found

theorem Effect.continues {system after : System Op Res World Tag ε α} {event : Event Env Tag}
    (effect : machine.Effect system event after) {index : Nat} {thread : Thread Op Res Tag ε α}
    (found : system.threads[index]? = some thread) :
    ∃ later, after.threads[index]? = some later ∧ thread.Continues later := by
  have inside : index < system.threads.length := (List.getElem?_eq_some_iff.mp found).1
  cases effect with
  | start tag world entered => exact ⟨thread, by simpa [List.getElem?_append, inside] using found, rfl, List.suffix_rfl⟩
  | step stepped env acting op rest answer world here alive awaits executed =>
    by_cases same : stepped = index
    · subst same
      rw [here] at found
      cases found
      exact ⟨thread.resume ⟨op, answer⟩ (rest answer), by simp [inside], rfl, List.suffix_cons _ _⟩
    · exact ⟨thread, by simpa [List.getElem?_set, same] using found, rfl, List.suffix_rfl⟩
  | cut stopped acting here running =>
    by_cases same : stopped = index
    · subst same
      rw [here] at found
      cases found
      exact ⟨{ thread with cut := true }, by simp [inside], rfl, List.suffix_rfl⟩
    · exact ⟨thread, by simpa [List.getElem?_set, same] using found, rfl, List.suffix_rfl⟩

theorem Run.continues {condition : System Op Res World Tag ε α → Event Env Tag → Prop}
    {initial system : System Op Res World Tag ε α} (run : machine.Run condition initial system) {index : Nat}
    {thread : Thread Op Res Tag ε α} (found : initial.threads[index]? = some thread) :
    ∃ later, system.threads[index]? = some later ∧ thread.Continues later := by
  induction run with
  | refl => exact ⟨thread, found, rfl, List.suffix_rfl⟩
  | step _ _ stepped ih =>
    obtain ⟨middle, there, tag, grown⟩ := ih
    obtain ⟨later, here, same, more⟩ := (machine.effect_of_next stepped).continues there
    exact ⟨later, here, same.trans tag, grown.trans more⟩

/-- A call is where its function gets to with the answers of its history. -/
theorem Run.path {condition : System Op Res World Tag ε α → Event Env Tag → Prop}
    {initial system : System Op Res World Tag ε α} (idle : initial.threads = [])
    (run : machine.Run condition initial system) {thread : Thread Op Res Tag ε α} (member : thread ∈ system.threads) :
    (machine.program thread.tag).Path (fun _ _ => True) thread.history thread.program := by
  revert thread
  apply run.invariant (fun system => ∀ thread ∈ system.threads,
    (machine.program thread.tag).Path (fun _ _ => True) thread.history thread.program)
  · rw [idle]
    exact fun _ member => absurd member List.not_mem_nil
  · intro system event after paths _ effect thread member
    cases effect with
    | start tag world entered =>
      rcases List.mem_append.mp member with before | new
      · exact paths thread before
      · rw [List.mem_singleton.mp new]
        exact .refl
    | step index env acting op rest answer world found alive awaits executed =>
      rcases List.mem_or_eq_of_mem_set member with before | rfl
      · exact paths thread before
      · have path := paths acting (List.mem_of_getElem? found)
        rw [awaits] at path
        exact .step path trivial
    | cut index acting found running =>
      rcases List.mem_or_eq_of_mem_set member with before | rfl
      · exact paths thread before
      · exact paths acting (List.mem_of_getElem? found)

/-! ### Linking the world to the histories of the calls -/

theorem past_of_found {system : System Op Res World Tag ε α} {index : Nat} {thread : Thread Op Res Tag ε α}
    (found : system.threads[index]? = some thread) (alive : thread.cut = false) :
    system.past index = thread.history := by
  simp [System.past, found, alive]

theorem past_start (system : System Op Res World Tag ε α) (world : World) (tag : Tag) :
    System.past ⟨world, system.threads ++ [machine.fresh tag]⟩ = system.past := by
  funext index
  simp only [System.past, List.getElem?_append, List.getElem?_singleton]
  by_cases inside : index < system.threads.length
  · simp [inside]
  · by_cases last : index - system.threads.length = 0 <;> simp [inside, last, fresh]

theorem past_set {system : System Op Res World Tag ε α} {index : Nat} {thread : Thread Op Res Tag ε α}
    (found : system.threads[index]? = some thread) (world : World) (replaced : Thread Op Res Tag ε α) :
    System.past ⟨world, system.threads.set index replaced⟩ =
      Function.update system.past index (if replaced.cut then [] else replaced.history) := by
  funext other
  have inside : index < system.threads.length := (List.getElem?_eq_some_iff.mp found).1
  by_cases same : other = index
  · subst same
    simp [System.past, inside]
  · simp [System.past, Function.update_of_ne same, Ne.symm same]

/-- Rule for a link between the world and what every call has done: it is enough that one
operation performed as the contract allows keeps it, and that a cut keeps it. -/
theorem Run.linked {contract : Tag → Contract Op Res ε α} (honours : machine.Honours contract)
    {link : World → (Nat → History Op Res) → Prop} {initial system : System Op Res World Tag ε α}
    (kept : Kept contract initial) (start : link initial.world initial.past)
    (entered : ∀ tag world after past index, link world past → machine.enter tag world = some after →
      link (machine.close index tag (machine.program tag) after) past)
    (performed : ∀ index op env world answer after past tag program, link world past →
      (contract tag).before (past index) op → machine.exec index op env world = some (answer, after) →
      link (machine.close index tag program after) (Function.update past index (⟨op, answer⟩ :: past index)))
    (stopped : ∀ index tag world past, link world past →
      link (machine.leave index tag none world) (Function.update past index []))
    (run : machine.Reaches initial system) : Kept contract system ∧ link system.world system.past := by
  apply run.invariant (fun system => Kept contract system ∧ link system.world system.past) ⟨kept, start⟩
  intro system event after holds _ effect
  refine ⟨holds.1.effect honours effect, ?_⟩
  cases effect with
  | start tag world opened =>
    rw [past_start]
    exact entered tag _ _ _ _ holds.2 opened
  | step index env thread op rest answer world found alive awaits executed =>
    have path := holds.1 index thread found
    rw [awaits] at path
    have before : (contract thread.tag).before (system.past index) op := by
      rw [past_of_found found alive]
      exact path.1
    rw [past_set found]
    have history : (if (thread.resume ⟨op, answer⟩ (rest answer)).cut then []
        else (thread.resume ⟨op, answer⟩ (rest answer)).history) = ⟨op, answer⟩ :: system.past index := by
      rw [past_of_found found alive]
      simp [Thread.resume, alive]
    rw [history]
    exact performed index op env _ answer world _ thread.tag _ holds.2 before executed
  | cut index thread found running =>
    rw [past_set found]
    exact stopped index thread.tag _ _ holds.2

/-! ### Following every call along the runs of a condition -/

/-- One operation of a call that is on a path of its contract. -/
structure Act (machine : Machine Op Res Env World Tag ε α) (contract : Tag → Contract Op Res ε α)
    (system : System Op Res World Tag ε α) (index : Nat) (env : Env) (thread : Thread Op Res Tag ε α) (op : Op)
    (answer : Res op) (rest : Program Op Res ε α) (world : World) : Prop where
  found : system.calls index = some thread
  alive : thread.cut = false
  awaits : ∃ next, thread.program = .await op next ∧ next answer = rest
  executed : machine.exec index op env system.world = some (answer, world)
  before : (contract thread.tag).before thread.history op
  known : (contract thread.tag).answers op answer
  path : rest.Obeys (contract thread.tag) (⟨op, answer⟩ :: thread.history)

theorem Act.performs {contract : Tag → Contract Op Res ε α} {system : System Op Res World Tag ε α} {index : Nat}
    {env : Env} {thread : Thread Op Res Tag ε α} {op : Op} {answer : Res op} {rest : Program Op Res ε α} {world : World}
    (act : machine.Act contract system index env thread op answer rest world) :
    system.performs (.step index env : Event Env Tag) = some op := by
  obtain ⟨next, awaits, _⟩ := act.awaits
  exact performs_of_awaits act.found awaits

theorem calls_start (system : System Op Res World Tag ε α) (world : World) (thread : Thread Op Res Tag ε α) :
    System.calls ⟨world, system.threads ++ [thread]⟩ =
      Function.update system.calls system.threads.length (some thread) := by
  funext index
  simp only [System.calls, List.getElem?_append, List.getElem?_singleton, Function.update_apply]
  by_cases inside : index < system.threads.length
  · simp [inside, Nat.ne_of_lt inside]
  · by_cases last : index = system.threads.length
    · simp [last]
    · have beyond : ¬index - system.threads.length = 0 := by omega
      simp [inside, last, beyond]

theorem calls_set {system : System Op Res World Tag ε α} {index : Nat} {thread : Thread Op Res Tag ε α}
    (found : system.calls index = some thread) (world : World) (replaced : Thread Op Res Tag ε α) :
    System.calls ⟨world, system.threads.set index replaced⟩ = Function.update system.calls index (some replaced) := by
  funext other
  have inside : index < system.threads.length := (List.getElem?_eq_some_iff.mp found).1
  by_cases same : other = index
  · subst same
    simp [System.calls, inside]
  · simp [System.calls, Function.update_of_ne same, Ne.symm same]

/-- A call after one of them was replaced or added: that one, or another as it was. -/
theorem calls_update {calls : Nat → Option (Thread Op Res Tag ε α)} {index other : Nat}
    {replaced thread : Thread Op Res Tag ε α} (found : Function.update calls index (some replaced) other = some thread) :
    other = index ∧ thread = replaced ∨ other ≠ index ∧ calls other = some thread := by
  by_cases same : other = index
  · subst same
    rw [Function.update_self] at found
    exact .inl ⟨rfl, (Option.some.inj found).symm⟩
  · rw [Function.update_of_ne same] at found
    exact .inr ⟨same, found⟩

theorem map_update_calls {Label : Type} (rename : Tag → Label) (calls : Nat → Option (Thread Op Res Tag ε α))
    (index : Nat) (replaced : Thread Op Res Tag ε α) :
    (fun other => (Function.update calls index (some replaced) other).map (Thread.retag rename)) =
      Function.update (fun other => (calls other).map (Thread.retag rename)) index
        (some (replaced.retag rename)) := by
  funext other
  by_cases same : other = index
  · rw [same, Function.update_self, Function.update_self]
    rfl
  · rw [Function.update_of_ne same, Function.update_of_ne same]

/-- Some call is in a given situation. -/
def Someone (calls : Nat → Option (Thread Op Res Tag ε α)) (is : Thread Op Res Tag ε α → Prop) : Prop :=
  ∃ index thread, calls index = some thread ∧ is thread

theorem Someone.here {calls : Nat → Option (Thread Op Res Tag ε α)} {is : Thread Op Res Tag ε α → Prop} (index : Nat)
    {replaced : Thread Op Res Tag ε α} (now : is replaced) : Someone (Function.update calls index (some replaced)) is :=
  ⟨index, replaced, Function.update_self _ _ _, now⟩

/-- It is still so after one call was replaced, unless it was that call. -/
theorem Someone.update {calls : Nat → Option (Thread Op Res Tag ε α)} {is : Thread Op Res Tag ε α → Prop} {index : Nat}
    {replaced : Thread Op Res Tag ε α} (someone : Someone calls is)
    (still : ∀ thread, calls index = some thread → is thread → is replaced) :
    Someone (Function.update calls index (some replaced)) is := by
  obtain ⟨other, thread, found, was⟩ := someone
  by_cases same : other = index
  · subst same
    exact .here other (still thread found was)
  · exact ⟨other, thread, by rw [Function.update_of_ne same]; exact found, was⟩

/-- It was the replaced call, or it is still so. -/
theorem Someone.split {calls : Nat → Option (Thread Op Res Tag ε α)} {is : Thread Op Res Tag ε α → Prop} {index : Nat}
    {thread : Thread Op Res Tag ε α} (someone : Someone calls is) (found : calls index = some thread)
    (replaced : Thread Op Res Tag ε α) : is thread ∨ Someone (Function.update calls index (some replaced)) is := by
  obtain ⟨other, rival, there, was⟩ := someone
  by_cases same : other = index
  · subst same
    rw [found] at there
    cases there
    exact .inl was
  · exact .inr ⟨other, rival, by rw [Function.update_of_ne same]; exact there, was⟩

theorem someone_iff (system : System Op Res World Tag ε α) (is : Thread Op Res Tag ε α → Prop) :
    (∃ thread ∈ system.threads, is thread) ↔ Someone system.calls is := by
  constructor
  · rintro ⟨thread, member, now⟩
    obtain ⟨index, found⟩ := List.mem_iff_getElem?.mp member
    exact ⟨index, thread, found, now⟩
  · rintro ⟨index, thread, found, now⟩
    exact ⟨thread, List.mem_of_getElem? found, now⟩

instance (system : System Op Res World Tag ε α) (is : Thread Op Res Tag ε α → Prop) [DecidablePred is] :
    Decidable (Someone system.calls is) := decidable_of_iff _ (someone_iff system is)

/-- Nobody is in a situation that the replaced call is not in and nobody was in. -/
theorem not_someone_update {calls : Nat → Option (Thread Op Res Tag ε α)} {is : Thread Op Res Tag ε α → Prop} {index : Nat}
    {replaced : Thread Op Res Tag ε α} (nobody : ¬Someone calls is) (not : ¬is replaced) :
    ¬Someone (Function.update calls index (some replaced)) is := by
  rintro ⟨other, thread, found, now⟩
  rcases calls_update found with ⟨_, rfl⟩ | ⟨_, found⟩
  · exact not now
  · exact nobody ⟨other, thread, found, now⟩

theorem Run.reaches {condition : System Op Res World Tag ε α → Event Env Tag → Prop}
    {initial system : System Op Res World Tag ε α} (run : machine.Run condition initial system) :
    machine.Reaches initial system := by
  induction run with
  | refl => exact .refl
  | step _ _ stepped ih => exact .step ih trivial stepped

/-- A weaker condition has more runs. -/
theorem Run.mono {strong weak : System Op Res World Tag ε α → Event Env Tag → Prop}
    {initial system : System Op Res World Tag ε α} (run : machine.Run strong initial system)
    (weaken : ∀ system event, strong system event → weak system event) : machine.Run weak initial system := by
  induction run with
  | refl => exact .refl
  | step _ meets stepped ih => exact .step ih (weaken _ _ meets) stepped

/-- What one event does to the world and to the calls, each on a path of its contract. -/
inductive Move (machine : Machine Op Res Env World Tag ε α) (contract : Tag → Contract Op Res ε α)
    (system : System Op Res World Tag ε α) :
    Event Env Tag → World → (Nat → Option (Thread Op Res Tag ε α)) → Prop where
  | start (tag : Tag) (world : World) (free : system.calls system.threads.length = none)
      (entered : machine.enter tag system.world = some world)
      (path : (machine.program tag).Obeys (contract tag) []) :
      Move machine contract system (.start tag)
        (machine.close system.threads.length tag (machine.program tag) world)
        (Function.update system.calls system.threads.length (some (machine.fresh tag)))
  | step (index : Nat) (env : Env) (thread : Thread Op Res Tag ε α) (op : Op) (answer : Res op)
      (rest : Program Op Res ε α) (world : World)
      (act : machine.Act contract system index env thread op answer rest world) :
      Move machine contract system (.step index env) (machine.close index thread.tag rest world)
        (Function.update system.calls index (some (thread.resume ⟨op, answer⟩ rest)))
  | cut (index : Nat) (thread : Thread Op Res Tag ε α) (found : system.calls index = some thread)
      (running : thread.Running) :
      Move machine contract system (.cut index) (machine.leave index thread.tag none system.world)
        (Function.update system.calls index (some { thread with cut := true }))

theorem Kept.move {contract : Tag → Contract Op Res ε α} (honours : machine.Honours contract)
    {system after : System Op Res World Tag ε α} {event : Event Env Tag} (kept : Kept contract system)
    (effect : machine.Effect system event after) : machine.Move contract system event after.world after.calls := by
  cases effect with
  | start tag world entered =>
    rw [calls_start]
    exact .start tag world (by simp [System.calls]) entered (honours.programs tag)
  | step index env thread op rest answer world found alive awaits executed =>
    rw [calls_set found]
    have path := kept index thread found
    rw [awaits] at path
    have known := honours.answers executed thread.tag
    exact .step index env thread op answer (rest answer) world
      ⟨found, alive, ⟨rest, awaits, rfl⟩, executed, path.1, known, path.2 answer known⟩
  | cut index thread found running =>
    rw [calls_set found]
    exact .cut index thread found running

/-- A step of a given call performs the operation it awaits. -/
theorem Kept.acts {contract : Tag → Contract Op Res ε α} (honours : machine.Honours contract)
    {system after : System Op Res World Tag ε α} {index : Nat} {env : Env} {thread : Thread Op Res Tag ε α} {op : Op}
    {next : Res op → Program Op Res ε α} (kept : Kept contract system) (found : system.calls index = some thread)
    (awaits : thread.program = .await op next) (stepped : machine.next system (.step index env) = some after) :
    ∃ answer world, machine.Act contract system index env thread op answer (next answer) world ∧
      after.world = machine.close index thread.tag (next answer) world := by
  cases machine.effect_of_next stepped with
  | step _ _ acting other rest answer world here alive pending executed =>
    have same : some thread = some acting := found.symm.trans here
    cases same
    rw [awaits] at pending
    cases pending
    have path := kept index thread found
    rw [awaits] at path
    have known := honours.answers executed thread.tag
    exact ⟨answer, world, ⟨found, alive, ⟨next, awaits, rfl⟩, executed, path.1, known, path.2 answer known⟩, rfl⟩

/-- Rule for a link between the world and the calls along the runs of a condition. -/
theorem Run.tracked {contract : Tag → Contract Op Res ε α} (honours : machine.Honours contract)
    {condition : System Op Res World Tag ε α → Event Env Tag → Prop}
    (link : World → (Nat → Option (Thread Op Res Tag ε α)) → Prop) {initial system : System Op Res World Tag ε α}
    (kept : Kept contract initial) (start : link initial.world initial.calls)
    (moved : ∀ {system event world calls}, machine.Reaches initial system → link system.world system.calls →
      condition system event → machine.Move contract system event world calls → link world calls)
    (run : machine.Run condition initial system) : Kept contract system ∧ link system.world system.calls := by
  induction run with
  | refl => exact ⟨kept, start⟩
  | step run meets stepped ih =>
    have effect := machine.effect_of_next stepped
    exact ⟨ih.1.effect honours effect, moved run.reaches ih.2 meets (ih.1.move honours effect)⟩

end Machine
end MpcKit.Async
