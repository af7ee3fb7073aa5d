import Mathlib.Data.List.Basic

/-! An async function is the tree of its awaits. Between two awaits it computes without
interference; at an await it performs one atomic operation of its environment, and
everything it does next depends on the answer alone. -/

namespace MpcKit.Async

inductive Program (Op : Type) (Res : Op → Type) (ε α : Type) where
  | ret (value : α)
  | raise (error : ε)
  | await (op : Op) (next : Res op → Program Op Res ε α)

/-- One performed operation with the answer it got. -/
abbrev Entry (Op : Type) (Res : Op → Type) := (op : Op) × Res op

/-- The operations a call has performed, newest first. -/
abbrev History (Op : Type) (Res : Op → Type) := List (Entry Op Res)

namespace Program

variable {Op : Type} {Res : Op → Type} {ε α β : Type}

def bind : Program Op Res ε α → (α → Program Op Res ε β) → Program Op Res ε β
  | .ret value, next => next value
  | .raise error, _ => .raise error
  | .await op rest, next => .await op (fun answer => (rest answer).bind next)

/-- `try { program } catch (error) { handler(error) }`. -/
def rescue : Program Op Res ε α → (ε → Program Op Res ε α) → Program Op Res ε α
  | .ret value, _ => .ret value
  | .raise error, handler => handler error
  | .await op rest, handler => .await op (fun answer => (rest answer).rescue handler)

instance : Monad (Program Op Res ε) where
  pure := .ret
  bind := bind

instance : MonadExcept ε (Program Op Res ε) where
  throw := .raise
  tryCatch := rescue

/-- Await one operation. -/
def perform (op : Op) : Program Op Res ε (Res op) := .await op .ret

/-- Throw the error an operation answered with. -/
def unwrap : Except ε α → Program Op Res ε α
  | .ok value => .ret value
  | .error error => .raise error

/-- `for (const item of items) { state = await body(state, item) }`. -/
def fold (body : α → β → Program Op Res ε α) : α → List β → Program Op Res ε α
  | state, [] => .ret state
  | state, item :: items => (body state item).bind (fun state => fold body state items)

/-- `try { return await program } finally { await cleanup }`. -/
def ensure : Program Op Res ε α → Program Op Res ε Unit → Program Op Res ε α
  | .ret value, cleanup => cleanup.bind (fun _ => .ret value)
  | .raise error, cleanup => cleanup.bind (fun _ => .raise error)
  | .await op rest, cleanup => .await op (fun answer => (rest answer).ensure cleanup)

/-- `some` with the outcome once the function has returned or thrown. -/
def outcome : Program Op Res ε α → Option (Except ε α)
  | .ret value => some (.ok value)
  | .raise error => some (.error error)
  | .await _ _ => none

@[simp] theorem bind_eq (program : Program Op Res ε α) (next : α → Program Op Res ε β) :
    program >>= next = program.bind next := rfl

@[simp] theorem pure_eq (value : α) : (pure value : Program Op Res ε α) = .ret value := rfl

@[simp] theorem throw_eq (error : ε) : (throw error : Program Op Res ε α) = .raise error := rfl

@[simp] theorem ret_bind (value : α) (next : α → Program Op Res ε β) :
    (Program.ret value : Program Op Res ε α).bind next = next value := rfl

@[simp] theorem raise_bind (error : ε) (next : α → Program Op Res ε β) :
    (Program.raise error : Program Op Res ε α).bind next = .raise error := rfl

@[simp] theorem await_bind (op : Op) (rest : Res op → Program Op Res ε α)
    (next : α → Program Op Res ε β) :
    (Program.await op rest).bind next = .await op (fun answer => (rest answer).bind next) := rfl

@[simp] theorem perform_bind (op : Op) (next : Res op → Program Op Res ε β) :
    (perform op).bind next = .await op next := rfl

end Program

/-! ### Contracts along the paths of one call

A contract speaks about the history of a single call: what has been performed when an
operation is awaited, and when the call ends. It never mentions shared state, so it is
proved by walking through the function once. -/

structure Contract (Op : Type) (Res : Op → Type) (ε α : Type) where
  /-- What is known of an answer, whatever the state it came from. -/
  answers : (op : Op) → Res op → Prop
  before : History Op Res → Op → Prop
  after : History Op Res → Except ε α → Prop

/-- The same contract with another final condition, for a part of a function. -/
def Contract.ending {Op : Type} {Res : Op → Type} {ε α β : Type} (contract : Contract Op Res ε α)
    (after : History Op Res → Except ε β → Prop) : Contract Op Res ε β :=
  ⟨contract.answers, contract.before, after⟩

def Contract.both {Op : Type} {Res : Op → Type} {ε α : Type} (first second : Contract Op Res ε α) :
    Contract Op Res ε α where
  answers op answer := first.answers op answer ∧ second.answers op answer
  before history op := first.before history op ∧ second.before history op
  after history result := first.after history result ∧ second.after history result

namespace Program

variable {Op : Type} {Res : Op → Type} {ε α β γ : Type}

/-- Every path of the program, started after `history`, meets the contract. -/
def Obeys (contract : Contract Op Res ε α) : History Op Res → Program Op Res ε α → Prop
  | history, .ret value => contract.after history (.ok value)
  | history, .raise error => contract.after history (.error error)
  | history, .await op next => contract.before history op ∧
      ∀ answer, contract.answers op answer → Obeys contract (⟨op, answer⟩ :: history) (next answer)

theorem Obeys.mono {contract : Contract Op Res ε γ} {strong weak : History Op Res → Except ε α → Prop}
    {history : History Op Res} {program : Program Op Res ε α}
    (obeys : program.Obeys (contract.ending strong) history)
    (weaken : ∀ history result, strong history result → weak history result) :
    program.Obeys (contract.ending weak) history := by
  induction program generalizing history with
  | ret value => exact weaken _ _ obeys
  | raise error => exact weaken _ _ obeys
  | await op next ih =>
    exact ⟨obeys.1, fun answer known => ih answer (obeys.2 answer known)⟩

/-- Sequencing: the first part ends in `middle`, from which the rest meets the contract. -/
theorem Obeys.bind {contract : Contract Op Res ε γ} {middle : History Op Res → Except ε α → Prop}
    {after : History Op Res → Except ε β → Prop} {history : History Op Res}
    {program : Program Op Res ε α} {next : α → Program Op Res ε β}
    (first : program.Obeys (contract.ending middle) history)
    (returned : ∀ history value, middle history (.ok value) → (next value).Obeys (contract.ending after) history)
    (thrown : ∀ history error, middle history (.error error) → after history (.error error)) :
    (program.bind next).Obeys (contract.ending after) history := by
  induction program generalizing history with
  | ret value => exact returned _ _ first
  | raise error => exact thrown _ _ first
  | await op rest ih =>
    exact ⟨first.1, fun answer known => ih answer (first.2 answer known)⟩

theorem Obeys.rescue {contract : Contract Op Res ε γ} {after : History Op Res → Except ε α → Prop}
    (middle : History Op Res → Except ε α → Prop) {history : History Op Res} {program : Program Op Res ε α} {handler : ε → Program Op Res ε α}
    (first : program.Obeys (contract.ending middle) history)
    (returned : ∀ history value, middle history (.ok value) → after history (.ok value))
    (thrown : ∀ history error, middle history (.error error) →
      (handler error).Obeys (contract.ending after) history) :
    (program.rescue handler).Obeys (contract.ending after) history := by
  induction program generalizing history with
  | ret value => exact returned _ _ first
  | raise error => exact thrown _ _ first
  | await op rest ih =>
    exact ⟨first.1, fun answer known => ih answer (first.2 answer known)⟩

theorem obeys_perform {contract : Contract Op Res ε α} {history : History Op Res} {op : Op}
    {next : Res op → Program Op Res ε α} (allowed : contract.before history op)
    (rest : ∀ answer, contract.answers op answer → (next answer).Obeys contract (⟨op, answer⟩ :: history)) :
    ((perform op).bind next).Obeys contract history := ⟨allowed, rest⟩

theorem obeys_unwrap {contract : Contract Op Res ε γ} {after : History Op Res → Except ε α → Prop}
    {history : History Op Res} {result : Except ε α} (ends : after history result) :
    (unwrap result).Obeys (contract.ending after) history := by
  cases result with
  | ok value => exact ends
  | error error => exact ends

/-- Cleaning up ends as the program did, unless the clean-up throws itself. -/
theorem Obeys.ensure {contract : Contract Op Res ε γ} {after : History Op Res → Except ε α → Prop}
    (middle : History Op Res → Except ε α → Prop) {history : History Op Res} {program : Program Op Res ε α}
    {cleanup : Program Op Res ε Unit} (first : program.Obeys (contract.ending middle) history)
    (cleaned : ∀ history result, middle history result →
      (cleanup.bind (fun _ => unwrap result)).Obeys (contract.ending after) history) :
    (program.ensure cleanup).Obeys (contract.ending after) history := by
  induction program generalizing history with
  | ret value => exact cleaned _ _ first
  | raise error => exact cleaned _ _ first
  | await op rest ih =>
    exact ⟨first.1, fun answer known => ih answer (first.2 answer known)⟩

/-- What an accumulating loop keeps between two iterations, and how it ends when one throws. -/
def between (invariant : History Op Res → α → Prop) (failed : History Op Res → ε → Prop) :
    History Op Res → Except ε α → Prop
  | history, .ok state => invariant history state
  | history, .error error => failed history error

/-- Loop rule: `invariant` holds of the history and the accumulator between two iterations. -/
theorem Obeys.fold {contract : Contract Op Res ε γ} (invariant : History Op Res → α → Prop)
    (failed : History Op Res → ε → Prop) {body : α → β → Program Op Res ε α} {items : List β}
    {history : History Op Res} {state : α} (start : invariant history state)
    (iteration : ∀ item ∈ items, ∀ history state, invariant history state →
      (body state item).Obeys (contract.ending (between invariant failed)) history) :
    (fold body state items).Obeys (contract.ending (between invariant failed)) history := by
  induction items generalizing history state with
  | nil => exact start
  | cons item items ih =>
    apply Obeys.bind (iteration item (by simp) history state start)
    · intro history state kept
      exact ih kept (fun other member => iteration other (List.mem_cons_of_mem _ member))
    · intro history error kept
      exact kept

/-- The same rule for a loop whose invariant knows which items are done. -/
theorem Obeys.fold_done {contract : Contract Op Res ε γ} (invariant : List β → History Op Res → α → Prop)
    (failed : History Op Res → ε → Prop) {body : α → β → Program Op Res ε α} (done : List β) {items : List β}
    {history : History Op Res} {state : α} (start : invariant done history state)
    (iteration : ∀ done item rest, items = done ++ item :: rest → ∀ history state, invariant done history state →
      (body state item).Obeys (contract.ending (between (invariant (done ++ [item])) failed)) history)
    (todo : List β) (split : items = done ++ todo) :
    (Program.fold body state todo).Obeys (contract.ending (between (invariant items) failed)) history := by
  induction todo generalizing done history state with
  | nil =>
    rw [List.append_nil] at split
    rw [split]
    exact start
  | cons item rest ih =>
    apply Obeys.bind (iteration done item rest split history state start)
    · intro history state kept
      exact ih (done ++ [item]) kept (by simpa using split)
    · intro history error kept
      exact kept

/-- Two contracts at once. -/
theorem Obeys.both {first second : Contract Op Res ε α} {history : History Op Res} {program : Program Op Res ε α}
    (one : program.Obeys first history) (other : program.Obeys second history) :
    program.Obeys (first.both second) history := by
  induction program generalizing history with
  | ret value => exact ⟨one, other⟩
  | raise error => exact ⟨one, other⟩
  | await op next ih =>
    exact ⟨⟨one.1, other.1⟩, fun answer known => ih answer (one.2 answer known.1) (other.2 answer known.2)⟩

/-! ### Single runs -/

/-- The program performs its operations with the answers of `history` and is left with `rest`. -/
inductive Path (answers : (op : Op) → Res op → Prop) (program : Program Op Res ε α) :
    History Op Res → Program Op Res ε α → Prop where
  | refl : Path answers program [] program
  | step {history : History Op Res} {op : Op} {next : Res op → Program Op Res ε α} {answer : Res op}
      (path : Path answers program history (.await op next)) (known : answers op answer) :
      Path answers program (⟨op, answer⟩ :: history) (next answer)

theorem Obeys.path {contract : Contract Op Res ε α} {program rest : Program Op Res ε α} {history : History Op Res}
    (obeys : program.Obeys contract []) (path : program.Path contract.answers history rest) :
    rest.Obeys contract history := by
  induction path with
  | refl => exact obeys
  | step path known ih => exact ih.2 _ known

theorem Path.answered {answers : (op : Op) → Res op → Prop} {program rest : Program Op Res ε α}
    {history : History Op Res} (path : program.Path answers history rest) {entry : Entry Op Res}
    (heard : entry ∈ history) : answers entry.1 entry.2 := by
  induction path with
  | refl => cases heard
  | step path known ih =>
    rcases List.mem_cons.mp heard with rfl | before
    · exact known
    · exact ih before

/-- The run in which the environment answers by a fixed rule, for at most `steps` operations. -/
def follow (respond : (op : Op) → Res op) : Nat → Program Op Res ε α → History Op Res → History Op Res × Program Op Res ε α
  | steps + 1, .await op next, history => follow respond steps (next (respond op)) (⟨op, respond op⟩ :: history)
  | _, program, history => (history, program)

theorem Path.follow {answers : (op : Op) → Res op → Prop} {program rest : Program Op Res ε α}
    {history : History Op Res} {respond : (op : Op) → Res op} (honest : ∀ op, answers op (respond op)) (steps : Nat)
    (path : program.Path answers history rest) :
    program.Path answers (rest.follow respond steps history).1 (rest.follow respond steps history).2 := by
  induction steps generalizing history rest with
  | zero => cases rest <;> exact path
  | succ steps ih => cases rest with
    | ret value => exact path
    | raise error => exact path
    | await op next => exact ih (.step path (honest op))

/-- Some path of the program gets to an operation of a kind. -/
inductive Gets (answers : (op : Op) → Res op → Prop) (kind : Op → Prop) : Program Op Res ε α → Prop where
  | here {op : Op} {next : Res op → Program Op Res ε α} (there : kind op) : Gets answers kind (.await op next)
  | later {op : Op} {next : Res op → Program Op Res ε α} (answer : Res op) (known : answers op answer)
      (onward : Gets answers kind (next answer)) : Gets answers kind (.await op next)

theorem Obeys.of_gets {contract : Contract Op Res ε α} {kind : Op → Prop} {program : Program Op Res ε α}
    {history : History Op Res} (obeys : program.Obeys contract history) (gets : program.Gets contract.answers kind) :
    ∃ history op, contract.before history op ∧ kind op := by
  induction gets generalizing history with
  | here there => exact ⟨history, _, obeys.1, there⟩
  | later answer known _ ih => exact ih (obeys.2 answer known)

/-- The operation the program performs next. -/
def awaits : Program Op Res ε α → Option Op
  | .await op _ => some op
  | _ => none

/-- What a call performs next, its contract allows. -/
theorem Obeys.of_awaits {contract : Contract Op Res ε α} {history : History Op Res} {program : Program Op Res ε α}
    {op : Op} (path : program.Obeys contract history) (awaited : program.awaits = some op) : contract.before history op := by
  cases program with
  | ret value => cases awaited
  | raise error => cases awaited
  | await own next =>
    cases awaited
    exact path.1

/-- A call that has ended, ended as its contract says. -/
theorem Obeys.of_outcome {contract : Contract Op Res ε α} {history : History Op Res} {program : Program Op Res ε α}
    {result : Except ε α} (path : program.Obeys contract history) (ended : program.outcome = some result) :
    contract.after history result := by
  cases program with
  | ret value =>
    cases ended
    exact path
  | raise error =>
    cases ended
    exact path
  | await op next => cases ended

theorem unwrap_of_outcome {program : Program Op Res ε α} {result : Except ε α}
    (ended : program.outcome = some result) : program = unwrap result := by
  cases program with
  | ret value => cases ended; rfl
  | raise error => cases ended; rfl
  | await op next => cases ended

/-- A run to the end. -/
def Ends (answers : (op : Op) → Res op → Prop) (program : Program Op Res ε α) (history : History Op Res)
    (result : Except ε α) : Prop := program.Path answers history (unwrap result)

theorem ends_of_follow {answers : (op : Op) → Res op → Prop} {program : Program Op Res ε α} {result : Except ε α}
    {respond : (op : Op) → Res op} (honest : ∀ op, answers op (respond op)) {steps : Nat}
    (ended : (program.follow respond steps []).2.outcome = some result) :
    program.Ends answers (program.follow respond steps []).1 result := by
  have start : program.Path answers [] program := .refl
  have path := start.follow honest steps
  rw [unwrap_of_outcome ended] at path
  exact path

theorem Obeys.ends {contract : Contract Op Res ε α} {program : Program Op Res ε α} {history : History Op Res}
    {result : Except ε α} (obeys : program.Obeys contract []) (ends : program.Ends contract.answers history result) :
    contract.after history result := by
  have final := obeys.path ends
  cases result with
  | ok value => exact final
  | error error => exact final

/-- Every operation the program performs is of a given kind. -/
def Only (good : Op → Prop) : Program Op Res ε α → Prop
  | .ret _ => True
  | .raise _ => True
  | .await op next => good op ∧ ∀ answer, Only good (next answer)

theorem Only.bind {good : Op → Prop} {program : Program Op Res ε α} {next : α → Program Op Res ε β}
    (first : program.Only good) (second : ∀ value, (next value).Only good) : (program.bind next).Only good := by
  induction program with
  | ret value => exact second value
  | raise error => trivial
  | await op rest ih => exact ⟨first.1, fun answer => ih answer (first.2 answer)⟩

theorem Only.rescue {good : Op → Prop} {program : Program Op Res ε α} {handler : ε → Program Op Res ε α}
    (first : program.Only good) (second : ∀ error, (handler error).Only good) : (program.rescue handler).Only good := by
  induction program with
  | ret value => trivial
  | raise error => exact second error
  | await op rest ih => exact ⟨first.1, fun answer => ih answer (first.2 answer)⟩

theorem Only.fold {good : Op → Prop} {body : α → β → Program Op Res ε α} (items : List β) (state : α)
    (iteration : ∀ state item, (body state item).Only good) : (fold body state items).Only good := by
  induction items generalizing state with
  | nil => trivial
  | cons item items ih => exact (iteration state item).bind ih

theorem only_perform {good : Op → Prop} {op : Op} {next : Res op → Program Op Res ε α} (kind : good op)
    (rest : ∀ answer, (next answer).Only good) : ((perform op).bind next).Only good := ⟨kind, rest⟩

theorem only_unwrap {good : Op → Prop} (result : Except ε α) : (unwrap result : Program Op Res ε α).Only good := by
  cases result <;> trivial

theorem Only.mono {strong weak : Op → Prop} {program : Program Op Res ε α} (only : program.Only strong)
    (weaken : ∀ op, strong op → weak op) : program.Only weak := by
  induction program with
  | ret value => trivial
  | raise error => trivial
  | await op next ih => exact ⟨weaken op only.1, fun answer => ih answer (only.2 answer)⟩

/-- What operations of this kind leave alone holds to the end. -/
theorem Only.obeys {good : Op → Prop} {contract : Contract Op Res ε γ} (kept : History Op Res → Prop)
    {after : History Op Res → Except ε α → Prop} {program : Program Op Res ε α} {history : History Op Res}
    (only : program.Only good) (start : kept history)
    (stable : ∀ history op, good op → kept history → contract.before history op ∧
      ∀ answer, kept (⟨op, answer⟩ :: history))
    (ended : ∀ history result, kept history → after history result) :
    program.Obeys (contract.ending after) history := by
  induction program generalizing history with
  | ret value => exact ended _ _ start
  | raise error => exact ended _ _ start
  | await op next ih =>
    have step := stable history op only.1 start
    exact ⟨step.1, fun answer _ => ih answer (only.2 answer) (step.2 answer)⟩

end Program
end MpcKit.Async
