import MpcKit.Async.Program

/-! A protocol for async functions: a state computed from what a call has done, and the
operations it may perform in each state. A function follows it when all of its paths do. -/

namespace MpcKit.Async

structure Protocol (Op : Type) (Res : Op → Type) (σ : Type) where
  initial : σ
  next : σ → (op : Op) → Res op → σ
  Allowed : σ → Op → Prop
  /-- What is known of an answer, whatever the world it came from. -/
  answers : (op : Op) → Res op → Prop

namespace Protocol

variable {Op : Type} {Res : Op → Type} {σ ε α β : Type} (protocol : Protocol Op Res σ)

def state : History Op Res → σ
  | [] => protocol.initial
  | entry :: history => protocol.next (state history) entry.1 entry.2

def contract (post : σ → Except ε α → Prop) : Contract Op Res ε α where
  answers := protocol.answers
  before history op := protocol.Allowed (protocol.state history) op
  after history result := post (protocol.state history) result

/-- From state `start` every path of the program keeps to the protocol and ends in `post`. -/
def Follows (start : σ) (program : Program Op Res ε α) (post : σ → Except ε α → Prop) : Prop :=
  ∀ history, protocol.state history = start → program.Obeys (protocol.contract post) history

variable {protocol} {start : σ} {post : σ → Except ε α → Prop}

theorem Follows.obeys {program : Program Op Res ε α} (follows : protocol.Follows protocol.initial program post) :
    program.Obeys (protocol.contract post) [] := follows [] rfl

theorem Follows.ret {value : α} (ends : post start (.ok value)) :
    protocol.Follows start (.ret value : Program Op Res ε α) post := by
  rintro history rfl
  exact ends

theorem Follows.raise {error : ε} (ends : post start (.error error)) :
    protocol.Follows start (.raise error : Program Op Res ε α) post := by
  rintro history rfl
  exact ends

theorem Follows.await {op : Op} {next : Res op → Program Op Res ε α} (allowed : protocol.Allowed start op)
    (rest : ∀ answer, protocol.answers op answer → protocol.Follows (protocol.next start op answer) (next answer) post) :
    protocol.Follows start (.await op next) post := by
  rintro history rfl
  exact ⟨allowed, fun answer known => rest answer known _ rfl⟩

theorem Follows.perform {op : Op} {next : Res op → Program Op Res ε α} (allowed : protocol.Allowed start op)
    (rest : ∀ answer, protocol.answers op answer → protocol.Follows (protocol.next start op answer) (next answer) post) :
    protocol.Follows start ((Program.perform op).bind next) post :=
  .await allowed rest

theorem Follows.mono {program : Program Op Res ε α} {strong weak : σ → Except ε α → Prop}
    (follows : protocol.Follows start program strong) (weaken : ∀ state result, strong state result → weak state result) :
    protocol.Follows start program weak := by
  intro history there
  have path : program.Obeys ((protocol.contract strong).ending
      (fun history result => strong (protocol.state history) result)) history := follows history there
  exact path.mono (fun history result => weaken (protocol.state history) result)

theorem Follows.bind {program : Program Op Res ε α} {next : α → Program Op Res ε β} {after : σ → Except ε β → Prop}
    (first : protocol.Follows start program post)
    (returned : ∀ state value, post state (.ok value) → protocol.Follows state (next value) after)
    (thrown : ∀ state error, post state (.error error) → after state (.error error)) :
    protocol.Follows start (program.bind next) after := by
  intro history there
  have path : program.Obeys ((protocol.contract after).ending
      (fun history result => post (protocol.state history) result)) history := first history there
  exact path.bind (fun history value ended => returned _ value ended history rfl)
    (fun history error ended => thrown _ error ended)

theorem Follows.rescue (middle : σ → Except ε α → Prop) {program : Program Op Res ε α}
    {handler : ε → Program Op Res ε α} {after : σ → Except ε α → Prop}
    (first : protocol.Follows start program middle)
    (returned : ∀ state value, middle state (.ok value) → after state (.ok value))
    (thrown : ∀ state error, middle state (.error error) → protocol.Follows state (handler error) after) :
    protocol.Follows start (program.rescue handler) after := by
  intro history there
  have path : program.Obeys ((protocol.contract after).ending
      (fun history result => middle (protocol.state history) result)) history := first history there
  exact path.rescue _ (fun history value ended => returned _ value ended)
    (fun history error ended => thrown _ error ended history rfl)

theorem Follows.ensure {program : Program Op Res ε α} {cleanup : Program Op Res ε Unit} {after : σ → Except ε α → Prop}
    (first : protocol.Follows start program post)
    (cleaned : ∀ state result, post state result →
      protocol.Follows state (cleanup.bind (fun _ => Program.unwrap result)) after) :
    protocol.Follows start (program.ensure cleanup) after := by
  intro history there
  have path : program.Obeys ((protocol.contract after).ending
      (fun history result => post (protocol.state history) result)) history := first history there
  exact path.ensure _ (fun history result ended => cleaned _ result ended history rfl)

/-- A result that is thrown or handed on. -/
theorem follows_unwrap {result : Except ε α} (ends : post start result) :
    protocol.Follows start (Program.unwrap result) post := by
  cases result with
  | ok value => exact .ret ends
  | error error => exact .raise ends

theorem Follows.unwrap {result : Except ε α} {next : α → Program Op Res ε β} {after : σ → Except ε β → Prop}
    (returned : ∀ value, result = .ok value → protocol.Follows start (next value) after)
    (thrown : ∀ error, result = .error error → after start (.error error)) :
    protocol.Follows start ((Program.unwrap result).bind next) after := by
  cases result with
  | ok value => exact returned value rfl
  | error error => exact .raise (thrown error rfl)

end Protocol
end MpcKit.Async
