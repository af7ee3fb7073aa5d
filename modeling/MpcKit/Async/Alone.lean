import MpcKit.Async.Machine

/-! A function that runs to its end with nobody else at work: every operation is performed on the
world the one before has left. -/

namespace MpcKit.Async

variable {Op : Type} {Res : Op → Type} {Env World Tag ε α β : Type}

namespace Program

/-- The outcome and the world at the end; `none` when an operation would have to wait. -/
def alone (exec : (op : Op) → World → Option (Res op × World)) : Program Op Res ε α → World → Option (Except ε α × World)
  | .ret value, world => some (.ok value, world)
  | .raise error, world => some (.error error, world)
  | .await op rest, world => (exec op world).bind (fun reply => (rest reply.1).alone exec reply.2)

variable {exec : (op : Op) → World → Option (Res op × World)}

@[simp] theorem ret_alone (value : α) (world : World) :
    (.ret value : Program Op Res ε α).alone exec world = some (.ok value, world) := rfl

@[simp] theorem raise_alone (error : ε) (world : World) :
    (.raise error : Program Op Res ε α).alone exec world = some (.error error, world) := rfl

theorem await_alone {op : Op} {rest : Res op → Program Op Res ε α} {world after : World} {answer : Res op}
    (performed : exec op world = some (answer, after)) :
    (Program.await op rest).alone exec world = (rest answer).alone exec after := by
  simp only [alone, performed, Option.bind_some]

theorem bind_alone {program : Program Op Res ε α} {next : α → Program Op Res ε β} {world after : World} {value : α}
    (returned : program.alone exec world = some (.ok value, after)) :
    (program.bind next).alone exec world = (next value).alone exec after := by
  induction program generalizing world with
  | ret value =>
    cases returned
    rfl
  | raise error => cases returned
  | await op rest ih =>
    obtain ⟨⟨answer, later⟩, performed, returned⟩ := Option.bind_eq_some_iff.mp returned
    rw [await_bind, await_alone performed]
    exact ih answer returned

theorem bind_alone_of_thrown {program : Program Op Res ε α} {next : α → Program Op Res ε β} {world after : World} {error : ε}
    (thrown : program.alone exec world = some (.error error, after)) :
    (program.bind next).alone exec world = some (.error error, after) := by
  induction program generalizing world with
  | ret value => cases thrown
  | raise error =>
    cases thrown
    rfl
  | await op rest ih =>
    obtain ⟨⟨answer, later⟩, performed, thrown⟩ := Option.bind_eq_some_iff.mp thrown
    rw [await_bind, await_alone performed]
    exact ih answer thrown

theorem rescue_alone {program : Program Op Res ε α} {handler : ε → Program Op Res ε α} {world after : World} {value : α}
    (returned : program.alone exec world = some (.ok value, after)) :
    (program.rescue handler).alone exec world = some (.ok value, after) := by
  induction program generalizing world with
  | ret value =>
    cases returned
    rfl
  | raise error => cases returned
  | await op rest ih =>
    obtain ⟨⟨answer, later⟩, performed, returned⟩ := Option.bind_eq_some_iff.mp returned
    rw [rescue, await_alone performed]
    exact ih answer returned

theorem rescue_alone_of_thrown {program : Program Op Res ε α} {handler : ε → Program Op Res ε α} {world after : World}
    {error : ε} (thrown : program.alone exec world = some (.error error, after)) :
    (program.rescue handler).alone exec world = (handler error).alone exec after := by
  induction program generalizing world with
  | ret value => cases thrown
  | raise error =>
    cases thrown
    rfl
  | await op rest ih =>
    obtain ⟨⟨answer, later⟩, performed, thrown⟩ := Option.bind_eq_some_iff.mp thrown
    rw [rescue, await_alone performed]
    exact ih answer thrown

/-- A function that has ended does nothing more. -/
theorem alone_of_outcome {program : Program Op Res ε α} {value : Except ε α} (ended : program.outcome = some value)
    (world : World) : program.alone exec world = some (value, world) := by
  cases program with
  | ret value =>
    cases ended
    rfl
  | raise error =>
    cases ended
    rfl
  | await op rest => cases ended

/-! ### Answered in any way -/

/-- A run to the end, oldest operation first, in which the environment decides anew at every operation. -/
inductive Ran (exec : (op : Op) → Env → World → Option (Res op × World)) :
    Program Op Res ε α → World → History Op Res → Except ε α → World → Prop where
  | ret (value : α) (world : World) : Ran exec (.ret value) world [] (.ok value) world
  | raise (error : ε) (world : World) : Ran exec (.raise error) world [] (.error error) world
  | await {op : Op} {rest : Res op → Program Op Res ε α} {world middle after : World} {answer : Res op} (env : Env)
      {history : History Op Res} {result : Except ε α} (performed : exec op env world = some (answer, middle))
      (ran : Ran exec (rest answer) middle history result after) :
      Ran exec (.await op rest) world (⟨op, answer⟩ :: history) result after

section Ran

variable {exec : (op : Op) → Env → World → Option (Res op × World)} {world after : World} {history : History Op Res}

/-- A sequence ran to the end of its first part and then through the second, unless the first threw. -/
theorem Ran.split {program : Program Op Res ε α} {next : α → Program Op Res ε β} {result : Except ε β}
    (ran : (program.bind next).Ran exec world history result after) :
    (∃ value middle first rest, program.Ran exec world first (.ok value) middle ∧
      (next value).Ran exec middle rest result after ∧ history = first ++ rest) ∨
    ∃ error, program.Ran exec world history (.error error) after ∧ result = .error error := by
  induction program generalizing world history with
  | ret value => exact .inl ⟨value, world, [], history, .ret value world, ran, rfl⟩
  | raise error =>
    cases ran
    exact .inr ⟨error, .raise error _, rfl⟩
  | await op rest ih =>
    cases ran with
    | await env performed ran =>
      rcases ih _ ran with ⟨value, middle, first, second, returned, onward, rfl⟩ | ⟨error, thrown, rfl⟩
      · exact .inl ⟨value, middle, _, second, .await env performed returned, onward, rfl⟩
      · exact .inr ⟨error, .await env performed thrown, rfl⟩

/-- A run in which every operation is answered from a fixed environment. -/
theorem Ran.of_alone {program : Program Op Res ε α} {result : Except ε α} (respond : Op → Env)
    (ended : program.alone (fun op => exec op (respond op)) world = some (result, after)) :
    ∃ history, program.Ran exec world history result after := by
  induction program generalizing world with
  | ret value =>
    cases ended
    exact ⟨[], .ret value _⟩
  | raise error =>
    cases ended
    exact ⟨[], .raise error _⟩
  | await op rest ih =>
    obtain ⟨⟨answer, middle⟩, performed, ended⟩ := Option.bind_eq_some_iff.mp ended
    obtain ⟨history, ran⟩ := ih answer ended
    exact ⟨_, .await (respond op) performed ran⟩

theorem ran_unwrap {value result : Except ε α} (ran : (unwrap value).Ran exec world history result after) :
    result = value ∧ after = world ∧ history = [] := by
  cases value <;> cases ran <;> exact ⟨rfl, rfl, rfl⟩

end Ran

end Program

namespace Machine

variable {machine : Machine Op Res Env World Tag ε α}

/-- What a function does alone, a call of it does in the machine when no other call takes a step. -/
theorem reaches_alone {system : System Op Res World Tag ε α} {index : Nat} {thread : Thread Op Res Tag ε α}
    (respond : Op → World → Env) (found : system.threads[index]? = some thread) (alive : thread.cut = false)
    {result : Except ε α} {after : World}
    (ended : thread.program.alone (fun op world => machine.exec index op (respond op world) world) system.world =
      some (result, after))
    (pending : thread.program.outcome = none) :
    ∃ final later, machine.Reaches system final ∧ final.threads.length = system.threads.length ∧
      final.threads[index]? = some later ∧ later.tag = thread.tag ∧ later.program.outcome = some result ∧
      final.world = machine.leave index thread.tag (some result) after := by
  obtain ⟨tag, program, history, cut⟩ := thread
  cases alive
  induction program generalizing system history with
  | ret value => cases pending
  | raise error => cases pending
  | await op rest ih =>
    obtain ⟨⟨answer, world⟩, performed, ended⟩ := Option.bind_eq_some_iff.mp ended
    have stepped := machine.next_step found rfl rfl performed
    have inside : index < system.threads.length := (List.getElem?_eq_some_iff.mp found).1
    have first : machine.Reaches system ⟨machine.close index tag (rest answer) world,
        system.threads.set index ⟨tag, rest answer, ⟨op, answer⟩ :: history, false⟩⟩ := .step .refl trivial stepped
    have here : (system.threads.set index ⟨tag, rest answer, ⟨op, answer⟩ :: history, false⟩)[index]? =
        some ⟨tag, rest answer, ⟨op, answer⟩ :: history, false⟩ := List.getElem?_set_self inside
    cases last : (rest answer).outcome with
    | some value =>
      rw [Program.alone_of_outcome last] at ended
      cases ended
      refine ⟨_, _, first, List.length_set, here, rfl, last, ?_⟩
      simp only [close, last]
    | none =>
      have running : machine.close index tag (rest answer) world = world := by rw [close, last]
      rw [running] at first
      obtain ⟨final, later, onward, counted, done⟩ := @ih answer ⟨world, _⟩ _ here ended last
      exact ⟨final, later, first.trans onward, counted.trans List.length_set, done⟩

end Machine
end MpcKit.Async
