import MpcKit.Async.Beside

/-! What a call has been answered so far, as evidence for what it does next. -/

namespace MpcKit.Async

variable {Op : Type} {Res : Op → Type} {ε α β γ : Type}

/-- The call has performed the operation and got the answer. -/
def Heard (history : History Op Res) (op : Op) (answer : Res op) : Prop := (⟨op, answer⟩ : Entry Op Res) ∈ history

theorem Heard.last {history : History Op Res} {op : Op} {answer : Res op} : Heard (⟨op, answer⟩ :: history) op answer :=
  List.mem_cons_self

theorem Heard.later {history later : History Op Res} {op : Op} {answer : Res op} (heard : Heard history op answer)
    (grown : history <:+ later) : Heard later op answer := grown.subset heard

theorem Heard.cons {history : History Op Res} {op : Op} {answer : Res op} (heard : Heard history op answer)
    (entry : Entry Op Res) : Heard (entry :: history) op answer := List.mem_cons_of_mem _ heard

theorem Heard.within {Wide : Type} {WideRes : Wide → Type} {history : History Op Res} {op : Op} {answer : Res op}
    (heard : Heard history op answer) (embedding : Embedding Res WideRes) :
    Heard (history.map embedding.entry) (embedding.op op) (embedding.into answer) :=
  List.mem_map_of_mem heard

namespace Program

variable {contract : Contract Op Res ε γ}

/-- Started after `history`, the program keeps to the contract and ends in `post`, what it has
heard before still being there. -/
def Shows (contract : Contract Op Res ε γ) (history : History Op Res) (program : Program Op Res ε α)
    (post : History Op Res → Except ε α → Prop) : Prop :=
  program.Obeys (contract.ending (fun later result => history <:+ later ∧ post later result)) history

theorem Shows.obeys {history : History Op Res} {program : Program Op Res ε γ} {post : History Op Res → Except ε γ → Prop}
    (holds : program.Shows contract history post) (ends : ∀ later result, post later result → contract.after later result) :
    program.Obeys contract history := by
  have widened : program.Obeys (contract.ending contract.after) history :=
    Obeys.mono holds (fun later result ended => ends later result ended.2)
  exact widened

theorem Shows.ret {history : History Op Res} {value : α} {post : History Op Res → Except ε α → Prop}
    (ends : post history (.ok value)) : (Program.ret value : Program Op Res ε α).Shows contract history post :=
  ⟨List.suffix_rfl, ends⟩

theorem Shows.raise {history : History Op Res} {error : ε} {post : History Op Res → Except ε α → Prop}
    (ends : post history (.error error)) : (Program.raise error : Program Op Res ε α).Shows contract history post :=
  ⟨List.suffix_rfl, ends⟩

theorem Shows.mono {history : History Op Res} {program : Program Op Res ε α} {strong weak : History Op Res → Except ε α → Prop}
    (holds : program.Shows contract history strong)
    (weaken : ∀ later result, history <:+ later → strong later result → weak later result) :
    program.Shows contract history weak :=
  Obeys.mono holds (fun later result ended => ⟨ended.1, weaken later result ended.1 ended.2⟩)

/-- The end of a function that was started further on. -/
theorem Shows.since {early history : History Op Res} {program : Program Op Res ε α} {post : History Op Res → Except ε α → Prop}
    (holds : program.Shows contract history post) (grown : early <:+ history) :
    program.Obeys (contract.ending (fun later result => early <:+ later ∧ post later result)) history :=
  Obeys.mono holds (fun _ _ ended => ⟨grown.trans ended.1, ended.2⟩)

theorem Shows.await {history : History Op Res} {op : Op} {next : Res op → Program Op Res ε α}
    {post : History Op Res → Except ε α → Prop} (allowed : contract.before history op)
    (rest : ∀ answer, contract.answers op answer → (next answer).Shows contract (⟨op, answer⟩ :: history) post) :
    (Program.await op next).Shows contract history post :=
  ⟨allowed, fun answer known => (rest answer known).since (List.suffix_cons _ _)⟩

theorem Shows.perform {history : History Op Res} {op : Op} {next : Res op → Program Op Res ε α}
    {post : History Op Res → Except ε α → Prop} (allowed : contract.before history op)
    (rest : ∀ answer, contract.answers op answer → (next answer).Shows contract (⟨op, answer⟩ :: history) post) :
    ((Program.perform op).bind next).Shows contract history post := .await allowed rest

theorem Shows.bind {history : History Op Res} {program : Program Op Res ε α} {next : α → Program Op Res ε β}
    {middle : History Op Res → Except ε α → Prop} {post : History Op Res → Except ε β → Prop}
    (first : program.Shows contract history middle)
    (returned : ∀ later value, history <:+ later → middle later (.ok value) → (next value).Shows contract later post)
    (thrown : ∀ later error, history <:+ later → middle later (.error error) → post later (.error error)) :
    (program.bind next).Shows contract history post :=
  Obeys.bind first (fun later value ended => (returned later value ended.1 ended.2).since ended.1)
    (fun later error ended => ⟨ended.1, thrown later error ended.1 ended.2⟩)

/-- One part after the other, when nothing more is to be shown of either. -/
theorem Shows.followed {history : History Op Res} {program : Program Op Res ε α} {next : α → Program Op Res ε β}
    (first : program.Shows contract history (fun _ _ => True))
    (rest : ∀ later value, (next value).Shows contract later (fun _ _ => True)) :
    (program.bind next).Shows contract history (fun _ _ => True) :=
  first.bind (fun later value _ _ => rest later value) (fun _ _ _ _ => trivial)

theorem Shows.rescue {history : History Op Res} {program : Program Op Res ε α} {handler : ε → Program Op Res ε α}
    {post : History Op Res → Except ε α → Prop} (middle : History Op Res → Except ε α → Prop)
    (first : program.Shows contract history middle)
    (returned : ∀ later value, history <:+ later → middle later (.ok value) → post later (.ok value))
    (thrown : ∀ later error, history <:+ later → middle later (.error error) →
      (handler error).Shows contract later post) :
    (program.rescue handler).Shows contract history post :=
  Obeys.rescue _ first (fun later value ended => ⟨ended.1, returned later value ended.1 ended.2⟩)
    (fun later error ended => (thrown later error ended.1 ended.2).since ended.1)

theorem Shows.unwrap {history : History Op Res} {result : Except ε α} {next : α → Program Op Res ε β}
    {post : History Op Res → Except ε β → Prop} (returned : ∀ value, result = .ok value → (next value).Shows contract history post)
    (thrown : ∀ error, result = .error error → post history (.error error)) :
    ((Program.unwrap result).bind next).Shows contract history post := by
  cases result with
  | ok value => exact returned value rfl
  | error error => exact .raise (thrown error rfl)

theorem shows_unwrap {history : History Op Res} {result : Except ε α} {post : History Op Res → Except ε α → Prop}
    (ends : post history result) : (Program.unwrap result).Shows contract history post := by
  cases result with
  | ok value => exact .ret ends
  | error error => exact .raise ends

/-- Operations that need no evidence. -/
theorem Only.shows {good : Op → Prop} {program : Program Op Res ε α} {history : History Op Res} (only : program.Only good)
    (free : ∀ history op, good op → contract.before history op) :
    program.Shows contract history (fun _ _ => True) :=
  Only.obeys (fun later => history <:+ later) only List.suffix_rfl
    (fun later op plain grown => ⟨free later op plain, fun _ => grown.trans (List.suffix_cons _ _)⟩)
    (fun _ _ grown => ⟨grown, trivial⟩)

/-- A loop in which every iteration may be the first. -/
theorem Shows.fold {body : α → β → Program Op Res ε α} {items : List β} {history : History Op Res} {state : α}
    (iteration : ∀ history state item, (body state item).Shows contract history (fun _ _ => True)) :
    (Program.fold body state items).Shows contract history (fun _ _ => True) := by
  induction items generalizing history state with
  | nil => exact .ret trivial
  | cons item items ih => exact (iteration history state item).followed (fun _ _ => ih)

end Program

/-! ### What the answers of a call still say of the world -/

namespace Machine

variable {Env World Tag : Type} {machine : Machine Op Res Env World Tag ε α}
variable {fact : World → (op : Op) → Res op → Prop}

/-- Every answer a call has got is still backed by the world. -/
def Backed (fact : World → (op : Op) → Res op → Prop) (world : World) (calls : Nat → Option (Thread Op Res Tag ε α)) : Prop :=
  ∀ index thread, calls index = some thread → ∀ op answer, Heard thread.history op answer → fact world op answer

theorem Backed.update {world after : World} {calls : Nat → Option (Thread Op Res Tag ε α)} (backed : Backed fact world calls)
    (lasts : ∀ op answer, fact world op answer → fact after op answer) {index : Nat} {replaced : Thread Op Res Tag ε α}
    (own : ∀ op answer, Heard replaced.history op answer → fact after op answer) :
    Backed fact after (Function.update calls index (some replaced)) := by
  intro other thread found op answer heard
  rcases calls_update found with ⟨_, rfl⟩ | ⟨_, found⟩
  · exact own op answer heard
  · exact lasts op answer (backed other thread found op answer heard)

/-- One event: facts last, and the answer it brings is backed. -/
theorem Backed.move {contract : Tag → Contract Op Res ε α} {system : System Op Res World Tag ε α} {event : Event Env Tag}
    {world : World} {calls : Nat → Option (Thread Op Res Tag ε α)} (backed : Backed fact system.world system.calls)
    (move : machine.Move contract system event world calls)
    (lasts : ∀ op answer, fact system.world op answer → fact world op answer)
    (new : ∀ index env thread op answer rest after, machine.Act contract system index env thread op answer rest after →
      world = machine.close index thread.tag rest after → fact world op answer) : Backed fact world calls := by
  cases move with
  | start tag world free entered path =>
    exact backed.update lasts (fun _ _ heard => absurd heard List.not_mem_nil)
  | step index env thread op answer rest after act =>
    refine backed.update lasts (fun other reply heard => ?_)
    rcases List.mem_cons.mp heard with same | earlier
    · cases same
      exact new index env thread op answer rest after act rfl
    · exact lasts other reply (backed index thread act.found other reply earlier)
  | cut index thread found running =>
    exact backed.update lasts (fun other reply heard => lasts other reply (backed index thread found other reply heard))

/-- The replaced call has heard nothing, or what it had heard before. -/
def Echoes (calls : Nat → Option (Thread Op Res Tag ε α)) (index : Nat) (replaced : Thread Op Res Tag ε α) : Prop :=
  replaced.history = [] ∨ ∃ thread, calls index = some thread ∧ replaced.tag = thread.tag ∧
    replaced.history = thread.history

section Echoes

variable {calls : Nat → Option (Thread Op Res Tag ε α)} {index : Nat} {replaced : Thread Op Res Tag ε α}

theorem Echoes.earlier (echoes : Echoes calls index replaced) {other : Nat} {later : Thread Op Res Tag ε α}
    (there : Function.update calls index (some replaced) other = some later) :
    later.history = [] ∨ ∃ earlier, calls other = some earlier ∧ later.tag = earlier.tag ∧ later.history = earlier.history := by
  rcases calls_update there with ⟨rfl, rfl⟩ | ⟨_, early⟩
  · exact echoes
  · exact .inr ⟨later, early, rfl, rfl⟩

theorem not_heard_of_nil {thread : Thread Op Res Tag ε α} {op : Op} {answer : Res op} (none : thread.history = []) :
    ¬Heard thread.history op answer := by
  rw [Heard, none]
  exact List.not_mem_nil

/-- A call that starts or stops has heard nothing new. -/
theorem Backed.replace {world after : World} (backed : Backed fact world calls) (echoes : Echoes calls index replaced)
    (lasts : ∀ op answer, fact world op answer → fact after op answer) :
    Backed fact after (Function.update calls index (some replaced)) := by
  intro other thread there op answer heard
  rcases echoes.earlier there with none | ⟨earlier, early, _, same⟩
  · exact absurd heard (not_heard_of_nil none)
  · rw [same] at heard
    exact lasts op answer (backed other earlier early op answer heard)

/-- A call that performs an operation has heard its answer. -/
theorem Backed.resume {world after : World} {thread : Thread Op Res Tag ε α} {op : Op} {answer : Res op}
    {rest : Program Op Res ε α} (backed : Backed fact world calls) (found : calls index = some thread)
    (lasts : ∀ op answer, fact world op answer → fact after op answer) (new : fact after op answer) :
    Backed fact after (Function.update calls index (some (thread.resume ⟨op, answer⟩ rest))) := by
  refine backed.update lasts (fun other reply heard => ?_)
  rcases List.mem_cons.mp heard with same | earlier
  · cases same
    exact new
  · exact lasts other reply (backed index thread found other reply earlier)

end Echoes

/-! ### What a call has done it has done for good -/

section Someone

variable {is was : Thread Op Res Tag ε α → Prop} {calls : Nat → Option (Thread Op Res Tag ε α)}

theorem Someone.imp (someone : Someone calls was) (implied : ∀ thread, was thread → is thread) : Someone calls is := by
  obtain ⟨index, thread, found, now⟩ := someone
  exact ⟨index, thread, found, implied thread now⟩

/-- A property of the past of a call. -/
def Lasting (is : Thread Op Res Tag ε α → Prop) : Prop :=
  ∀ thread later : Thread Op Res Tag ε α, thread.Continues later → is thread → is later

theorem Someone.move {contract : Tag → Contract Op Res ε α} {system : System Op Res World Tag ε α} {event : Event Env Tag}
    {world : World} (someone : Someone system.calls is) (lasting : Lasting is)
    (move : machine.Move contract system event world calls) : Someone calls is := by
  cases move with
  | start tag world free entered path =>
    apply someone.update
    intro thread found
    rw [free] at found
    cases found
  | step index env thread op answer rest after act =>
    apply someone.update
    intro other found now
    rw [act.found] at found
    cases found
    exact lasting thread _ ⟨rfl, List.suffix_cons _ _⟩ now
  | cut index thread found running =>
    apply someone.update
    intro other there now
    rw [found] at there
    cases there
    exact lasting thread _ ⟨rfl, List.suffix_rfl⟩ now

end Someone

end Machine
end MpcKit.Async
