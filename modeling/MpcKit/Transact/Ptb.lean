import MpcKit.Transact.Runs

/-! Programmable transaction blocks. A builder hands out arguments and records commands on them; it
is known by what its arguments stand for. A block runs all of its commands or none. -/

namespace MpcKit.Transact

inductive Operand (Object : Type) where
  | object (id : Object)
  | pure (bytes : List UInt8)
  deriving DecidableEq, Repr

/-- The target of a Move call and what it is applied to. -/
abbrev MoveCall (Object : Type) := String × List (Operand Object)

/-- A transaction builder. `resolve` is the object that a text names. -/
structure Builder (Object : Type) (resolve : String → Object) where
  Block : Type
  Argument : Type
  empty : Block
  addObject : Block → String → Argument × Block
  addPure : Block → List UInt8 → Argument × Block
  addMoveCall : Block → String → List Argument → Block
  operand : Block → Argument → Option (Operand Object)
  commands : Block → List (String × List Argument)
  commands_empty : commands empty = []
  operand_addObject : ∀ block text,
    operand (addObject block text).2 (addObject block text).1 = some (.object (resolve text))
  operand_addPure : ∀ block bytes, operand (addPure block bytes).2 (addPure block bytes).1 = some (.pure bytes)
  addObject_keeps : ∀ block text argument value, operand block argument = some value →
    operand (addObject block text).2 argument = some value
  addPure_keeps : ∀ block bytes argument value, operand block argument = some value →
    operand (addPure block bytes).2 argument = some value
  addMoveCall_keeps : ∀ block target arguments argument value, operand block argument = some value →
    operand (addMoveCall block target arguments) argument = some value
  commands_addObject : ∀ block text, commands (addObject block text).2 = commands block
  commands_addPure : ∀ block bytes, commands (addPure block bytes).2 = commands block
  commands_addMoveCall : ∀ block target arguments,
    commands (addMoveCall block target arguments) = commands block ++ [(target, arguments)]

namespace Builder

variable {Object ε α β : Type} {resolve : String → Object} {builder : Builder Object resolve}

/-! ### The meaning of a block -/

def operands (builder : Builder Object resolve) (block : builder.Block) :
    List builder.Argument → Option (List (Operand Object))
  | [] => some []
  | argument :: arguments => do
      let value ← builder.operand block argument
      let values ← builder.operands block arguments
      return value :: values

def read (builder : Builder Object resolve) (block : builder.Block) :
    List (String × List builder.Argument) → Option (List (MoveCall Object))
  | [] => some []
  | command :: commands => do
      let values ← builder.operands block command.2
      let calls ← builder.read block commands
      return (command.1, values) :: calls

def meaning (builder : Builder Object resolve) (block : builder.Block) : Option (List (MoveCall Object)) :=
  builder.read block (builder.commands block)

/-- Arguments handed out before still stand for what they stood for. -/
def Extends (builder : Builder Object resolve) (block later : builder.Block) : Prop :=
  ∀ argument value, builder.operand block argument = some value → builder.operand later argument = some value

theorem Extends.refl (block : builder.Block) : builder.Extends block block := by
  intro argument value stands
  exact stands

theorem Extends.trans {first second third : builder.Block} (one : builder.Extends first second)
    (two : builder.Extends second third) : builder.Extends first third := by
  intro argument value stands
  exact two argument value (one argument value stands)

theorem Extends.operands {block later : builder.Block} (keeps : builder.Extends block later)
    {arguments : List builder.Argument} {values : List (Operand Object)}
    (stand : builder.operands block arguments = some values) : builder.operands later arguments = some values := by
  induction arguments generalizing values with
  | nil => exact stand
  | cons argument arguments ih =>
    simp only [Builder.operands, Option.bind_eq_bind, Option.bind_eq_some_iff, Option.pure_def, Option.some.injEq] at stand ⊢
    obtain ⟨value, first, rest, others, same⟩ := stand
    exact ⟨value, keeps argument value first, rest, ih others, same⟩

theorem Extends.read {block later : builder.Block} (keeps : builder.Extends block later)
    {commands : List (String × List builder.Argument)} {calls : List (MoveCall Object)}
    (stand : builder.read block commands = some calls) : builder.read later commands = some calls := by
  induction commands generalizing calls with
  | nil => exact stand
  | cons command commands ih =>
    simp only [Builder.read, Option.bind_eq_bind, Option.bind_eq_some_iff, Option.pure_def, Option.some.injEq] at stand ⊢
    obtain ⟨values, first, rest, others, same⟩ := stand
    exact ⟨values, keeps.operands first, rest, ih others, same⟩

theorem read_append {block : builder.Block} {first second : List (String × List builder.Argument)}
    {calls others : List (MoveCall Object)} (one : builder.read block first = some calls)
    (two : builder.read block second = some others) : builder.read block (first ++ second) = some (calls ++ others) := by
  induction first generalizing calls with
  | nil =>
    cases one
    exact two
  | cons command commands ih =>
    simp only [Builder.read, Option.bind_eq_bind, Option.bind_eq_some_iff, Option.pure_def, Option.some.injEq] at one
    obtain ⟨values, head, rest, tail, rfl⟩ := one
    simp [Builder.read, head, ih tail]

/-- From one block to a later one the calls were added. -/
structure Added (builder : Builder Object resolve) (block later : builder.Block) (calls : List (MoveCall Object)) : Prop where
  keeps : builder.Extends block later
  commands : ∃ added, builder.commands later = builder.commands block ++ added ∧ builder.read later added = some calls

theorem Added.refl (block : builder.Block) : builder.Added block block [] :=
  ⟨Extends.refl block, [], by rw [List.append_nil], rfl⟩

theorem Added.trans {first second third : builder.Block} {calls others : List (MoveCall Object)}
    (one : builder.Added first second calls) (two : builder.Added second third others) :
    builder.Added first third (calls ++ others) := by
  obtain ⟨added, holds, reads⟩ := one.commands
  obtain ⟨more, holds', reads'⟩ := two.commands
  refine ⟨one.keeps.trans two.keeps, added ++ more, ?_, ?_⟩
  · rw [holds', holds, List.append_assoc]
  · exact read_append (two.keeps.read reads) reads'

/-- A block with nothing but the calls added means these calls. -/
theorem Added.meaning {block : builder.Block} {calls : List (MoveCall Object)}
    (added : builder.Added builder.empty block calls) : builder.meaning block = some calls := by
  obtain ⟨news, holds, reads⟩ := added.commands
  rw [builder.commands_empty, List.nil_append] at holds
  rw [Builder.meaning, holds, reads]

/-! ### Building programs -/

/-- A program that builds on a block, and may throw. -/
abbrev Build (builder : Builder Object resolve) (ε α : Type) := StateT builder.Block (Except ε) α

def object (text : String) : builder.Build ε builder.Argument := fun block => .ok (builder.addObject block text)

def bytes (string : List UInt8) : builder.Build ε builder.Argument := fun block => .ok (builder.addPure block string)

def call (target : String) (arguments : List builder.Argument) : builder.Build ε Unit :=
  fun block => .ok ((), builder.addMoveCall block target arguments)

def given (result : Except ε α) : builder.Build ε α := fun block => result.map (fun value => (value, block))

/-- The arguments of a call, made in their order. -/
def each : List (builder.Build ε builder.Argument) → builder.Build ε (List builder.Argument)
  | [] => pure []
  | program :: programs => do
      let argument ← program
      let arguments ← each programs
      return argument :: arguments

def forEach (programs : α → builder.Build ε Unit) : List α → builder.Build ε Unit
  | [] => pure ()
  | item :: items => do
      programs item
      forEach programs items

/-! ### Plans

What a program adds, said without a block. -/

/-- On every block after `start` the program throws what the plan throws, or ends as said. -/
def Ends (start : builder.Block) (program : builder.Build ε α) (plan : Except ε β)
    (ends : (block later : builder.Block) → α → β → Prop) : Prop :=
  ∀ block, builder.Extends start block →
    (∀ error, plan = .error error → program block = .error error) ∧
    ∀ value, plan = .ok value → ∃ result later, program block = .ok (result, later) ∧ ends block later result value

/-- The program adds no command, and returns something that stands for the value of the plan. -/
def Gives (start : builder.Block) (program : builder.Build ε α) (plan : Except ε β)
    (stands : builder.Block → α → β → Prop) : Prop :=
  Ends start program plan (fun block later result value => builder.Added block later [] ∧ stands later result value)

/-- The program adds the calls of the plan. -/
def Follows (start : builder.Block) (program : builder.Build ε Unit) (plan : Except ε (List (MoveCall Object))) : Prop :=
  Ends start program plan (fun block later _ calls => builder.Added block later calls)

def Stands (builder : Builder Object resolve) (block : builder.Block) (argument : builder.Argument)
    (value : Operand Object) : Prop := builder.operand block argument = some value

/-- Each program hands out an argument for its operand. -/
abbrev Supplied (start : builder.Block) (programs : List (builder.Build ε builder.Argument))
    (plans : List (Except ε (Operand Object))) : Prop :=
  List.Forall₂ (fun program plan => Gives start program plan builder.Stands) programs plans

def planned : List (Except ε (Operand Object)) → Except ε (List (Operand Object))
  | [] => pure []
  | plan :: plans => do
      let value ← plan
      let values ← planned plans
      return value :: values

def planEach (plan : α → Except ε (List (MoveCall Object))) : List α → Except ε (List (MoveCall Object))
  | [] => pure []
  | item :: items => do
      let calls ← plan item
      let others ← planEach plan items
      return calls ++ others

section Rules
variable {start : builder.Block}

theorem gives_pure {stands : builder.Block → α → β → Prop} {result : α} {value : β}
    (holds : ∀ later, builder.Extends start later → stands later result value) :
    Gives (ε := ε) start (pure result) (.ok value) stands := by
  intro block after
  constructor
  · intro error fails
    cases fails
  · intro found same
    cases same
    exact ⟨result, block, rfl, Added.refl block, holds block after⟩

theorem gives_given (result : Except ε α) : Gives start (given result) result (fun _ value planned => value = planned) := by
  intro block _
  constructor
  · intro error fails
    rw [given, fails]
    rfl
  · intro value same
    rw [given, same]
    exact ⟨value, block, rfl, Added.refl block, rfl⟩

theorem added_addObject (block : builder.Block) (text : String) :
    builder.Added block (builder.addObject block text).2 [] :=
  ⟨builder.addObject_keeps block text, [], by rw [builder.commands_addObject, List.append_nil], rfl⟩

theorem added_addPure (block : builder.Block) (string : List UInt8) :
    builder.Added block (builder.addPure block string).2 [] :=
  ⟨builder.addPure_keeps block string, [], by rw [builder.commands_addPure, List.append_nil], rfl⟩

theorem gives_object (text : String) :
    Gives (ε := ε) start (object text) (.ok (.object (resolve text))) builder.Stands := by
  intro block _
  constructor
  · intro error fails
    cases fails
  · intro value same
    cases same
    exact ⟨_, _, rfl, added_addObject block text, builder.operand_addObject block text⟩

theorem gives_bytes (string : List UInt8) : Gives (ε := ε) start (bytes string) (.ok (.pure string)) builder.Stands := by
  intro block _
  constructor
  · intro error fails
    cases fails
  · intro value same
    cases same
    exact ⟨_, _, rfl, added_addPure block string, builder.operand_addPure block string⟩

/-- An argument that was handed out before. -/
theorem gives_known {argument : builder.Argument} {value : Operand Object} (stands : builder.Stands start argument value) :
    Gives (ε := ε) start (pure argument) (.ok value) builder.Stands := by
  apply gives_pure
  intro later after
  exact after argument value stands

/-- `ends'` is how the second program ends, which may depend on the value of the first plan. -/
theorem Ends.bind {α' β' : Type} {program : builder.Build ε α} {plan : Except ε β}
    {ends : builder.Block → builder.Block → α → β → Prop} {next : α → builder.Build ε α'} {plan' : β → Except ε β'}
    (ends' : β → builder.Block → builder.Block → α' → β' → Prop) {whole : builder.Block → builder.Block → α' → β' → Prop}
    (first : Ends start program plan ends)
    (rest : ∀ block middle result value, builder.Extends start block → ends block middle result value →
      Ends middle (next result) (plan' value) (ends' value))
    (joins : ∀ block middle later result value result' value', ends block middle result value →
      ends' value middle later result' value' → whole block later result' value') :
    Ends start (program >>= next) (plan >>= plan') whole := by
  intro block after
  obtain ⟨throws, goes⟩ := first block after
  cases done : plan with
  | error thrown =>
    constructor
    · intro error fails
      cases fails
      change (program block >>= _) = _
      rw [throws thrown done]
      rfl
    · intro value same
      cases same
  | ok value =>
    obtain ⟨result, middle, ran, ended⟩ := goes value done
    obtain ⟨throws', goes'⟩ := rest block middle result value after ended middle (Extends.refl middle)
    have continued : (program >>= next) block = next result middle := by
      change (program block >>= _) = _
      rw [ran]
      rfl
    rw [continued]
    constructor
    · intro error fails
      exact throws' error fails
    · intro value' same
      obtain ⟨result', later, ran', ended'⟩ := goes' value' same
      exact ⟨result', later, ran', joins block middle later result value result' value' ended ended'⟩

theorem Ends.later {program : builder.Build ε α} {plan : Except ε β} {ends : builder.Block → builder.Block → α → β → Prop}
    (holds : Ends start program plan ends) {later : builder.Block} (after : builder.Extends start later) :
    Ends later program plan ends := by
  intro block follows
  exact holds block (after.trans follows)

theorem Ends.map {γ : Type} {program : builder.Build ε α} {plan : Except ε β}
    {ends : builder.Block → builder.Block → α → β → Prop} (f : β → γ) (holds : Ends start program plan ends) :
    Ends start program (plan >>= fun value => pure (f value))
      (fun block later result total => ∃ value, total = f value ∧ ends block later result value) := by
  intro block after
  obtain ⟨throws, goes⟩ := holds block after
  cases done : plan with
  | error thrown =>
    constructor
    · intro error fails
      cases fails
      exact throws thrown done
    · intro value same
      cases same
  | ok value =>
    obtain ⟨result, later, ran, ended⟩ := goes value done
    constructor
    · intro error fails
      cases fails
    · intro total same
      cases same
      exact ⟨result, later, ran, value, rfl, ended⟩

theorem Gives.bind {α' β' : Type} {program : builder.Build ε α} {plan : Except ε β} {stands : builder.Block → α → β → Prop}
    {next : α → builder.Build ε α'} {plan' : β → Except ε β'} {stands' : builder.Block → α' → β' → Prop}
    (first : Gives start program plan stands)
    (rest : ∀ result value later, builder.Extends start later → stands later result value →
      Gives later (next result) (plan' value) stands') :
    Gives start (program >>= next) (plan >>= plan') stands' := by
  apply Ends.bind (fun _ middle later result value => builder.Added middle later [] ∧ stands' later result value) first
  · intro block middle result value after ended
    exact rest result value middle (after.trans ended.1.keeps) ended.2
  · intro block middle later result value result' value' ended ended'
    exact ⟨ended.1.trans ended'.1, ended'.2⟩

theorem Gives.follows {program : builder.Build ε α} {plan : Except ε β} {stands : builder.Block → α → β → Prop}
    {next : α → builder.Build ε Unit} {plan' : β → Except ε (List (MoveCall Object))}
    (first : Gives start program plan stands)
    (rest : ∀ result value later, builder.Extends start later → stands later result value →
      Follows later (next result) (plan' value)) :
    Follows start (program >>= next) (plan >>= plan') := by
  apply Ends.bind (fun _ middle later _ calls => builder.Added middle later calls) first
  · intro block middle result value after ended
    exact rest result value middle (after.trans ended.1.keeps) ended.2
  · intro block middle later result value result' value' ended ended'
    exact ended.1.trans ended'

theorem follows_call {target : String} {arguments : List builder.Argument} {values : List (Operand Object)}
    (stand : builder.operands start arguments = some values) :
    Follows (ε := ε) start (call target arguments) (.ok [(target, values)]) := by
  intro block after
  constructor
  · intro error fails
    cases fails
  · intro calls same
    cases same
    have keeps := builder.addMoveCall_keeps block target arguments
    have reads : builder.operands (builder.addMoveCall block target arguments) arguments = some values :=
      (Extends.trans after keeps).operands stand
    refine ⟨(), _, rfl, keeps, [(target, arguments)], builder.commands_addMoveCall block target arguments, ?_⟩
    simp [Builder.read, reads]

theorem gives_each {programs : List (builder.Build ε builder.Argument)} {plans : List (Except ε (Operand Object))}
    (hands : Supplied start programs plans) :
    Gives start (each programs) (planned plans)
      (fun later arguments values => builder.operands later arguments = some values) := by
  induction programs generalizing start plans with
  | nil =>
    cases hands
    exact gives_pure (fun _ _ => rfl)
  | cons program programs ih =>
    cases hands with
    | cons head tail =>
      apply Gives.bind head
      intro argument value middle after stands
      have rest := tail.imp (fun _ _ gives => Ends.later gives after)
      apply Gives.bind (ih rest)
      intro arguments values later follows stand
      apply gives_pure
      intro block keeps
      have first : builder.operand block argument = some value := keeps argument value (follows argument value stands)
      have others : builder.operands block arguments = some values := keeps.operands stand
      simp [operands, first, others]

/-- A call of arguments that are made for it. -/
theorem follows_send {target : String} {programs : List (builder.Build ε builder.Argument)}
    {plans : List (Except ε (Operand Object))}
    (hands : Supplied start programs plans) :
    Follows start (each programs >>= call target) (planned plans >>= fun values => .ok [(target, values)]) := by
  apply Gives.follows (gives_each hands)
  intro arguments values later _ stand
  exact follows_call stand

theorem follows_forEach {programs : α → builder.Build ε Unit} {plan : α → Except ε (List (MoveCall Object))} (items : List α)
    (follows : ∀ item ∈ items, Follows start (programs item) (plan item)) :
    Follows start (forEach programs items) (planEach plan items) := by
  induction items generalizing start with
  | nil =>
    intro block _
    constructor
    · intro error fails
      cases fails
    · intro calls same
      cases same
      exact ⟨(), block, rfl, Added.refl block⟩
  | cons item items ih =>
    have rest : ∀ later, builder.Extends start later → Follows later (forEach programs items) (planEach plan items) := by
      intro later after
      apply ih
      intro other among
      exact (follows other (List.mem_cons_of_mem item among)).later after
    let joined := fun (calls : List (MoveCall Object)) (middle later : builder.Block) (_ : Unit) (total : List (MoveCall Object)) =>
      ∃ others, total = calls ++ others ∧ builder.Added middle later others
    apply Ends.bind joined (follows item List.mem_cons_self)
    · intro block middle _ calls after added
      exact (rest middle (after.trans added.keeps)).map (calls ++ ·)
    · intro block middle later _ calls _ total added joined
      obtain ⟨others, rfl, added'⟩ := joined
      exact added.trans added'

end Rules

end Builder

/-! ### The block that is sent

An object is one input however often it is named; every pure value is an input of its own. -/

structure Ptb (Object : Type) where
  inputs : List (Operand Object)
  commands : List (String × List Nat)

namespace Ptb

variable {Object : Type}

def push (block : Ptb Object) (value : Operand Object) : Nat × Ptb Object :=
  (block.inputs.length, { block with inputs := block.inputs ++ [value] })

theorem push_keeps (block : Ptb Object) (value other : Operand Object) {argument : Nat}
    (stands : block.inputs[argument]? = some other) : (block.push value).2.inputs[argument]? = some other := by
  obtain ⟨inside, _⟩ := List.getElem?_eq_some_iff.mp stands
  change (block.inputs ++ [value])[argument]? = some other
  rw [List.getElem?_append_left inside, stands]

@[simp] theorem push_at (block : Ptb Object) (value : Operand Object) :
    (block.push value).2.inputs[(block.push value).1]? = some value := by
  simp [push]

def share [DecidableEq Object] (block : Ptb Object) (value : Operand Object) : Nat × Ptb Object :=
  match block.inputs.findIdx? (· = value) with
  | some index => (index, block)
  | none => block.push value

def builder [DecidableEq Object] (resolve : String → Object) : Builder Object resolve where
  Block := Ptb Object
  Argument := Nat
  empty := ⟨[], []⟩
  addObject block text := block.share (.object (resolve text))
  addPure block bytes := block.push (.pure bytes)
  addMoveCall block target arguments := { block with commands := block.commands ++ [(target, arguments)] }
  operand block argument := block.inputs[argument]?
  commands := commands
  commands_empty := rfl
  operand_addObject block text := by
    unfold share
    split
    next index found =>
      obtain ⟨inside, same, _⟩ := List.findIdx?_eq_some_iff_getElem.mp found
      simpa [List.getElem?_eq_getElem inside] using same
    next => exact block.push_at (.object (resolve text))
  operand_addPure block bytes := block.push_at (.pure bytes)
  addObject_keeps block text argument value stands := by
    unfold share
    split
    next => exact stands
    next => exact block.push_keeps (.object (resolve text)) value stands
  addPure_keeps block bytes argument value stands := block.push_keeps (.pure bytes) value stands
  addMoveCall_keeps _ _ _ _ _ stands := stands
  commands_addObject block text := by
    unfold share
    split <;> rfl
  commands_addPure _ _ := rfl
  commands_addMoveCall _ _ _ := rfl

end Ptb

/-! ### All or nothing -/

section All

variable {σ α ε ρ : Type} {exec : σ → α → Except ε (ρ × σ)}

/-- All transactions one after the other, with nothing done if one of them aborts. -/
def all (exec : σ → α → Except ε (ρ × σ)) : σ → List α → Except ε (List ρ × σ)
  | state, [] => .ok ([], state)
  | state, input :: rest =>
    match exec state input with
    | .error abort => .error abort
    | .ok (output, after) =>
      match all exec after rest with
      | .error abort => .error abort
      | .ok (outputs, final) => .ok (output :: outputs, final)

end All

end MpcKit.Transact
