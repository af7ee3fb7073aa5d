import Mathlib

/-! Sequences of transactions. A transaction either goes through, with an output and a new state,
or it aborts and the state stays what it was. -/

namespace MpcKit.Transact

variable {σ α ε ρ : Type}

/-- A transaction that went through. -/
structure Record (σ α ρ : Type) where
  before : σ
  input : α
  output : ρ
  after : σ

def step (exec : σ → α → Except ε (ρ × σ)) (state : σ) (input : α) : σ :=
  match exec state input with
  | .ok (_, after) => after
  | .error _ => state

def final (exec : σ → α → Except ε (ρ × σ)) (state : σ) (inputs : List α) : σ := inputs.foldl (step exec) state

/-- The transactions of a sequence that went through, in order. -/
def records (exec : σ → α → Except ε (ρ × σ)) : σ → List α → List (Record σ α ρ)
  | _, [] => []
  | state, input :: rest =>
    match exec state input with
    | .ok (output, after) => ⟨state, input, output, after⟩ :: records exec after rest
    | .error _ => records exec state rest

section
variable {exec : σ → α → Except ε (ρ × σ)}

theorem final_cons (state : σ) (input : α) (rest : List α) :
    final exec state (input :: rest) = final exec (step exec state input) rest := rfl

theorem final_append (state : σ) (first later : List α) :
    final exec state (first ++ later) = final exec (final exec state first) later := List.foldl_append

theorem step_of_ok {state after : σ} {input : α} {output : ρ} (done : exec state input = .ok (output, after)) :
    step exec state input = after := by
  simp [step, done]

theorem step_of_error {state : σ} {input : α} {abort : ε} (aborted : exec state input = .error abort) :
    step exec state input = state := by
  simp [step, aborted]

theorem records_cons_ok {state after : σ} {input : α} {output : ρ} {rest : List α}
    (done : exec state input = .ok (output, after)) :
    records exec state (input :: rest) = ⟨state, input, output, after⟩ :: records exec after rest := by
  simp [records, done]

theorem records_cons_error {state : σ} {input : α} {rest : List α} {abort : ε}
    (aborted : exec state input = .error abort) :
    records exec state (input :: rest) = records exec state rest := by
  simp [records, aborted]

theorem records_append (state : σ) (first later : List α) :
    records exec state (first ++ later) = records exec state first ++ records exec (final exec state first) later := by
  induction first generalizing state with
  | nil => rfl
  | cons input rest ih =>
    cases done : exec state input with
    | ok result =>
      obtain ⟨output, after⟩ := result
      rw [List.cons_append, records_cons_ok done, records_cons_ok done, final_cons, step_of_ok done, ih, List.cons_append]
    | error abort =>
      rw [List.cons_append, records_cons_error done, records_cons_error done, final_cons, step_of_error done, ih]

/-- What every transaction that goes through keeps, holds along the whole sequence. -/
theorem final_invariant {invariant : σ → Prop}
    (keeps : ∀ {state after : σ} {input : α} {output : ρ}, invariant state →
      exec state input = .ok (output, after) → invariant after)
    {state : σ} (start : invariant state) (inputs : List α) : invariant (final exec state inputs) := by
  induction inputs generalizing state with
  | nil => exact start
  | cons input rest ih =>
    rw [final_cons]
    cases done : exec state input with
    | ok result =>
      obtain ⟨output, after⟩ := result
      rw [step_of_ok done]
      exact ih (keeps start done)
    | error abort =>
      rw [step_of_error done]
      exact ih start

/-- Each recorded transaction started in a state that satisfies the invariant. -/
theorem records_invariant {invariant : σ → Prop}
    (keeps : ∀ {state after : σ} {input : α} {output : ρ}, invariant state →
      exec state input = .ok (output, after) → invariant after)
    {state : σ} (start : invariant state) {inputs : List α} {record : Record σ α ρ}
    (recorded : record ∈ records exec state inputs) :
    invariant record.before ∧ exec record.before record.input = .ok (record.output, record.after) := by
  induction inputs generalizing state with
  | nil => cases recorded
  | cons input rest ih =>
    cases done : exec state input with
    | ok result =>
      obtain ⟨output, after⟩ := result
      rw [records_cons_ok done] at recorded
      rcases List.mem_cons.mp recorded with rfl | later
      · exact ⟨start, done⟩
      · exact ih (keeps start done) later
    | error abort =>
      rw [records_cons_error done] at recorded
      exact ih start recorded

/-- Two transactions of one sequence are related when the first one leaves a mark on the state,
the mark stays, and whatever goes through later in a marked state is related to it. -/
theorem records_pairwise {invariant : σ → Prop} {mark : Record σ α ρ → σ → Prop}
    {related : Record σ α ρ → Record σ α ρ → Prop}
    (keeps : ∀ {state after : σ} {input : α} {output : ρ}, invariant state →
      exec state input = .ok (output, after) → invariant after)
    (marks : ∀ {state after : σ} {input : α} {output : ρ}, invariant state →
      exec state input = .ok (output, after) → mark ⟨state, input, output, after⟩ after)
    (stays : ∀ {record : Record σ α ρ} {state after : σ} {input : α} {output : ρ}, invariant state →
      mark record state → exec state input = .ok (output, after) → mark record after)
    (relates : ∀ {record : Record σ α ρ} {state after : σ} {input : α} {output : ρ}, invariant state →
      mark record state → exec state input = .ok (output, after) → related record ⟨state, input, output, after⟩)
    {state : σ} (start : invariant state) (inputs : List α) : (records exec state inputs).Pairwise related := by
  induction inputs generalizing state with
  | nil => exact List.Pairwise.nil
  | cons input rest ih =>
    cases done : exec state input with
    | ok result =>
      obtain ⟨output, after⟩ := result
      rw [records_cons_ok done]
      refine List.pairwise_cons.mpr ⟨?_, ih (keeps start done)⟩
      -- The mark travels with the state to the later record.
      have travels : ∀ {current next : σ} {other : α} {result : ρ},
          (invariant current ∧ mark ⟨state, input, output, after⟩ current) →
            exec current other = .ok (result, next) → invariant next ∧ mark ⟨state, input, output, after⟩ next :=
        fun both passed => ⟨keeps both.1 passed, stays both.1 both.2 passed⟩
      intro later recorded
      obtain ⟨⟨kept, marked⟩, passed⟩ := records_invariant travels ⟨keeps start done, marks start done⟩ recorded
      exact relates kept marked passed
    | error abort =>
      rw [records_cons_error done]
      exact ih start

/-- A quantity that each transaction changes by what it reports, changes over a sequence by the sum. -/
theorem final_balance (measure : σ → Nat) (gain loss : ρ → Nat)
    (each : ∀ {state after : σ} {input : α} {output : ρ}, exec state input = .ok (output, after) →
      measure after + loss output = measure state + gain output) (state : σ) (inputs : List α) :
    measure (final exec state inputs) + ((records exec state inputs).map fun record => loss record.output).sum =
      measure state + ((records exec state inputs).map fun record => gain record.output).sum := by
  induction inputs generalizing state with
  | nil => rfl
  | cons input rest ih =>
    cases done : exec state input with
    | ok result =>
      obtain ⟨output, after⟩ := result
      have here := each done
      have later := ih after
      rw [final_cons, step_of_ok done, records_cons_ok done, List.map_cons, List.sum_cons, List.map_cons, List.sum_cons]
      dsimp only
      omega
    | error abort =>
      rw [final_cons, step_of_error done, records_cons_error done]
      exact ih state

end

end MpcKit.Transact
