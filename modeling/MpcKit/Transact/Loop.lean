import Mathlib

/-! A `while` loop whose body may stop with an error. One rule is enough for its total correctness:
an invariant, and a measure that each turn makes smaller. -/

namespace MpcKit.Transact

variable {ε σ β : Type}

/-- What a turn of the loop ends with: the state of the next turn, or the result it is left with. -/
inductive Turn (σ β : Type) where
  | again (state : σ)
  | leave (result : β)

/-- The loop has gas for so many turns. -/
def loop (exhausted : ε) (turn : σ → Except ε (Turn σ β)) : Nat → σ → Except ε β
  | 0, _ => .error exhausted
  | gas + 1, state =>
    match turn state with
    | .error error => .error error
    | .ok (.leave result) => .ok result
    | .ok (.again next) => loop exhausted turn gas next

/-- The turn goes on with a state that satisfies `kept`, or leaves the loop with a result that
satisfies `post`. -/
def Turns (kept : σ → Prop) (post : β → Prop) (ended : Except ε (Turn σ β)) : Prop :=
  (∃ next, ended = .ok (.again next) ∧ kept next) ∨ ∃ result, ended = .ok (.leave result) ∧ post result

theorem loop_ends (exhausted : ε) {turn : σ → Except ε (Turn σ β)} {kept : σ → Prop} {post : β → Prop}
    (measure : σ → Nat)
    (turns : ∀ state, kept state → Turns (fun next => kept next ∧ measure next < measure state) post (turn state))
    {gas : Nat} {state : σ} (holds : kept state) (enough : measure state < gas) :
    ∃ result, loop exhausted turn gas state = .ok result ∧ post result := by
  induction gas generalizing state with
  | zero => omega
  | succ gas recurse =>
    rcases turns state holds with ⟨next, ended, keeps, smaller⟩ | ⟨result, ended, good⟩
    · obtain ⟨result, equation, good⟩ := recurse keeps (by omega)
      exact ⟨result, by simp only [loop, ended, equation], good⟩
    · exact ⟨result, by simp only [loop, ended], good⟩

end MpcKit.Transact
