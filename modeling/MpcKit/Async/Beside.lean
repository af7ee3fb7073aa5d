import MpcKit.Async.Machine

/-! Functions of one environment run among the operations of a larger one, as two services do
that share a database. What a function is known to keep to, it keeps to there. -/

namespace MpcKit.Async

/-- The operations of one environment among those of another. -/
structure Embedding {Op Wide : Type} (Res : Op → Type) (WideRes : Wide → Type) where
  op : Op → Wide
  into : ∀ {op' : Op}, Res op' → WideRes (op op')
  back : ∀ {op' : Op}, WideRes (op op') → Res op'
  into_back : ∀ {op' : Op} (answer : WideRes (op op')), into (back answer) = answer

variable {Op Wide : Type} {Res : Op → Type} {WideRes : Wide → Type} {ε α β : Type}

def Embedding.entry (embedding : Embedding Res WideRes) (entry : Entry Op Res) : Entry Wide WideRes :=
  ⟨embedding.op entry.1, embedding.into entry.2⟩

/-- The function in the larger environment, its result under another type. -/
def Program.within (embedding : Embedding Res WideRes) (value : α → β) : Program Op Res ε α → Program Wide WideRes ε β
  | .ret result => .ret (value result)
  | .raise error => .raise error
  | .await op next => .await (embedding.op op) (fun answer => (next (embedding.back answer)).within embedding value)

/-- What a contract says of a function in the larger environment. -/
def Contract.within (embedding : Embedding Res WideRes) (value : α → β) (contract : Contract Op Res ε α) :
    Contract Wide WideRes ε β where
  answers op answer := ∀ entry, ⟨op, answer⟩ = embedding.entry entry → contract.answers entry.1 entry.2
  before history op := ∃ own action, history = own.map embedding.entry ∧ op = embedding.op action ∧
    contract.before own action
  after history result := ∃ own reply, history = own.map embedding.entry ∧ result = reply.map value ∧
    contract.after own reply

theorem Program.Obeys.within {contract : Contract Op Res ε α} {program : Program Op Res ε α} {history : History Op Res}
    (obeys : program.Obeys contract history) (embedding : Embedding Res WideRes) (value : α → β) :
    (program.within embedding value).Obeys (contract.within embedding value) (history.map embedding.entry) := by
  induction program generalizing history with
  | ret result => exact ⟨history, .ok result, rfl, rfl, obeys⟩
  | raise error => exact ⟨history, .error error, rfl, rfl, obeys⟩
  | await op next ih =>
    refine ⟨⟨history, op, rfl, rfl, obeys.1⟩, fun answer known => ?_⟩
    have same : (⟨embedding.op op, answer⟩ : Entry Wide WideRes) = embedding.entry ⟨op, embedding.back answer⟩ := by
      simp only [Embedding.entry, embedding.into_back]
    have rest := ih (embedding.back answer) (obeys.2 _ (known _ same))
    rw [List.map_cons, ← same] at rest
    exact rest

/-! ### Two environments side by side -/

@[reducible] def Beside {First Second : Type} (FirstRes : First → Type) (SecondRes : Second → Type) : First ⊕ Second → Type
  | .inl op => FirstRes op
  | .inr op => SecondRes op

section Beside

variable {First Second : Type} (FirstRes : First → Type) (SecondRes : Second → Type)

def Embedding.first : Embedding FirstRes (Beside FirstRes SecondRes) := ⟨.inl, id, id, fun _ => rfl⟩

def Embedding.second : Embedding SecondRes (Beside FirstRes SecondRes) := ⟨.inr, id, id, fun _ => rfl⟩

end Beside
end MpcKit.Async
