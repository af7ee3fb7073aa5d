import MpcKit.Billing.Tenants

/-! What a call of `chargeWithRefund` leaves in the ledger when it returns or throws. The rows of
its operation are the ones it has written itself, since nobody else draws its op id. -/

namespace MpcKit.Billing
open MpcKit.Backend MpcKit.Async
open Program (rescue Shows shows_unwrap)

/-! ### What a call has written -/

/-- The charge rows a statement makes visible to others. -/
def released (past : Past) : (op : Op) → Res op → List BillingCharge
  | .commit, .ok _ => (posting past).charges
  | _, _ => []

/-- The charge rows a call has committed. -/
def posted : Past → List BillingCharge
  | [] => []
  | ⟨op, answer⟩ :: past => posted past ++ released past op answer

/-- The op id a call has drawn. -/
def drawn : Past → Option Uuid
  | [] => none
  | ⟨.randomUUID, opId⟩ :: _ => some opId
  | _ :: past => drawn past

/-- How the wrapped function has ended, once for every run of it. -/
def ran : Past → List (Except Thrown Uuid)
  | [] => []
  | ⟨.body, outcome⟩ :: past => outcome :: ran past
  | _ :: past => ran past

def NewCharge.op (new : NewCharge) : OpKey := ⟨new.network, new.opType, new.opId⟩

/-- The operation a call writes rows of. -/
def Call.operation (past : Past) : Call → Option OpKey
  | .recordDeposit _ _ _ => none
  | .charge args => some args.op
  | .refund args => some args.op
  | .chargeWithRefund args => (drawn past).map (OpKey.mk args.network args.opType)

/-- What the database answers about an operation only its own call has written, and about an account
that is there. -/
def Agrees (key : OpKey) (past : Past) : (op : Op) → Res op → Prop
  | .selectAccount userId network, none => ∀ answer, ¬Heard past (.insertAccount userId network) answer
  | .lockAccount userId network, .ok none => ¬Ensured past userId network
  | .selectCharge op kind, .ok found => op = key → (posting past).charges = [] →
      found = (posted past).find? (fun row => row.kind = kind)
  | .selectCredits op kind, .ok credits => op = key → (posting past).charges = [] →
      credits = ((posted past).filter (fun row => row.kind = kind)).map BillingCharge.creditsMicro
  | .insertCharge new, .error error => new.op = key →
      error = driverError ∨ ∃ row ∈ posted past ++ (posting past).charges, row.kind = new.kind
  | _, _ => True

def Truthful (key : OpKey) : Past → Prop
  | [] => True
  | ⟨op, answer⟩ :: past => Agrees key past op answer ∧ Truthful key past

theorem Truthful.earlier {key : OpKey} {past later : Past} (truthful : Truthful key later) (grown : past <:+ later) :
    Truthful key past := by
  induction later with
  | nil =>
    rw [List.suffix_nil.mp grown]
    trivial
  | cons entry later ih =>
    rcases List.suffix_cons_iff.mp grown with same | before
    · rw [same]
      exact truthful
    · exact ih truthful.2 before

/-- A statement that failed for reasons of its own. -/
def Fails : (op : Op) → Res op → Prop
  | .begin, .error _ => True
  | .commit, .error _ => True
  | .selectCharge _ _, .error _ => True
  | .selectCredits _ _, .error _ => True
  | .lockAccount _ _, .error _ => True
  | .addCredits _, .error _ => True
  | .insertCharge _, .error error => error = driverError
  | _, _ => False

def Broken (past : Past) : Prop := ∃ op answer, Heard past op answer ∧ Fails op answer

theorem Broken.later {past later : Past} (broken : Broken past) (grown : past <:+ later) : Broken later := by
  obtain ⟨op, answer, heard, fails⟩ := broken
  exact ⟨op, answer, heard.later grown, fails⟩

theorem broken_last {op : Op} {answer : Res op} {past : Past} (fails : Fails op answer) : Broken (⟨op, answer⟩ :: past) :=
  ⟨op, answer, .last, fails⟩

namespace ChargeWithRefundArgs

variable (args : ChargeWithRefundArgs) (opId : Uuid)

def op : OpKey := ⟨args.network, args.opType, opId⟩

def chargeArgs : ChargeArgs :=
  ⟨args.userId, args.network, args.opType, opId, args.amountMicro, some args.chargeReason⟩

def refundArgs (error : Thrown) : RefundArgs :=
  ⟨args.userId, args.network, args.opType, opId, args.amountMicro, slice (args.refundReason error) 200⟩

/-- The balance was read under the row lock and was less than the price. -/
def Short (past : Past) : Prop :=
  ∃ creditsMicro, Heard past (.lockAccount args.userId args.network) (.ok (some creditsMicro)) ∧ creditsMicro < args.amountMicro

/-- What the rows of the operation and the runs of the wrapped function are, by how the call ended. -/
inductive Settled (rows : List BillingCharge) (past : Past) : Except Thrown Reply → Prop where
  | refused (error : Thrown) (idle : ran past = []) (unpaid : rows = [])
      (why : args.amountMicro ≤ 0 ∨ Broken past ∨ args.Short past) : Settled rows past (.error error)
  | paid (value chargeId : Uuid) (once : ran past = [.ok value])
      (charged : rows = [(args.chargeArgs opId).newCharge.row chargeId]) : Settled rows past (.ok (.value value))
  | returned (error : Thrown) (chargeId refundId : Uuid) (once : ran past = [.error error])
      (paired : rows = [(args.chargeArgs opId).newCharge.row chargeId, (args.refundArgs opId error).newRefund.row refundId]) :
      Settled rows past (.error error)
  | kept (error : Thrown) (chargeId : Uuid) (once : ran past = [.error error])
      (charged : rows = [(args.chargeArgs opId).newCharge.row chargeId]) (why : Broken past) :
      Settled rows past (.error error)

end ChargeWithRefundArgs

/-- A call draws its op id first, and inserts rows of its own operation only. -/
def Keyed (call : Call) (past : Past) : Op → Prop
  | .randomUUID => past = []
  | .insertCharge new => call.operation past = some new.op
  | _ => True

def keyed (call : Call) : Contract Op Res Thrown Reply where
  answers := answers
  before past op := Keyed call past op
  after past result := ∀ args, call = .chargeWithRefund args → ∃ opId, drawn past = some opId ∧
    (Truthful (args.op opId) past → args.Settled opId (posted past) past result)

section Walks

variable {call : Call} {key : OpKey} {past : Past} {opId : Uuid} {rows : List BillingCharge}
  {outcomes : List (Except Thrown Uuid)}

/-- The op id a call has drawn, the rows it has committed and how its function has ended. -/
structure Held (opId : Uuid) (rows : List BillingCharge) (outcomes : List (Except Thrown Uuid)) (past : Past) : Prop where
  drawn : drawn past = some opId
  posted : posted past = rows
  ran : ran past = outcomes

/-- The same between two transactions. -/
structure Stands (opId : Uuid) (rows : List BillingCharge) (outcomes : List (Except Thrown Uuid)) (past : Past) : Prop
    extends Held opId rows outcomes past where
  closed : posting past = .empty

/-- Statements that neither draw an op id, nor run the function, nor end a transaction. -/
def silent : Op → Bool
  | .randomUUID => false
  | .body => false
  | .commit => false
  | _ => true

theorem Held.cons (held : Held opId rows outcomes past) {op : Op} (answer : Res op) (quiet : silent op = true) :
    Held opId rows outcomes (⟨op, answer⟩ :: past) := by
  have kept : Billing.posted past ++ [] = rows := (List.append_nil _).trans held.posted
  cases op with
  | randomUUID => cases quiet
  | body => cases quiet
  | commit => cases quiet
  | _ => exact ⟨held.drawn, kept, held.ran⟩

theorem Held.failed (held : Held opId rows outcomes past) (error : Thrown) :
    Held opId rows outcomes (⟨.commit, .error error⟩ :: past) :=
  ⟨held.drawn, (List.append_nil _).trans held.posted, held.ran⟩

theorem shows_account (key : OpKey) {userId : Uuid} {network : String} (stands : Stands opId rows outcomes past) :
    (getOrCreateAccount userId network).Shows (keyed call) past (fun later result => Stands opId rows outcomes later ∧
      (∀ account, result = .ok account → Ensured later userId network) ∧
      ∀ error, result = .error error → ¬Truthful key later) := by
  have reads : ∀ {past} answer, Stands opId rows outcomes past →
      Stands opId rows outcomes (⟨.selectAccount userId network, answer⟩ :: past) :=
    fun answer stands => ⟨stands.cons answer rfl, stands.closed⟩
  have inserts : ∀ {past} answer, Stands opId rows outcomes past →
      Stands opId rows outcomes (⟨.insertAccount userId network, answer⟩ :: past) :=
    fun answer stands => ⟨stands.cons answer rfl, stands.closed⟩
  apply Shows.perform trivial
  intro found _
  cases found with
  | some account => exact .ret ⟨reads _ stands, fun _ _ => .inl ⟨account, List.mem_cons_self⟩, nofun⟩
  | none =>
    apply Shows.perform trivial
    intro inserted _
    cases inserted with
    | some account => exact .ret ⟨inserts _ (reads _ stands), fun _ _ => .inr ⟨account, List.mem_cons_self⟩, nofun⟩
    | none =>
      apply Shows.perform trivial
      intro again _
      cases again with
      | some account =>
        exact .ret ⟨reads _ (inserts _ (reads _ stands)), fun _ _ => .inl ⟨account, List.mem_cons_self⟩, nofun⟩
      | none =>
        -- The row whose insert met a conflict is there.
        exact .raise ⟨reads _ (inserts _ (reads _ stands)), nofun, fun _ _ truthful => truthful.1 none .last⟩

/-- A reason to throw, which lasts; a broken statement is one. -/
structure Excuses (excuse : Past → Prop) : Prop where
  lasts : ∀ {past later : Past}, past <:+ later → excuse past → excuse later
  broken : ∀ {past : Past}, Broken past → excuse past

/-- How a transaction ends: its rows are released, or none are for a reason. -/
def Closes (key : OpKey) (opId : Uuid) (rows : List BillingCharge) (outcomes : List (Except Thrown Uuid))
    (good : List BillingCharge → Prop) (excuse : Past → Prop) {α : Type} (later : Past) : Except Thrown α → Prop
  | .ok _ => ∃ added, Stands opId (rows ++ added) outcomes later ∧ (Truthful key later → good added)
  | .error _ => Stands opId rows outcomes later ∧ (Truthful key later → excuse later)

/-- How the body of a transaction ends. -/
def Leaves (key : OpKey) (opId : Uuid) (rows : List BillingCharge) (outcomes : List (Except Thrown Uuid))
    (good : List BillingCharge → Prop) (excuse : Past → Prop) {α : Type} (later : Past) : Except Thrown α → Prop
  | .ok _ => Held opId rows outcomes later ∧ (Truthful key later → good (posting later).charges)
  | .error _ => Held opId rows outcomes later ∧ (Truthful key later → excuse later)

variable {good : List BillingCharge → Prop} {excuse : Past → Prop}

theorem shows_atomic {α : Type} {body : Prog α} (excuses : Excuses excuse) (stands : Stands opId rows outcomes past)
    (inside : body.Shows (keyed call) (⟨.begin, .ok ()⟩ :: past) (Leaves key opId rows outcomes good excuse)) :
    (transaction body).Shows (keyed call) past (Closes key opId rows outcomes good excuse) := by
  apply Shows.perform trivial
  intro begun _
  apply Shows.unwrap
  · intro _ same
    subst same
    apply Shows.rescue (fun later result =>
      (∀ value, result = .ok value → Closes key opId rows outcomes good excuse later result) ∧
      ∀ error, result = .error error → Held opId rows outcomes later ∧ (Truthful key later → excuse later))
    · apply inside.bind
      · intro later value _ left
        apply Shows.perform trivial
        intro ended _
        cases ended with
        | ok _ =>
          have released : Held opId (rows ++ (posting later).charges) outcomes (⟨.commit, .ok ()⟩ :: later) :=
            ⟨left.1.drawn, congrArg (· ++ (posting later).charges) left.1.posted, left.1.ran⟩
          exact .ret ⟨fun _ _ => ⟨_, ⟨released, rfl⟩, fun truthful => left.2 truthful.2⟩, nofun⟩
        | error error =>
          exact .raise ⟨nofun, fun _ _ => ⟨left.1.failed error, fun _ => excuses.broken (broken_last trivial)⟩⟩
      · intro later error _ left
        exact ⟨nofun, fun _ _ => left⟩
    · intro later value _ ended
      exact ended.1 value rfl
    · intro later error _ ended
      obtain ⟨held, reason⟩ := ended.2 error rfl
      apply Shows.perform trivial
      intro _ _
      apply Shows.raise
      exact ⟨⟨held.cons _ rfl, rfl⟩, fun truthful => excuses.lasts (List.suffix_cons _ _) (reason truthful.2)⟩
  · intro error same
    subst same
    exact ⟨⟨stands.cons _ rfl, rfl⟩, fun _ => excuses.broken (broken_last trivial)⟩

/-! ### The charge and the refund -/

variable {args : ChargeWithRefundArgs}

theorem Held.keyed (held : Held opId rows outcomes past) {new : NewCharge} (own : new.op = args.op opId) :
    Keyed (.chargeWithRefund args) past (.insertCharge new) := by
  rw [Keyed, Call.operation, held.drawn, own]
  rfl

theorem Ensured.later {userId : Uuid} {network : String} {later : Past} (ensured : Ensured past userId network)
    (grown : past <:+ later) : Ensured later userId network := by
  rcases ensured with ⟨account, seen⟩ | ⟨account, made⟩
  · exact .inl ⟨account, grown.subset seen⟩
  · exact .inr ⟨account, grown.subset made⟩

/-- Why the charge may have been refused. -/
def Refusal (args : ChargeWithRefundArgs) (past : Past) : Prop := Broken past ∨ args.Short past

theorem excuses_refusal : Excuses (Refusal args) where
  lasts grown reason := by
    rcases reason with broken | ⟨creditsMicro, heard, short⟩
    · exact .inl (broken.later grown)
    · exact .inr ⟨creditsMicro, heard.later grown, short⟩
  broken := .inl

theorem excuses_broken : Excuses Broken := ⟨fun grown broken => broken.later grown, id⟩

/-- Nothing but the charge has been written. -/
def Charged (args : ChargeWithRefundArgs) (opId : Uuid) (rows : List BillingCharge) : Prop :=
  ∃ id, rows = [(args.chargeArgs opId).newCharge.row id]

theorem shows_chargeTransaction (stands : Stands opId [] outcomes past) (ensured : Ensured past args.userId args.network) :
    (chargeTransaction (args.chargeArgs opId)).Shows (keyed (.chargeWithRefund args)) past
      (Closes (args.op opId) opId [] outcomes (Charged args opId) (Refusal args)) := by
  apply shows_atomic excuses_refusal stands
  have begun : Held opId [] outcomes (⟨.begin, .ok ()⟩ :: past) := stands.cons _ rfl
  apply Shows.perform trivial
  intro looked _
  have first := begun.cons looked rfl
  apply Shows.unwrap
  · intro found same
    subst same
    cases found with
    | some existing =>
      -- Nothing has been written under a fresh op id.
      refine .ret ⟨first, fun truthful => ?_⟩
      have absent := truthful.1 rfl rfl
      rw [begun.posted] at absent
      cases absent
    | none =>
      apply Shows.perform trivial
      intro locked _
      have second := first.cons locked rfl
      apply Shows.unwrap
      · intro balance same
        subst same
        cases balance with
        | none =>
          refine .raise ⟨second, fun truthful => absurd (ensured.later ?_) truthful.1⟩
          exact (List.suffix_cons _ _).trans (List.suffix_cons _ _)
        | some creditsMicro =>
          dsimp only
          split
          next short => exact .raise ⟨second, fun _ => .inr ⟨creditsMicro, .last, short⟩⟩
          next enough =>
            apply Shows.perform trivial
            intro updated _
            have third := second.cons updated rfl
            apply Shows.unwrap
            · intro _ same
              subst same
              apply Shows.perform (third.keyed rfl)
              intro inserted known
              have fourth := third.cons inserted rfl
              apply shows_unwrap
              cases inserted with
              | ok row =>
                obtain ⟨id, same⟩ := known
                exact ⟨fourth, fun _ => ⟨id, congrArg (fun row => [row]) same⟩⟩
              | error error =>
                refine ⟨fourth, fun truthful => ?_⟩
                rcases truthful.1 rfl with driver | ⟨row, member, _⟩
                · exact .inl (broken_last driver)
                · rw [third.posted] at member
                  cases member
            · intro error same
              subst same
              exact ⟨third, fun _ => .inl (broken_last trivial)⟩
      · intro error same
        subst same
        exact ⟨second, fun _ => .inl (broken_last trivial)⟩
  · intro error same
    subst same
    exact ⟨first, fun _ => .inl (broken_last trivial)⟩

/-- The charge rows of the operation add up to the price. -/
theorem charged_total {chargeId : Uuid} {error : Thrown} {chargeRows : List Int}
    (agrees : Agrees (args.op opId) past (.selectCredits (args.refundArgs opId error).op .charge) (.ok chargeRows))
    (held : Held opId [(args.chargeArgs opId).newCharge.row chargeId] outcomes past)
    (unwritten : (posting past).charges = []) :
    (chargeRows.map (fun creditsMicro => -creditsMicro)).sum = args.amountMicro := by
  rw [agrees rfl unwritten, held.posted]
  simp [NewCharge.row, ChargeArgs.newCharge, ChargeWithRefundArgs.chargeArgs]

theorem shows_refundTransaction {error : Thrown} (positive : 0 < args.amountMicro) (stands : Stands opId rows outcomes past)
    (charged : Truthful (args.op opId) past → Charged args opId rows) :
    (refundTransaction (args.refundArgs opId error)).Shows (keyed (.chargeWithRefund args)) past
      (Closes (args.op opId) opId rows outcomes
        (fun added => ∃ id, added = [(args.refundArgs opId error).newRefund.row id]) Broken) := by
  apply shows_atomic excuses_broken stands
  have begun : Held opId _ outcomes (⟨.begin, .ok ()⟩ :: past) := stands.cons _ rfl
  apply Shows.perform trivial
  intro looked _
  have first := begun.cons looked rfl
  apply Shows.unwrap
  · intro found same
    subst same
    cases found with
    | some existing =>
      refine .ret ⟨first, fun truthful => ?_⟩
      obtain ⟨chargeId, paid⟩ := charged truthful.2.2
      have absent := truthful.1 rfl rfl
      rw [begun.posted, paid] at absent
      cases absent
    | none =>
      apply Shows.perform trivial
      intro summed _
      have second := first.cons summed rfl
      apply Shows.unwrap
      · intro chargeRows same
        subst same
        dsimp only
        split
        next none =>
          refine .raise ⟨second, fun truthful => ?_⟩
          obtain ⟨chargeId, paid⟩ := charged truthful.2.2.2
          have total := charged_total truthful.1 (paid ▸ first) rfl
          omega
        next some =>
          apply Shows.perform trivial
          intro prior _
          have third := second.cons prior rfl
          apply Shows.unwrap
          · intro priorRefundRows same
            subst same
            split
            next exceeds =>
              refine .raise ⟨third, fun truthful => ?_⟩
              obtain ⟨chargeId, paid⟩ := charged truthful.2.2.2.2
              have total := charged_total truthful.2.1 (paid ▸ first) rfl
              have unrefunded : priorRefundRows = [] := by
                rw [truthful.1 rfl rfl, second.posted, paid]
                rfl
              rw [unrefunded, total] at exceeds
              simp [ChargeWithRefundArgs.refundArgs] at exceeds
            next within =>
              apply Shows.perform trivial
              intro updated _
              have fourth := third.cons updated rfl
              apply Shows.unwrap
              · intro _ same
                subst same
                apply Shows.perform (fourth.keyed rfl)
                intro inserted known
                have fifth := fourth.cons inserted rfl
                apply shows_unwrap
                cases inserted with
                | ok row =>
                  obtain ⟨id, same⟩ := known
                  exact ⟨fifth, fun _ => ⟨id, congrArg (fun row => [row]) same⟩⟩
                | error error =>
                  refine ⟨fifth, fun truthful => ?_⟩
                  obtain ⟨chargeId, paid⟩ := charged truthful.2.2.2.2.2.2
                  rcases truthful.1 rfl with driver | ⟨row, member, kind⟩
                  · exact broken_last driver
                  · rw [fourth.posted, paid] at member
                    cases List.mem_singleton.mp member
                    cases kind
              · intro error same
                subst same
                exact ⟨fourth, fun _ => broken_last trivial⟩
          · intro error same
            subst same
            exact ⟨third, fun _ => broken_last trivial⟩
      · intro error same
        subst same
        exact ⟨second, fun _ => broken_last trivial⟩
  · intro error same
    subst same
    exact ⟨first, fun _ => broken_last trivial⟩

/-- How the charge of a fresh operation ends. -/
def Charges (args : ChargeWithRefundArgs) (opId : Uuid) {α : Type} (later : Past) : Except Thrown α → Prop
  | .ok _ => 0 < args.amountMicro ∧ ∃ rows, Stands opId rows [] later ∧
      (Truthful (args.op opId) later → Charged args opId rows)
  | .error _ => Stands opId [] [] later ∧ (Truthful (args.op opId) later → args.amountMicro ≤ 0 ∨ Refusal args later)

theorem shows_ownCharge (stands : Stands opId [] [] past) :
    (charge (args.chargeArgs opId)).Shows (keyed (.chargeWithRefund args)) past (Charges args opId) := by
  unfold charge
  split
  next free => exact .raise ⟨stands, fun _ => .inl free⟩
  next priced =>
    apply (shows_account (args.op opId) stands).bind
    · intro later account _ opened
      apply (shows_chargeTransaction opened.1 (opened.2.1 account rfl)).mono
      intro final result _ closes
      cases result with
      | ok row =>
        obtain ⟨added, still, paid⟩ := closes
        exact ⟨Int.not_le.mp priced, added, still, paid⟩
      | error error => exact ⟨closes.1, fun truthful => .inr (closes.2 truthful)⟩
    · intro later error _ opened
      exact ⟨opened.1, fun truthful => absurd truthful (opened.2.2 error rfl)⟩

theorem shows_ownRefund {error : Thrown} (positive : 0 < args.amountMicro) (stands : Stands opId rows outcomes past)
    (charged : Truthful (args.op opId) past → Charged args opId rows) :
    (refund (args.refundArgs opId error)).Shows (keyed (.chargeWithRefund args)) past
      (Closes (args.op opId) opId rows outcomes
        (fun added => ∃ id, added = [(args.refundArgs opId error).newRefund.row id]) Broken) := by
  unfold refund
  split
  next free => exact absurd positive (Int.not_lt.mpr free)
  next priced =>
    apply (shows_account (args.op opId) stands).bind
    · intro later account grown opened
      exact shows_refundTransaction positive opened.1 (fun truthful => charged (truthful.earlier grown))
    · intro later error _ opened
      exact ⟨opened.1, fun truthful => absurd truthful (opened.2.2 error rfl)⟩

/-- The refund after a thrown error, which it never masks. -/
theorem shows_giveBack {error : Thrown} (positive : 0 < args.amountMicro) (stands : Stands opId rows [.error error] past)
    (charged : Truthful (args.op opId) past → Charged args opId rows) :
    ((rescue (do let _ ← refund (args.refundArgs opId error); return ()) (fun _ => return ()) : Prog Unit).bind
        (fun _ => .raise error) : Prog Uuid).Shows (keyed (.chargeWithRefund args)) past (fun later result =>
      drawn later = some opId ∧ (Truthful (args.op opId) later →
        args.Settled opId (posted later) later (result.map Reply.value))) := by
  have kept : ∀ later, past <:+ later → Stands opId rows [.error error] later →
      (Truthful (args.op opId) later → Broken later) → Truthful (args.op opId) later →
      args.Settled opId (posted later) later (.error error) := by
    intro later grown still reason truthful
    obtain ⟨chargeId, paid⟩ := charged (truthful.earlier grown)
    exact .kept error chargeId still.ran (still.posted.trans paid) (reason truthful)
  have returned : ∀ later added, past <:+ later → Stands opId (rows ++ added) [.error error] later →
      (Truthful (args.op opId) later → ∃ id, added = [(args.refundArgs opId error).newRefund.row id]) →
      Truthful (args.op opId) later → args.Settled opId (posted later) later (.error error) := by
    intro later added grown still repaid truthful
    obtain ⟨chargeId, paid⟩ := charged (truthful.earlier grown)
    obtain ⟨refundId, back⟩ := repaid truthful
    refine .returned error chargeId refundId still.ran ?_
    rw [still.posted, paid, back]
    rfl
  have caught : (rescue (do let _ ← refund (args.refundArgs opId error); return ()) (fun _ => return ()) : Prog Unit).Shows
      (keyed (.chargeWithRefund args)) past (fun later result => result = .ok () ∧ drawn later = some opId ∧
        (Truthful (args.op opId) later → args.Settled opId (posted later) later (.error error))) := by
    apply Shows.rescue (fun later _ => drawn later = some opId ∧ (Truthful (args.op opId) later →
      args.Settled opId (posted later) later (.error error)))
    · apply (shows_ownRefund positive stands charged).bind
      · intro later _ grown closes
        obtain ⟨added, still, repaid⟩ := closes
        exact .ret ⟨still.drawn, returned later added grown still repaid⟩
      · intro later _ grown closes
        exact ⟨closes.1.drawn, kept later grown closes.1 closes.2⟩
    · intro later _ _ ended
      exact ⟨rfl, ended⟩
    · intro later _ _ ended
      exact .ret ⟨rfl, ended⟩
  apply caught.bind
  · intro later _ _ ended
    exact .raise ended.2
  · intro later _ _ ended
    cases ended.1

/-- The whole call, with the function as a single operation. -/
theorem shows_wrapped : (chargeWithRefund args (do Program.unwrap (← perform .body))).Shows (keyed (.chargeWithRefund args)) []
    (fun later result => ∃ opId, drawn later = some opId ∧ (Truthful (args.op opId) later →
      args.Settled opId (posted later) later (result.map Reply.value))) := by
  apply Shows.perform rfl
  intro opId _
  have fresh : Stands opId [] [] [⟨.randomUUID, opId⟩] := ⟨⟨rfl, rfl, rfl⟩, rfl⟩
  apply (shows_ownCharge fresh).bind
  · intro charged _ _ ⟨positive, rows, still, paid⟩
    have ended : ∀ outcome, Stands opId rows [outcome] (⟨.body, outcome⟩ :: charged) := by
      intro outcome
      refine ⟨⟨still.drawn, (List.append_nil _).trans still.posted, ?_⟩, still.closed⟩
      exact congrArg (List.cons outcome) still.ran
    apply Shows.rescue (fun later result => Stands opId rows [result] later ∧
      (Truthful (args.op opId) later → Charged args opId rows))
    · apply Shows.perform trivial
      intro outcome _
      exact shows_unwrap ⟨ended outcome, fun truthful => paid truthful.2⟩
    · intro later value _ once
      refine ⟨opId, once.1.drawn, fun truthful => ?_⟩
      obtain ⟨chargeId, charged⟩ := once.2 truthful
      exact .paid value chargeId once.1.ran (once.1.posted.trans charged)
    · intro later error _ once
      apply (shows_giveBack positive once.1 once.2).mono
      intro final result _ settled
      exact ⟨opId, settled⟩
  · intro later error _ refused
    refine ⟨opId, refused.1.drawn, fun truthful => ?_⟩
    exact .refused error refused.1.ran refused.1.posted (refused.2 truthful)

/-! ### The other calls -/

/-- Statements of a call that draws no op id: rows of one operation only. -/
def Filed (operation : Option OpKey) : Op → Prop
  | .randomUUID => False
  | .insertCharge new => operation = some new.op
  | _ => True

variable {operation : Option OpKey}

theorem only_getOrCreateAccount (userId : Uuid) (network : String) :
    (getOrCreateAccount userId network).Only (Filed operation) := by
  apply Program.only_perform trivial
  intro found
  cases found with
  | some account => trivial
  | none =>
    apply Program.only_perform trivial
    intro inserted
    cases inserted with
    | some account => trivial
    | none =>
      apply Program.only_perform trivial
      intro again
      cases again <;> trivial

theorem only_transaction {α : Type} {body : Prog α} (inside : body.Only (Filed operation)) :
    (transaction body).Only (Filed operation) := by
  apply Program.only_perform trivial
  intro begun
  apply (Program.only_unwrap begun).bind
  intro _
  apply Program.Only.rescue
  · apply inside.bind
    intro value
    apply Program.only_perform trivial
    intro ended
    exact (Program.only_unwrap ended).bind (fun _ => trivial)
  · intro error
    exact Program.only_perform trivial (fun _ => trivial)

/-- The last two statements of a charge and of a refund. -/
theorem only_record {credit : Credit} {new : NewCharge} (own : operation = some new.op) :
    ((perform (.addCredits credit)).bind (fun updated => (Program.unwrap updated).bind (fun _ =>
      (perform (.insertCharge new)).bind Program.unwrap)) : Prog BillingCharge).Only (Filed operation) := by
  apply Program.only_perform trivial
  intro updated
  apply (Program.only_unwrap updated).bind
  intro _
  exact Program.only_perform own (fun inserted => Program.only_unwrap inserted)

theorem only_charge (args : ChargeArgs) : (charge args).Only (Filed (some args.op)) := by
  unfold charge
  split
  · trivial
  · apply (only_getOrCreateAccount _ _).bind
    intro account
    apply only_transaction
    apply Program.only_perform trivial
    intro looked
    apply (Program.only_unwrap looked).bind
    intro found
    cases found with
    | some existing => trivial
    | none =>
      apply Program.only_perform trivial
      intro locked
      apply (Program.only_unwrap locked).bind
      intro balance
      cases balance with
      | none => trivial
      | some creditsMicro =>
        dsimp only
        split
        · trivial
        · exact only_record rfl

theorem only_refund (args : RefundArgs) : (refund args).Only (Filed (some args.op)) := by
  unfold refund
  split
  · trivial
  · apply (only_getOrCreateAccount _ _).bind
    intro account
    apply only_transaction
    apply Program.only_perform trivial
    intro looked
    apply (Program.only_unwrap looked).bind
    intro found
    cases found with
    | some existing => trivial
    | none =>
      apply Program.only_perform trivial
      intro charged
      apply (Program.only_unwrap charged).bind
      intro chargeRows
      dsimp only
      split
      · trivial
      · apply Program.only_perform trivial
        intro prior
        apply (Program.only_unwrap prior).bind
        intro priorRefundRows
        split
        · trivial
        · exact only_record rfl

theorem only_creditsFor (coinType : String) (amountAtomic : Int) : (creditsFor coinType amountAtomic).Only (Filed operation) :=
  Program.only_perform trivial (fun converted => Program.only_unwrap converted)

theorem only_depositTransaction (userId : Uuid) (network : String) (verified : VerifiedDeposit) :
    (depositTransaction userId network verified).Only (Filed operation) := by
  apply only_transaction
  apply Program.Only.bind
  · apply Program.Only.fold
    intro state coin
    apply (only_creditsFor coin.1 coin.2).bind
    intro converted
    apply Program.only_perform trivial
    intro inserted
    exact (Program.only_unwrap inserted).bind (fun _ => trivial)
  · intro sums
    apply Program.only_perform trivial
    intro updated
    apply (Program.only_unwrap updated).bind
    intro balance
    split <;> trivial

theorem only_verifyDeposit (config : Config) (network digest recipient : String) :
    (verifyDeposit config network digest recipient).Only (Filed operation) := by
  apply Program.only_perform trivial
  intro fetched
  apply (Program.only_unwrap fetched).bind
  intro result
  split
  · trivial
  · trivial
  · trivial
  · dsimp only
    split <;> trivial

theorem only_recordDeposit (config : Config) (userId : Uuid) (network txDigest : String) :
    (recordDeposit config userId network txDigest).Only (Filed operation) := by
  apply Program.only_perform trivial
  intro prior
  cases prior with
  | some prior =>
    dsimp only
    split
    · trivial
    · split
      · trivial
      · apply Program.Only.bind
        · exact (only_getOrCreateAccount userId network).bind (fun _ => trivial)
        · exact fun _ => trivial
  | none =>
    apply Program.Only.bind
    · apply (only_getOrCreateAccount userId network).bind
      intro account
      split
      · trivial
      · apply (Program.only_unwrap _).bind
        intro address
        exact Program.only_perform trivial (fun _ => trivial)
    · intro recipient
      apply (only_verifyDeposit config network txDigest recipient).bind
      intro verified
      apply Program.Only.bind
      · apply Program.Only.fold
        intro sum coin
        exact (only_creditsFor coin.1 coin.2).bind (fun _ => trivial)
      · intro preTotal
        dsimp only
        split
        · trivial
        · apply (only_getOrCreateAccount userId network).bind
          intro account
          apply (only_depositTransaction userId network verified).bind
          intro recorded
          exact Program.only_perform trivial (fun queued => (Program.only_unwrap queued).bind (fun _ => trivial))

theorem keyed_of_only {program : Prog Reply} (fixed : ∀ past, call.operation past = operation)
    (plain : ∀ args, call ≠ .chargeWithRefund args) (only : program.Only (Filed operation)) :
    program.Obeys (keyed call) [] := by
  have shows : program.Shows (keyed call) [] (fun _ _ => True) := by
    apply Program.Only.shows only
    intro past op good
    cases op with
    | randomUUID => exact False.elim good
    | insertCharge new => exact (fixed past).trans good
    | _ => trivial
  exact shows.obeys (fun _ _ _ args same => absurd same (plain args))

theorem program_keyed (config : Config) (call : Call) : (program config call).Obeys (keyed call) [] := by
  cases call with
  | recordDeposit userId network txDigest =>
    apply keyed_of_only (fun _ => rfl)
    · intro other same
      cases same
    · exact (only_recordDeposit config userId network txDigest).bind (fun _ => trivial)
  | charge args =>
    apply keyed_of_only (fun _ => rfl)
    · intro other same
      cases same
    · exact (only_charge args).bind (fun _ => trivial)
  | refund args =>
    apply keyed_of_only (fun _ => rfl)
    · intro other same
      cases same
    · exact (only_refund args).bind (fun _ => trivial)
  | chargeWithRefund args =>
    have shows : (program config (.chargeWithRefund args)).Shows (keyed (.chargeWithRefund args)) []
        (fun later result => ∃ opId, drawn later = some opId ∧ (Truthful (args.op opId) later →
          args.Settled opId (posted later) later result)) := by
      apply shows_wrapped.bind
      · intro later value _ settled
        exact .ret settled
      · intro later error _ settled
        exact settled
    apply shows.obeys
    intro later result settled other same
    cases same
    exact settled

end Walks

theorem honours_keyed (config : Config) : (machine config).Honours keyed where
  programs := program_keyed config
  answers executed _ := answers_exec executed

end MpcKit.Billing
