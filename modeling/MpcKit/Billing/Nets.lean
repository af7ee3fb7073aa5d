import MpcKit.Billing.Wrapped

/-! The rows of a drawn operation are the ones its call has written. Every finished
`chargeWithRefund` has therefore left a charge, a charge with its refund, or nothing. -/

namespace MpcKit.Billing
open MpcKit.Backend MpcKit.Async

/-! ### What one statement does to the charge rows -/

section Step

variable {store after : Store} {past : Nat → Past} {index : Nat} {op : Op} {env : Env} {answer : Res op}

/-- The account an answer speaks of is there. -/
def Housed (store : Store) : (op : Op) → Res op → Prop
  | .selectAccount userId network, some _ => store.Has userId network
  | .insertAccount userId network, _ => store.Has userId network
  | _, _ => True

theorem Housed.later {other : Op} {reply : Res other} (changed : Changed index store after op answer)
    (housed : Housed store other reply) : Housed after other reply := by
  cases other with
  | selectAccount userId network => cases reply with
    | none => trivial
    | some account => exact changed.has housed
  | insertAccount userId network => exact changed.has housed
  | _ => trivial

theorem housed_exec (executed : exec index op env store = some (answer, after)) : Housed after op answer := by
  cases op with
  | selectAccount userId network =>
    cases executed
    cases found : store.findSlot userId network with
    | none => trivial
    | some slot => exact ⟨slot, has_of_findSlot found⟩
  | insertAccount userId network =>
    simp only [exec] at executed
    split at executed
    next slot found =>
      cases executed
      exact ⟨slot, has_of_findSlot found⟩
    next missing =>
      cases executed
      exact ⟨_, List.mem_append_right _ (List.mem_singleton_self _), rfl, rfl⟩
  | _ => trivial

/-- The committed rows grow by what the statement releases, and a new row is inserted under its key. -/
structure Extends (past : Past) (store after : Store) (op : Op) (answer : Res op) : Prop where
  committed : Versioned.committed after.charges = Versioned.committed store.charges ++ released past op answer
  rows : ∀ entry ∈ after.charges, (∃ old ∈ store.charges, old.row = entry.row) ∨
    ∃ new, op = .insertCharge new ∧ entry.row = new.row store.nextId
  nextId : store.nextId ≤ after.nextId

theorem extends_of_same {store after : Store} {op : Op} {answer : Res op} {past : Past} (charges : after.charges = store.charges)
    (nextId : store.nextId ≤ after.nextId) (silent : released past op answer = []) : Extends past store after op answer where
  committed := by rw [charges, silent, List.append_nil]
  rows entry member := .inl ⟨entry, charges ▸ member, rfl⟩
  nextId := nextId

theorem extends_lockSlot {userId : Uuid} {network : String} {delta : Int} {found : Option Int} {past : Past}
    (locked : store.lockSlot index userId network delta = some (found, after)) (silent : released past op answer = []) :
    Extends past store after op answer := by
  unfold Store.lockSlot at locked
  split at locked
  · cases locked
    exact extends_of_same rfl (Nat.le_refl _) silent
  · split at locked
    · cases locked
      exact extends_of_same rfl (Nat.le_refl _) silent
    · cases locked

theorem extends_rollback {past : Past} (silent : released past op answer = []) :
    Extends past store (store.rollback index) op answer where
  committed := by
    rw [silent, List.append_nil]
    exact Versioned.committed_discard index store.charges
  rows entry member := .inl ⟨entry, Versioned.row_of_discard member, rfl⟩
  nextId := Nat.le_refl _

theorem extends_exec (linked : Linked store past) (executed : exec index op env store = some (answer, after)) :
    Extends (past index) store after op answer := by
  cases op with
  | randomUUID =>
    cases executed
    exact extends_of_same rfl (Nat.le_succ _) rfl
  | insertAccount userId network =>
    simp only [exec] at executed
    split at executed
    · cases executed
      exact extends_of_same rfl (Nat.le_refl _) rfl
    · cases executed
      exact extends_of_same rfl (Nat.le_succ _) rfl
  | setDepositAddress id address =>
    simp only [exec] at executed
    split at executed
    · cases executed
      exact extends_of_same rfl (Nat.le_refl _) rfl
    · cases executed
  | commit =>
    simp only [exec] at executed
    split at executed
    · cases executed
      exact extends_rollback rfl
    · cases executed
      refine ⟨?_, fun entry member => .inl (Versioned.row_of_settle member), Nat.le_refl _⟩
      rw [released, ← linked.charges]
      exact Versioned.committed_settle index store.charges
  | rollback =>
    cases executed
    exact extends_rollback rfl
  | lockAccount userId network =>
    simp only [exec] at executed
    split at executed
    · cases executed
      exact extends_of_same rfl (Nat.le_refl _) rfl
    · obtain ⟨⟨found, other⟩, locked, same⟩ := Option.map_eq_some_iff.mp executed
      cases same
      exact extends_lockSlot locked rfl
  | addCredits credit =>
    simp only [exec] at executed
    split at executed
    · cases executed
      exact extends_of_same rfl (Nat.le_refl _) rfl
    · obtain ⟨⟨found, other⟩, locked, same⟩ := Option.map_eq_some_iff.mp executed
      cases same
      exact extends_lockSlot locked rfl
  | insertCharge new =>
    simp only [exec] at executed
    split at executed
    · cases executed
      exact extends_of_same rfl (Nat.le_refl _) rfl
    · obtain ⟨inserted, done, same⟩ := Option.map_eq_some_iff.mp executed
      cases inserted with
      | error error =>
        cases same
        exact extends_of_same rfl (Nat.le_refl _) rfl
      | ok charges =>
        cases same
        obtain ⟨appended, _⟩ := Linked.insertUnique_ok done
        subst appended
        refine ⟨?_, fun entry member => ?_, Nat.le_succ _⟩
        · exact (Versioned.committed_append store.charges (new.row store.nextId) index).trans (List.append_nil _).symm
        · rcases List.mem_append.mp member with old | added
          · exact .inl ⟨entry, old, rfl⟩
          · rw [List.mem_singleton.mp added]
            exact .inr ⟨new, rfl, rfl⟩
  | insertDeposit new =>
    simp only [exec] at executed
    split at executed
    · cases executed
      exact extends_of_same rfl (Nat.le_refl _) rfl
    · obtain ⟨inserted, done, same⟩ := Option.map_eq_some_iff.mp executed
      cases inserted with
      | error error =>
        cases same
        exact extends_of_same rfl (Nat.le_refl _) rfl
      | ok deposits =>
        cases same
        exact extends_of_same rfl (Nat.le_succ _) rfl
  | begin =>
    simp only [exec] at executed
    split at executed <;> (cases executed; exact extends_of_same rfl (Nat.le_refl _) rfl)
  | selectCharge key kind =>
    simp only [exec] at executed
    split at executed <;> (cases executed; exact extends_of_same rfl (Nat.le_refl _) rfl)
  | selectCredits key kind =>
    simp only [exec] at executed
    split at executed <;> (cases executed; exact extends_of_same rfl (Nat.le_refl _) rfl)
  | _ =>
    cases executed
    exact extends_of_same rfl (Nat.le_refl _) rfl

/-- An insert fails on a row with its key that is committed or its own. -/
theorem taken_of_insertUnique {ρ κ : Type} [DecidableEq κ] {key : ρ → κ} {row : ρ} {rows : List (Versioned ρ)} {error : Thrown}
    (failed : insertUnique key index row rows = some (.error error)) :
    ∃ other, key other = key row ∧ (other ∈ Versioned.committed rows ∨ other ∈ Versioned.pending index rows) := by
  unfold insertUnique at failed
  split at failed
  · cases failed
  next other found =>
    have member := List.mem_of_find?_eq_some found
    have same : key other.row = key row := by simpa using List.find?_some found
    split at failed
    next committed =>
      exact ⟨other.row, same, .inl (List.mem_map_of_mem (List.mem_filter.mpr ⟨member, by simp [committed]⟩))⟩
    next writer written =>
      split at failed
      next own =>
        subst own
        exact ⟨other.row, same, .inr (List.mem_map_of_mem (List.mem_filter.mpr ⟨member, by simp [written]⟩))⟩
      · cases failed

/-- What a call that alone writes an operation is answered about it. -/
theorem agrees_exec {key : OpKey} (linked : Linked store past)
    (housed : ∀ op answer, Heard (past index) op answer → Housed store op answer)
    (rows : (Versioned.committed store.charges).filter (fun row => row.op = key) = posted (past index))
    (executed : exec index op env store = some (answer, after)) : Agrees key (past index) op answer := by
  have alone : (posting (past index)).charges = [] →
      Versioned.visible index store.charges = Versioned.committed store.charges := by
    intro unwritten
    exact Versioned.visible_of_unwritten ((linked.charges index).trans unwritten)
  cases op with
  | selectAccount userId network =>
    cases executed
    cases found : store.findSlot userId network with
    | some slot => trivial
    | none => exact fun answer heard => not_has_of_findSlot found (housed _ _ heard)
  | lockAccount userId network =>
    cases answer with
    | error error => trivial
    | ok balance =>
      cases balance with
      | some creditsMicro => trivial
      | none =>
        have missing : store.findSlot userId network = none := by
          simp only [exec] at executed
          split at executed
          · cases executed
          · obtain ⟨⟨found, other⟩, locked, same⟩ := Option.map_eq_some_iff.mp executed
            cases same
            unfold Store.lockSlot at locked
            split at locked
            next missing => exact missing
            · split at locked <;> cases locked
        intro ensured
        apply not_has_of_findSlot missing
        rcases ensured with ⟨account, seen⟩ | ⟨account, made⟩
        · exact housed _ _ seen
        · exact housed _ _ made
  | selectCharge other kind =>
    cases answer with
    | error error => trivial
    | ok found =>
      intro own unwritten
      subst own
      simp only [exec] at executed
      split at executed
      · cases executed
      · cases executed
        rw [alone unwritten, ← rows, List.find?_filter]
        simp
  | selectCredits other kind =>
    cases answer with
    | error error => trivial
    | ok credits =>
      intro own unwritten
      subst own
      simp only [exec] at executed
      split at executed
      · cases executed
      · cases executed
        rw [alone unwritten, ← rows, List.filter_filter]
        congr 1
        apply List.filter_congr
        intro row _
        simp [and_comm]
  | insertCharge new =>
    cases answer with
    | ok row => trivial
    | error error =>
      intro own
      simp only [exec] at executed
      split at executed
      · cases executed
        exact .inl rfl
      · obtain ⟨inserted, failed, same⟩ := Option.map_eq_some_iff.mp executed
        cases inserted with
        | ok charges => cases same
        | error error =>
          cases same
          obtain ⟨other, equal, there⟩ := taken_of_insertUnique failed
          have keyed : other.op = key ∧ other.kind = new.kind := by
            rw [← own]
            exact Prod.mk.inj equal
          refine .inr ⟨other, List.mem_append.mpr ?_, keyed.2⟩
          rcases there with committed | own
          · left
            rw [← rows]
            exact List.mem_filter.mpr ⟨committed, by simp [keyed.1]⟩
          · right
            rw [← linked.charges]
            exact own
  | _ => trivial

end Step

/-! ### Nobody else writes a drawn operation -/

/-- Calls that name their op id themselves do so under other op types than wrapped calls. -/
def Call.Sorted (wrapped : String → Prop) : Call → Prop
  | .recordDeposit _ _ _ => True
  | .charge args => ¬wrapped args.opType
  | .refund args => ¬wrapped args.opType
  | .chargeWithRefund args => wrapped args.opType

def Sorted (wrapped : String → Prop) (_ : BillingSystem) (event : Event Env Call) : Prop :=
  ∀ call, event = .start call → call.Sorted wrapped

/-- What is known of one call. -/
structure Own (wrapped : String → Prop) (store : Store) (call : Call) (past : Past) : Prop where
  sorted : call.Sorted wrapped
  below : ∀ opId, drawn past = some opId → opId < store.nextId
  keyed : ∀ row ∈ posted past ++ (posting past).charges, call.operation past = some row.op
  rows : ∀ args opId, call = .chargeWithRefund args → drawn past = some opId →
    (Versioned.committed store.charges).filter (fun row => row.op = args.op opId) = posted past
  truthful : ∀ args opId, call = .chargeWithRefund args → drawn past = some opId → Truthful (args.op opId) past

/-- What is known of all calls together. -/
structure Parted (wrapped : String → Prop) (store : Store) (calls : Nat → Option BillingThread) : Prop where
  fresh : ∀ entry ∈ store.charges, wrapped entry.row.opType → entry.row.opId < store.nextId
  own : ∀ index thread, calls index = some thread → Own wrapped store thread.tag thread.history
  apart : ∀ first second one other opId, calls first = some one → calls second = some other →
    drawn one.history = some opId → drawn other.history = some opId → first = second
  housed : Machine.Backed Housed store calls

/-- The rows a statement adds to the open ones, and what it leaves of the drawn op id. -/
theorem charges_cons {op : Op} {answer : Res op} {past : Past} (known : answers op answer) {row : BillingCharge}
    (member : row ∈ posted (⟨op, answer⟩ :: past) ++ (posting (⟨op, answer⟩ :: past)).charges) :
    row ∈ posted past ++ (posting past).charges ∨ ∃ new, op = .insertCharge new ∧ row.op = new.op := by
  have earlier : row ∈ posted past ++ [] → row ∈ posted past ++ (posting past).charges := by
    rw [List.append_nil]
    exact List.mem_append_left _
  have open_ : row ∈ posted past ++ [] ++ (posting past).charges → row ∈ posted past ++ (posting past).charges := by
    rw [List.append_nil]
    exact id
  have none : row ∈ posted past ++ [] ++ [] → row ∈ posted past ++ (posting past).charges := by
    rw [List.append_nil]
    exact earlier
  cases op with
  | begin => exact .inl (none member)
  | rollback => exact .inl (none member)
  | commit => cases answer with
    | ok _ =>
      left
      rwa [posted, released, posting, Posting.empty, List.append_nil] at member
    | error error => exact .inl (none member)
  | addCredits credit => cases answer with
    | ok updated => exact .inl (open_ member)
    | error error => exact .inl (open_ member)
  | insertDeposit new => cases answer with
    | ok inserted => exact .inl (open_ member)
    | error error => exact .inl (open_ member)
  | insertCharge new => cases answer with
    | error error => exact .inl (open_ member)
    | ok inserted =>
      obtain ⟨id, same⟩ := known
      rcases List.mem_append.mp member with committed | written
      · exact .inl (earlier committed)
      · rcases List.mem_append.mp written with before | last
        · exact .inl (List.mem_append_right _ before)
        · rw [List.mem_singleton.mp last, same]
          exact .inr ⟨new, rfl, rfl⟩
  | _ => exact .inl (open_ member)

theorem drawn_cons {op : Op} {answer : Res op} {past : Past} (other : op ≠ .randomUUID) :
    drawn (⟨op, answer⟩ :: past) = drawn past := by
  cases op with
  | randomUUID => exact absurd rfl other
  | _ => rfl

theorem operation_cons {op : Op} {answer : Res op} {past : Past} (other : op ≠ .randomUUID) (call : Call) :
    call.operation (⟨op, answer⟩ :: past) = call.operation past := by
  cases call with
  | chargeWithRefund args => rw [Call.operation, Call.operation, drawn_cons other]
  | _ => rfl

namespace Own

variable {wrapped : String → Prop} {store after : Store} {call : Call} {past : Past}

/-- Rows of other operations are released. -/
theorem foreign (own : Own wrapped store call past) {added : List BillingCharge}
    (committed : Versioned.committed after.charges = Versioned.committed store.charges ++ added) (nextId : store.nextId ≤ after.nextId)
    (others : ∀ args opId, call = .chargeWithRefund args → drawn past = some opId → ∀ row ∈ added, row.op ≠ args.op opId) :
    Own wrapped after call past where
  sorted := own.sorted
  below opId drew := Nat.lt_of_lt_of_le (own.below opId drew) nextId
  keyed := own.keyed
  rows args opId same drew := by
    have none : added.filter (fun row => row.op = args.op opId) = [] := by
      rw [List.filter_eq_nil_iff]
      intro row member
      simpa using others args opId same drew row member
    rw [committed, List.filter_append, none, List.append_nil]
    exact own.rows args opId same drew
  truthful := own.truthful

/-- The call itself draws its op id: nothing has been written under it. -/
theorem draw (own : Own wrapped store call []) (fresh : ∀ entry ∈ store.charges, wrapped entry.row.opType → entry.row.opId < store.nextId) :
    Own wrapped { store with nextId := store.nextId + 1 } call [⟨.randomUUID, store.nextId⟩] where
  sorted := own.sorted
  below opId drew := by
    cases drew
    exact Nat.lt_succ_self _
  keyed row member := absurd member List.not_mem_nil
  rows args opId same drew := by
    cases drew
    apply List.filter_eq_nil_iff.mpr
    intro row member
    obtain ⟨entry, inside, here⟩ := List.mem_map.mp member
    subst here
    have sorted : wrapped args.opType := by
      have mine := own.sorted
      rwa [same] at mine
    simp only [decide_eq_true_eq]
    intro equal
    have parts := OpKey.mk.inj equal
    have below := fresh entry (List.mem_of_mem_filter inside) (parts.2.1 ▸ sorted)
    rw [parts.2.2] at below
    exact absurd below (Nat.lt_irrefl _)
  truthful args opId same drew := ⟨trivial, trivial⟩

/-- Any other statement of the call itself. -/
theorem advance (own : Own wrapped store call past) {op : Op} {answer : Res op} (other : op ≠ .randomUUID)
    (known : answers op answer) (keyed : Keyed call past op) (extends_ : Extends past store after op answer)
    (agrees : ∀ key, (Versioned.committed store.charges).filter (fun row => row.op = key) = posted past → Agrees key past op answer) :
    Own wrapped after call (⟨op, answer⟩ :: past) where
  sorted := own.sorted
  below opId drew := by
    rw [drawn_cons other] at drew
    exact Nat.lt_of_lt_of_le (own.below opId drew) extends_.nextId
  keyed row member := by
    rw [operation_cons other]
    rcases charges_cons known member with before | ⟨new, same, equal⟩
    · exact own.keyed row before
    · subst same
      rw [equal]
      exact keyed
  rows args opId same drew := by
    rw [drawn_cons other] at drew
    have all : (released past op answer).filter (fun row => row.op = args.op opId) = released past op answer := by
      apply List.filter_eq_self.mpr
      intro row member
      have written : row ∈ (posting past).charges := by
        unfold released at member
        split at member
        · exact member
        · cases member
      have mine := own.keyed row (List.mem_append_right _ written)
      rw [same, Call.operation, drew] at mine
      exact decide_eq_true (Option.some.inj mine).symm
    rw [extends_.committed, List.filter_append, all, own.rows args opId same drew]
    rfl
  truthful args opId same drew := by
    rw [drawn_cons other] at drew
    exact ⟨agrees _ (own.rows args opId same drew), own.truthful args opId same drew⟩

/-- Who writes an operation of a wrapped type has drawn its op id. -/
theorem drew (own : Own wrapped store call past) {key : OpKey} (mine : call.operation past = some key)
    (type : wrapped key.opType) : drawn past = some key.opId := by
  have sorted := own.sorted
  cases call with
  | recordDeposit userId network txDigest => cases mine
  | charge args =>
    cases mine
    exact absurd type sorted
  | refund args =>
    cases mine
    exact absurd type sorted
  | chargeWithRefund args =>
    obtain ⟨opId, found, same⟩ := Option.map_eq_some_iff.mp mine
    rw [found, ← same]

end Own

namespace Parted

variable {config : Config} {wrapped : String → Prop} {system : BillingSystem} {index : Nat} {env : Env} {thread : BillingThread}
  {op : Op} {answer : Res op} {rest : Prog Reply} {after : Store}

/-- What the acting call releases is not another call's. -/
theorem other (parted : Parted wrapped system.world system.calls) (found : system.calls index = some thread)
    (extends_ : Extends thread.history system.world after op answer) {rival : Nat} {bystander : BillingThread}
    (there : system.calls rival = some bystander) (apart : rival ≠ index) :
    Own wrapped after bystander.tag bystander.history := by
  have mine := parted.own index thread found
  have own := parted.own rival bystander there
  apply own.foreign extends_.committed extends_.nextId
  intro args opId same drew row member equal
  have written : row ∈ (posting thread.history).charges := by
    unfold released at member
    split at member
    · exact member
    · cases member
  have wraps := own.sorted
  rw [same] at wraps
  have keyed := mine.keyed row (List.mem_append_right _ written)
  rw [equal] at keyed
  exact apart (parted.apart rival index bystander thread opId there found drew (mine.drew keyed wraps))

/-- A new op id is nobody else's. -/
theorem alone (parted : Parted wrapped system.world system.calls) (found : system.calls index = some thread)
    (executed : exec index op env system.world = some (answer, after)) {rival : Nat} {bystander : BillingThread} {opId : Uuid}
    (there : system.calls rival = some bystander) (apart : rival ≠ index) (drew : drawn bystander.history = some opId) :
    drawn (⟨op, answer⟩ :: thread.history) ≠ some opId := by
  intro mine
  by_cases draws : op = .randomUUID
  · subst draws
    cases executed
    cases mine
    exact absurd ((parted.own rival bystander there).below _ drew) (Nat.lt_irrefl _)
  · rw [drawn_cons draws] at mine
    exact apart (parted.apart rival index bystander thread opId there found drew mine)

theorem act (parted : Parted wrapped system.world system.calls) (linked : Linked system.world system.past)
    (act : (machine config).Act keyed system index env thread op answer rest after) :
    Parted wrapped after (Function.update system.calls index (some (thread.resume ⟨op, answer⟩ rest))) := by
  have mine := parted.own index thread act.found
  have extends_ : Extends thread.history system.world after op answer := by
    rw [← Machine.past_of_found act.found act.alive]
    exact extends_exec linked act.executed
  have housed : Machine.Backed Housed after (Function.update system.calls index (some (thread.resume ⟨op, answer⟩ rest))) :=
    parted.housed.resume act.found (fun _ _ fact => fact.later (changed_exec act.executed)) (housed_exec act.executed)
  refine ⟨fun entry member type => ?_, fun rival later found => ?_, fun first second one other opId here there drew again => ?_, housed⟩
  · rcases extends_.rows entry member with ⟨old, inside, same⟩ | ⟨new, same, row⟩
    · rw [← same] at type ⊢
      exact Nat.lt_of_lt_of_le (parted.fresh old inside type) extends_.nextId
    · subst same
      rw [row] at type ⊢
      exact Nat.lt_of_lt_of_le (mine.below _ (mine.drew act.before type)) extends_.nextId
  · rcases Machine.calls_update found with ⟨rfl, rfl⟩ | ⟨apart, found⟩
    · by_cases draws : op = .randomUUID
      · subst draws
        have executed := act.executed
        have start : thread.history = [] := act.before
        cases executed
        rw [start] at mine
        change Own wrapped _ thread.tag (_ :: thread.history)
        rw [start]
        exact mine.draw parted.fresh
      · apply mine.advance draws act.known act.before extends_
        intro key rows
        have linkedHistory := Machine.past_of_found act.found act.alive
        rw [← linkedHistory]
        apply agrees_exec linked ?_ (by rw [linkedHistory]; exact rows) act.executed
        rw [linkedHistory]
        exact parted.housed rival thread act.found
    · exact parted.other act.found extends_ found apart
  · rcases Machine.calls_update here with ⟨mine, acts⟩ | ⟨away, here⟩
    · rcases Machine.calls_update there with ⟨same, _⟩ | ⟨away, there⟩
      · exact mine.trans same.symm
      · rw [acts] at drew
        exact absurd drew (parted.alone act.found act.executed there away again)
    · rcases Machine.calls_update there with ⟨_, acts⟩ | ⟨_, there⟩
      · rw [acts] at again
        exact absurd again (parted.alone act.found act.executed here away drew)
      · exact parted.apart first second one other opId here there drew again

/-- A call that starts or is cut off has written nothing more. -/
theorem replace {store after : Store} {calls : Nat → Option BillingThread} (parted : Parted wrapped store calls)
    (extends_ : Extends [] store after .rollback ()) (changed : Changed index store after .rollback ())
    {replaced : BillingThread} (sorted : replaced.tag.Sorted wrapped) (echoes : Machine.Echoes calls index replaced) :
    Parted wrapped after (Function.update calls index (some replaced)) := by
  have kept : ∀ {call past}, Own wrapped store call past → Own wrapped after call past :=
    fun own => own.foreign extends_.committed extends_.nextId (fun _ _ _ _ _ member => absurd member List.not_mem_nil)
  have blank : ∀ {later : BillingThread}, later.tag.Sorted wrapped → later.history = [] →
      Own wrapped after later.tag later.history := by
    intro later sorted none
    rw [none]
    exact ⟨sorted, nofun, nofun, nofun, nofun⟩
  refine ⟨fun entry member type => ?_, fun rival later found => ?_, fun first second one other opId here there drew again => ?_,
    parted.housed.replace echoes (fun _ _ fact => fact.later changed)⟩
  · rcases extends_.rows entry member with ⟨old, inside, same⟩ | ⟨new, absurd_, _⟩
    · rw [← same] at type ⊢
      exact Nat.lt_of_lt_of_le (parted.fresh old inside type) extends_.nextId
    · cases absurd_
  · rcases Machine.calls_update found with ⟨rfl, rfl⟩ | ⟨_, found⟩
    · rcases echoes with none | ⟨thread, before, tag, history⟩
      · exact blank sorted none
      · rw [tag, history]
        exact kept (parted.own rival thread before)
    · exact kept (parted.own rival later found)
  · rcases echoes.earlier here with none | ⟨before, early, _, history⟩
    · rw [none] at drew
      cases drew
    · rcases echoes.earlier there with none | ⟨rival, found, _, same⟩
      · rw [none] at again
        cases again
      · rw [history] at drew
        rw [same] at again
        exact parted.apart first second before rival opId early found drew again

theorem moved {event : Event Env Call} {store : Store} {calls : Nat → Option BillingThread}
    (parted : Parted wrapped system.world system.calls) (linked : Linked system.world system.past)
    (sorted : Sorted wrapped system event) (move : (machine config).Move keyed system event store calls) :
    Parted wrapped store calls := by
  cases move with
  | start call world free entered path =>
    cases entered
    rw [Tended.close_eq]
    have still : Changed system.threads.length system.world system.world .rollback () := .frame _ _ ⟨rfl, Nat.le_refl _⟩ rfl
    exact parted.replace (extends_of_same rfl (Nat.le_refl _) rfl) still (sorted call rfl) (.inl rfl)
  | step index env thread op answer rest world act =>
    rw [Tended.close_eq]
    exact parted.act linked act
  | cut index thread found running =>
    have echoes : Machine.Echoes system.calls index { thread with cut := true } := .inr ⟨thread, found, rfl, rfl⟩
    have changed : Changed index system.world (system.world.rollback index) .rollback () := .discarded _ _ sameAccounts_rollback rfl
    exact parted.replace (extends_rollback rfl) changed (parted.own index thread found).sorted echoes

end Parted

/-! ### Every finished call -/

theorem parted_start (wrapped : String → Prop) : Parted wrapped start.world start.calls := by
  refine ⟨?_, ?_, ?_, ?_⟩
  all_goals simp [start, System.calls, Machine.Backed]

theorem parted_of_run {config : Config} {wrapped : String → Prop} {system : BillingSystem}
    (run : (machine config).Run (Sorted wrapped) start system) :
    Machine.Kept keyed system ∧ Parted wrapped system.world system.calls := by
  apply run.tracked (honours_keyed config) (Parted wrapped) ?_ (parted_start wrapped)
  · intro system event world calls reached parted sorted move
    exact parted.moved (reached_sane reached).2.linked sorted move
  · intro index thread found
    simp [start] at found

theorem heard_of_drawn {past : Past} {opId : Uuid} (drew : drawn past = some opId) : Heard past .randomUUID opId := by
  induction past with
  | nil => cases drew
  | cons entry past ih =>
    obtain ⟨op, answer⟩ := entry
    by_cases draws : op = .randomUUID
    · subst draws
      cases drew
      exact .last
    · rw [drawn_cons draws] at drew
      exact (ih drew).cons _

/-- The rows of the operation are the caller's. -/
theorem ChargeWithRefundArgs.Settled.total {args : ChargeWithRefundArgs} {opId : Uuid} {rows : List BillingCharge} {past : Past}
    {result : Except Thrown Reply} (settled : args.Settled opId rows past result) :
    total rows args.userId args.network = (rows.map BillingCharge.creditsMicro).sum := by
  have mine : ∀ row ∈ rows, Of args.userId args.network row := by
    intro row member
    cases settled with
    | refused error idle unpaid why =>
      rw [unpaid] at member
      cases member
    | paid value chargeId once charged =>
      rw [charged] at member
      rw [List.mem_singleton.mp member]
      exact ⟨rfl, rfl⟩
    | returned error chargeId refundId once paired =>
      rw [paired] at member
      rcases List.mem_cons.mp member with charge | refund
      · rw [charge]
        exact ⟨rfl, rfl⟩
      · rw [List.mem_singleton.mp refund]
        exact ⟨rfl, rfl⟩
    | kept error chargeId once charged why =>
      rw [charged] at member
      rw [List.mem_singleton.mp member]
      exact ⟨rfl, rfl⟩
  rw [Billing.total, List.filter_eq_self.mpr (fun row member => decide_eq_true (mine row member))]
  rfl

/-- The rows of one operation and all others. -/
theorem total_split (rows : List BillingCharge) (key : OpKey) (userId : Uuid) (network : String) :
    total rows userId network = total (rows.filter (fun row => row.op ≠ key)) userId network +
      total (rows.filter (fun row => row.op = key)) userId network := by
  induction rows with
  | nil => rfl
  | cons row rows ih =>
    have first : ∀ rest, total (row :: rest) userId network = total [row] userId network + total rest userId network :=
      fun rest => total_append [row] rest userId network
    rw [first, ih]
    by_cases same : row.op = key
    · rw [List.filter_cons_of_neg (by simp [same]), List.filter_cons_of_pos (by simp [same]), first (rows.filter _)]
      omega
    · rw [List.filter_cons_of_pos (by simp [same]), List.filter_cons_of_neg (by simp [same]), first (rows.filter _)]
      omega

/-- A finished call of `chargeWithRefund` was refused, or has run its function once and then kept the
price, or has given it back, or could not because a statement of the refund failed. The balance is
what the rows of all other operations give, together with these. -/
theorem chargeWithRefund_settles (config : Config) (wrapped : String → Prop) (system : BillingSystem) (index : Nat)
    (thread : BillingThread) (args : ChargeWithRefundArgs) (result : Except Thrown Reply)
    (run : (machine config).Run (Sorted wrapped) start system) (found : system.calls index = some thread)
    (asked : thread.tag = .chargeWithRefund args) (ended : thread.program.outcome = some result) :
    ∃ opId rows, Heard thread.history .randomUUID opId ∧
      rows = system.world.view.charges.filter (fun row => row.op = args.op opId) ∧
      args.Settled opId rows thread.history result ∧
      system.world.view.balance args.userId args.network =
        total system.world.view.deposits args.userId args.network +
        total (system.world.view.charges.filter (fun row => row.op ≠ args.op opId)) args.userId args.network +
        (rows.map BillingCharge.creditsMicro).sum := by
  obtain ⟨kept, parted⟩ := parted_of_run run
  have path := kept index thread found
  obtain ⟨opId, drew, settled⟩ := path.of_outcome ended args asked
  have own := parted.own index thread found
  have rows : system.world.view.charges.filter (fun row => row.op = args.op opId) = posted thread.history :=
    own.rows args opId asked drew
  have ends := settled (own.truthful args opId asked drew)
  have conserved := (reached_sane run.reaches).2.conserved args.userId args.network
  refine ⟨opId, posted thread.history, heard_of_drawn drew, rows.symm, ends, ?_⟩
  rw [conserved, total_split _ (args.op opId), rows, ends.total, add_assoc]

/-! ### Two wrapped calls at once -/

instance (wrapped : String → Prop) [DecidablePred wrapped] (call : Call) : Decidable (call.Sorted wrapped) := by
  unfold Call.Sorted
  split <;> infer_instance

def starts : Event Env Call → Option Call
  | .start call => some call
  | _ => none

def dkg (amountMicro : Int) : Call :=
  .chargeWithRefund ⟨1, "testnet", "dwallet.dkg", amountMicro, "dkg", fun _ => "dkg failed"⟩

/-- The function of the second call throws. -/
def thrown : Env := { calm with body := .error (.other "Error" "no gas") }

/-- A deposit of 100, two wrapped calls in turns, and a charge of another type. -/
def wrappedEvents : List (Event Env Call) :=
  .start (.recordDeposit 1 "testnet" "digest") :: List.replicate 13 (.step 0 calm) ++
  .start (dkg 30) :: .start (dkg 20) :: .start (.charge ⟨1, "testnet", "sign", 7, 10, none⟩) ::
  List.replicate 7 (.step 3 calm) ++ List.replicate 8 (.step 1 thrown) ++ List.replicate 8 (.step 2 calm) ++
  .step 1 thrown :: List.replicate 8 (.step 1 calm) ++ [.step 2 calm]

def price : Call → Option Int
  | .chargeWithRefund args => some args.amountMicro
  | _ => none

def throws (thread : BillingThread) : Bool := match thread.program.outcome with
  | some (.error _) => true
  | _ => false

theorem sorted_of_starts {wrapped : String → Prop} (system : BillingSystem) (event : Event Env Call)
    (sorted : ∀ call ∈ starts event, call.Sorted wrapped) : Sorted wrapped system event := by
  intro call same
  subst same
  exact sorted call rfl

theorem chargeWithRefund_settles_sample : ∃ system thread args error opId rows,
    (machine sampleConfig).Run (Sorted (· = "dwallet.dkg")) start system ∧ system.calls 1 = some thread ∧
    thread.tag = .chargeWithRefund args ∧ args.amountMicro = 30 ∧ thread.program.outcome = some (.error error) ∧
    system.world.view.charges.length = 4 ∧ system.world.view.balance 1 "testnet" = 70 ∧
    Heard thread.history .randomUUID opId ∧ rows = system.world.view.charges.filter (fun row => row.op = args.op opId) ∧
    args.Settled opId rows thread.history (.error error) ∧
    system.world.view.balance args.userId args.network =
      total system.world.view.deposits args.userId args.network +
      total (system.world.view.charges.filter (fun row => row.op ≠ args.op opId)) args.userId args.network +
      (rows.map BillingCharge.creditsMicro).sum := by
  have played : ∃ system ∈ (machine sampleConfig).playWhere
      (fun _ event => ∀ call ∈ starts event, call.Sorted (· = "dwallet.dkg")) start wrappedEvents,
      system.world.view.charges.length = 4 ∧ system.world.view.balance 1 "testnet" = 70 ∧
      ∃ thread ∈ system.calls 1, throws thread ∧ price thread.tag = some 30 := by
    decide +kernel
  obtain ⟨system, ran, charges, balance, thread, found, throws, priced⟩ := played
  have run := (Machine.run_of_playWhere ran).mono sorted_of_starts
  obtain ⟨args, asked, amount⟩ : ∃ args, thread.tag = .chargeWithRefund args ∧ args.amountMicro = 30 := by
    cases tag : thread.tag with
    | chargeWithRefund args =>
      rw [tag] at priced
      exact ⟨args, rfl, Option.some.inj priced⟩
    | _ =>
      rw [tag] at priced
      cases priced
  obtain ⟨error, ended⟩ : ∃ error, thread.program.outcome = some (.error error) := by
    unfold Billing.throws at throws
    split at throws
    next error ended => exact ⟨error, ended⟩
    · cases throws
  obtain ⟨opId, rows, settled⟩ := chargeWithRefund_settles sampleConfig (· = "dwallet.dkg") system 1 thread args (.error error)
    run found asked ended
  exact ⟨system, thread, args, error, opId, rows, run, found, asked, amount, ended, charges, balance, settled⟩

end MpcKit.Billing
