import MpcKit.Billing.Deposits

/-! Declaring one transaction again and again. The lookup of `recordDeposit` sees a row under
the bare digest only, and only once it is committed, so a second declaration is recognised
when the payment is in one coin and nobody else is between lookup and commit. -/

namespace MpcKit.Billing
open MpcKit.Backend MpcKit.Async

/-- Between the lookup that found nothing and the commit. -/
def Midway (digest : String) (thread : DepositThread) : Prop :=
  thread.Running ∧ Declaring digest thread.history

def isLookup (digest : String) : Entry Op Res → Bool
  | ⟨.selectDeposit other, none⟩ => other = digest
  | _ => false

def isCommit : Entry Op Res → Bool
  | ⟨.commit, _⟩ => true
  | _ => false

theorem isLookup_iff (digest : String) (entry : Entry Op Res) :
    isLookup digest entry = true ↔ entry = ⟨.selectDeposit digest, none⟩ := by
  constructor
  · intro is
    unfold isLookup at is
    split at is
    · rw [of_decide_eq_true is]
    · cases is
  · rintro rfl
    simp [isLookup]

theorem isCommit_iff (entry : Entry Op Res) : isCommit entry = true ↔ ∃ answer, entry = ⟨.commit, answer⟩ := by
  constructor
  · intro is
    unfold isCommit at is
    split at is
    next answer => exact ⟨answer, rfl⟩
    · cases is
  · rintro ⟨answer, rfl⟩
    rfl

instance (digest : String) (past : Past) : Decidable (Declaring digest past) :=
  decidable_of_iff (past.any (isLookup digest) = true ∧ past.any isCommit = false) (by
    constructor
    · rintro ⟨looked, uncommitted⟩
      obtain ⟨entry, member, is⟩ := List.any_eq_true.mp looked
      rw [(isLookup_iff digest entry).mp is] at member
      refine ⟨member, fun answer committed => ?_⟩
      exact List.any_eq_false.mp uncommitted _ committed rfl
    · intro declaring
      refine ⟨List.any_eq_true.mpr ⟨_, declaring.looked, (isLookup_iff _ _).mpr rfl⟩, List.any_eq_false.mpr ?_⟩
      intro entry member is
      obtain ⟨answer, rfl⟩ := (isCommit_iff entry).mp is
      exact declaring.uncommitted answer member)

instance (digest : String) (thread : DepositThread) : Decidable (Midway digest thread) :=
  inferInstanceAs (Decidable (_ ∧ _))

/-- How many accepted coin types the declared transaction pays. -/
def Declaration.coins (chain : Chain) (config : Config) (declaration : Declaration) : Nat :=
  ((declaration.payment chain config).map (fun paid => paid.2.amountsAtomic.length)).getD 0

/-- The event is the lookup of a digest. -/
def looksUp (digest : String) (system : DepositSystem) (event : Event Env Declaration) : Bool :=
  match system.performs event with
  | some (.selectDeposit other) => other = digest
  | _ => false

/-- The digest is declared by one user on one network under one accepted list. It is looked up
only while nobody is midway, and a payment in several coins only before it is credited. -/
def Orderly (chain : Chain) (config : Config) (target : Declaration) (system : DepositSystem) :
    Event Env Declaration → Prop
  | .start declaration => declaration.txDigest = target.txDigest → declaration = target
  | .step index env => looksUp target.txDigest system (.step index env) = true →
      (∀ thread ∈ system.threads, ¬Midway target.txDigest thread) ∧
      (target.coins chain config ≠ 1 → ∀ row ∈ system.world.view.deposits, row.onChainDigest ≠ target.txDigest)
  | .cut _ => True

/-- The call has committed its credit. -/
def Committed (past : Past) : Prop := ⟨.commit, .ok ()⟩ ∈ past

instance (past : Past) : Decidable (Committed past) :=
  decidable_of_iff (past.any (fun entry => match entry with
    | ⟨.commit, .ok _⟩ => true
    | _ => false) = true) (by
      rw [List.any_eq_true]
      constructor
      · rintro ⟨entry, member, is⟩
        split at is
        · exact member
        · cases is
      · exact fun committed => ⟨_, committed, rfl⟩)

/-! ### Rows, calls and the window between lookup and commit -/

structure Exclusive (chain : Chain) (config : Config) (target : Declaration) (store : Store)
    (calls : Nat → Option DepositThread) : Prop where
  traced : Traced chain config store calls
  same : ∀ index thread, calls index = some thread → thread.tag.txDigest = target.txDigest → thread.tag = target
  /-- Open rows belong to a call that has looked up its digest. -/
  declaring : ∀ index thread, calls index = some thread → thread.cut = false →
    (posting thread.history).deposits ≠ [] → Declaring thread.tag.txDigest thread.history
  alone : ∀ index other first second, calls index = some first → calls other = some second →
    Midway target.txDigest first → Midway target.txDigest second → index = other
  own : ∀ index thread, calls index = some thread → Midway target.txDigest thread → ∀ entry ∈ store.deposits,
    entry.row.onChainDigest = target.txDigest → entry.writer = some index
  granted : ∀ index thread, calls index = some thread → thread.tag = target → ¬Refused target thread.history
  committed : ∀ index thread, calls index = some thread → thread.tag = target → Committed thread.history →
    ∃ row ∈ store.view.deposits, row.onChainDigest = target.txDigest
  found : ∀ index thread, calls index = some thread → ∀ digest prior,
    ⟨.selectDeposit digest, some prior⟩ ∈ thread.history → prior ∈ store.view.deposits ∧ prior.txDigest = digest

section Window

variable {chain : Chain} {config : Config} {target : Declaration} {store after : Store}
variable {calls : Nat → Option DepositThread} {index : Nat} {thread later : DepositThread} {op : Op} {answer : Res op}

/-- Committed rows stay. -/
theorem view_of_changed (changed : Changed index store after op answer) {row : BillingDeposit}
    (shown : row ∈ store.view.deposits) : row ∈ after.view.deposits := by
  have kept : after.deposits = store.deposits → row ∈ after.view.deposits := by
    intro same
    simpa only [Store.view, same] using shown
  cases changed with
  | frame _ _ _ deposits => exact kept deposits
  | discarded _ _ _ deposits =>
    simp only [Store.view, deposits, Versioned.committed_discard]
    exact shown
  | settled _ deposits =>
    simp only [Store.view, deposits, Versioned.committed_settle]
    exact List.mem_append_left _ shown
  | opened _ _ same => exact kept (by rw [same])
  | addressed _ _ same => exact kept (by rw [same])
  | inserted new free same =>
    subst same
    simp only [Store.view, Versioned.committed_append]
    exact shown

/-- The open rows of a call grow by the ones it inserts. -/
theorem deposits_cons {entry : Entry Op Res} {past : Past} (open_ : (posting (entry :: past)).deposits ≠ []) :
    (∃ new row, entry = ⟨.insertDeposit new, .ok row⟩) ∨
      (posting past).deposits ≠ [] ∧ ∀ answer, entry ≠ ⟨.commit, answer⟩ := by
  obtain ⟨op, answer⟩ := entry
  cases op with
  | begin => exact absurd rfl open_
  | commit => exact absurd rfl open_
  | rollback => exact absurd rfl open_
  | addCredits credit =>
    cases answer with
    | ok updated => exact .inr ⟨open_, by simp⟩
    | error error => exact .inr ⟨open_, by simp⟩
  | insertCharge new =>
    cases answer with
    | ok row => exact .inr ⟨open_, by simp⟩
    | error error => exact .inr ⟨open_, by simp⟩
  | insertDeposit new =>
    cases answer with
    | ok row => exact .inl ⟨new, row, rfl⟩
    | error error => exact .inr ⟨open_, by simp⟩
  | _ => exact .inr ⟨open_, by simp⟩

/-- A call gets into the window by its lookup only. -/
theorem midway_cons {digest : String} {rest : Prog RecordDepositResult} (alive : thread.Running)
    (midway : Midway digest (thread.resume ⟨op, answer⟩ rest)) :
    Midway digest thread ∨ (⟨op, answer⟩ : Entry Op Res) = ⟨.selectDeposit digest, none⟩ := by
  rcases List.mem_cons.mp midway.2.looked with new | old
  · exact .inr new.symm
  · exact .inl ⟨alive, old, fun answer member => midway.2.uncommitted answer (List.mem_cons_of_mem _ member)⟩

end Window

section Rows

variable {chain : Chain} {config : Config} {floor : String → Int} {target : Declaration} {recipient : String}
variable {verified : VerifiedDeposit} {system : DepositSystem}

/-- The transaction of an open row is running, between its lookup and its commit. -/
theorem Exclusive.midway (exclusive : Exclusive chain config target system.world system.calls)
    (kept : Machine.Kept (pledge chain config floor) system) (linked : Linked system.world system.past)
    {entry : Versioned BillingDeposit} {writer : Nat} (member : entry ∈ system.world.deposits)
    (written : entry.writer = some writer) :
    ∃ thread, system.calls writer = some thread ∧ Midway thread.tag.txDigest thread ∧
      entry.row ∈ (posting thread.history).deposits := by
  have mine : entry.row ∈ (posting (system.past writer)).deposits := by
    rw [← linked.deposits writer]
    exact List.mem_map_of_mem (List.mem_filter.mpr ⟨member, by simpa using written⟩)
  cases found : system.calls writer with
  | none =>
    have gone : system.past writer = [] := by
      simp only [System.past, show system.threads[writer]? = none from found]
    rw [gone] at mine
    cases mine
  | some thread =>
    have alive : thread.cut = false := by
      by_contra cut
      have gone : system.past writer = [] := by
        simp only [System.past, show system.threads[writer]? = some thread from found]
        simp [cut]
      rw [gone] at mine
      cases mine
    rw [Machine.past_of_found found alive] at mine
    have open_ : (posting thread.history).deposits ≠ [] := List.ne_nil_of_mem mine
    have path := kept writer thread found
    have running : thread.program.outcome = none := by
      cases program : thread.program with
      | await op next => rfl
      | ret value =>
        rw [program] at path
        exact absurd (congrArg Posting.deposits path.1.1) open_
      | raise error =>
        rw [program] at path
        exact absurd (congrArg Posting.deposits path.1.1) open_
    exact ⟨thread, rfl, ⟨⟨alive, running⟩, exclusive.declaring writer thread found alive open_⟩, mine⟩

/-- A row of the digest is a coin of its one payment. -/
theorem Exclusive.row (exclusive : Exclusive chain config target system.world system.calls)
    (paid : target.payment chain config = some (recipient, verified)) {entry : Versioned BillingDeposit}
    (member : entry ∈ system.world.deposits) (digest : entry.row.onChainDigest = target.txDigest) :
    RowOf chain config target entry.row recipient verified ∧
      ∀ writer, entry.writer = some writer → ∃ thread, system.calls writer = some thread ∧ thread.tag = target := by
  obtain ⟨index, thread, _, _, caller, of, writer⟩ := exclusive.traced.sourced entry member
  have tag : thread.tag = target := exclusive.same index thread caller (of.onChainDigest.symm.trans digest)
  rw [tag] at of
  have one := paid.symm.trans of.paid
  cases one
  refine ⟨of, fun current written => ?_⟩
  rw [writer current written]
  exact ⟨thread, caller, tag⟩

theorem bareDigest_self (paid : target.payment chain config = some (recipient, verified)) :
    bareDigest target.txDigest = target.txDigest := by
  have twice : bareDigest (bareDigest (suffixForCoinType verified "")) = bareDigest (suffixForCoinType verified "") := by
    simp [bareDigest, List.takeWhile_takeWhile]
  rwa [bareDigest_suffix paid] at twice

end Rows

/-! ### One statement -/

section Step

variable {chain : Chain} {config : Config} {floor : String → Int} {target : Declaration} {recipient : String}
variable {verified : VerifiedDeposit} {system : DepositSystem} {index : Nat} {env : Env} {thread : DepositThread} {op : Op}
variable {answer : Res op} {rest : Prog RecordDepositResult} {after : Store}

/-- A lookup that finds a row finds a committed one. -/
theorem lookup_found {digest : String} {prior : BillingDeposit} (linked : Linked system.world system.past)
    (unwritten : system.past index = [])
    (executed : exec index (.selectDeposit digest) env system.world = some (some prior, after)) :
    prior ∈ system.world.view.deposits ∧ prior.txDigest = digest := by
  simp only [exec, Option.some.injEq, Prod.mk.injEq] at executed
  have same : prior.txDigest = digest := by simpa using List.find?_some executed.1
  refine ⟨?_, same⟩
  rcases Versioned.mem_visible.mp (List.mem_of_find?_eq_some executed.1) with shown | mine
  · exact shown
  · rw [linked.deposits, unwritten] at mine
    cases mine

/-- A lookup that finds nothing leaves no committed row under the bare digest. -/
theorem lookup_missing {digest : String} {row : BillingDeposit}
    (executed : exec index (.selectDeposit digest) env system.world = some (none, after))
    (shown : row ∈ system.world.view.deposits) : row.txDigest ≠ digest := by
  simp only [exec, Option.some.injEq, Prod.mk.injEq] at executed
  have visible : row ∈ Versioned.visible index system.world.deposits := Versioned.mem_visible.mpr (.inl shown)
  have absent := List.find?_eq_none.mp executed.1 row visible
  simpa using absent

/-- What an insert that violates the unique index has met. -/
theorem insert_violated {new : NewDeposit} (executed : exec index (.insertDeposit new) env system.world =
      some (.error uniqueViolation, after)) : ∃ entry ∈ system.world.deposits, entry.row.txDigest = new.txDigest := by
  simp only [exec] at executed
  split at executed
  · simp only [Option.some.injEq, Prod.mk.injEq, Except.error.injEq] at executed
    exact absurd executed.1 (by decide)
  · obtain ⟨inserted, done, failed⟩ := Option.map_eq_some_iff.mp executed
    unfold insertUnique at done
    split at done
    next absent =>
      cases done
      cases failed
    next other met =>
      have same := List.find?_some met
      exact ⟨other, List.mem_of_find?_eq_some met, of_decide_eq_true same⟩

/-- No two accepted coins of the payment share their key. -/
def Distinct (verified : VerifiedDeposit) : Prop :=
  (verified.amountsAtomic.map (fun coin => suffixForCoinType verified coin.1)).Nodup

instance (verified : VerifiedDeposit) : Decidable (Distinct verified) :=
  inferInstanceAs (Decidable (List.Nodup _))

theorem act_running {chain : Chain} {config : Config}
    (act : (declarations chain config).Act (pledge chain config floor) system index env thread op answer rest after) :
    thread.Running := by
  obtain ⟨next, awaits, _⟩ := act.awaits
  exact ⟨act.alive, by rw [awaits]; rfl⟩

/-- The lookup and the inserts of the target are not refused. -/
theorem granted_act (exclusive : Exclusive chain config target system.world system.calls)
    (linked : Linked system.world system.past) (paid : target.payment chain config = some (recipient, verified))
    (distinct : Distinct verified)
    (act : (declarations chain config).Act (pledge chain config floor) system index env thread op answer rest after)
    (tag : thread.tag = target) : ¬Refused target (⟨op, answer⟩ :: thread.history) := by
  have before := act.before.2 (exclusive.traced.credible act.found)
  have earlier := exclusive.granted index thread act.found tag
  have history := Machine.past_of_found act.found act.alive
  have executed : exec index op (chain.inform env op) system.world = some (answer, after) := act.executed
  rintro (⟨prior, looked, foreign⟩ | ⟨new, violated⟩)
  · rcases List.mem_cons.mp looked with now | old
    · cases now
      have unwritten : system.past index = [] := history.trans before.1
      obtain ⟨shown, digest⟩ := lookup_found linked unwritten executed
      obtain ⟨entry, inside, rfl⟩ := List.mem_map.mp shown
      have same : entry.row.onChainDigest = target.txDigest := by
        rw [BillingDeposit.onChainDigest, digest]
        exact bareDigest_self paid
      obtain ⟨of, _⟩ := exclusive.row paid (List.mem_of_mem_filter inside) same
      exact foreign ⟨of.user, of.network⟩
    · exact earlier (.inl ⟨prior, old, foreign⟩)
  · rcases List.mem_cons.mp violated with now | old
    · cases now
      rw [tag] at before
      obtain ⟨_, _, done, coin, todo, converted, declared, split, inserted, rfl⟩ := before
      rw [paid] at declared
      cases declared
      obtain ⟨entry, member, key⟩ := insert_violated executed
      have same : entry.row.onChainDigest = target.txDigest := by
        rw [BillingDeposit.onChainDigest, key]
        exact bareDigest_suffix paid coin.1
      have mine := exclusive.own index thread act.found ⟨act_running act, inserted.declaring⟩ entry member same
      have open_ : entry.row ∈ (posting thread.history).deposits := by
        rw [← history, ← linked.deposits index]
        exact List.mem_map_of_mem (List.mem_filter.mpr ⟨member, by simpa using mine⟩)
      -- The row it met is one of its own, for a coin that came before.
      have earlier : entry.row.coin ∈ done := by
        rw [← inserted.coins]
        exact List.mem_map_of_mem open_
      obtain ⟨of, _⟩ := exclusive.row paid member same
      have apart := distinct
      rw [Distinct, split, List.map_append, List.nodup_append] at apart
      refine apart.2.2 _ (List.mem_map_of_mem earlier) _ (List.mem_map_of_mem List.mem_cons_self) ?_
      exact of.key.symm.trans key
    · exact earlier (.inr ⟨new, old⟩)

end Step

section Move

variable {chain : Chain} {config : Config} {target : Declaration} {store after : Store}
variable {calls : Nat → Option DepositThread} {index : Nat} {thread later : DepositThread} {op : Op} {answer : Res op}

/-- One call goes on: what is left is about that call alone. -/
theorem Exclusive.move (exclusive : Exclusive chain config target store calls)
    (traced : Traced chain config after (Function.update calls index (some later)))
    (found : calls index = some thread) (tag : later.tag = thread.tag) (changed : Changed index store after op answer)
    (declaring : later.cut = false → (posting later.history).deposits ≠ [] →
      Declaring later.tag.txDigest later.history)
    (window : Midway target.txDigest later → Midway target.txDigest thread ∧ op ≠ .commit ∨
      (∀ other rival, calls other = some rival → ¬Midway target.txDigest rival) ∧
        ∀ entry ∈ after.deposits, entry.row.onChainDigest ≠ target.txDigest)
    (inserts : ∀ new, op = .insertDeposit new → (new.row store.nextId).onChainDigest = target.txDigest →
      Midway target.txDigest thread)
    (granted : later.tag = target → ¬Refused target later.history)
    (committed : later.tag = target → Committed later.history →
      ∃ row ∈ after.view.deposits, row.onChainDigest = target.txDigest)
    (seen : ∀ digest prior, ⟨.selectDeposit digest, some prior⟩ ∈ later.history →
      prior ∈ after.view.deposits ∧ prior.txDigest = digest) :
    Exclusive chain config target after (Function.update calls index (some later)) where
  traced := traced
  same other acting there := by
    rcases Machine.calls_update there with ⟨_, rfl⟩ | ⟨_, before⟩
    · rw [tag]
      exact exclusive.same index thread found
    · exact exclusive.same other acting before
  declaring other acting there := by
    rcases Machine.calls_update there with ⟨_, rfl⟩ | ⟨_, before⟩
    · exact declaring
    · exact exclusive.declaring other acting before
  alone one other first second here there midway also := by
    have rival : ∀ other rival, calls other = some rival → Midway target.txDigest rival →
        Midway target.txDigest later → index = other := by
      intro other rival before also midway
      rcases window midway with ⟨already, _⟩ | ⟨nobody, _⟩
      · exact exclusive.alone index other thread rival found before already also
      · exact absurd also (nobody other rival before)
    rcases Machine.calls_update here with ⟨rfl, rfl⟩ | ⟨_, before⟩
    · rcases Machine.calls_update there with ⟨rfl, rfl⟩ | ⟨_, beside⟩
      · rfl
      · exact rival other second beside also midway
    · rcases Machine.calls_update there with ⟨rfl, rfl⟩ | ⟨_, beside⟩
      · exact (rival one first before midway also).symm
      · exact exclusive.alone one other first second before beside midway also
  own other acting there midway entry member digest := by
    rcases Machine.calls_update there with ⟨rfl, rfl⟩ | ⟨apart, before⟩
    · rcases window midway with ⟨already, running⟩ | ⟨_, nothing⟩
      · rcases Traced.rows_of_changed changed member with ⟨old, inside, row, writers⟩ | ⟨new, _, rfl⟩
        · have mine := exclusive.own other thread found already old inside (row ▸ digest)
          rcases writers with equal | ⟨_, _, ended⟩
          · exact equal.trans mine
          · exact absurd ended running
        · rfl
      · exact absurd digest (nothing entry member)
    · rcases Traced.rows_of_changed changed member with ⟨old, inside, row, writers⟩ | ⟨new, inserted, rfl⟩
      · have mine := exclusive.own other acting before midway old inside (row ▸ digest)
        rcases writers with equal | ⟨_, written, _⟩
        · exact equal.trans mine
        · rw [mine] at written
          exact absurd (Option.some.inj written) apart
      · have also := inserts new inserted digest
        exact absurd (exclusive.alone other index acting thread before found midway also) apart
  granted other acting there := by
    rcases Machine.calls_update there with ⟨_, rfl⟩ | ⟨_, before⟩
    · exact granted
    · exact exclusive.granted other acting before
  committed other acting there own done := by
    rcases Machine.calls_update there with ⟨_, rfl⟩ | ⟨_, before⟩
    · exact committed own done
    · obtain ⟨row, shown, digest⟩ := exclusive.committed other acting before own done
      exact ⟨row, view_of_changed changed shown, digest⟩
  found other acting there := by
    rcases Machine.calls_update there with ⟨_, rfl⟩ | ⟨_, before⟩
    · exact seen
    · intro digest prior looked
      obtain ⟨shown, same⟩ := exclusive.found other acting before digest prior looked
      exact ⟨view_of_changed changed shown, same⟩

end Move

section Act

variable {chain : Chain} {config : Config} {floor : String → Int} {target : Declaration} {recipient : String}
variable {verified : VerifiedDeposit} {system : DepositSystem} {index : Nat} {env : Env} {thread : DepositThread} {op : Op}
variable {answer : Res op} {rest : Prog RecordDepositResult} {after : Store}

/-- A commit shows the rows its transaction has written. -/
theorem committed_of_pending {store : Store} {row : BillingDeposit}
    (executed : exec index .commit env store = some (.ok (), after))
    (mine : row ∈ Versioned.pending index store.deposits) : row ∈ after.view.deposits := by
  simp only [exec] at executed
  split at executed
  · cases executed
  · cases executed
    simp only [Store.view, Store.commit, Versioned.committed_settle]
    exact List.mem_append_right _ mine

/-- A lookup in good order that finds nothing meets no row of its digest at all. -/
theorem unwritten_of_lookup (exclusive : Exclusive chain config target system.world system.calls)
    (kept : Machine.Kept (pledge chain config floor) system) (linked : Linked system.world system.past)
    (paid : target.payment chain config = some (recipient, verified))
    (nobody : ∀ thread ∈ system.threads, ¬Midway target.txDigest thread)
    (uncredited : target.coins chain config ≠ 1 → ∀ row ∈ system.world.view.deposits, row.onChainDigest ≠ target.txDigest)
    (executed : exec index (.selectDeposit target.txDigest) env system.world = some (none, after)) :
    ∀ entry ∈ system.world.deposits, entry.row.onChainDigest ≠ target.txDigest := by
  intro entry member digest
  obtain ⟨of, writers⟩ := exclusive.row paid member digest
  cases written : entry.writer with
  | some writer =>
    obtain ⟨thread, caller, midway, _⟩ := exclusive.midway kept linked member written
    obtain ⟨other, also, tag⟩ := writers writer written
    rw [caller] at also
    cases also
    rw [tag] at midway
    exact nobody thread (List.mem_of_getElem? caller) midway
  | none =>
    have shown : entry.row ∈ system.world.view.deposits :=
      List.mem_map_of_mem (List.mem_filter.mpr ⟨member, by simpa using written⟩)
    by_cases single : target.coins chain config = 1
    · have one : verified.amountsAtomic.length = 1 := by simpa [Declaration.coins, paid] using single
      have bare : entry.row.txDigest = target.txDigest := by
        rw [of.key, suffixForCoinType, if_pos one, (payment_some paid).1]
      exact lookup_missing executed shown bare
    · exact uncredited single entry.row shown digest

theorem Exclusive.act (exclusive : Exclusive chain config target system.world system.calls)
    (kept : Machine.Kept (pledge chain config floor) system) (linked : Linked system.world system.past)
    (paid : target.payment chain config = some (recipient, verified)) (nonempty : verified.amountsAtomic ≠ [])
    (distinct : Distinct verified) (orderly : Orderly chain config target system (.step index env))
    (act : (declarations chain config).Act (pledge chain config floor) system index env thread op answer rest after) :
    Exclusive chain config target after (Function.update system.calls index (some (thread.resume ⟨op, answer⟩ rest))) := by
  have credible := exclusive.traced.credible act.found
  have before := act.before.2 credible
  have executed : exec index op (chain.inform env op) system.world = some (answer, after) := act.executed
  have changed := changed_exec executed
  have history := Machine.past_of_found act.found act.alive
  have running := act_running act
  have traced : Traced chain config after
      (Function.update system.calls index (some (thread.resume ⟨op, answer⟩ rest))) :=
    exclusive.traced.act act.found act.before act.known.2 executed rfl rfl
  refine exclusive.move traced act.found rfl changed ?_ ?_ ?_ ?_ ?_ ?_
  · intro _ written
    rcases deposits_cons written with ⟨new, row, same⟩ | ⟨earlier, unended⟩
    · cases same
      obtain ⟨_, _, _, _, _, _, _, _, inserted, _⟩ := before
      exact inserted.declaring.cons (by simp)
    · exact (exclusive.declaring index thread act.found act.alive earlier).cons unended
  · intro midway
    rcases midway_cons running midway with already | looked
    · refine .inl ⟨already, fun ended => ?_⟩
      subst ended
      exact midway.2.uncommitted answer List.mem_cons_self
    · cases looked
      have looks : looksUp target.txDigest system (.step index env) = true := by
        simp [looksUp, act.performs]
      obtain ⟨nobody, uncredited⟩ := orderly looks
      refine .inr ⟨fun other rival there => nobody rival (List.mem_of_getElem? there), ?_⟩
      have same : after = system.world := by
        simp only [exec, Option.some.injEq, Prod.mk.injEq] at executed
        exact executed.2.symm
      rw [same]
      exact unwritten_of_lookup exclusive kept linked paid nobody uncredited executed
  · intro new inserts digest
    subst inserts
    obtain ⟨_, _, _, coin, _, _, declared, _, inserted, rfl⟩ := before
    have own : target.txDigest = thread.tag.txDigest := digest.symm.trans (bareDigest_suffix declared coin.1)
    rw [own]
    exact ⟨running, inserted.declaring⟩
  · exact granted_act exclusive linked paid distinct act
  · intro tag done
    rcases List.mem_cons.mp done with now | earlier
    · cases now
      obtain ⟨_, _, rows, declared, inserted, written⟩ := before
      rw [show thread.tag = target from tag, paid] at declared
      cases declared
      cases rows with
      | nil =>
        have empty : verified.amountsAtomic = [] := inserted.coins.symm
        exact absurd empty nonempty
      | cons row others =>
        have mine : row ∈ Versioned.pending index system.world.deposits := by
          rw [linked.deposits, history, written]
          exact List.mem_cons_self
        refine ⟨row, committed_of_pending executed mine, ?_⟩
        obtain ⟨entry, inside, rfl⟩ := List.mem_map.mp mine
        have pending : entry.writer = some index := by simpa using (List.mem_filter.mp inside).2
        obtain ⟨caller, other, _, _, there, of, writer⟩ := exclusive.traced.sourced entry (List.mem_of_mem_filter inside)
        rw [← writer index pending, act.found] at there
        cases there
        rw [of.onChainDigest, show thread.tag = target from tag]
    · obtain ⟨row, shown, digest⟩ := exclusive.committed index thread act.found tag earlier
      exact ⟨row, view_of_changed changed shown, digest⟩
  · intro digest prior looked
    rcases List.mem_cons.mp looked with now | earlier
    · cases now
      have unwritten : system.past index = [] := history.trans before.1
      obtain ⟨shown, same⟩ := lookup_found linked unwritten executed
      exact ⟨view_of_changed changed shown, same⟩
    · obtain ⟨shown, same⟩ := exclusive.found index thread act.found digest prior earlier
      exact ⟨view_of_changed changed shown, same⟩

end Act

/-! ### Whole runs -/

section Whole

variable {chain : Chain} {config : Config} {floor : String → Int} {target : Declaration} {recipient : String}
variable {verified : VerifiedDeposit} {system : DepositSystem}

theorem not_midway_fresh (digest : String) (declaration : Declaration) :
    ¬Midway digest ((declarations chain config).fresh declaration) := by
  rintro ⟨_, looked, _⟩
  cases looked

theorem Exclusive.started {store : Store} {calls : Nat → Option DepositThread} {index : Nat} {declaration : Declaration}
    (exclusive : Exclusive chain config target store calls) (free : calls index = none)
    (orderly : declaration.txDigest = target.txDigest → declaration = target) :
    Exclusive chain config target store
      (Function.update calls index (some ((declarations chain config).fresh declaration))) where
  traced := exclusive.traced.started free declaration
  same other acting there := by
    rcases Machine.calls_update there with ⟨_, rfl⟩ | ⟨_, before⟩
    · exact orderly
    · exact exclusive.same other acting before
  declaring other acting there := by
    rcases Machine.calls_update there with ⟨_, rfl⟩ | ⟨_, before⟩
    · exact fun _ written => absurd rfl written
    · exact exclusive.declaring other acting before
  alone one other first second here there midway also := by
    rcases Machine.calls_update here with ⟨_, rfl⟩ | ⟨_, before⟩
    · exact absurd midway (not_midway_fresh _ _)
    · rcases Machine.calls_update there with ⟨_, rfl⟩ | ⟨_, beside⟩
      · exact absurd also (not_midway_fresh _ _)
      · exact exclusive.alone one other first second before beside midway also
  own other acting there midway := by
    rcases Machine.calls_update there with ⟨_, rfl⟩ | ⟨_, before⟩
    · exact absurd midway (not_midway_fresh _ _)
    · exact exclusive.own other acting before midway
  granted other acting there := by
    rcases Machine.calls_update there with ⟨_, rfl⟩ | ⟨_, before⟩
    · rintro _ (⟨_, looked, _⟩ | ⟨_, violated⟩)
      · cases looked
      · cases violated
    · exact exclusive.granted other acting before
  committed other acting there := by
    rcases Machine.calls_update there with ⟨_, rfl⟩ | ⟨_, before⟩
    · intro _ done
      cases done
    · exact exclusive.committed other acting before
  found other acting there := by
    rcases Machine.calls_update there with ⟨_, rfl⟩ | ⟨_, before⟩
    · intro digest prior looked
      cases looked
    · exact exclusive.found other acting before

theorem Exclusive.stopped {store : Store} {calls : Nat → Option DepositThread} {index : Nat} {thread : DepositThread}
    (exclusive : Exclusive chain config target store calls) (found : calls index = some thread) :
    Exclusive chain config target (store.rollback index)
      (Function.update calls index (some { thread with cut := true })) := by
  have changed : Changed index store (store.rollback index) .rollback () := .discarded _ _ sameAccounts_rollback rfl
  have traced : Traced chain config (store.rollback index)
      (Function.update calls index (some { thread with cut := true })) := by
    refine exclusive.traced.move found rfl changed (exclusive.traced.registered.same sameAccounts_rollback) ?_
      (exclusive.traced.unlost index thread found) (by simp)
    exact fun entry member => (exclusive.traced.told index thread found entry member).mono changed
  refine exclusive.move traced found rfl changed (by simp) ?_ (by simp) (exclusive.granted index thread found) ?_ ?_
  · rintro ⟨⟨alive, _⟩, _⟩
    cases alive
  · intro tag done
    obtain ⟨row, shown, digest⟩ := exclusive.committed index thread found tag done
    exact ⟨row, view_of_changed changed shown, digest⟩
  · intro digest prior looked
    obtain ⟨shown, same⟩ := exclusive.found index thread found digest prior looked
    exact ⟨view_of_changed changed shown, same⟩

theorem exclusive_run (paid : target.payment chain config = some (recipient, verified))
    (nonempty : verified.amountsAtomic ≠ []) (distinct : Distinct verified)
    (run : (declarations chain config).Run (Orderly chain config target) opening system) :
    Exclusive chain config target system.world system.calls := by
  refine (run.tracked (pledged chain config (fun _ => 0)) (Exclusive chain config target)
    (by intro index thread found; simp [opening] at found) ?_ ?_).2
  · refine ⟨traced_opening, ?_, ?_, ?_, ?_, ?_, ?_, ?_⟩ <;> simp [opening, System.calls]
  · intro system event store calls reached exclusive orderly move
    obtain ⟨kept, sane⟩ := declared_books (fun _ => 0) reached
    cases move with
    | start declaration world free entered path =>
      cases entered
      rw [close_eq]
      exact exclusive.started free orderly
    | step index env thread op answer rest world act =>
      rw [close_eq]
      exact exclusive.act kept sane.linked paid nonempty distinct orderly act
    | cut index thread found running => exact exclusive.stopped found

end Whole

/-- What a declared payment is entitled to: the first call to commit credits every coin at the
price the feed answered, no other call of it moves the books, and each call that nothing from
outside disturbed returns, with the credit or as a duplicate with the row that is there. -/
structure DeclaredOnce (chain : Chain) (config : Config) (floor : String → Int) (target : Declaration)
    (system : DepositSystem) : Prop where
  credits : ∀ index env after thread, (declarations chain config).next system (.step index env) = some after →
    system.threads[index]? = some thread → thread.tag = target → ¬system.world.view.SameBooks after.world.view →
    (∃ later, after.threads[index]? = some later ∧ Committed later.history) ∧
    (∀ other ∈ system.threads, other.tag = target → ¬Committed other.history) ∧
    ∃ recipient verified rows, target.payment chain config = some (recipient, verified) ∧
      rows.map BillingDeposit.coin = verified.amountsAtomic ∧
      (∀ row ∈ rows, ⟨.creditsFor row.coinType row.amountAtomic,
        .ok (row.creditsCredited, row.rateMicroPerAtomic)⟩ ∈ thread.history) ∧
      after.world.view = system.world.view.post (wages target.userId target.network rows)
  replies : ∀ thread ∈ system.threads, thread.tag = target → thread.cut = false →
    (∀ entry ∈ thread.history, undisturbed floor entry) → ∀ result, thread.program.outcome = some result →
    ∃ reply, result = .ok reply ∧ (Committed thread.history ∧ reply.duplicate = false ∨
      ¬Committed thread.history ∧ reply.duplicate = true ∧ reply.deposit ∈ system.world.view.deposits ∧
        reply.deposit.onChainDigest = target.txDigest)

/-- In every orderly run a payment whose coins have distinct keys is declared once. -/
theorem declared_once (chain : Chain) (config : Config) (floor : String → Int) (target : Declaration)
    (worthy : Worthy chain config floor target)
    (distinct : ∀ recipient verified, target.payment chain config = some (recipient, verified) → Distinct verified)
    {system : DepositSystem} (run : (declarations chain config).Run (Orderly chain config target) opening system) :
    DeclaredOnce chain config floor target system := by
  obtain ⟨recipient, verified, paid, nonempty, _⟩ := id worthy
  have exclusive := exclusive_run paid nonempty (distinct recipient verified paid) run
  obtain ⟨kept, sane⟩ := declared_books floor run.reaches
  refine ⟨?_, ?_⟩
  · intro index env after thread stepped found tag moved
    cases Machine.effect_of_next _ stepped with
    | step _ _ acting op rest answer world here alive awaits executed =>
      rw [found] at here
      cases here
      simp only [close_eq] at moved ⊢
      rcases sane.linked.view_exec executed with unmoved | ⟨commits, posted⟩
      · exact absurd unmoved moved
      · cases commits
        have path := kept index thread found
        rw [awaits] at path
        have history := Machine.past_of_found found alive
        obtain ⟨_, _, rows, declared, inserted, written⟩ := path.1.2 (exclusive.traced.credible found)
        rw [tag] at declared inserted written
        refine ⟨?_, ?_, _, _, rows, declared, inserted.coins, inserted.priced, ?_⟩
        · refine ⟨thread.resume ⟨.commit, .ok ()⟩ (rest (.ok ())), ?_, List.mem_cons_self⟩
          simp [(List.getElem?_eq_some_iff.mp found).1]
        · -- A credit committed before would be a row of this digest that is not ours.
          intro other member own done
          obtain ⟨rival, there⟩ := List.mem_iff_getElem?.mp member
          obtain ⟨row, shown, digest⟩ := exclusive.committed rival other there own done
          obtain ⟨entry, inside, rfl⟩ := List.mem_map.mp shown
          have running : thread.Running := ⟨alive, by rw [awaits]; rfl⟩
          have mine := exclusive.own index thread found ⟨running, inserted.declaring⟩ entry
            (List.mem_of_mem_filter inside) digest
          have committed : entry.writer = none := by simpa using (List.mem_filter.mp inside).2
          rw [mine] at committed
          cases committed
        · rw [posted, history, written]
  · intro thread member tag alive calm result ended
    obtain ⟨index, found⟩ := List.mem_iff_getElem?.mp member
    have path := kept index thread found
    have granted := exclusive.granted index thread found tag
    cases program : thread.program with
    | await op next =>
      rw [program] at ended
      cases ended
    | raise error =>
      rw [program] at path
      have excused : Excused chain config floor thread.tag thread.history := path.2
      rw [tag] at excused
      exact absurd (excused (exclusive.traced.credible found) calm worthy) granted
    | ret reply =>
      rw [program] at path ended
      cases ended
      have answered : Answered thread.tag.txDigest thread.history reply := path.2
      rw [tag] at answered
      rcases answered with ⟨duplicate, looked, uncommitted⟩ | ⟨first, done⟩
      · obtain ⟨shown, digest⟩ := exclusive.found index thread found _ _ looked
        refine ⟨reply, rfl, .inr ⟨fun done => uncommitted _ done, duplicate, shown, ?_⟩⟩
        rw [BillingDeposit.onChainDigest, digest]
        exact bareDigest_self paid
      · exact ⟨reply, rfl, .inl ⟨done, first⟩⟩

instance (chain : Chain) (config : Config) (target : Declaration) (system : DepositSystem) :
    (event : Event Env Declaration) → Decidable (Orderly chain config target system event)
  | .start declaration => inferInstanceAs (Decidable (declaration.txDigest = target.txDigest → declaration = target))
  | .step index env => inferInstanceAs (Decidable (looksUp target.txDigest system (.step index env) = true →
      (∀ thread ∈ system.threads, ¬Midway target.txDigest thread) ∧
      (target.coins chain config ≠ 1 → ∀ row ∈ system.world.view.deposits, row.onChainDigest ≠ target.txDigest)))
  | .cut _ => inferInstanceAs (Decidable True)

def suiOnly : Declaration := ⟨["0x2::sui::SUI"], 1, "testnet", "digest"⟩
def suiAndUsdc : Declaration := ⟨both, 1, "testnet", "digest"⟩

/-- The sample feed quotes two micro-dollars for every unit of the sample payment. -/
def quotes (coinType : String) : Int := if coinType = fullTag "0x2::sui::SUI" then 100 else 20

theorem suiOnly_payment : suiOnly.payment sampleChain sampleConfig =
    some ("0xdeposit", ⟨"digest", "0xsender", [(fullTag "0x2::sui::SUI", 50)]⟩) := by
  rfl

theorem suiAndUsdc_payment : suiAndUsdc.payment sampleChain sampleConfig =
    some ("0xdeposit", ⟨"digest", "0xsender", [(fullTag "0x2::sui::SUI", 50), (fullTag "0xa::usdc::USDC", 10)]⟩) := by
  rfl

/-- A call of the target that nothing disturbed, with how it ended. -/
def calmly (floor : String → Int) (target : Declaration) (thread : DepositThread) (ended : Except Thrown Bool) : Bool :=
  thread.tag = target && !thread.cut && thread.history.all (undisturbed floor) &&
    match thread.program, ended with
    | .ret reply, .ok duplicate => reply.duplicate = duplicate
    | .raise error, .error thrown => error = thrown
    | _, _ => false

/-- Declared, credited, declared again. -/
def declaredAgain : List (Event Env Declaration) :=
  .start suiOnly :: List.replicate 13 (.step 0 calm) ++ .start suiOnly :: List.replicate 2 (.step 1 calm)

theorem declared_once_sample : ∃ system, (declarations sampleChain sampleConfig).Run
      (Orderly sampleChain sampleConfig suiOnly) opening system ∧
    (∃ thread ∈ system.threads, calmly quotes suiOnly thread (.ok false) = true) ∧
    (∃ thread ∈ system.threads, calmly quotes suiOnly thread (.ok true) = true) ∧
    system.world.view.balance 1 "testnet" = 100 ∧ DeclaredOnce sampleChain sampleConfig quotes suiOnly system := by
  obtain ⟨system, run, first, second, balance⟩ : ∃ system, (declarations sampleChain sampleConfig).Run
        (Orderly sampleChain sampleConfig suiOnly) opening system ∧
      (∃ thread ∈ system.threads, calmly quotes suiOnly thread (.ok false) = true) ∧
      (∃ thread ∈ system.threads, calmly quotes suiOnly thread (.ok true) = true) ∧
      system.world.view.balance 1 "testnet" = 100 := Machine.exists_run declaredAgain (by decide +kernel)
  refine ⟨system, run, first, second, balance, declared_once sampleChain sampleConfig quotes suiOnly ?_ ?_ run⟩
  · exact ⟨_, _, suiOnly_payment, by simp, by decide⟩
  · intro recipient verified paid
    rw [suiOnly_payment] at paid
    cases paid
    decide

/-- A payment in two coins is declared twice, one call after the other: the second call throws. -/
theorem redeclared_throws : Worthy sampleChain sampleConfig quotes suiAndUsdc ∧
    ∃ system, (declarations sampleChain sampleConfig).Reaches opening system ∧
      (∀ thread ∈ system.threads, thread.tag = suiAndUsdc) ∧
      (∃ thread ∈ system.threads, calmly quotes suiAndUsdc thread (.error uniqueViolation) = true) ∧
      ¬DeclaredOnce sampleChain sampleConfig quotes suiAndUsdc system := by
  refine ⟨⟨_, _, suiAndUsdc_payment, by simp, by decide⟩, ?_⟩
  obtain ⟨system, reached, same, thread, member, calm⟩ : ∃ system,
      (declarations sampleChain sampleConfig).Reaches opening system ∧
      (∀ thread ∈ system.threads, thread.tag = suiAndUsdc) ∧
      ∃ thread ∈ system.threads, calmly quotes suiAndUsdc thread (.error uniqueViolation) = true :=
    Machine.exists_reaches declaredTwice (by decide +kernel)
  refine ⟨system, reached, same, ⟨thread, member, calm⟩, fun once => ?_⟩
  simp only [calmly, Bool.and_eq_true, decide_eq_true_eq, Bool.not_eq_true', List.all_eq_true] at calm
  obtain ⟨⟨⟨tag, alive⟩, undisturbed⟩, ended⟩ := calm
  cases program : thread.program with
  | raise error =>
    obtain ⟨reply, impossible, _⟩ := once.replies thread member tag alive undisturbed (.error error) (by rw [program]; rfl)
    cases impossible
  | ret reply =>
    rw [program] at ended
    cases ended
  | await op next =>
    rw [program] at ended
    cases ended

end MpcKit.Billing
