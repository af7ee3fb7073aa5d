import Mathlib.Data.List.TakeWhile
import MpcKit.Billing.Payments

/-! No deposit is credited twice. Every deposit row goes back to a call and to a coin its
transaction pays to the caller's deposit address, under a key made of digest and coin type;
the unique index on that key does the rest, as long as two calls make the same key. -/

namespace MpcKit.Billing
open MpcKit.Backend MpcKit.Async

/-! ### What a statement does to accounts and deposits -/

/-- What of an account the balance writes leave alone. -/
def AccountSlot.identity (slot : AccountSlot) : Uuid × Uuid × String × Option String :=
  (slot.row.id, slot.row.userId, slot.row.network, slot.row.depositAddress)

/-- The accounts keep their identity. -/
structure Store.SameAccounts (store after : Store) : Prop where
  accounts : after.accounts.map AccountSlot.identity = store.accounts.map AccountSlot.identity
  nextId : store.nextId ≤ after.nextId

/-- Everything one statement of call number `index` can do to accounts and deposits. -/
inductive Changed (index : Nat) (store after : Store) : (op : Op) → Res op → Prop where
  | frame (op : Op) (answer : Res op) (accounts : store.SameAccounts after) (deposits : after.deposits = store.deposits) :
      Changed index store after op answer
  | discarded (op : Op) (answer : Res op) (accounts : store.SameAccounts after)
      (deposits : after.deposits = Versioned.discard index store.deposits) : Changed index store after op answer
  | settled (accounts : store.SameAccounts after) (deposits : after.deposits = Versioned.settle index store.deposits) :
      Changed index store after .commit (.ok ())
  | opened (userId : Uuid) (network : String)
      (same : after = { store with
        accounts := store.accounts ++ [⟨⟨store.nextId, userId, network, 0, none⟩, none⟩]
        nextId := store.nextId + 1 }) :
      Changed index store after (.insertAccount userId network) (some ⟨store.nextId, userId, network, 0, none⟩)
  | addressed (id : Uuid) (address : String)
      (same : after = { store with accounts := store.accounts.map (fun slot =>
          if slot.row.id = id then { slot with row := { slot.row with depositAddress := some address } } else slot) }) :
      Changed index store after (.setDepositAddress id address) ()
  | inserted (new : NewDeposit) (free : ∀ entry ∈ store.deposits, entry.row.txDigest ≠ new.txDigest)
      (same : after = { store with
        deposits := store.deposits ++ [⟨new.row store.nextId, some index⟩]
        nextId := store.nextId + 1 }) :
      Changed index store after (.insertDeposit new) (.ok (new.row store.nextId))

section Changes

variable {store after : Store} {index : Nat}

theorem sameAccounts_map {change : AccountSlot → AccountSlot} (same : ∀ slot, (change slot).identity = slot.identity) :
    store.SameAccounts { store with accounts := store.accounts.map change } := by
  refine ⟨?_, le_refl _⟩
  rw [List.map_map]
  exact List.map_congr_left (fun slot _ => same slot)

theorem identity_discard (slot : AccountSlot) : (slot.discard index).identity = slot.identity := by
  unfold AccountSlot.discard
  split
  · split <;> rfl
  · rfl

theorem identity_settle (slot : AccountSlot) : (slot.settle index).identity = slot.identity := by
  unfold AccountSlot.settle
  split
  · split <;> rfl
  · rfl

theorem sameAccounts_rollback : store.SameAccounts (store.rollback index) :=
  ⟨(sameAccounts_map identity_discard).accounts, le_refl _⟩

theorem lockSlot_frame {userId : Uuid} {network : String} {delta : Int} {answer : Option Int}
    (done : store.lockSlot index userId network delta = some (answer, after)) :
    store.SameAccounts after ∧ after.deposits = store.deposits := by
  simp only [Store.lockSlot] at done
  split at done
  · cases done
    exact ⟨⟨rfl, le_refl _⟩, rfl⟩
  · split at done
    · cases done
      refine ⟨sameAccounts_map (fun slot => ?_), rfl⟩
      split <;> rfl
    · cases done

theorem changed_exec {op : Op} {env : Env} {answer : Res op}
    (executed : exec index op env store = some (answer, after)) : Changed index store after op answer := by
  have still : Changed index store store op answer := .frame op answer ⟨rfl, le_refl _⟩ rfl
  cases op with
  | randomUUID =>
    cases executed
    exact .frame _ _ ⟨rfl, Nat.le_succ _⟩ rfl
  | insertAccount userId network =>
    simp only [exec] at executed
    split at executed
    · cases executed
      exact still
    · cases executed
      exact .opened userId network rfl
  | setDepositAddress id address =>
    simp only [exec] at executed
    split at executed
    · cases executed
      exact .addressed id address rfl
    · cases executed
  | begin =>
    simp only [exec] at executed
    split at executed <;> cases executed <;> exact still
  | commit =>
    simp only [exec] at executed
    split at executed
    · cases executed
      exact .discarded _ _ sameAccounts_rollback rfl
    · cases executed
      exact .settled ⟨(sameAccounts_map identity_settle).accounts, le_refl _⟩ rfl
  | rollback =>
    cases executed
    exact .discarded _ _ sameAccounts_rollback rfl
  | selectCharge op kind =>
    simp only [exec] at executed
    split at executed <;> cases executed <;> exact still
  | selectCredits op kind =>
    simp only [exec] at executed
    split at executed <;> cases executed <;> exact still
  | lockAccount userId network =>
    simp only [exec] at executed
    split at executed
    · cases executed
      exact still
    · obtain ⟨⟨found, other⟩, locked, same⟩ := Option.map_eq_some_iff.mp executed
      cases same
      exact .frame _ _ (lockSlot_frame locked).1 (lockSlot_frame locked).2
  | addCredits credit =>
    simp only [exec] at executed
    split at executed
    · cases executed
      exact still
    · obtain ⟨⟨found, other⟩, locked, same⟩ := Option.map_eq_some_iff.mp executed
      cases same
      exact .frame _ _ (lockSlot_frame locked).1 (lockSlot_frame locked).2
  | insertCharge new =>
    simp only [exec] at executed
    split at executed
    · cases executed
      exact still
    · obtain ⟨inserted, _, same⟩ := Option.map_eq_some_iff.mp executed
      cases inserted with
      | error error =>
        cases same
        exact still
      | ok charges =>
        cases same
        exact .frame _ _ ⟨rfl, Nat.le_succ _⟩ rfl
  | insertDeposit new =>
    simp only [exec] at executed
    split at executed
    · cases executed
      exact still
    · obtain ⟨inserted, done, same⟩ := Option.map_eq_some_iff.mp executed
      cases inserted with
      | error error =>
        cases same
        exact still
      | ok deposits =>
        cases same
        obtain ⟨rfl, free⟩ := Linked.insertUnique_ok done
        exact .inserted new free rfl
  | _ =>
    cases executed
    exact still

end Changes

/-! ### Accounts and what calls know of them -/

def Store.Knows (store : Store) (id userId : Uuid) (network : String) : Prop :=
  ∃ slot ∈ store.accounts, slot.row.id = id ∧ slot.Is userId network

structure Registered (config : Config) (store : Store) : Prop where
  ids : (store.accounts.map (fun slot => slot.row.id)).Nodup
  drawn : ∀ slot ∈ store.accounts, slot.row.id < store.nextId
  derived : ∀ slot ∈ store.accounts, Derived config slot.row

/-- What an answer tells a declaration for good. -/
def Told (config : Config) (store : Store) : Entry Op Res → Prop
  | ⟨.selectAccount userId network, some account⟩ => Derived config account ∧ store.Knows account.id userId network
  | ⟨.insertAccount userId network, some account⟩ => Derived config account ∧ store.Knows account.id userId network
  | ⟨.insertAccount userId network, none⟩ => store.Has userId network
  | ⟨.addCredits _, .ok none⟩ => False
  | _ => True

section Accounts

variable {config : Config} {store after : Store} {index : Nat} {op : Op} {answer : Res op}

theorem Store.SameAccounts.mem (same : store.SameAccounts after) {slot : AccountSlot} (member : slot ∈ after.accounts) :
    ∃ old ∈ store.accounts, old.identity = slot.identity := by
  have inside : slot.identity ∈ after.accounts.map AccountSlot.identity := List.mem_map_of_mem member
  rw [same.accounts] at inside
  exact List.mem_map.mp inside

theorem Store.SameAccounts.mem_after (same : store.SameAccounts after) {slot : AccountSlot}
    (member : slot ∈ store.accounts) : ∃ new ∈ after.accounts, new.identity = slot.identity := by
  have inside : slot.identity ∈ store.accounts.map AccountSlot.identity := List.mem_map_of_mem member
  rw [← same.accounts] at inside
  exact List.mem_map.mp inside

theorem Registered.same (registered : Registered config store) (same : store.SameAccounts after) :
    Registered config after where
  ids := by
    have equal : after.accounts.map (fun slot => slot.row.id) = store.accounts.map (fun slot => slot.row.id) := by
      simpa [AccountSlot.identity, Function.comp_def] using congrArg (List.map Prod.fst) same.accounts
    rw [equal]
    exact registered.ids
  drawn slot member := by
    obtain ⟨old, there, equal⟩ := same.mem member
    have id : old.row.id = slot.row.id := congrArg Prod.fst equal
    rw [← id]
    exact (registered.drawn old there).trans_le same.nextId
  derived slot member := by
    obtain ⟨old, there, equal⟩ := same.mem member
    simp only [AccountSlot.identity, Prod.mk.injEq] at equal
    obtain ⟨_, user, net, address⟩ := equal
    have derived := registered.derived old there
    simpa only [Derived, user, net, address] using derived

/-- Accounts are only ever added. -/
theorem Changed.knows (changed : Changed index store after op answer) {id userId : Uuid} {network : String}
    (knows : store.Knows id userId network) : after.Knows id userId network := by
  have kept : store.SameAccounts after → after.Knows id userId network := by
    intro same
    obtain ⟨slot, member, drawn, own⟩ := knows
    obtain ⟨new, there, equal⟩ := same.mem_after member
    simp only [AccountSlot.identity, Prod.mk.injEq] at equal
    exact ⟨new, there, equal.1.trans drawn, equal.2.1.trans own.1, equal.2.2.1.trans own.2⟩
  cases changed with
  | frame _ _ accounts _ => exact kept accounts
  | discarded _ _ accounts _ => exact kept accounts
  | settled accounts _ => exact kept accounts
  | opened user net same =>
    obtain ⟨slot, member, known⟩ := knows
    subst same
    exact ⟨slot, List.mem_append_left _ member, known⟩
  | addressed changed address same =>
    obtain ⟨slot, member, known⟩ := knows
    subst same
    refine ⟨_, List.mem_map_of_mem member, ?_⟩
    split <;> exact known
  | inserted new free same =>
    subst same
    exact knows

theorem Changed.has (changed : Changed index store after op answer) {userId : Uuid} {network : String}
    (has : store.Has userId network) : after.Has userId network := by
  obtain ⟨slot, member, own⟩ := has
  obtain ⟨new, there, _, same⟩ := changed.knows ⟨slot, member, rfl, own⟩
  exact ⟨new, there, same⟩

theorem Told.mono {entry : Entry Op Res} (changed : Changed index store after op answer) (told : Told config store entry) :
    Told config after entry := by
  unfold Told at told ⊢
  split at told
  · exact ⟨told.1, changed.knows told.2⟩
  · exact ⟨told.1, changed.knows told.2⟩
  · exact changed.has told
  · exact told.elim
  · trivial

theorem Registered.opened (registered : Registered config store) (userId : Uuid) (network : String) :
    Registered config { store with
      accounts := store.accounts ++ [⟨⟨store.nextId, userId, network, 0, none⟩, none⟩]
      nextId := store.nextId + 1 } where
  ids := by
    rw [List.map_append, List.nodup_append]
    refine ⟨registered.ids, List.nodup_singleton _, ?_⟩
    rintro id old _ new rfl
    obtain ⟨slot, member, same⟩ := List.mem_map.mp old
    have below := registered.drawn slot member
    have last : id = store.nextId := by simpa using new
    exact absurd (same.trans last) (Nat.ne_of_lt below)
  drawn slot member := by
    rcases List.mem_append.mp member with old | new
    · exact (registered.drawn slot old).trans (Nat.lt_succ_self _)
    · rw [List.mem_singleton.mp new]
      exact Nat.lt_succ_self _
  derived slot member := by
    rcases List.mem_append.mp member with old | new
    · exact registered.derived slot old
    · rw [List.mem_singleton.mp new]
      intro address none
      cases none

theorem Registered.addressed (registered : Registered config store) {id userId : Uuid} {network address : String}
    (known : store.Knows id userId network) (derived : config.deriveDepositAddress userId network = .ok address) :
    Registered config { store with accounts := store.accounts.map (fun slot =>
      if slot.row.id = id then { slot with row := { slot.row with depositAddress := some address } } else slot) } where
  ids := by
    rw [List.map_map]
    refine (List.map_congr_left fun slot _ => ?_ : _ = store.accounts.map (fun slot => slot.row.id)) ▸ registered.ids
    simp only [Function.comp_apply]
    split <;> rfl
  drawn slot member := by
    obtain ⟨old, there, rfl⟩ := List.mem_map.mp member
    have below := registered.drawn old there
    split <;> exact below
  derived slot member := by
    obtain ⟨old, there, rfl⟩ := List.mem_map.mp member
    split
    next same =>
      obtain ⟨other, inside, drawn, own⟩ := known
      obtain rfl : old = other := List.inj_on_of_nodup_map registered.ids there inside (same.trans drawn.symm)
      intro other new
      cases new
      simpa only [own.1, own.2] using derived
    · exact registered.derived old there

end Accounts

/-! ### Every row has its payment -/

abbrev DepositThread := Thread Op Res Declaration Thrown RecordDepositResult

/-- The row stands for a coin that the declared transaction pays to the caller. -/
structure RowOf (chain : Chain) (config : Config) (declaration : Declaration) (row : BillingDeposit) (recipient : String)
    (verified : VerifiedDeposit) : Prop where
  paid : declaration.payment chain config = some (recipient, verified)
  user : row.userId = declaration.userId
  network : row.network = declaration.network
  coin : row.coin ∈ verified.amountsAtomic
  key : row.txDigest = suffixForCoinType verified row.coinType

structure Traced (chain : Chain) (config : Config) (store : Store) (calls : Nat → Option DepositThread) : Prop where
  registered : Registered config store
  told : ∀ index thread, calls index = some thread → ∀ entry ∈ thread.history, Told config store entry
  unlost : ∀ index thread, calls index = some thread → ¬Lost thread.history
  digests : (store.deposits.map (fun entry => entry.row.txDigest)).Nodup
  sourced : ∀ entry ∈ store.deposits, ∃ index thread recipient verified, calls index = some thread ∧
    RowOf chain config thread.tag entry.row recipient verified ∧ ∀ writer, entry.writer = some writer → writer = index

namespace Traced

variable {chain : Chain} {config : Config} {store after : Store} {calls : Nat → Option DepositThread}
variable {index : Nat} {thread later : DepositThread} {op : Op} {answer : Res op}

theorem credible (traced : Traced chain config store calls) (found : calls index = some thread) :
    Credible config thread.history where
  derived userId network account saw := by
    rcases saw with seen | created
    · exact (traced.told index thread found _ seen).1
    · exact (traced.told index thread found _ created).1
  kept := traced.unlost index thread found
  updated credit missing := traced.told index thread found _ missing

/-- Where the deposit rows of a step come from. -/
theorem rows_of_changed (changed : Changed index store after op answer) {entry : Versioned BillingDeposit}
    (member : entry ∈ after.deposits) :
    (∃ old ∈ store.deposits, old.row = entry.row ∧ (entry.writer = old.writer ∨
      entry.writer = none ∧ old.writer = some index ∧ op = .commit)) ∨
      ∃ new, op = .insertDeposit new ∧ entry = ⟨new.row store.nextId, some index⟩ := by
  have kept : entry ∈ store.deposits → ∃ old ∈ store.deposits, old.row = entry.row ∧ (entry.writer = old.writer ∨
      entry.writer = none ∧ old.writer = some index ∧ op = .commit) :=
    fun before => ⟨entry, before, rfl, .inl rfl⟩
  cases changed with
  | frame _ _ _ deposits => exact .inl (kept (deposits ▸ member))
  | discarded _ _ _ deposits =>
    rw [deposits] at member
    exact .inl (kept (Versioned.row_of_discard member))
  | settled _ deposits =>
    rw [deposits, Versioned.settle] at member
    rcases List.mem_append.mp member with other | own
    · exact .inl (kept (Versioned.row_of_discard other))
    · obtain ⟨row, written, rfl⟩ := List.mem_map.mp own
      obtain ⟨old, there, rfl⟩ := List.mem_map.mp written
      have pending : old.writer = some index := by simpa using (List.mem_filter.mp there).2
      exact .inl ⟨old, List.mem_of_mem_filter there, rfl, .inr ⟨rfl, pending, rfl⟩⟩
  | opened _ _ same =>
    subst same
    exact .inl (kept member)
  | addressed _ _ same =>
    subst same
    exact .inl (kept member)
  | inserted new free same =>
    rw [same] at member
    rcases List.mem_append.mp member with old | added
    · exact .inl (kept old)
    · exact .inr ⟨new, rfl, List.mem_singleton.mp added⟩

theorem digests_of_changed (changed : Changed index store after op answer)
    (digests : (store.deposits.map (fun entry => entry.row.txDigest)).Nodup) :
    (after.deposits.map (fun entry => entry.row.txDigest)).Nodup := by
  cases changed with
  | frame _ _ _ deposits =>
    rw [deposits]
    exact digests
  | discarded _ _ _ deposits =>
    rw [deposits]
    exact digests.sublist (List.filter_sublist.map _)
  | settled _ deposits =>
    rw [deposits]
    have rows := (Versioned.rows_settle index store.deposits).map BillingDeposit.txDigest
    simp only [List.map_map] at rows
    exact (List.Perm.nodup_iff rows).mpr digests
  | opened _ _ same =>
    rw [same]
    exact digests
  | addressed _ _ same =>
    rw [same]
    exact digests
  | inserted new free same =>
    rw [same, List.map_append, List.nodup_append]
    refine ⟨digests, List.nodup_singleton _, ?_⟩
    rintro digest old _ added rfl
    obtain ⟨entry, member, equal⟩ := List.mem_map.mp old
    rw [List.map_singleton, List.mem_singleton] at added
    exact free entry member (equal.trans added)

/-- One call goes on: the rest is about its own history and the row it may have inserted. -/
theorem move (traced : Traced chain config store calls) (found : calls index = some thread)
    (tag : later.tag = thread.tag) (changed : Changed index store after op answer)
    (registered : Registered config after) (told : ∀ entry ∈ later.history, Told config after entry)
    (unlost : ¬Lost later.history)
    (written : ∀ new, op = .insertDeposit new → ∃ recipient verified, ∀ id,
      RowOf chain config thread.tag (new.row id) recipient verified) :
    Traced chain config after (Function.update calls index (some later)) where
  registered := registered
  told other acting there := by
    rcases Machine.calls_update there with ⟨_, rfl⟩ | ⟨_, before⟩
    · exact told
    · exact fun entry member => (traced.told other acting before entry member).mono changed
  unlost other acting there := by
    rcases Machine.calls_update there with ⟨_, rfl⟩ | ⟨_, before⟩
    · exact unlost
    · exact traced.unlost other acting before
  digests := digests_of_changed changed traced.digests
  sourced entry member := by
    rcases rows_of_changed changed member with ⟨old, before, same, writers⟩ | ⟨new, inserts, rfl⟩
    · obtain ⟨other, acting, recipient, verified, there, row, writer⟩ := traced.sourced old before
      have still : ∀ writer, entry.writer = some writer → writer = other := by
        intro current written
        rcases writers with equal | ⟨none, _⟩
        · exact writer current (equal ▸ written)
        · rw [none] at written
          cases written
      rw [same] at row
      by_cases own : other = index
      · subst own
        rw [found] at there
        cases there
        exact ⟨other, later, recipient, verified, Function.update_self _ _ _, tag ▸ row, still⟩
      · exact ⟨other, acting, recipient, verified, by rw [Function.update_of_ne own]; exact there, row, still⟩
    · obtain ⟨recipient, verified, row⟩ := written new inserts
      refine ⟨index, later, recipient, verified, Function.update_self _ _ _, tag ▸ row _, ?_⟩
      intro writer same
      exact (Option.some.inj same).symm

/-- The new answer is one the store can give. -/
theorem told_of_exec {env : Env} (traced : Traced chain config store calls)
    (executed : exec index op env store = some (answer, after)) (known : reads chain op answer)
    (ensured : ∀ credit, op = .addCredits credit → store.Has credit.userId credit.network) :
    Told config after ⟨op, answer⟩ := by
  cases op with
  | selectAccount userId network =>
    cases executed
    cases found : store.findSlot userId network with
    | none => trivial
    | some slot =>
      obtain ⟨member, own⟩ := has_of_findSlot found
      exact ⟨traced.registered.derived slot member, slot, member, rfl, own⟩
  | insertAccount userId network =>
    simp only [exec] at executed
    split at executed
    next slot found =>
      cases executed
      obtain ⟨member, own⟩ := has_of_findSlot found
      exact ⟨slot, member, own⟩
    next missing =>
      cases executed
      refine ⟨?_, _, List.mem_append_right _ List.mem_cons_self, rfl, rfl, rfl⟩
      intro address unset
      cases unset
  | addCredits credit =>
    simp only [exec] at executed
    split at executed
    · cases executed
      trivial
    · obtain ⟨⟨updated, other⟩, locked, same⟩ := Option.map_eq_some_iff.mp executed
      cases same
      simp only [Store.lockSlot] at locked
      split at locked
      next missing => exact absurd (ensured credit rfl) (not_has_of_findSlot missing)
      next slot found =>
        split at locked
        · cases locked
          trivial
        · cases locked
  | _ => trivial

theorem unlost_of_exec {env : Env} (traced : Traced chain config store calls) (found : calls index = some thread)
    (executed : exec index op env store = some (answer, after)) : ¬Lost (⟨op, answer⟩ :: thread.history) := by
  have before := traced.unlost index thread found
  intro lost
  unfold Lost at lost
  split at lost
  · exact lost
  next userId network past same =>
    cases same
    rcases lost with created | earlier
    · have has : store.Has userId network := traced.told index thread found _ created
      have missing : store.findSlot userId network = none := by simpa [exec] using congrArg (Option.map Prod.fst) executed
      exact not_has_of_findSlot missing has
    · exact before earlier
  next same =>
    cases same
    exact before lost

/-- One statement of a call that keeps its pledge. -/
theorem act {floor : String → Int} {env : Env} (traced : Traced chain config store calls)
    (found : calls index = some thread) (before : (pledge chain config floor thread.tag).before thread.history op)
    (known : reads chain op answer) (executed : exec index op env store = some (answer, after))
    (tag : later.tag = thread.tag) (history : later.history = ⟨op, answer⟩ :: thread.history) :
    Traced chain config after (Function.update calls index (some later)) := by
  have credible := traced.credible found
  have changed := changed_exec executed
  have has : ∀ userId network, Ensured thread.history userId network → store.Has userId network := by
    rintro userId network (⟨account, seen⟩ | ⟨account, created⟩)
    · obtain ⟨_, slot, member, _, own⟩ := traced.told index thread found _ seen
      exact ⟨slot, member, own⟩
    · obtain ⟨_, slot, member, _, own⟩ := traced.told index thread found _ created
      exact ⟨slot, member, own⟩
  refine traced.move found tag changed ?_ ?_ ?_ ?_
  · cases changed with
    | frame _ _ accounts _ => exact traced.registered.same accounts
    | discarded _ _ accounts _ => exact traced.registered.same accounts
    | settled accounts _ => exact traced.registered.same accounts
    | opened userId network same =>
      rw [same]
      exact traced.registered.opened userId network
    | addressed id address same =>
      obtain ⟨derived, account, saw, rfl⟩ := before.2 credible
      rw [same]
      refine traced.registered.addressed ?_ derived
      rcases saw with seen | created
      · exact (traced.told index thread found _ seen).2
      · exact (traced.told index thread found _ created).2
    | inserted new free same =>
      rw [same]
      exact ⟨traced.registered.ids, fun slot member => (traced.registered.drawn slot member).trans (Nat.lt_succ_self _),
        traced.registered.derived⟩
  · intro entry member
    rw [history] at member
    rcases List.mem_cons.mp member with rfl | earlier
    · refine traced.told_of_exec executed known (fun credit same => ?_)
      subst same
      exact has _ _ before.1.1
    · exact (traced.told index thread found entry earlier).mono changed
  · rw [history]
    exact traced.unlost_of_exec found executed
  · rintro new rfl
    obtain ⟨recipient, verified, done, coin, rest, converted, paid, split, _, rfl⟩ := before.2 credible
    refine ⟨recipient, verified, fun id => ⟨paid, rfl, rfl, ?_, rfl⟩⟩
    rw [split]
    exact List.mem_append_right _ List.mem_cons_self

end Traced

/-! ### Runs of declarations -/

section Runs

variable {chain : Chain} {config : Config} {system : DepositSystem}

theorem declared_books (floor : String → Int) (reached : (declarations chain config).Reaches opening system) :
    Machine.Kept (pledge chain config floor) system ∧ Sane system.world system.past := by
  refine reached.linked (pledged chain config floor) (by intro index thread found; simp [opening] at found)
    sane_start ?_ ?_ ?_
  · intro declaration store opened past index sane entered
    cases entered
    simp only [Machine.close, declarations]
    split <;> exact sane
  · intro index op env store answer after past declaration program sane prepared executed
    have kept := sane.exec prepared.1.1 executed
    simp only [Machine.close, declarations]
    split <;> exact kept
  · intro index declaration store past sane
    exact ⟨sane.linked.rollback ⟨rfl, rfl⟩ (by simp), (view_rollback store index).symm ▸ sane.conserved⟩

theorem close_eq (index : Nat) (declaration : Declaration) (program : Prog RecordDepositResult) (store : Store) :
    (declarations chain config).close index declaration program store = store := by
  simp only [Machine.close, declarations]
  split <;> rfl

theorem traced_opening : Traced chain config opening.world opening.calls := by
  refine ⟨⟨?_, ?_, ?_⟩, ?_, ?_, ?_, ?_⟩ <;> simp [opening, System.calls]

theorem Traced.started {store : Store} {calls : Nat → Option DepositThread} {index : Nat}
    (traced : Traced chain config store calls) (free : calls index = none) (declaration : Declaration) :
    Traced chain config store (Function.update calls index (some ((declarations chain config).fresh declaration))) where
  registered := traced.registered
  told other acting there := by
    rcases Machine.calls_update there with ⟨_, rfl⟩ | ⟨_, before⟩
    · intro entry member
      cases member
    · exact traced.told other acting before
  unlost other acting there := by
    rcases Machine.calls_update there with ⟨_, rfl⟩ | ⟨_, before⟩
    · exact id
    · exact traced.unlost other acting before
  digests := traced.digests
  sourced entry member := by
    obtain ⟨other, acting, recipient, verified, there, row, writer⟩ := traced.sourced entry member
    have apart : other ≠ index := by
      rintro rfl
      rw [free] at there
      cases there
    exact ⟨other, acting, recipient, verified, by rw [Function.update_of_ne apart]; exact there, row, writer⟩

/-- Every event keeps the rows traced. -/
theorem Traced.event {floor : String → Int} {event : Event Env Declaration} {store : Store}
    {calls : Nat → Option DepositThread} (traced : Traced chain config system.world system.calls)
    (move : (declarations chain config).Move (pledge chain config floor) system event store calls) :
    Traced chain config store calls := by
  cases move with
  | start declaration world free entered path =>
    cases entered
    rw [close_eq]
    exact traced.started free declaration
  | step index env thread op answer rest world act =>
    rw [close_eq]
    exact traced.act act.found act.before act.known.2 act.executed rfl rfl
  | cut index thread found running =>
    have changed : Changed index system.world (system.world.rollback index) .rollback () :=
      .discarded _ _ sameAccounts_rollback rfl
    refine traced.move found rfl changed (traced.registered.same sameAccounts_rollback) ?_
      (traced.unlost index thread found) (by simp)
    exact fun entry member => (traced.told index thread found entry member).mono changed

end Runs

/-! ### Each credit once -/

/-- The digest of a key, without the suffix for the coin type. -/
def bareDigest (key : String) : String :=
  String.ofList (key.toList.takeWhile (fun character => character ≠ ':'))

def BillingDeposit.onChainDigest (row : BillingDeposit) : String := bareDigest row.txDigest

/-- The on-chain credit of a row: transaction, deposit address and coin type. -/
def BillingDeposit.credit (config : Config) (row : BillingDeposit) : String × Except Thrown String × String :=
  (row.onChainDigest, config.deriveDepositAddress row.userId row.network, row.coinType)

/-- Two calls that find a coin type of one transaction paid to one address store it under one
key: it is the only accepted one for both of them or for neither. -/
def AgreeOnKeys (chain : Chain) (config : Config) (first second : Declaration) : Prop :=
  ∀ one ∈ first.payment chain config, ∀ other ∈ second.payment chain config,
    one.2.digest = other.2.digest → one.1 = other.1 →
    ∀ coin ∈ one.2.amountsAtomic.map Prod.fst, coin ∈ other.2.amountsAtomic.map Prod.fst →
      (one.2.amountsAtomic.length = 1 ↔ other.2.amountsAtomic.length = 1)

instance (chain : Chain) (config : Config) (first second : Declaration) :
    Decidable (AgreeOnKeys chain config first second) :=
  inferInstanceAs (Decidable (∀ one ∈ first.payment chain config, ∀ other ∈ second.payment chain config,
    one.2.digest = other.2.digest → one.1 = other.1 →
    ∀ coin ∈ one.2.amountsAtomic.map Prod.fst, coin ∈ other.2.amountsAtomic.map Prod.fst →
      (one.2.amountsAtomic.length = 1 ↔ other.2.amountsAtomic.length = 1)))

/-- A call starts only if it agrees on keys with every earlier one. -/
def Steady (chain : Chain) (config : Config) (system : DepositSystem) : Event Env Declaration → Prop
  | .start declaration => ∀ thread ∈ system.threads, AgreeOnKeys chain config thread.tag declaration
  | .step _ _ => True
  | .cut _ => True

instance (chain : Chain) (config : Config) (system : DepositSystem) :
    (event : Event Env Declaration) → Decidable (Steady chain config system event)
  | .start declaration =>
      inferInstanceAs (Decidable (∀ thread ∈ system.threads, AgreeOnKeys chain config thread.tag declaration))
  | .step _ _ => inferInstanceAs (Decidable True)
  | .cut _ => inferInstanceAs (Decidable True)

section Keys

variable {chain : Chain} {config : Config} {first second : Declaration}

theorem AgreeOnKeys.symm (agree : AgreeOnKeys chain config first second) : AgreeOnKeys chain config second first := by
  intro one declared other paid digest recipient coin inside there
  exact (agree other paid one declared digest.symm recipient.symm coin there inside).symm

theorem agreeOnKeys_self (chain : Chain) (config : Config) (declaration : Declaration) :
    AgreeOnKeys chain config declaration declaration := by
  intro one declared other paid _ _ _ _ _
  rw [Option.mem_unique declared paid]

/-- What a payment says of the chain and of the address. -/
theorem payment_some {declaration : Declaration} {recipient : String} {verified : VerifiedDeposit}
    (paid : declaration.payment chain config = some (recipient, verified)) :
    verified.digest = declaration.txDigest ∧ (∃ found, chain.find declaration.txDigest = some found) ∧
      config.deriveDepositAddress declaration.userId declaration.network = .ok recipient := by
  unfold Declaration.payment at paid
  split at paid
  next there sender changes address found derived =>
    split at paid
    · cases paid
      exact ⟨rfl, ⟨_, found⟩, derived⟩
    · cases paid
  · cases paid

/-- The suffix can be taken off again, since a digest has no colon. -/
theorem bareDigest_suffix {declaration : Declaration} {recipient : String} {verified : VerifiedDeposit}
    (paid : declaration.payment chain config = some (recipient, verified)) (coinType : String) :
    bareDigest (suffixForCoinType verified coinType) = declaration.txDigest := by
  obtain ⟨digest, ⟨found, there⟩, _⟩ := payment_some paid
  have plain : ∀ character ∈ declaration.txDigest.toList, decide (character ≠ ':') = true := by
    intro character member
    apply decide_eq_true
    rintro rfl
    exact chain.base58 _ _ there member
  rw [bareDigest, suffixForCoinType, digest]
  split
  · rw [List.takeWhile_eq_self_iff.mpr plain, String.ofList_toList]
  · rw [String.toList_append, String.toList_append, List.append_assoc, List.takeWhile_append_of_pos plain]
    simp

theorem RowOf.onChainDigest {row : BillingDeposit} {recipient : String} {verified : VerifiedDeposit}
    (of : RowOf chain config first row recipient verified) : row.onChainDigest = first.txDigest := by
  rw [BillingDeposit.onChainDigest, of.key]
  exact bareDigest_suffix of.paid row.coinType

theorem RowOf.credit {row : BillingDeposit} {recipient : String} {verified : VerifiedDeposit}
    (of : RowOf chain config first row recipient verified) :
    row.credit config = (first.txDigest, .ok recipient, row.coinType) := by
  rw [BillingDeposit.credit, of.onChainDigest, of.user, of.network, (payment_some of.paid).2.2]

/-- Rows of one credit have one key when their calls agree. -/
theorem RowOf.same_key {one other : BillingDeposit} {here there : String} {seen verified : VerifiedDeposit}
    (of : RowOf chain config first one here seen) (also : RowOf chain config second other there verified)
    (agree : AgreeOnKeys chain config first second) (same : one.credit config = other.credit config) :
    one.txDigest = other.txDigest := by
  rw [of.credit, also.credit] at same
  simp only [Prod.mk.injEq, Except.ok.injEq] at same
  obtain ⟨declared, recipient, coin⟩ := same
  have digest : seen.digest = verified.digest := by
    rw [(payment_some of.paid).1, (payment_some also.paid).1, declared]
  have inside : one.coinType ∈ seen.amountsAtomic.map Prod.fst := List.mem_map_of_mem of.coin
  have shared : one.coinType ∈ verified.amountsAtomic.map Prod.fst := by
    rw [coin]
    exact List.mem_map_of_mem also.coin
  have alone := agree _ of.paid _ also.paid digest recipient _ inside shared
  rw [of.key, also.key, suffixForCoinType, suffixForCoinType, digest, coin]
  by_cases single : seen.amountsAtomic.length = 1
  · rw [if_pos single, if_pos (alone.mp single)]
  · rw [if_neg single, if_neg (fun other => single (alone.mpr other))]

end Keys

/-- Rows are traced and all calls agree on keys. -/
structure Agreed (chain : Chain) (config : Config) (store : Store) (calls : Nat → Option DepositThread) : Prop where
  traced : Traced chain config store calls
  agree : ∀ index other first second, calls index = some first → calls other = some second →
    AgreeOnKeys chain config first.tag second.tag

theorem Agreed.once {chain : Chain} {config : Config} {store : Store} {calls : Nat → Option DepositThread}
    (agreed : Agreed chain config store calls) : (store.view.deposits.map (BillingDeposit.credit config)).Nodup := by
  have digests : (store.view.deposits.map BillingDeposit.txDigest).Nodup := by
    have all := agreed.traced.digests
    rw [← Function.comp_def BillingDeposit.txDigest, ← List.map_map] at all
    exact all.sublist ((List.filter_sublist.map _).map _)
  refine List.Nodup.map_on ?_ digests.of_map
  intro one shown other there same
  obtain ⟨entry, inside, rfl⟩ := List.mem_map.mp shown
  obtain ⟨rival, beside, rfl⟩ := List.mem_map.mp there
  obtain ⟨_, _, _, _, caller, of, _⟩ := agreed.traced.sourced entry (List.mem_of_mem_filter inside)
  obtain ⟨_, _, _, _, second, also, _⟩ := agreed.traced.sourced rival (List.mem_of_mem_filter beside)
  exact List.inj_on_of_nodup_map digests shown there (of.same_key also (agreed.agree _ _ _ _ caller second) same)

theorem agree_update {chain : Chain} {config : Config} {calls : Nat → Option DepositThread} {index : Nat}
    {replaced : DepositThread}
    (agree : ∀ index other first second, calls index = some first → calls other = some second →
      AgreeOnKeys chain config first.tag second.tag)
    (new : ∀ other thread, calls other = some thread → AgreeOnKeys chain config thread.tag replaced.tag)
    (one other : Nat) (first second : DepositThread) (here : Function.update calls index (some replaced) one = some first)
    (there : Function.update calls index (some replaced) other = some second) :
    AgreeOnKeys chain config first.tag second.tag := by
  rcases Machine.calls_update here with ⟨_, rfl⟩ | ⟨_, before⟩
  · rcases Machine.calls_update there with ⟨_, rfl⟩ | ⟨_, also⟩
    · exact agreeOnKeys_self chain config _
    · exact (new other second also).symm
  · rcases Machine.calls_update there with ⟨_, rfl⟩ | ⟨_, also⟩
    · exact new one first before
    · exact agree one other first second before also

/-- In every run whose calls agree on keys, each on-chain credit has at most one deposit row, the
balances are the sums of the rows, and every row is a credit that some call declared. -/
theorem credited_once (chain : Chain) (config : Config) {system : DepositSystem}
    (run : (declarations chain config).Run (Steady chain config) opening system) :
    (system.world.view.deposits.map (BillingDeposit.credit config)).Nodup ∧
    (∀ userId network, system.world.view.balance userId network =
      total system.world.view.deposits userId network + total system.world.view.charges userId network) ∧
    ∀ row ∈ system.world.view.deposits, ∃ thread ∈ system.threads, ∃ recipient verified,
      thread.tag.payment chain config = some (recipient, verified) ∧
      row.credit config = (thread.tag.txDigest, .ok recipient, row.coinType) ∧ row.coin ∈ verified.amountsAtomic := by
  have agreed : Agreed chain config system.world system.calls := by
    refine (run.tracked (pledged chain config (fun _ => 0)) (Agreed chain config)
      (by intro index thread found; simp [opening] at found) ⟨traced_opening, by simp [opening, System.calls]⟩ ?_).2
    intro system event store calls _ agreed steady move
    refine ⟨agreed.traced.event move, ?_⟩
    cases move with
    | start declaration world free entered path =>
      exact agree_update agreed.agree (fun other thread found => steady thread (List.mem_of_getElem? found))
    | step index env thread op answer rest world act =>
      exact agree_update agreed.agree (fun other rival found => agreed.agree other index rival thread found act.found)
    | cut index thread found running =>
      exact agree_update agreed.agree (fun other rival there => agreed.agree other index rival thread there found)
  refine ⟨agreed.once, (declared_books (fun _ => 0) run.reaches).2.conserved, fun row shown => ?_⟩
  obtain ⟨entry, inside, rfl⟩ := List.mem_map.mp shown
  obtain ⟨index, thread, recipient, verified, caller, of, _⟩ := agreed.traced.sourced entry (List.mem_of_mem_filter inside)
  exact ⟨thread, List.mem_of_getElem? caller, recipient, verified, of.paid, of.credit, of.coin⟩

/-- One transaction that pays 50 SUI and 10 USDC to the deposit address of every user. -/
def sampleChain : Chain where
  find digest := if digest = "digest" then some ("testnet", .transaction none (some "0xsender")
    [⟨"0xdeposit", "0x2::sui::SUI", 50⟩, ⟨"0xdeposit", "0xa::usdc::USDC", 10⟩]) else none
  base58 digest found here := by
    split at here
    next same =>
      subst same
      decide
    · cases here

def both : List String := ["0x2::sui::SUI", "0xa::usdc::USDC"]

/-- The same declaration twice while both coins are accepted: the second fails on the unique index. -/
def declaredTwice : List (Event Env Declaration) :=
  .start ⟨both, 1, "testnet", "digest"⟩ :: List.replicate 16 (.step 0 calm) ++
  .start ⟨both, 1, "testnet", "digest"⟩ :: List.replicate 10 (.step 1 calm)

theorem credited_once_sample : ∃ system, (declarations sampleChain sampleConfig).Run
      (Steady sampleChain sampleConfig) opening system ∧
    system.world.view.deposits.length = 2 ∧ system.world.view.balance 1 "testnet" = 120 ∧
    (system.world.view.deposits.map (BillingDeposit.credit sampleConfig)).Nodup := by
  obtain ⟨system, run, rows, balance⟩ : ∃ system, (declarations sampleChain sampleConfig).Run
        (Steady sampleChain sampleConfig) opening system ∧
      system.world.view.deposits.length = 2 ∧ system.world.view.balance 1 "testnet" = 120 :=
    Machine.exists_run declaredTwice (by decide +kernel)
  exact ⟨system, run, rows, balance, (credited_once sampleChain sampleConfig run).1⟩

/-- The operator drops USDC from the list before the transaction is declared again. -/
def declaredAcrossRestart : List (Event Env Declaration) :=
  .start ⟨both, 1, "testnet", "digest"⟩ :: List.replicate 16 (.step 0 calm) ++
  .start ⟨["0x2::sui::SUI"], 1, "testnet", "digest"⟩ :: List.replicate 11 (.step 1 calm)

/-- The SUI of one transaction is credited twice. -/
theorem credited_twice : ∃ system, (declarations sampleChain sampleConfig).Reaches opening system ∧
    system.world.view.balance 1 "testnet" = 220 ∧
    ¬(system.world.view.deposits.map (BillingDeposit.credit sampleConfig)).Nodup := by
  apply Machine.exists_reaches declaredAcrossRestart
  decide +kernel

end MpcKit.Billing
