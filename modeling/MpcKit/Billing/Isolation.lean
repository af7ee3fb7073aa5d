import Mathlib.Data.List.Nodup
import MpcKit.Billing.Contract

/-! Isolation of the billing transactions: the open rows and locks in the store are exactly
the ones the running calls have written, so that a commit adds the call's posting to the
committed view and nothing else ever changes a balance or a row. -/

namespace MpcKit.Billing
open MpcKit.Backend MpcKit.Async

/-! ### Rows of open transactions -/

namespace Versioned

variable {ρ : Type} (index : Nat) (rows : List (Versioned ρ))

theorem committed_append (row : ρ) (writer : Nat) :
    committed (rows ++ [⟨row, some writer⟩]) = committed rows := by
  simp [committed]

theorem pending_append (row : ρ) (writer : Nat) :
    pending index (rows ++ [⟨row, some writer⟩]) =
      pending index rows ++ if writer = index then [row] else [] := by
  by_cases same : writer = index <;> simp [pending, same]

theorem committed_discard : committed (discard index rows) = committed rows := by
  simp only [committed, discard, List.filter_filter]
  congr 1
  apply List.filter_congr
  intro entry _
  cases entry.writer <;> simp

theorem pending_discard (other : Nat) :
    pending other (discard index rows) = if other = index then [] else pending other rows := by
  simp only [pending, discard, List.filter_filter]
  by_cases same : other = index
  · subst same
    simp
  · rw [if_neg same]
    congr 1
    apply List.filter_congr
    intro entry _
    by_cases own : entry.writer = some other
    · simp [own, same]
    · simp [own]

theorem committed_settle : committed (settle index rows) = committed rows ++ pending index rows := by
  have settled : committed ((pending index rows).map (fun row => (⟨row, none⟩ : Versioned ρ))) = pending index rows := by
    simp [committed, List.filter_map, Function.comp_def]
  have split : ∀ first second : List (Versioned ρ), committed (first ++ second) = committed first ++ committed second := by
    simp [committed]
  rw [settle, split, committed_discard, settled]

theorem pending_settle (other : Nat) :
    pending other (settle index rows) = if other = index then [] else pending other rows := by
  have settled : pending other ((pending index rows).map (fun row => (⟨row, none⟩ : Versioned ρ))) = [] := by
    simp [pending, List.filter_map, Function.comp_def]
  have split : ∀ first second : List (Versioned ρ),
      pending other (first ++ second) = pending other first ++ pending other second := by
    simp [pending]
  rw [settle, split, pending_discard, settled, List.append_nil]

/-- Committing rewrites writers and the order, never the rows. -/
theorem rows_settle : List.Perm ((settle index rows).map row) (rows.map row) := by
  have parts := (List.filter_append_perm (fun entry : Versioned ρ => entry.writer ≠ some index) rows).map row
  have own : pending index rows = (rows.filter (fun entry => !decide (entry.writer ≠ some index))).map row := by
    simp [pending]
  simpa [settle, discard, own, Function.comp_def] using parts

variable {index rows}

/-- A visible row is committed or the reader's own. -/
theorem mem_visible {row : ρ} : row ∈ visible index rows ↔ row ∈ committed rows ∨ row ∈ pending index rows := by
  simp only [visible, committed, pending, List.mem_map, List.mem_filter, decide_eq_true_eq]
  constructor
  · rintro ⟨entry, ⟨inside, shown | own⟩, rfl⟩
    · exact .inl ⟨entry, ⟨inside, shown⟩, rfl⟩
    · exact .inr ⟨entry, ⟨inside, own⟩, rfl⟩
  · rintro (⟨entry, ⟨inside, shown⟩, rfl⟩ | ⟨entry, ⟨inside, own⟩, rfl⟩)
    · exact ⟨entry, ⟨inside, .inl shown⟩, rfl⟩
    · exact ⟨entry, ⟨inside, .inr own⟩, rfl⟩

theorem visible_of_unwritten (unwritten : pending index rows = []) : visible index rows = committed rows := by
  simp only [pending, List.map_eq_nil_iff, List.filter_eq_nil_iff, decide_eq_true_eq] at unwritten
  simp only [visible, committed, Visible]
  congr 1
  apply List.filter_congr
  intro entry member
  simp [unwritten entry member]

theorem row_of_settle {entry : Versioned ρ} (member : entry ∈ settle index rows) :
    ∃ other ∈ rows, other.row = entry.row := by
  rcases List.mem_append.mp member with kept | settled
  · exact ⟨entry, List.mem_of_mem_filter kept, rfl⟩
  · obtain ⟨row, written, rfl⟩ := List.mem_map.mp settled
    obtain ⟨other, inside, same⟩ := List.mem_map.mp written
    exact ⟨other, List.mem_of_mem_filter inside, same⟩

theorem row_of_discard {entry : Versioned ρ} (member : entry ∈ discard index rows) : entry ∈ rows :=
  List.mem_of_mem_filter member

end Versioned

/-! ### What the store and the calls know of each other -/

/-- The unique index of `billing_accounts`, and the one of `billing_charges`. -/
def AccountSlot.owner (slot : AccountSlot) : Uuid × String := (slot.row.userId, slot.row.network)

def BillingCharge.key (row : BillingCharge) : OpKey × ChargeKind := (row.op, row.kind)

def AccountSlot.HeldBy (index : Nat) (slot : AccountSlot) : Prop := ∃ credits, slot.lock = some (index, credits)

def Store.Has (store : Store) (userId : Uuid) (network : String) : Prop :=
  ∃ slot ∈ store.accounts, slot.Is userId network

/-- What an answer tells a call for good. -/
def Knows (store : Store) : Entry Op Res → Prop
  | ⟨.selectAccount userId network, some _⟩ => store.Has userId network
  | ⟨.insertAccount userId network, some _⟩ => store.Has userId network
  | ⟨.selectCredits op .charge, .ok credits⟩ => credits = [] ∨
      ∃ row ∈ Versioned.committed store.charges, row.op = op ∧ row.kind = .charge ∧ credits = [row.creditsMicro]
  | ⟨.selectCredits _ .refund, .ok credits⟩ => 0 ≤ credits.sum
  | _ => True

/-- A row has its account and its sign, and a refund stays within a committed charge. -/
structure Sound (store : Store) (row : BillingCharge) : Prop where
  owned : store.Has row.userId row.network
  debit : row.kind = .charge → row.creditsMicro < 0
  credit : row.kind = .refund → 0 < row.creditsMicro ∧ ∃ charged ∈ Versioned.committed store.charges,
    charged.op = row.op ∧ charged.kind = .charge ∧ row.creditsMicro ≤ -charged.creditsMicro

/-- `past index` is what call number `index` has done. -/
structure Linked (store : Store) (past : Nat → Past) : Prop where
  /-- Uncommitted rows are the ones their writer has in its open transaction. -/
  charges : ∀ index, Versioned.pending index store.charges = (posting (past index)).charges
  deposits : ∀ index, Versioned.pending index store.deposits = (posting (past index)).deposits
  /-- A lock holder's balance is the committed one plus its own increments. -/
  balance : ∀ slot ∈ store.accounts, ∀ holder credits, slot.lock = some (holder, credits) →
    credits = slot.row.creditsMicro + total (posting (past holder)).credits slot.row.userId slot.row.network
  credited : ∀ index, ∀ credit ∈ (posting (past index)).credits, ∃ slot ∈ store.accounts,
    slot.Is credit.userId credit.network ∧ slot.HeldBy index
  shown : ∀ index, ∀ read ∈ locked (past index), ∃ slot ∈ store.accounts,
    slot.Is read.userId read.network ∧ slot.HeldBy index ∧ slot.row.creditsMicro = read.delta
  knows : ∀ index, ∀ entry ∈ past index, Knows store entry
  accounts : (store.accounts.map AccountSlot.owner).Nodup
  keys : (store.charges.map (fun entry => entry.row.key)).Nodup
  sound : ∀ entry ∈ store.charges, Sound store entry.row
  owned : ∀ entry ∈ store.deposits, store.Has entry.row.userId entry.row.network
  solvent : ∀ slot ∈ store.accounts, 0 ≤ slot.row.creditsMicro

/-- Nothing a call relies on is taken away. -/
structure Store.Grows (store after : Store) : Prop where
  has : ∀ userId network, store.Has userId network → after.Has userId network
  committed : ∀ row ∈ Versioned.committed store.charges, row ∈ Versioned.committed after.charges

theorem Knows.mono {store after : Store} {entry : Entry Op Res} (grows : store.Grows after)
    (knows : Knows store entry) : Knows after entry := by
  unfold Knows at knows ⊢
  split at knows
  · exact grows.has _ _ knows
  · exact grows.has _ _ knows
  · rcases knows with none | ⟨row, member, same⟩
    · exact .inl none
    · exact .inr ⟨row, grows.committed row member, same⟩
  · exact knows
  next absent => trivial

theorem Sound.mono {store after : Store} {row : BillingCharge} (grows : store.Grows after)
    (sound : Sound store row) : Sound after row where
  owned := grows.has _ _ sound.owned
  debit := sound.debit
  credit kind := by
    obtain ⟨positive, charged, member, bound⟩ := sound.credit kind
    exact ⟨positive, charged, grows.committed charged member, bound⟩

theorem has_of_findSlot {store : Store} {userId : Uuid} {network : String} {slot : AccountSlot}
    (found : store.findSlot userId network = some slot) : slot ∈ store.accounts ∧ slot.Is userId network := by
  refine ⟨List.mem_of_find?_eq_some found, ?_⟩
  simpa using List.find?_some found

theorem not_has_of_findSlot {store : Store} {userId : Uuid} {network : String}
    (missing : store.findSlot userId network = none) : ¬store.Has userId network := by
  rintro ⟨slot, member, same⟩
  have absent := List.find?_eq_none.mp missing slot member
  simp [same] at absent

/-! ### One statement keeps the link -/

namespace Linked

variable {store : Store} {past : Nat → Past}

theorem unique (linked : Linked store past) {userId : Uuid} {network : String} {first second : AccountSlot}
    (one : first ∈ store.accounts) (other : second ∈ store.accounts) (own : first.Is userId network)
    (same : second.Is userId network) : first = second := by
  apply List.inj_on_of_nodup_map linked.accounts one other
  simp only [AccountSlot.owner, own.1, own.2, same.1, same.2]

/-- A statement that leaves the store and the open writes as they are. -/
theorem observe (linked : Linked store past) {index : Nat} {entry : Entry Op Res}
    (written : posting (entry :: past index) = posting (past index))
    (reads : ∀ read ∈ locked (entry :: past index), read ∈ locked (past index))
    (known : Knows store entry) : Linked store (Function.update past index (entry :: past index)) := by
  have postings : ∀ other, posting (Function.update past index (entry :: past index) other) = posting (past other) := by
    intro other
    by_cases same : other = index
    · subst same
      rw [Function.update_self, written]
    · rw [Function.update_of_ne same]
  have locks : ∀ other, ∀ read ∈ locked (Function.update past index (entry :: past index) other),
      read ∈ locked (past other) := by
    intro other
    by_cases same : other = index
    · subst same
      rwa [Function.update_self]
    · rw [Function.update_of_ne same]
      exact fun _ => id
  refine { linked with charges := ?_, deposits := ?_, balance := ?_, credited := ?_, shown := ?_, knows := ?_ }
  · exact fun other => by rw [postings]; exact linked.charges other
  · exact fun other => by rw [postings]; exact linked.deposits other
  · intro slot member holder credits held
    rw [postings]
    exact linked.balance slot member holder credits held
  · intro other
    rw [postings]
    exact linked.credited other
  · intro other read member
    exact linked.shown other read (locks other read member)
  · intro other
    by_cases same : other = index
    · subst same
      rw [Function.update_self]
      rintro told (_ | ⟨_, earlier⟩)
      · exact known
      · exact linked.knows other told earlier
    · rw [Function.update_of_ne same]
      exact linked.knows other

theorem insertAccount (linked : Linked store past) {userId : Uuid} {network : String}
    (missing : store.findSlot userId network = none) (fresh next : Uuid) :
    Linked { store with accounts := store.accounts ++ [⟨⟨fresh, userId, network, 0, none⟩, none⟩], nextId := next } past := by
  have kept : ∀ slot ∈ store.accounts, slot ∈ store.accounts ++ [⟨⟨fresh, userId, network, 0, none⟩, none⟩] :=
    fun slot member => List.mem_append_left _ member
  have grows : store.Grows { store with
      accounts := store.accounts ++ [⟨⟨fresh, userId, network, 0, none⟩, none⟩], nextId := next } := by
    refine ⟨?_, fun _ => id⟩
    rintro userId network ⟨slot, member, same⟩
    exact ⟨slot, kept slot member, same⟩
  refine ⟨linked.charges, linked.deposits, ?_, ?_, ?_, ?_, ?_, linked.keys, ?_, ?_, ?_⟩
  · intro slot member holder credits held
    rcases List.mem_append.mp member with old | new
    · exact linked.balance slot old holder credits held
    · rw [List.mem_singleton.mp new] at held
      cases held
  · intro index credit member
    obtain ⟨slot, inside, own⟩ := linked.credited index credit member
    exact ⟨slot, kept slot inside, own⟩
  · intro index read member
    obtain ⟨slot, inside, own⟩ := linked.shown index read member
    exact ⟨slot, kept slot inside, own⟩
  · exact fun index entry member => (linked.knows index entry member).mono grows
  · rw [List.map_append, List.nodup_append]
    refine ⟨linked.accounts, by simp, ?_⟩
    rintro owner old other new rfl
    obtain ⟨slot, member, same⟩ := List.mem_map.mp old
    simp only [List.map_cons, List.map_nil, List.mem_singleton, AccountSlot.owner] at new same
    rw [new, Prod.mk.injEq] at same
    exact not_has_of_findSlot missing ⟨slot, member, same⟩
  · exact fun entry member => (linked.sound entry member).mono grows
  · exact fun entry member => grows.has _ _ (linked.owned entry member)
  · intro slot member
    rcases List.mem_append.mp member with old | new
    · exact linked.solvent slot old
    · rw [List.mem_singleton.mp new]

/-- Any change that keeps what identifies an account and what is committed, with the rest
accounted for by the new histories. -/
theorem rebuild (linked : Linked store past) {change : AccountSlot → AccountSlot} {after : Nat → Past}
    {charges : List (Versioned BillingCharge)} {deposits : List (Versioned BillingDeposit)} {next : Uuid}
    (owner : ∀ slot, (change slot).owner = slot.owner)
    (committed : ∀ row ∈ Versioned.committed store.charges, row ∈ Versioned.committed charges)
    (writtenCharges : ∀ index, Versioned.pending index charges = (posting (after index)).charges)
    (writtenDeposits : ∀ index, Versioned.pending index deposits = (posting (after index)).deposits)
    (balance : ∀ slot ∈ store.accounts, ∀ holder credits, (change slot).lock = some (holder, credits) → credits =
      (change slot).row.creditsMicro + total (posting (after holder)).credits slot.row.userId slot.row.network)
    (credited : ∀ index, ∀ credit ∈ (posting (after index)).credits, ∃ slot ∈ store.accounts,
      slot.Is credit.userId credit.network ∧ (change slot).HeldBy index)
    (shown : ∀ index, ∀ read ∈ locked (after index), ∃ slot ∈ store.accounts,
      slot.Is read.userId read.network ∧ (change slot).HeldBy index ∧ (change slot).row.creditsMicro = read.delta)
    (knows : ∀ index, ∀ entry ∈ after index, Knows store entry)
    (keys : (charges.map (fun entry => entry.row.key)).Nodup)
    (sound : ∀ entry ∈ charges, Sound store entry.row)
    (owned : ∀ entry ∈ deposits, store.Has entry.row.userId entry.row.network)
    (solvent : ∀ slot ∈ store.accounts, 0 ≤ (change slot).row.creditsMicro) :
    Linked ⟨store.accounts.map change, charges, deposits, next⟩ after := by
  have identity : ∀ slot, (change slot).row.userId = slot.row.userId ∧ (change slot).row.network = slot.row.network := by
    intro slot
    exact Prod.mk.inj (owner slot)
  have same : ∀ {userId network slot}, slot.Is userId network → (change slot).Is userId network := by
    intro userId network slot own
    exact ⟨(identity slot).1.trans own.1, (identity slot).2.trans own.2⟩
  have grows : store.Grows ⟨store.accounts.map change, charges, deposits, next⟩ := by
    refine ⟨?_, committed⟩
    rintro userId network ⟨slot, member, own⟩
    exact ⟨change slot, List.mem_map_of_mem member, same own⟩
  refine ⟨writtenCharges, writtenDeposits, ?_, ?_, ?_, ?_, ?_, keys, ?_, ?_, ?_⟩
  · intro slot member holder credits held
    obtain ⟨old, inside, rfl⟩ := List.mem_map.mp member
    rw [(identity old).1, (identity old).2]
    exact balance old inside holder credits held
  · intro index credit member
    obtain ⟨slot, inside, own, held⟩ := credited index credit member
    exact ⟨change slot, List.mem_map_of_mem inside, same own, held⟩
  · intro index read member
    obtain ⟨slot, inside, own, held⟩ := shown index read member
    exact ⟨change slot, List.mem_map_of_mem inside, same own, held⟩
  · exact fun index entry member => (knows index entry member).mono grows
  · have owners : (store.accounts.map change).map AccountSlot.owner = store.accounts.map AccountSlot.owner := by
      rw [List.map_map]
      exact List.map_congr_left (fun slot _ => owner slot)
    rw [owners]
    exact linked.accounts
  · exact fun entry member => (sound entry member).mono grows
  · exact fun entry member => grows.has _ _ (owned entry member)
  · intro slot member
    obtain ⟨old, inside, rfl⟩ := List.mem_map.mp member
    exact solvent old inside

theorem setDepositAddress (linked : Linked store past) (id : Uuid) (address : String) :
    Linked { store with accounts := store.accounts.map (fun slot => if slot.row.id = id
      then { slot with row := { slot.row with depositAddress := some address } } else slot) } past := by
  have same : ∀ slot : AccountSlot, (if slot.row.id = id
      then { slot with row := { slot.row with depositAddress := some address } } else slot).lock = slot.lock ∧
      (if slot.row.id = id then { slot with row := { slot.row with depositAddress := some address } }
        else slot).row.creditsMicro = slot.row.creditsMicro := by
    intro slot
    split <;> exact ⟨rfl, rfl⟩
  refine linked.rebuild ?_ (fun _ member => member) linked.charges linked.deposits ?_ ?_ ?_ linked.knows linked.keys
    linked.sound linked.owned ?_
  · intro slot
    dsimp only
    split <;> rfl
  · intro slot member holder credits held
    rw [(same slot).1] at held
    rw [(same slot).2]
    exact linked.balance slot member holder credits held
  · intro index credit member
    obtain ⟨slot, inside, own, credits, held⟩ := linked.credited index credit member
    exact ⟨slot, inside, own, credits, (same slot).1.trans held⟩
  · intro index read member
    obtain ⟨slot, inside, own, ⟨credits, held⟩, seen⟩ := linked.shown index read member
    exact ⟨slot, inside, own, ⟨credits, (same slot).1.trans held⟩, (same slot).2.trans seen⟩
  · intro slot member
    rw [(same slot).2]
    exact linked.solvent slot member

/-- Whoever may lock an account sees the committed balance plus its own increments. -/
theorem current (linked : Linked store past) {index : Nat} {slot : AccountSlot} (member : slot ∈ store.accounts)
    (free : slot.Free index) : slot.current =
      slot.row.creditsMicro + total (posting (past index)).credits slot.row.userId slot.row.network := by
  cases held : slot.lock with
  | some holding =>
    obtain ⟨holder, credits⟩ := holding
    have own : holder = index := free (holder, credits) held
    subst own
    simp only [AccountSlot.current, held, Option.map_some, Option.getD_some]
    exact linked.balance slot member holder credits held
  | none =>
    have untouched : total (posting (past index)).credits slot.row.userId slot.row.network = 0 := by
      apply total_eq_zero
      intro credit inside same
      obtain ⟨other, there, own, credits, locked⟩ := linked.credited index credit inside
      rw [linked.unique there member own ⟨same.1.symm, same.2.symm⟩, held] at locked
      cases locked
    simp [AccountSlot.current, held, untouched]

theorem knows_update (linked : Linked store past) {index : Nat} {history : Past}
    (knows : ∀ entry ∈ history, Knows store entry) :
    ∀ other, ∀ entry ∈ Function.update past index history other, Knows store entry := by
  intro other
  by_cases same : other = index
  · subst same
    rw [Function.update_self]
    exact knows
  · rw [Function.update_of_ne same]
    exact linked.knows other

/-- Only the rows change, so every lock is still explained. -/
theorem rebuildRows (linked : Linked store past) {index : Nat} {history : Past}
    {charges : List (Versioned BillingCharge)} {deposits : List (Versioned BillingDeposit)} {next : Uuid}
    (committed : ∀ row ∈ Versioned.committed store.charges, row ∈ Versioned.committed charges)
    (writtenCharges : ∀ other, Versioned.pending other charges =
      (posting (Function.update past index history other)).charges)
    (writtenDeposits : ∀ other, Versioned.pending other deposits =
      (posting (Function.update past index history other)).deposits)
    (credits : (posting history).credits = (posting (past index)).credits)
    (reads : locked history = locked (past index))
    (knows : ∀ entry ∈ history, Knows store entry)
    (keys : (charges.map (fun entry => entry.row.key)).Nodup)
    (sound : ∀ entry ∈ charges, Sound store entry.row)
    (owned : ∀ entry ∈ deposits, store.Has entry.row.userId entry.row.network) :
    Linked ⟨store.accounts, charges, deposits, next⟩ (Function.update past index history) := by
  have same : ∀ other, (posting (Function.update past index history other)).credits = (posting (past other)).credits ∧
      locked (Function.update past index history other) = locked (past other) := by
    intro other
    by_cases acting : other = index
    · rw [acting, Function.update_self]
      exact ⟨credits, reads⟩
    · rw [Function.update_of_ne acting]
      exact ⟨rfl, rfl⟩
  rw [← List.map_id store.accounts]
  refine linked.rebuild (fun _ => rfl) committed writtenCharges writtenDeposits ?_ ?_ ?_
    (linked.knows_update knows) keys sound owned linked.solvent
  · intro slot member holder balance held
    rw [(same holder).1]
    exact linked.balance slot member holder balance held
  · intro other
    rw [(same other).1]
    exact linked.credited other
  · intro other
    rw [(same other).2]
    exact linked.shown other

/-- A lock that is taken or kept, with the holder's balance moved by `delta`. -/
theorem lock (linked : Linked store past) {index : Nat} {userId : Uuid} {network : String} {delta : Int}
    {slot : AccountSlot} {history : Past} (found : store.findSlot userId network = some slot) (free : slot.Free index)
    (charges : (posting history).charges = (posting (past index)).charges)
    (deposits : (posting history).deposits = (posting (past index)).deposits)
    (credits : ∀ user net, total (posting history).credits user net = total (posting (past index)).credits user net +
      if userId = user ∧ network = net then delta else 0)
    (members : ∀ credit ∈ (posting history).credits, credit ∈ (posting (past index)).credits ∨
      credit.userId = userId ∧ credit.network = network)
    (reads : ∀ read ∈ locked history, read ∈ locked (past index) ∨ read = ⟨userId, network, slot.row.creditsMicro⟩)
    (knows : ∀ entry ∈ history, Knows store entry) :
    Linked { store with accounts := store.accounts.map (fun other =>
      if other.Is userId network then other.take index delta else other) } (Function.update past index history) := by
  obtain ⟨member, own⟩ := has_of_findSlot found
  -- The found slot is the only one that changes, and only its lock does.
  have row : ∀ other : AccountSlot, (if other.Is userId network then other.take index delta else other).row = other.row := by
    intro other
    split <;> rfl
  have taken : ∀ other : AccountSlot, other.Is userId network →
      (if other.Is userId network then other.take index delta else other).HeldBy index := by
    intro other same
    rw [if_pos same]
    exact ⟨_, rfl⟩
  have holds : ∀ other ∈ store.accounts, ∀ holder, other.HeldBy holder →
      (if other.Is userId network then other.take index delta else other).HeldBy holder := by
    intro other inside holder held
    by_cases same : other.Is userId network
    · obtain ⟨credits, locked⟩ := held
      rw [linked.unique inside member same own] at locked
      have holding : holder = index := free (holder, credits) locked
      rw [holding]
      exact taken other same
    · rw [if_neg same]
      exact held
  refine linked.rebuild ?_ (fun _ member => member) ?_ ?_ ?_ ?_ ?_ (linked.knows_update knows) linked.keys
    linked.sound linked.owned ?_
  · intro other
    simp only [AccountSlot.owner, row]
  · intro other
    rw [linked.charges]
    by_cases same : other = index
    · rw [same, Function.update_self, charges]
    · rw [Function.update_of_ne same]
  · intro other
    rw [linked.deposits]
    by_cases same : other = index
    · rw [same, Function.update_self, deposits]
    · rw [Function.update_of_ne same]
  · intro other inside holder balance held
    rw [row]
    by_cases same : other.Is userId network
    · rw [if_pos same] at held
      obtain ⟨rfl, rfl⟩ := Prod.mk.inj (Option.some.inj held)
      have current := linked.current inside (linked.unique member inside own same ▸ free)
      rw [Function.update_self, credits, if_pos ⟨same.1.symm, same.2.symm⟩, current]
      omega
    · rw [if_neg same] at held
      have before := linked.balance other inside holder balance held
      by_cases acting : holder = index
      · subst acting
        have elsewhere : ¬(userId = other.row.userId ∧ network = other.row.network) :=
          fun both => same ⟨both.1.symm, both.2.symm⟩
        rw [Function.update_self, credits, if_neg elsewhere]
        omega
      · rw [Function.update_of_ne acting]
        exact before
  · intro other credit written
    by_cases acting : other = index
    · subst acting
      rw [Function.update_self] at written
      rcases members credit written with old | new
      · obtain ⟨kept, inside, same, held⟩ := linked.credited other credit old
        exact ⟨kept, inside, same, holds kept inside other held⟩
      · refine ⟨slot, member, ?_, taken slot own⟩
        rw [new.1, new.2]
        exact own
    · rw [Function.update_of_ne acting] at written
      obtain ⟨kept, inside, same, held⟩ := linked.credited other credit written
      exact ⟨kept, inside, same, holds kept inside other held⟩
  · intro other read seen
    by_cases acting : other = index
    · subst acting
      rw [Function.update_self] at seen
      rcases reads read seen with old | rfl
      · obtain ⟨kept, inside, same, held, amount⟩ := linked.shown other read old
        exact ⟨kept, inside, same, holds kept inside other held, (row kept).symm ▸ amount⟩
      · exact ⟨slot, member, own, taken slot own, by rw [row]⟩
    · rw [Function.update_of_ne acting] at seen
      obtain ⟨kept, inside, same, held, amount⟩ := linked.shown other read seen
      exact ⟨kept, inside, same, holds kept inside other held, (row kept).symm ▸ amount⟩
  · intro other inside
    rw [row]
    exact linked.solvent other inside

/-- What a successful insert under a unique index did. -/
theorem insertUnique_ok {ρ κ : Type} [DecidableEq κ] {key : ρ → κ} {index : Nat} {row : ρ}
    {rows inserted : List (Versioned ρ)} (done : insertUnique key index row rows = some (.ok inserted)) :
    inserted = rows ++ [⟨row, some index⟩] ∧ ∀ entry ∈ rows, key entry.row ≠ key row := by
  unfold insertUnique at done
  split at done
  next absent =>
    cases done
    refine ⟨rfl, fun entry member same => ?_⟩
    have missing := List.find?_eq_none.mp absent entry member
    simp [same] at missing
  next other _ =>
    split at done
    · cases done
    · split at done <;> cases done

theorem pending_written {ρ : Type} {index : Nat} {history : Past} {rows : List (Versioned ρ)} {row : ρ}
    (write : Posting → List ρ) (before : ∀ other, Versioned.pending other rows = write (posting (past other)))
    (written : write (posting history) = write (posting (past index)) ++ [row]) (other : Nat) :
    Versioned.pending other (rows ++ [⟨row, some index⟩]) = write (posting (Function.update past index history other)) := by
  rw [Versioned.pending_append, before]
  by_cases acting : other = index
  · rw [acting, Function.update_self, written, if_pos rfl]
  · rw [Function.update_of_ne acting, if_neg (fun same => acting same.symm), List.append_nil]

theorem pending_kept {ρ : Type} {index : Nat} {history : Past} {rows : List (Versioned ρ)}
    (write : Posting → List ρ) (before : ∀ other, Versioned.pending other rows = write (posting (past other)))
    (same : write (posting history) = write (posting (past index))) (other : Nat) :
    Versioned.pending other rows = write (posting (Function.update past index history other)) := by
  rw [before]
  by_cases acting : other = index
  · rw [acting, Function.update_self, same]
  · rw [Function.update_of_ne acting]

theorem insertCharge (linked : Linked store past) {index : Nat} {history : Past} {row : BillingCharge} {next : Uuid}
    (fresh : ∀ entry ∈ store.charges, entry.row.key ≠ row.key) (sound : Sound store row)
    (written : posting history = (posting (past index)).addCharge row) (reads : locked history = locked (past index))
    (knows : ∀ entry ∈ history, Knows store entry) :
    Linked ⟨store.accounts, store.charges ++ [⟨row, some index⟩], store.deposits, next⟩
      (Function.update past index history) := by
  refine linked.rebuildRows ?_ (pending_written Posting.charges linked.charges ?_)
    (pending_kept Posting.deposits linked.deposits ?_) ?_ reads knows ?_ ?_ linked.owned
  · intro other member
    rwa [Versioned.committed_append]
  · rw [written]
    rfl
  · rw [written]
    rfl
  · rw [written]
    rfl
  · rw [List.map_append, List.nodup_append]
    refine ⟨linked.keys, by simp, ?_⟩
    rintro key old other new rfl
    obtain ⟨entry, member, same⟩ := List.mem_map.mp old
    rw [List.map_singleton, List.mem_singleton] at new
    exact fresh entry member (same.trans new)
  · intro entry member
    rcases List.mem_append.mp member with old | new
    · exact linked.sound entry old
    · rw [List.mem_singleton.mp new]
      exact sound

theorem insertDeposit (linked : Linked store past) {index : Nat} {history : Past} {row : BillingDeposit} {next : Uuid}
    (owned : store.Has row.userId row.network)
    (written : posting history = (posting (past index)).addDeposit row) (reads : locked history = locked (past index))
    (knows : ∀ entry ∈ history, Knows store entry) :
    Linked ⟨store.accounts, store.charges, store.deposits ++ [⟨row, some index⟩], next⟩
      (Function.update past index history) := by
  refine linked.rebuildRows (fun _ member => member) (pending_kept Posting.charges linked.charges ?_)
    (pending_written Posting.deposits linked.deposits ?_) ?_ reads knows linked.keys linked.sound ?_
  · rw [written]
    rfl
  · rw [written]
    rfl
  · rw [written]
    rfl
  · intro entry member
    rcases List.mem_append.mp member with old | new
    · exact linked.owned entry old
    · rw [List.mem_singleton.mp new]
      exact owned

/-- Nothing of an ended transaction is left open. -/
structure Closed (history : Past) : Prop where
  written : posting history = .empty
  reads : locked history = []

theorem others (linked : Linked store past) {index : Nat} {history : Past} (closed : Closed history)
    (change : AccountSlot → AccountSlot) (kept : ∀ slot other, slot.HeldBy other → other ≠ index → change slot = slot) :
    (∀ other, ∀ credit ∈ (posting (Function.update past index history other)).credits, ∃ slot ∈ store.accounts,
      slot.Is credit.userId credit.network ∧ (change slot).HeldBy other) ∧
    ∀ other, ∀ read ∈ locked (Function.update past index history other), ∃ slot ∈ store.accounts,
      slot.Is read.userId read.network ∧ (change slot).HeldBy other ∧ (change slot).row.creditsMicro = read.delta := by
  refine ⟨fun other credit written => ?_, fun other read seen => ?_⟩
  · by_cases acting : other = index
    · rw [acting, Function.update_self, closed.written] at written
      cases written
    · rw [Function.update_of_ne acting] at written
      obtain ⟨slot, inside, own, held⟩ := linked.credited other credit written
      refine ⟨slot, inside, own, ?_⟩
      rwa [kept slot other held acting]
  · by_cases acting : other = index
    · rw [acting, Function.update_self, closed.reads] at seen
      cases seen
    · rw [Function.update_of_ne acting] at seen
      obtain ⟨slot, inside, own, held, amount⟩ := linked.shown other read seen
      refine ⟨slot, inside, own, ?_⟩
      rw [kept slot other held acting]
      exact ⟨held, amount⟩

theorem pending_ended {ρ : Type} {index : Nat} {history : Past} {rows ended : List (Versioned ρ)}
    (write : Posting → List ρ) (before : ∀ other, Versioned.pending other rows = write (posting (past other)))
    (none : write (posting history) = [])
    (left : ∀ other, Versioned.pending other ended = if other = index then [] else Versioned.pending other rows)
    (other : Nat) : Versioned.pending other ended = write (posting (Function.update past index history other)) := by
  rw [left]
  by_cases acting : other = index
  · rw [acting, Function.update_self, none, if_pos rfl]
  · rw [Function.update_of_ne acting, if_neg acting, before]

theorem rollback (linked : Linked store past) {index : Nat} {history : Past} (closed : Closed history)
    (knows : ∀ entry ∈ history, Knows store entry) :
    Linked (store.rollback index) (Function.update past index history) := by
  have kept : ∀ slot other, slot.HeldBy other → other ≠ index → AccountSlot.discard index slot = slot := by
    rintro slot other ⟨credits, held⟩ apart
    simp [AccountSlot.discard, held, apart]
  have row : ∀ slot, (AccountSlot.discard index slot).row = slot.row := by
    intro slot
    unfold AccountSlot.discard
    split
    · split <;> rfl
    · rfl
  obtain ⟨credited, shown⟩ := linked.others closed (AccountSlot.discard index) kept
  refine linked.rebuild ?_ ?_
    (pending_ended Posting.charges linked.charges (by rw [closed.written]; rfl) (Versioned.pending_discard index _))
    (pending_ended Posting.deposits linked.deposits (by rw [closed.written]; rfl) (Versioned.pending_discard index _))
    ?_ credited shown (linked.knows_update knows) ?_ ?_ ?_ ?_
  · intro slot
    simp only [AccountSlot.owner, row]
  · intro other member
    rwa [Versioned.committed_discard]
  · intro slot member holder credits held
    have free : holder ≠ index ∧ slot.lock = some (holder, credits) := by
      unfold AccountSlot.discard at held
      split at held
      next other balance before =>
        split at held
        · cases held
        next apart =>
          rw [before] at held ⊢
          cases held
          exact ⟨apart, rfl⟩
      next before =>
        rw [before] at held
        cases held
    rw [row, Function.update_of_ne free.1]
    exact linked.balance slot member holder credits free.2
  · exact linked.keys.sublist (List.filter_sublist.map _)
  · exact fun entry member => linked.sound entry (Versioned.row_of_discard member)
  · exact fun entry member => linked.owned entry (Versioned.row_of_discard member)
  · intro slot member
    rw [row]
    exact linked.solvent slot member

/-- A committed account row: the old balance plus the call's increments, or untouched. -/
theorem settled (linked : Linked store past) (index : Nat) {slot : AccountSlot} (member : slot ∈ store.accounts) :
    (AccountSlot.settle index slot).row = { slot.row with
      creditsMicro := slot.row.creditsMicro + total (posting (past index)).credits slot.row.userId slot.row.network } := by
  by_cases own : slot.HeldBy index
  · obtain ⟨credits, held⟩ := own
    simp [AccountSlot.settle, held, linked.balance slot member index credits held]
  · have untouched : total (posting (past index)).credits slot.row.userId slot.row.network = 0 := by
      apply total_eq_zero
      intro credit inside same
      obtain ⟨other, there, mine, held⟩ := linked.credited index credit inside
      rw [linked.unique there member mine ⟨same.1.symm, same.2.symm⟩] at held
      exact own held
    have unchanged : AccountSlot.settle index slot = slot := by
      unfold AccountSlot.settle
      split
      next holder credits held =>
        split
        next same => exact absurd ⟨credits, same ▸ held⟩ own
        · rfl
      · rfl
    rw [unchanged, untouched, Int.add_zero]

theorem commit (linked : Linked store past) {index : Nat} {history : Past} (funded : Funded (past index))
    (closed : Closed history) (knows : ∀ entry ∈ history, Knows store entry) :
    Linked (store.commit index) (Function.update past index history) := by
  have kept : ∀ slot other, slot.HeldBy other → other ≠ index → AccountSlot.settle index slot = slot := by
    rintro slot other ⟨credits, held⟩ apart
    simp [AccountSlot.settle, held, apart]
  obtain ⟨credited, shown⟩ := linked.others closed (AccountSlot.settle index) kept
  refine linked.rebuild ?_ ?_
    (pending_ended Posting.charges linked.charges (by rw [closed.written]; rfl) (Versioned.pending_settle index _))
    (pending_ended Posting.deposits linked.deposits (by rw [closed.written]; rfl) (Versioned.pending_settle index _))
    ?_ credited shown (linked.knows_update knows) ?_ ?_ ?_ ?_
  · intro slot
    unfold AccountSlot.settle
    split
    · split <;> rfl
    · rfl
  · intro row member
    rw [Versioned.committed_settle]
    exact List.mem_append_left _ member
  · intro slot member holder credits held
    have free : holder ≠ index ∧ slot.lock = some (holder, credits) := by
      unfold AccountSlot.settle at held
      split at held
      next other balance before =>
        split at held
        · cases held
        next apart =>
          rw [before] at held ⊢
          cases held
          exact ⟨apart, rfl⟩
      next before =>
        rw [before] at held
        cases held
    rw [kept slot holder ⟨credits, free.2⟩ free.1, Function.update_of_ne free.1]
    exact linked.balance slot member holder credits free.2
  · have rows := (Versioned.rows_settle index store.charges).map BillingCharge.key
    rw [List.map_map, List.map_map] at rows
    exact rows.nodup_iff.mpr linked.keys
  · intro entry member
    obtain ⟨other, inside, same⟩ := Versioned.row_of_settle member
    exact same ▸ linked.sound other inside
  · intro entry member
    obtain ⟨other, inside, same⟩ := Versioned.row_of_settle member
    exact same ▸ linked.owned other inside
  · intro slot member
    rw [linked.settled index member]
    rcases funded slot.row.userId slot.row.network with raised | ⟨creditsMicro, seen, enough⟩
    · exact Int.add_nonneg (linked.solvent slot member) raised
    · obtain ⟨other, inside, own, _, amount⟩ := linked.shown index _ seen
      rw [linked.unique inside member own ⟨rfl, rfl⟩] at amount
      rw [show slot.row.creditsMicro = creditsMicro from amount]
      exact enough

theorem tells (linked : Linked store past) {index : Nat} {entry : Entry Op Res} (known : Knows store entry) :
    ∀ told ∈ entry :: past index, Knows store told := by
  rintro told (_ | ⟨_, earlier⟩)
  · exact known
  · exact linked.knows index told earlier

theorem has (linked : Linked store past) {index : Nat} {userId : Uuid} {network : String}
    (ensured : Ensured (past index) userId network) : store.Has userId network := by
  rcases ensured with ⟨account, seen⟩ | ⟨account, created⟩
  · exact linked.knows index _ seen
  · exact linked.knows index _ created

/-- A refund row was checked against a charge row that is committed, and refunds only add. -/
theorem sound_of_ready (linked : Linked store past) {index : Nat} {call : Call} {new : NewCharge} {id : Uuid}
    (prepared : ready call (past index) (.insertCharge new)) : Sound store (new.row id) := by
  refine ⟨linked.has prepared.1, fun kind => ?_, fun kind => ?_⟩
  · have checked := prepared.2
    rw [show new.kind = .charge from kind] at checked
    exact checked
  · have checked := prepared.2
    rw [show new.kind = .refund from kind] at checked
    obtain ⟨positive, chargeRows, priorRows, readCharges, readPrior, charged, bound⟩ := checked
    refine ⟨positive, ?_⟩
    have prior : 0 ≤ priorRows.sum := linked.knows index _ readPrior
    rcases linked.knows index _ readCharges with none | ⟨row, member, op, charge, rfl⟩
    · rw [none] at charged
      exact absurd rfl charged
    · refine ⟨row, member, op, charge, ?_⟩
      simp only [List.map_cons, List.map_nil, List.sum_cons, List.sum_nil, Int.add_zero] at bound
      change new.creditsMicro ≤ -row.creditsMicro
      omega

theorem knows_selectCredits (linked : Linked store past) {index : Nat} {op : OpKey} {kind : ChargeKind}
    (unwritten : (posting (past index)).charges = []) :
    Knows store ⟨.selectCredits op kind, .ok (((Versioned.visible index store.charges).filter
      (fun row => row.op = op ∧ row.kind = kind)).map BillingCharge.creditsMicro)⟩ := by
  have visible := Versioned.visible_of_unwritten ((linked.charges index).trans unwritten)
  have nodup : ((Versioned.committed store.charges).map BillingCharge.key).Nodup := by
    have all := linked.keys
    rw [← Function.comp_def BillingCharge.key, ← List.map_map] at all
    exact all.sublist ((List.filter_sublist.map _).map _)
  have member : ∀ row ∈ (Versioned.committed store.charges).filter (fun row => row.op = op ∧ row.kind = kind),
      row ∈ Versioned.committed store.charges ∧ row.op = op ∧ row.kind = kind := by
    intro row inside
    simpa using inside
  rw [visible]
  cases kind with
  | charge =>
    match same : (Versioned.committed store.charges).filter (fun row => row.op = op ∧ row.kind = .charge) with
    | [] => exact .inl (by rw [same]; rfl)
    | [row] =>
      obtain ⟨inside, own, kind⟩ := member row (by rw [same]; simp)
      exact .inr ⟨row, inside, own, kind, by rw [same]; rfl⟩
    | first :: second :: others =>
      obtain ⟨_, own, kind⟩ := member first (by rw [same]; simp)
      obtain ⟨_, again, twice⟩ := member second (by rw [same]; simp)
      have distinct := nodup.sublist ((List.filter_sublist
        (p := fun row => row.op = op ∧ row.kind = .charge)).map BillingCharge.key)
      rw [same] at distinct
      simp [BillingCharge.key, own, kind, again, twice] at distinct
  | refund =>
    apply List.sum_nonneg
    intro amount inside
    obtain ⟨row, kept, rfl⟩ := List.mem_map.mp inside
    obtain ⟨committed, _, kind⟩ := member row kept
    obtain ⟨entry, there, rfl⟩ := List.mem_map.mp committed
    exact ((linked.sound entry (List.mem_of_mem_filter there)).credit kind).1.le

end Linked
end MpcKit.Billing
