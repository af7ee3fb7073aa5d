import Mathlib.Algebra.BigOperators.Group.List.Basic
import Mathlib.Data.List.Dedup
import MpcKit.Async.Table
import MpcKit.Billing.Sweep

/-! Coin objects on the chain, one page of a listing of them, and the transactions that merge and transfer
them. Gas is paid by the gas owner and is left out of these balances. -/

namespace MpcKit.Sweep
open MpcKit.Backend MpcKit.Async

structure Coin where
  objectId : ObjectId
  owner : String
  coinType : String
  balance : Nat
  deriving DecidableEq, Repr

/-- The coins of one network. -/
abbrev Coins := Table Coin.objectId

namespace Coins

/-- The coins of a type at an address, in the order a listing has them. -/
def heldOf (coins : Coins) (owner coinType : String) : List Coin :=
  coins.rows.filter (fun coin => coin.owner = owner ∧ coin.coinType = coinType)

def total (coins : Coins) (owner coinType : String) : Nat := ((coins.heldOf owner coinType).map Coin.balance).sum

/-- The types of the coins at an address, in the order a listing has them. -/
def typesAt (coins : Coins) (owner : String) : List String :=
  ((coins.rows.filter (fun coin => coin.owner = owner)).map Coin.coinType).dedup

end Coins

/-- A coin of the sender that a transaction names. -/
def Coin.Named (sender : String) (objects : List ObjectId) (coin : Coin) : Prop :=
  coin.owner = sender ∧ coin.objectId ∈ objects

instance (sender : String) (objects : List ObjectId) : DecidablePred (Coin.Named sender objects) :=
  fun _ => inferInstanceAs (Decidable (_ ∧ _))

def Coin.add (amount : Nat) : Table.Change Coin.objectId where
  set coin := { coin with balance := coin.balance + amount }
  keeps _ := rfl

def Coin.toOwner (owner : String) : Table.Change Coin.objectId where
  set coin := { coin with owner := owner }
  keeps _ := rfl

namespace Coins

def worth (coins : Coins) (sender : String) (objects : List ObjectId) : Nat :=
  ((coins.rows.filter (fun coin => coin.Named sender objects)).map Coin.balance).sum

/-- The objects that are merged into another one are gone. -/
def without (coins : Coins) (sender : String) (objects : List ObjectId) : Coins where
  rows := coins.rows.filter (fun coin => ¬coin.Named sender objects)
  distinct := coins.distinct.sublist (List.filter_sublist.map Coin.objectId)

end Coins

def Command.run (sender : String) (coins : Coins) : Command → Coins
  | .mergeCoins destination sources =>
    (coins.without sender sources).update
      ((Coin.add (coins.worth sender sources)).guard (fun coin => coin.Named sender [destination]))
  | .transferObjects objects address =>
    coins.update ((Coin.toOwner address).guard (fun coin => coin.Named sender objects))

/-- The objects a command names. -/
def Command.inputs : Command → List ObjectId
  | .mergeCoins destination sources => destination :: sources
  | .transferObjects objects _ => objects

def Coins.run (sender : String) (coins : Coins) (commands : List Command) : Coins :=
  commands.foldl (Command.run sender) coins

/-- A transaction whose inputs are not the sender's coins does not execute. -/
def Coins.execute (coins : Coins) (tx : Transaction) : Option Coins :=
  if ∀ command ∈ tx.commands, ∀ id ∈ command.inputs, ∃ coin ∈ coins.rows, coin.objectId = id ∧ coin.owner = tx.sender
  then some (coins.run tx.sender tx.commands) else none

/-! ### Sums -/

theorem sum_filter {ρ : Type} (rows : List ρ) (test : ρ → Bool) (value : ρ → Nat) :
    ((rows.filter test).map value).sum = (rows.map (fun row => if test row then value row else 0)).sum := by
  induction rows with
  | nil => rfl
  | cons row rows ih =>
    rw [List.filter_cons, List.map_cons, List.sum_cons, ← ih]
    split
    · rw [List.map_cons, List.sum_cons]
    · rw [Nat.zero_add]

/-- A sum with one summand. -/
theorem sum_single {rows : List Coin} (distinct : (rows.map Coin.objectId).Nodup) {own : Coin} (member : own ∈ rows)
    (amount : Nat) : (rows.map (fun coin => if coin.objectId = own.objectId then amount else 0)).sum = amount := by
  induction rows with
  | nil => cases member
  | cons coin rows ih =>
    obtain ⟨absent, distinct⟩ := List.nodup_cons.mp distinct
    rw [List.map_cons, List.sum_cons]
    rcases List.mem_cons.mp member with rfl | later
    · have others : rows.map (fun coin => if coin.objectId = own.objectId then amount else 0) = rows.map (fun _ => 0) := by
        apply List.map_congr_left
        intro coin there
        rw [if_neg]
        intro same
        exact absent (same ▸ List.mem_map_of_mem there)
      rw [if_pos rfl, others]
      simp
    · rw [ih distinct later, if_neg, Nat.zero_add]
      intro same
      exact absent (same ▸ List.mem_map_of_mem later)

theorem coin_of_id {coins : Coins} {one other : Coin} (first : one ∈ coins.rows) (second : other ∈ coins.rows)
    (same : one.objectId = other.objectId) : one = other :=
  List.inj_on_of_nodup_map coins.distinct first second same

/-- The ids of the first rows select these and leave the others. -/
theorem filter_take {rows : List Coin} (distinct : (rows.map Coin.objectId).Nodup) (count : Nat) :
    rows.filter (fun coin => coin.objectId ∈ (rows.take count).map Coin.objectId) = rows.take count ∧
      rows.filter (fun coin => coin.objectId ∉ (rows.take count).map Coin.objectId) = rows.drop count := by
  have split := List.take_append_drop count rows
  rw [← split, List.map_append, List.nodup_append] at distinct
  obtain ⟨_, _, apart⟩ := distinct
  have early : ∀ coin ∈ rows.take count, coin.objectId ∈ (rows.take count).map Coin.objectId :=
    fun coin member => List.mem_map_of_mem member
  have late : ∀ coin ∈ rows.drop count, coin.objectId ∉ (rows.take count).map Coin.objectId :=
    fun coin member there => apart _ there _ (List.mem_map_of_mem member) rfl
  generalize (rows.take count).map Coin.objectId = ids at early late
  rw [← split, List.filter_append, List.filter_append, split]
  constructor
  · rw [List.filter_eq_self.mpr (fun coin member => decide_eq_true (early coin member)),
      List.filter_eq_nil_iff.mpr (fun coin member => by simpa using late coin member), List.append_nil]
  · rw [List.filter_eq_nil_iff.mpr (fun coin member => by simpa using early coin member),
      List.filter_eq_self.mpr (fun coin member => decide_eq_true (late coin member)), List.nil_append]

/-! ### One coin type -/

/-- Merge the listed coins into the first one and hand it over; nothing for an empty listing. -/
def handOver (dest : String) : List ObjectId → List Command
  | [] => []
  | [head] => [.transferObjects [head] dest]
  | head :: rest => [.mergeCoins head rest, .transferObjects [head] dest]

/-- The rows after the listed coins were merged and handed over. -/
theorem rows_handOver (coins : Coins) (sender dest : String) (head : ObjectId) (rest : List ObjectId) :
    (coins.run sender (handOver dest (head :: rest))).rows =
      (coins.rows.filter (fun coin => ¬coin.Named sender rest)).map (fun coin => if coin.Named sender [head] then
        { coin with balance := coin.balance + coins.worth sender rest, owner := dest } else coin) := by
  cases rest with
  | nil =>
    simp [handOver, Coins.run, Command.run, Table.update, Coins.worth, Table.Change.guard, Coin.toOwner, Coin.Named]
  | cons second rest =>
    simp only [handOver, Coins.run, List.foldl_cons, List.foldl_nil, Command.run, Table.update, Coins.without,
      Table.Change.guard, Coin.toOwner, Coin.add, List.map_map]
    apply List.map_congr_left
    intro coin _
    by_cases own : coin.Named sender [head]
    · obtain ⟨mine, first⟩ := own
      simp [Coin.Named, mine, List.mem_singleton.mp first]
    · simp [own]

section HandOver

variable {coins : Coins} {sender dest : String} {ids : List ObjectId}

/-- What the sender keeps. -/
theorem heldOf_handOver (apart : dest ≠ sender) (ids : List ObjectId) (coinType : String) :
    (coins.run sender (handOver dest ids)).heldOf sender coinType =
      (coins.heldOf sender coinType).filter (fun coin => coin.objectId ∉ ids) := by
  cases ids with
  | nil => simp [handOver, Coins.run]
  | cons head rest =>
    rw [Coins.heldOf, rows_handOver, List.filter_map, Coins.heldOf, List.filter_filter, List.filter_filter]
    have tests : ∀ coin ∈ coins.rows,
        ((((fun coin : Coin => decide (coin.owner = sender ∧ coin.coinType = coinType)) ∘ fun coin : Coin =>
          if coin.Named sender [head] then
            { coin with balance := coin.balance + coins.worth sender rest, owner := dest } else coin) coin) &&
          decide ¬coin.Named sender rest) =
        (decide (coin.objectId ∉ head :: rest) && decide (coin.owner = sender ∧ coin.coinType = coinType)) := by
      intro coin _
      by_cases own : coin.owner = sender
      · by_cases first : coin.objectId = head
        · simp [own, first, Coin.Named, apart]
        · simp [own, first, Coin.Named, Bool.and_comm]
      · simp [own, Coin.Named]
    rw [List.filter_congr tests]
    conv_rhs => rw [← List.map_id (coins.rows.filter _)]
    apply List.map_congr_left
    intro coin member
    have kept := (List.mem_filter.mp member).2
    simp only [List.mem_cons, not_or, Bool.and_eq_true, decide_eq_true_eq] at kept
    rw [if_neg (fun named => kept.1.1 (List.mem_singleton.mp named.2))]
    rfl

theorem worth_cons {head : Coin} {rest : List ObjectId} (there : head ∈ coins.rows) (own : head.owner = sender)
    (distinct : head.objectId ∉ rest) :
    coins.worth sender (head.objectId :: rest) = head.balance + coins.worth sender rest := by
  simp only [Coins.worth, sum_filter, decide_eq_true_eq]
  rw [← sum_single coins.distinct there head.balance, ← List.sum_map_add]
  congr 1
  apply List.map_congr_left
  intro coin member
  by_cases same : coin.objectId = head.objectId
  · obtain rfl := coin_of_id member there same
    simp [Coin.Named, distinct, own]
  · have iff : coin.Named sender (head.objectId :: rest) ↔ coin.Named sender rest := by simp [Coin.Named, same]
    simp only [iff, same, if_false, Nat.zero_add]

/-- The recipient gets what the listed coins of the type were worth. -/
theorem total_handOver (apart : dest ≠ sender) {listed : String} (once : ids.Nodup)
    (there : ∀ id ∈ ids, ∃ coin ∈ coins.rows, coin.objectId = id ∧ coin.owner = sender ∧ coin.coinType = listed)
    (coinType : String) :
    (coins.run sender (handOver dest ids)).total dest coinType =
      coins.total dest coinType + if coinType = listed then coins.worth sender ids else 0 := by
  cases ids with
  | nil => simp [handOver, Coins.run, Coins.worth, Coin.Named]
  | cons head rest =>
    obtain ⟨distinct, _⟩ := List.nodup_cons.mp once
    obtain ⟨own, inside, rfl, mine, typed⟩ := there _ List.mem_cons_self
    rw [worth_cons inside mine distinct]
    simp only [Coins.total, Coins.heldOf, rows_handOver, sum_filter, List.map_map]
    rw [← sum_single coins.distinct inside (if coinType = listed then own.balance + coins.worth sender rest else 0),
      ← List.sum_map_add]
    congr 1
    apply List.map_congr_left
    intro coin member
    simp only [Function.comp_apply, decide_eq_true_eq]
    by_cases same : coin.objectId = own.objectId
    · obtain rfl := coin_of_id member inside same
      have foreign : ¬coin.owner = dest := fun equal => apart (equal.symm.trans mine)
      have kept : ¬coin.Named sender rest := fun named => distinct named.2
      have merged : coin.Named sender [coin.objectId] := ⟨mine, List.mem_singleton_self _⟩
      simp [kept, merged, foreign, typed, eq_comm]
    · have other : ¬coin.Named sender [own.objectId] := fun named => same (List.mem_singleton.mp named.2)
      by_cases named : coin.Named sender rest
      · have foreign : ¬coin.owner = dest := fun equal => apart (equal.symm.trans named.1)
        simp [named, foreign, same]
      · simp [named, other, same]

/-! ### All of them -/

/-- The first page of the listing of one type. -/
def Coins.page (coins : Coins) (size : Nat) (owner coinType : String) : List ObjectId :=
  ((coins.heldOf owner coinType).take size).map Coin.objectId

theorem distinct_heldOf (coins : Coins) (owner coinType : String) :
    ((coins.heldOf owner coinType).map Coin.objectId).Nodup :=
  coins.distinct.sublist (List.filter_sublist.map Coin.objectId)

theorem nodup_page (coins : Coins) (size : Nat) (owner coinType : String) : (coins.page size owner coinType).Nodup :=
  (distinct_heldOf coins owner coinType).sublist ((List.take_sublist _ _).map Coin.objectId)

theorem coin_of_page {size : Nat} {owner coinType : String} {id : ObjectId} (listed : id ∈ coins.page size owner coinType) :
    ∃ coin ∈ coins.rows, coin.objectId = id ∧ coin.owner = owner ∧ coin.coinType = coinType := by
  obtain ⟨coin, member, same⟩ := List.mem_map.mp listed
  obtain ⟨there, own⟩ := List.mem_filter.mp (List.mem_of_mem_take member)
  exact ⟨coin, there, same, of_decide_eq_true own⟩

theorem worth_page (coins : Coins) (size : Nat) (sender coinType : String) :
    coins.worth sender (coins.page size sender coinType) =
      (((coins.heldOf sender coinType).take size).map Coin.balance).sum := by
  have tests : ∀ coin ∈ coins.rows, decide (coin.Named sender (coins.page size sender coinType)) =
      (decide (coin.objectId ∈ coins.page size sender coinType) &&
        decide (coin.owner = sender ∧ coin.coinType = coinType)) := by
    intro coin member
    rw [← Bool.decide_and, decide_eq_decide]
    constructor
    · rintro ⟨_, listed⟩
      obtain ⟨other, there, same, own⟩ := coin_of_page listed
      exact ⟨listed, coin_of_id there member same ▸ own⟩
    · rintro ⟨listed, own, _⟩
      exact ⟨own, listed⟩
  rw [Coins.worth, List.filter_congr tests, ← List.filter_filter]
  exact congrArg (fun rows => (rows.map Coin.balance).sum) (filter_take (distinct_heldOf coins sender coinType) size).1

/-- Handing over a page of one type leaves the others alone, wherever it goes. -/
theorem heldOf_other (size : Nat) {listed coinType : String} (other : coinType ≠ listed) :
    (coins.run sender (handOver dest (coins.page size sender listed))).heldOf sender coinType =
      coins.heldOf sender coinType := by
  have typed : ∀ id ∈ coins.page size sender listed, ∀ coin ∈ coins.rows, coin.objectId = id → coin.coinType = listed := by
    intro id member coin there same
    obtain ⟨known, inside, equal, _, typed⟩ := coin_of_page member
    exact coin_of_id there inside (same.trans equal.symm) ▸ typed
  cases ids : coins.page size sender listed with
  | nil => rfl
  | cons head rest =>
    rw [ids] at typed
    rw [Coins.heldOf, rows_handOver, List.filter_map, Coins.heldOf, List.filter_filter]
    have tests : ∀ coin ∈ coins.rows,
        ((((fun coin : Coin => decide (coin.owner = sender ∧ coin.coinType = coinType)) ∘ fun coin : Coin =>
          if coin.Named sender [head] then
            { coin with balance := coin.balance + coins.worth sender rest, owner := dest } else coin) coin) &&
          decide ¬coin.Named sender rest) = decide (coin.owner = sender ∧ coin.coinType = coinType) := by
      intro coin member
      by_cases same : coin.coinType = coinType
      · have unnamed : coin.objectId ∉ head :: rest :=
          fun there => other (same.symm.trans (typed _ there coin member rfl))
        obtain ⟨notHead, notRest⟩ := not_or.mp (List.mem_cons.not.mp unnamed)
        simp [Coin.Named, notHead, notRest, same]
      · by_cases named : coin.Named sender [head] <;> simp [named, same]
    rw [List.filter_congr tests]
    conv_rhs => rw [← List.map_id (coins.rows.filter _)]
    apply List.map_congr_left
    intro coin member
    obtain ⟨there, own⟩ := List.mem_filter.mp member
    have unnamed : ¬coin.Named sender [head] := by
      intro named
      have first := typed head List.mem_cons_self coin there (List.mem_singleton.mp named.2)
      exact other ((of_decide_eq_true own).2.symm.trans first)
    rw [if_neg unnamed]
    rfl

/-- Handing over one page of a type leaves the coins behind it, and all others. -/
theorem heldOf_page (apart : dest ≠ sender) (size : Nat) (listed coinType : String) :
    (coins.run sender (handOver dest (coins.page size sender listed))).heldOf sender coinType =
      if coinType = listed then (coins.heldOf sender coinType).drop size else coins.heldOf sender coinType := by
  by_cases same : coinType = listed
  · rw [if_pos same, same, heldOf_handOver apart]
    exact (filter_take (distinct_heldOf coins sender listed) size).2
  · rw [if_neg same, heldOf_other size same]

/-- Merged coins stay where they are handed over to. -/
theorem heldOf_self (size : Nat) (listed : String) {coinType : String} (some : coins.heldOf sender coinType ≠ []) :
    (coins.run sender (handOver sender (coins.page size sender listed))).heldOf sender coinType ≠ [] := by
  by_cases same : coinType = listed
  · subst same
    cases ids : coins.page size sender coinType with
    | nil => exact some
    | cons head rest =>
      have once := nodup_page coins size sender coinType
      rw [ids] at once
      obtain ⟨own, inside, rfl, mine, typed⟩ := coin_of_page (ids ▸ List.mem_cons_self : head ∈ coins.page size sender coinType)
      have merged : own.Named sender [own.objectId] := ⟨mine, List.mem_singleton_self _⟩
      have kept : own ∈ coins.rows.filter (fun coin => ¬coin.Named sender rest) :=
        List.mem_filter.mpr ⟨inside, decide_eq_true fun named => (List.nodup_cons.mp once).1 named.2⟩
      have there : { own with balance := own.balance + coins.worth sender rest, owner := sender } ∈
          (coins.run sender (handOver sender (own.objectId :: rest))).rows := by
        rw [rows_handOver]
        exact List.mem_map.mpr ⟨own, kept, by rw [if_pos merged]⟩
      exact List.ne_nil_of_mem (List.mem_filter.mpr ⟨there, decide_eq_true ⟨rfl, typed⟩⟩)
  · rw [heldOf_other size same]
    exact some

/-- The commands of a sweep of these types. -/
def Coins.sweep (coins : Coins) (size : Nat) (sender dest : String) (types : List String) : List Command :=
  types.flatMap (fun coinType => handOver dest (coins.page size sender coinType))

theorem run_append (commands more : List Command) :
    coins.run sender (commands ++ more) = (coins.run sender commands).run sender more := List.foldl_append

/-- What is listed of the later types does not change while the first one is handed over. -/
theorem sweep_cons (size : Nat) {listed : String} {types : List String} (absent : listed ∉ types) :
    coins.run sender (coins.sweep size sender dest (listed :: types)) =
      (coins.run sender (handOver dest (coins.page size sender listed))).run sender
        ((coins.run sender (handOver dest (coins.page size sender listed))).sweep size sender dest types) := by
  have later : coins.sweep size sender dest types =
      (coins.run sender (handOver dest (coins.page size sender listed))).sweep size sender dest types := by
    apply List.flatMap_congr
    intro other member
    have kept : other ≠ listed := fun same => absent (same ▸ member)
    have same := @heldOf_other coins sender dest size listed other kept
    simp only [Coins.page] at same ⊢
    rw [same]
  rw [Coins.sweep, List.flatMap_cons, run_append, ← Coins.sweep, later]

/-- Every type of a sweep loses its first page to the recipient. -/
theorem run_sweep (apart : dest ≠ sender) (size : Nat) {types : List String} (once : types.Nodup) (coinType : String) :
    (coins.run sender (coins.sweep size sender dest types)).heldOf sender coinType =
        (if coinType ∈ types then (coins.heldOf sender coinType).drop size else coins.heldOf sender coinType) ∧
      (coins.run sender (coins.sweep size sender dest types)).total dest coinType = coins.total dest coinType +
        if coinType ∈ types then (((coins.heldOf sender coinType).take size).map Coin.balance).sum else 0 := by
  induction types generalizing coins with
  | nil => simp [Coins.sweep, Coins.run]
  | cons listed types ih =>
    obtain ⟨absent, once⟩ := List.nodup_cons.mp once
    have received := total_handOver apart (nodup_page coins size sender listed) (fun id => coin_of_page) coinType
    obtain ⟨held, gained⟩ := @ih (coins.run sender (handOver dest (coins.page size sender listed))) once
    rw [sweep_cons size absent, held, gained, heldOf_page apart, received, worth_page]
    by_cases same : coinType = listed
    · simp [same, absent]
    · simp [same]

theorem run_sweep_self (size : Nat) {types : List String} (once : types.Nodup) {coinType : String}
    (some : coins.heldOf sender coinType ≠ []) :
    (coins.run sender (coins.sweep size sender sender types)).heldOf sender coinType ≠ [] := by
  induction types generalizing coins with
  | nil => exact some
  | cons listed types ih =>
    obtain ⟨absent, once⟩ := List.nodup_cons.mp once
    rw [sweep_cons size absent]
    exact ih once (heldOf_self size listed some)

end HandOver

end MpcKit.Sweep
