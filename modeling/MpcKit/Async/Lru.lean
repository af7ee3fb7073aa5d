import Mathlib

/-! A cache with room for `max` entries, most recently used first. -/

namespace MpcKit.Async

structure Lru (κ ν : Type) (max : Nat) where
  entries : List (κ × ν)
  distinct : (entries.map Prod.fst).Nodup
  bounded : entries.length ≤ max

namespace Lru

variable {κ ν : Type} {max : Nat}

def empty : Lru κ ν max := ⟨[], List.nodup_nil, Nat.zero_le _⟩

/-- Every entry meets `holds`. -/
def All (holds : κ → ν → Prop) (cache : Lru κ ν max) : Prop := ∀ entry ∈ cache.entries, holds entry.1 entry.2

theorem all_empty {holds : κ → ν → Prop} : (empty : Lru κ ν max).All holds :=
  fun _ member => absurd member List.not_mem_nil

variable [DecidableEq κ]

/-- The entries under other keys. -/
def others (cache : Lru κ ν max) (key : κ) : List (κ × ν) := cache.entries.filter (fun entry => entry.1 ≠ key)

theorem nodup_others (cache : Lru κ ν max) (key : κ) (value : ν) :
    (((key, value) :: cache.others key).map Prod.fst).Nodup := by
  rw [List.map_cons, List.nodup_cons]
  constructor
  · intro member
    obtain ⟨entry, kept, same⟩ := List.mem_map.mp member
    exact of_decide_eq_true (List.mem_filter.mp kept).2 same
  · exact cache.distinct.sublist (List.filter_sublist.map Prod.fst)

/-- The entry becomes the most recent one; the least recent ones give way. -/
def set (cache : Lru κ ν max) (key : κ) (value : ν) : Lru κ ν max where
  entries := ((key, value) :: cache.others key).take max
  distinct := (cache.nodup_others key value).sublist ((List.take_sublist _ _).map Prod.fst)
  bounded := List.length_take_le _ _

/-- A hit makes the entry the most recent one. -/
def get (cache : Lru κ ν max) (key : κ) : Option ν × Lru κ ν max :=
  match cache.entries.find? (fun entry => entry.1 = key) with
  | some entry => (some entry.2, cache.set key entry.2)
  | none => (none, cache)

variable {holds : κ → ν → Prop} {cache : Lru κ ν max} {key : κ}

theorem All.set {value : ν} (all : cache.All holds) (meets : holds key value) : (cache.set key value).All holds := by
  intro entry member
  rcases List.mem_cons.mp (List.mem_of_mem_take member) with rfl | kept
  · exact meets
  · exact all entry (List.mem_of_mem_filter kept)

theorem All.find {entry : κ × ν} (all : cache.All holds)
    (found : cache.entries.find? (fun entry => entry.1 = key) = some entry) : holds key entry.2 := by
  have matched := List.find?_some found
  have same : entry.1 = key := of_decide_eq_true matched
  have meets := all entry (List.mem_of_find?_eq_some found)
  rwa [same] at meets

theorem All.hit {value : ν} (all : cache.All holds) (found : (cache.get key).1 = some value) : holds key value := by
  unfold Lru.get at found
  split at found
  next entry here =>
    cases found
    exact all.find here
  next => cases found

theorem All.get (all : cache.All holds) : (cache.get key).2.All holds := by
  unfold Lru.get
  split
  next entry here => exact all.set (all.find here)
  next => exact all

end Lru
end MpcKit.Async
