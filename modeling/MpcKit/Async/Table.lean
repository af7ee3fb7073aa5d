import Mathlib.Data.List.Nodup

/-! A database table with a primary key. No two rows share a key, so a key lookup and
membership say the same thing, and every statement is described by what it does to lookups. -/

namespace MpcKit.Async

/-- One more row with a new value in a column without repetitions. -/
theorem nodup_append_new {ρ τ : Type} {column : ρ → τ} {rows : List ρ} {row : ρ} (unique : (rows.map column).Nodup)
    (new : ∀ other ∈ rows, column other ≠ column row) : (rows.map column ++ [column row]).Nodup := by
  refine List.nodup_append.mpr ⟨unique, List.nodup_singleton _, ?_⟩
  rintro value there _ single rfl
  obtain ⟨other, member, same⟩ := List.mem_map.mp there
  exact new other member (same.trans (List.mem_singleton.mp single))

/-- Rows selected by a test, when the others are changed to others. -/
theorem filter_map_outside {ρ : Type} {rows : List ρ} {change : ρ → ρ} {test : ρ → Bool}
    (outside : ∀ row ∈ rows, change row = row ∨ test row = false ∧ test (change row) = false) :
    (rows.map change).filter test = rows.filter test := by
  induction rows with
  | nil => rfl
  | cons row rows ih =>
    have rest := ih (fun other member => outside other (List.mem_cons_of_mem _ member))
    rw [List.map_cons]
    rcases outside row List.mem_cons_self with same | ⟨before, after⟩
    · rw [same, List.filter_cons, List.filter_cons, rest]
    · rw [List.filter_cons_of_neg (by simp [after]), List.filter_cons_of_neg (by simp [before]), rest]

structure Table {ρ κ : Type} (key : ρ → κ) where
  rows : List ρ
  distinct : (rows.map key).Nodup

namespace Table

variable {ρ κ : Type} {key : ρ → κ}

def empty (key : ρ → κ) : Table key := ⟨[], by simp⟩

/-- What an `UPDATE` sets in a row; a primary key is never updated. -/
structure Change (key : ρ → κ) where
  set : ρ → ρ
  keeps : ∀ row, key (set row) = key row

instance : CoeFun (Change key) (fun _ => ρ → ρ) := ⟨Change.set⟩

/-- The change of the rows that meet a `WHERE` clause. -/
def Change.guard (change : Change key) (test : ρ → Bool) : Change key where
  set row := if test row then change row else row
  keeps row := by
    split
    · exact change.keeps row
    · rfl

/-- `UPDATE … SET …`. -/
def update (table : Table key) (change : Change key) : Table key where
  rows := table.rows.map change
  distinct := by
    have same : (table.rows.map change).map key = table.rows.map key := by
      rw [List.map_map]
      exact List.map_congr_left (fun row _ => change.keeps row)
    rw [same]
    exact table.distinct

/-- A column the change does not set reads the same after an `UPDATE`. -/
theorem map_update {τ : Type} {column : ρ → τ} {change : Change key} (test : ρ → Bool)
    (keeps : ∀ row, column (change row) = column row) (table : Table key) :
    (table.update (change.guard test)).rows.map column = table.rows.map column := by
  simp only [update, List.map_map]
  apply List.map_congr_left
  intro row _
  simp only [Function.comp_apply, Change.guard]
  split
  · exact keeps row
  · rfl

/-- An `UPDATE` leaves the selected rows alone when it changes none of them, nor makes one. -/
theorem filter_update {table : Table key} {change : Change key} {test : ρ → Bool}
    (outside : ∀ row ∈ table.rows, change row = row ∨ test row = false ∧ test (change row) = false) :
    (table.update change).rows.filter test = table.rows.filter test := filter_map_outside outside

variable [DecidableEq κ]

/-- `SELECT … WHERE key = k`. -/
def get (table : Table key) (k : κ) : Option ρ := table.rows.find? (fun row => key row = k)

/-- `UPDATE … SET … WHERE key = k`. -/
def modify (table : Table key) (k : κ) (change : Change key) : Table key :=
  table.update (change.guard (fun row => key row = k))

/-- `INSERT`; `none` when the key is taken. -/
def insert (table : Table key) (row : ρ) : Option (Table key) :=
  if fresh : ∀ other ∈ table.rows, key other ≠ key row then
    some ⟨table.rows ++ [row], by
      rw [List.map_append, List.nodup_append]
      refine ⟨table.distinct, by simp, ?_⟩
      rintro taken old new same rfl
      obtain ⟨other, member, equal⟩ := List.mem_map.mp old
      rw [List.map_singleton, List.mem_singleton] at same
      exact fresh other member (equal.trans same)⟩
  else none

/-- `DELETE … WHERE key = k`. -/
def delete (table : Table key) (k : κ) : Table key where
  rows := table.rows.filter (fun row => key row ≠ k)
  distinct := table.distinct.sublist (List.filter_sublist.map key)

theorem key_of_get {table : Table key} {k : κ} {row : ρ} (found : table.get k = some row) : key row = k := by
  simpa using List.find?_some found

theorem mem_of_get {table : Table key} {k : κ} {row : ρ} (found : table.get k = some row) : row ∈ table.rows :=
  List.mem_of_find?_eq_some found

theorem get_of_mem {table : Table key} {row : ρ} (member : row ∈ table.rows) : table.get (key row) = some row := by
  cases found : table.get (key row) with
  | none =>
    have absent := List.find?_eq_none.mp found row member
    simp at absent
  | some other =>
    rw [List.inj_on_of_nodup_map table.distinct (mem_of_get found) member (key_of_get found)]

@[simp] theorem get_empty (k : κ) : (empty key).get k = none := rfl

theorem get_update (table : Table key) (change : Change key) (k : κ) :
    (table.update change).get k = (table.get k).map change := by
  simp only [get, update, List.find?_map, Function.comp_def, change.keeps]

theorem get_modify (table : Table key) (k : κ) (change : Change key) (other : κ) :
    (table.modify k change).get other = if other = k then (table.get k).map change else table.get other := by
  rw [modify, get_update]
  by_cases same : other = k
  · subst same
    rw [if_pos rfl]
    cases found : table.get other with
    | none => rfl
    | some row => simp [Change.guard, key_of_get found]
  · rw [if_neg same]
    cases found : table.get other with
    | none => rfl
    | some row => simp [Change.guard, key_of_get found, same]

/-- A row after an `UPDATE` by key is an old row or the changed one. -/
theorem row_of_modify {table : Table key} {k other : κ} {change : Change key} {row : ρ}
    (found : (table.modify k change).get other = some row) :
    table.get other = some row ∨ ∃ old, table.get other = some old ∧ key old = k ∧ row = change old := by
  rw [get_modify] at found
  by_cases same : other = k
  · rw [if_pos same] at found
    obtain ⟨old, before, rfl⟩ := Option.map_eq_some_iff.mp found
    exact .inr ⟨old, same ▸ before, key_of_get before, rfl⟩
  · rw [if_neg same] at found
    exact .inl found

/-- What becomes of a row in an `UPDATE` by key. -/
theorem modify_row {table : Table key} {k other : κ} {change : Change key} {old : ρ}
    (before : table.get other = some old) :
    (table.modify k change).get other = some (if key old = k then change old else old) := by
  rw [get_modify, ← key_of_get before]
  by_cases same : key old = k
  · rw [if_pos same, if_pos same, ← same, key_of_get before, before]
    rfl
  · rw [if_neg same, if_neg same, key_of_get before, before]

/-- The same for an `UPDATE` with any `WHERE` clause. -/
theorem row_of_update {table : Table key} {other : κ} {change : Change key} {test : ρ → Bool} {row : ρ}
    (found : (table.update (change.guard test)).get other = some row) :
    table.get other = some row ∨ ∃ old, table.get other = some old ∧ test old = true ∧ row = change old := by
  rw [get_update] at found
  obtain ⟨old, before, rfl⟩ := Option.map_eq_some_iff.mp found
  by_cases meets : test old = true
  · exact .inr ⟨old, before, meets, by simp [Change.guard, meets]⟩
  · left
    simpa [Change.guard, meets] using before

theorem update_row {table : Table key} {other : κ} {change : Change key} {test : ρ → Bool} {old : ρ}
    (before : table.get other = some old) :
    (table.update (change.guard test)).get other = some (if test old then change old else old) := by
  rw [get_update, before]
  rfl

theorem get_insert {table after : Table key} {row : ρ} (inserted : table.insert row = some after) (k : κ) :
    after.get k = if k = key row then some row else table.get k := by
  unfold insert at inserted
  split at inserted
  next fresh =>
    cases inserted
    by_cases same : k = key row
    · subst same
      have absent : table.rows.find? (fun other => key other = key row) = none := by
        rw [List.find?_eq_none]
        intro other member
        simpa using fresh other member
      simp [get, List.find?_append, absent]
    · have apart : ¬key row = k := fun equal => same equal.symm
      simp [get, List.find?_append, same, apart]
  · cases inserted

theorem get_of_insert {table after : Table key} {row : ρ} (inserted : table.insert row = some after) :
    table.get (key row) = none := by
  unfold insert at inserted
  split at inserted
  next fresh =>
    rw [get, List.find?_eq_none]
    intro other member
    simpa using fresh other member
  · cases inserted

theorem get_of_insert_eq_none {table : Table key} {row : ρ} (refused : table.insert row = none) :
    ∃ other, table.get (key row) = some other := by
  unfold insert at refused
  split at refused
  · cases refused
  next taken =>
    simp only [not_forall, not_not] at taken
    obtain ⟨other, member, same⟩ := taken
    exact ⟨other, same ▸ get_of_mem member⟩

theorem exists_insert {table : Table key} {row : ρ} (fresh : ∀ other ∈ table.rows, key other ≠ key row) :
    ∃ after, table.insert row = some after := by
  cases inserted : table.insert row with
  | some after => exact ⟨after, rfl⟩
  | none =>
    obtain ⟨other, taken⟩ := get_of_insert_eq_none inserted
    exact absurd (key_of_get taken) (fresh other (mem_of_get taken))

theorem rows_insert {table after : Table key} {row : ρ} (inserted : table.insert row = some after) :
    after.rows = table.rows ++ [row] := by
  unfold insert at inserted
  split at inserted
  · cases inserted
    rfl
  · cases inserted

theorem get_delete (table : Table key) (k other : κ) :
    (table.delete k).get other = if other = k then none else table.get other := by
  by_cases same : other = k
  · subst same
    rw [if_pos rfl, get, List.find?_eq_none]
    intro row member
    simpa using (List.mem_filter.mp member).2
  · rw [if_neg same]
    simp only [get, delete, List.find?_filter]
    congr 1
    funext row
    by_cases own : key row = other
    · simp [own, same]
    · simp [own]

/-! ### Rows a statement has nothing to do with -/

theorem filter_modify {table : Table key} {k : κ} {change : Change key} {test : ρ → Bool}
    (outside : ∀ row, table.get k = some row → test row = false ∧ test (change row) = false) :
    (table.modify k change).rows.filter test = table.rows.filter test := by
  apply filter_update
  intro row member
  simp only [Change.guard]
  by_cases same : key row = k
  · rw [if_pos (by simpa using same)]
    subst same
    exact .inr (outside row (get_of_mem member))
  · rw [if_neg (by simpa using same)]
    exact .inl rfl

theorem filter_insert {table after : Table key} {row : ρ} {test : ρ → Bool} (inserted : table.insert row = some after)
    (outside : test row = false) : after.rows.filter test = table.rows.filter test := by
  rw [rows_insert inserted, List.filter_append, List.filter_cons_of_neg (by simp [outside]), List.filter_nil, List.append_nil]

theorem filter_delete {table : Table key} {k : κ} {test : ρ → Bool}
    (outside : ∀ row, table.get k = some row → test row = false) :
    (table.delete k).rows.filter test = table.rows.filter test := by
  simp only [delete, List.filter_filter]
  apply List.filter_congr
  intro row member
  by_cases same : key row = k
  · subst same
    simp [outside row (get_of_mem member)]
  · simp [same]

/-! ### Tables that lose nothing -/

/-- Every row is still there, with what `keeps` compares. -/
def Grew (keeps : ρ → ρ → Prop) (table after : Table key) : Prop :=
  ∀ k row, table.get k = some row → ∃ later, after.get k = some later ∧ keeps row later

theorem Grew.refl {keeps : ρ → ρ → Prop} (same : ∀ row, keeps row row) (table : Table key) : table.Grew keeps table :=
  fun _ row found => ⟨row, found, same row⟩

theorem Grew.trans {keeps : ρ → ρ → Prop} {table middle after : Table key}
    (kept : ∀ first second third, keeps first second → keeps second third → keeps first third)
    (early : table.Grew keeps middle) (late : middle.Grew keeps after) : table.Grew keeps after := by
  intro k row found
  obtain ⟨later, there, one⟩ := early k row found
  obtain ⟨last, here, two⟩ := late k later there
  exact ⟨last, here, kept _ _ _ one two⟩

theorem Grew.insert {keeps : ρ → ρ → Prop} (same : ∀ row, keeps row row) {table after : Table key} {row : ρ}
    (inserted : table.insert row = some after) : table.Grew keeps after := by
  intro k old found
  refine ⟨old, ?_, same old⟩
  rw [get_insert inserted]
  split
  next taken =>
    have absent := get_of_insert inserted
    rw [← taken, found] at absent
    cases absent
  · exact found

theorem Grew.modify {keeps : ρ → ρ → Prop} (same : ∀ row, keeps row row) (table : Table key) (k : κ) {change : Change key}
    (changes : ∀ row, keeps row (change row)) : table.Grew keeps (table.modify k change) := by
  intro other row found
  refine ⟨_, modify_row found, ?_⟩
  split
  · exact changes row
  · exact same row

end Table
end MpcKit.Async
