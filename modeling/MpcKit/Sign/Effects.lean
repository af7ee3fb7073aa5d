import MpcKit.Sign.Service

/-! Everything one statement can do to a row of `sign_requests` or `presigns`, said once. -/

namespace MpcKit.Sign
open MpcKit.Backend MpcKit.Async

/-! ### Sign requests -/

/-- An `UPDATE` of one sign request and the row before and after it. -/
inductive SignChange (env : Env) : SignOp → SignRequest → SignRequest → Prop where
  | presign (row : SignRequest) (presignId : Uuid) :
      SignChange env (.setPresign row.id presignId) row (SignRequest.toPresign env.now presignId row)
  | queued (row : SignRequest) (signature session : String) :
      SignChange env (.setQueued row.id signature session) row (SignRequest.toQueued env.now signature session row)
  | submitted (row : SignRequest) (digest : String) :
      SignChange env (.setSubmitted row.id digest) row (SignRequest.toSubmitted env.now digest row)
  | session (row : SignRequest) (session : String) :
      SignChange env (.setSession row.id session) row (SignRequest.toSession env.now session row)
  | completed (row : SignRequest) (signature : String) :
      SignChange env (.setCompleted row.id signature) row (SignRequest.toCompleted env.now signature row)
  | failed (row : SignRequest) (code message : String) :
      SignChange env (.setFailed row.id code message) row (SignRequest.toFailed env.now code message row)

/-- Where a row comes from: it was there, it was just inserted under a free key, or it was updated. -/
theorem SignOp.row_exec {env : Env} {table : SignTable} {op : SignOp} {id : Uuid} {row : SignRequest}
    (found : (op.exec env table).2.get id = some row) :
    table.get id = some row ∨
    (∃ new, op = .insert new ∧ id = new.id ∧ row = new.row env.now ∧ table.get id = none ∧
      ∀ other ∈ table.rows, ¬other.HasKey new.userId new.network new.idempotencyKey) ∨
    ∃ old, table.get id = some old ∧ SignChange env op old row := by
  cases op with
  | selectByKey userId network key => exact .inl found
  | selectOwned other userId network => exact .inl found
  | select other => exact .inl found
  | selectStuck cutoff => exact .inl found
  | insert new =>
    simp only [SignOp.exec] at found
    split at found
    · exact .inl found
    next unused =>
      split at found
      next inserted done =>
        rw [Table.get_insert done] at found
        split at found
        next same =>
          cases found
          have free := Table.get_of_insert done
          refine .inr (.inl ⟨new, rfl, same, rfl, ?_, ?_⟩)
          · rw [same]
            exact free
          · simpa using unused
        · exact .inl found
      · exact .inl found
  | delete target =>
    simp only [SignOp.exec, Table.get_delete] at found
    split at found
    · cases found
    · exact .inl found
  | setPresign target presignId =>
    rcases Table.row_of_modify found with kept | ⟨old, before, rfl, rfl⟩
    · exact .inl kept
    · exact .inr (.inr ⟨old, before, .presign old presignId⟩)
  | setQueued target signature session =>
    rcases Table.row_of_modify found with kept | ⟨old, before, rfl, rfl⟩
    · exact .inl kept
    · exact .inr (.inr ⟨old, before, .queued old signature session⟩)
  | setSubmitted target digest =>
    rcases Table.row_of_modify found with kept | ⟨old, before, rfl, rfl⟩
    · exact .inl kept
    · exact .inr (.inr ⟨old, before, .submitted old digest⟩)
  | setSession target session =>
    rcases Table.row_of_modify found with kept | ⟨old, before, rfl, rfl⟩
    · exact .inl kept
    · exact .inr (.inr ⟨old, before, .session old session⟩)
  | setCompleted target signature =>
    rcases Table.row_of_modify found with kept | ⟨old, before, rfl, rfl⟩
    · exact .inl kept
    · exact .inr (.inr ⟨old, before, .completed old signature⟩)
  | setFailed target code message =>
    rcases Table.row_of_modify found with kept | ⟨old, before, rfl, rfl⟩
    · exact .inl kept
    · exact .inr (.inr ⟨old, before, .failed old code message⟩)

/-- What becomes of a row: it stays, it is updated, or its `DELETE` takes it away. -/
theorem SignOp.exec_row {env : Env} {table : SignTable} {op : SignOp} {id : Uuid} {old : SignRequest}
    (before : table.get id = some old) :
    op = .delete id ∨ ∃ row, (op.exec env table).2.get id = some row ∧ (row = old ∨ SignChange env op old row) := by
  have updated : ∀ (target : Uuid) (change : SignRequest.Change) (done : old.id = target → SignChange env op old (change old)),
      ∃ row, (table.modify target change).get id = some row ∧ (row = old ∨ SignChange env op old row) := by
    intro target change done
    refine ⟨_, Table.modify_row before, ?_⟩
    split
    next same => exact .inr (done same)
    · exact .inl rfl
  cases op with
  | selectByKey userId network key => exact .inr ⟨old, before, .inl rfl⟩
  | selectOwned other userId network => exact .inr ⟨old, before, .inl rfl⟩
  | select other => exact .inr ⟨old, before, .inl rfl⟩
  | selectStuck cutoff => exact .inr ⟨old, before, .inl rfl⟩
  | insert new =>
    right
    simp only [SignOp.exec]
    split
    · exact ⟨old, before, .inl rfl⟩
    · split
      next inserted done =>
        have free := Table.get_of_insert done
        refine ⟨old, ?_, .inl rfl⟩
        rw [Table.get_insert done, if_neg]
        · exact before
        · rintro rfl
          rw [free] at before
          cases before
      · exact ⟨old, before, .inl rfl⟩
  | delete target =>
    by_cases same : id = target
    · exact .inl (by rw [same])
    · refine .inr ⟨old, ?_, .inl rfl⟩
      simp only [SignOp.exec, Table.get_delete, if_neg same]
      exact before
  | setPresign target presignId => exact .inr (updated target (SignRequest.toPresign env.now presignId) (by rintro rfl; exact .presign old presignId))
  | setQueued target signature session => exact .inr (updated target (SignRequest.toQueued env.now signature session) (by rintro rfl; exact .queued old signature session))
  | setSubmitted target digest => exact .inr (updated target (SignRequest.toSubmitted env.now digest) (by rintro rfl; exact .submitted old digest))
  | setSession target session => exact .inr (updated target (SignRequest.toSession env.now session) (by rintro rfl; exact .session old session))
  | setCompleted target signature => exact .inr (updated target (SignRequest.toCompleted env.now signature) (by rintro rfl; exact .completed old signature))
  | setFailed target code message => exact .inr (updated target (SignRequest.toFailed env.now code message) (by rintro rfl; exact .failed old code message))

/-! ### Presigns -/

/-- A statement that touches a presign row and the row before and after it. -/
inductive PresignChange (env : Env) : PresignOp → Presign → Presign → Prop where
  | claim (row : Presign) (args : AllocateArgs) (ready : row.Matches args) :
      PresignChange env (.claim args) row (Presign.toAllocated env.now args.signRequestId row)
  | consumedPending (row : Presign) :
      PresignChange env (.markConsumedPending row.id) row (Presign.toConsumedPending env.now row)
  | used (row : Presign) : PresignChange env (.markUsed row.id) row (Presign.toUsed env.now row)
  | rollback (row : Presign) : PresignChange env (.rollbackToReady row.id) row (Presign.toReady env.now row)
  | promote (row : Presign) : PresignChange env (.promote row.id) row (Presign.toPromoted env.now row)
  | quarantine (row : Presign) : PresignChange env (.quarantine row.suiObjectId) row (Presign.toFailed env.now row)
  | touch (row : Presign) : PresignChange env (.touch row.id) row (Presign.toTouched env.now row)
  | rescue (row : Presign) (cutoff : Int) (expired : row.Expired .allocated cutoff) :
      PresignChange env (.rescueExpired cutoff) row (Presign.toReady env.now row)
  | park (row : Presign) (cutoff : Int) (expired : row.Expired .consumedPending cutoff) :
      PresignChange env (.parkExpired cutoff) row (Presign.toFailed env.now row)

theorem oldest_mem {rows : List Presign} {row : Presign} (found : oldest rows = some row) : row ∈ rows := by
  induction rows generalizing row with
  | nil => cases found
  | cons head rows ih =>
    simp only [oldest] at found
    split at found
    · cases found
      exact List.mem_cons_self
    next other earlier =>
      split at found
      · cases found
        exact List.mem_cons_of_mem _ (ih earlier)
      · cases found
        exact List.mem_cons_self

theorem PresignChange.kept {env : Env} {op : PresignOp} {old row : Presign} (change : PresignChange env op old row) :
    row.id = old.id ∧ row.suiObjectId = old.suiObjectId := by
  cases change <;> exact ⟨rfl, rfl⟩

/-- What an `INSERT` of caps adds: new ids, caps no row has, and nothing else changes. -/
structure Added (now : Time) (table after : PresignTable) : Prop where
  row : ∀ {id row}, after.get id = some row → table.get id = some row ∨
    (table.get id = none ∧ ∃ new : NewPresign, row = new.row id now ∧
      ∀ other ∈ table.rows, other.suiObjectId ≠ new.suiObjectId)
  kept : ∀ {id row}, table.get id = some row → after.get id = some row

theorem added_insertCap {table after : PresignTable} {new : NewPresign} {id : Uuid} {now : Time}
    (inserted : table.insertCap new id now = some after) : Added now table after := by
  unfold PresignTable.insertCap at inserted
  split at inserted
  · cases inserted
  next unused =>
    have free : table.get id = none := Table.get_of_insert inserted
    have get := Table.get_insert inserted
    have own : (new.row id now).id = id := rfl
    rw [own] at get
    constructor
    · intro other row found
      rw [get] at found
      split at found
      next same =>
        subst same
        cases found
        exact .inr ⟨free, new, rfl, by simpa using unused⟩
      · exact .inl found
    · intro other row before
      rw [get, if_neg]
      · exact before
      · rintro rfl
        rw [free] at before
        cases before

theorem Added.trans {now : Time} {table middle after : PresignTable} (first : Added now table middle)
    (second : Added now middle after) : Added now table after where
  row := by
    intro id row found
    rcases second.row found with old | ⟨free, new, same, unused⟩
    · exact first.row old
    · refine .inr ⟨?_, new, same, fun other member => ?_⟩
      · cases before : table.get id with
        | none => rfl
        | some row =>
          rw [first.kept before] at free
          cases free
      · exact unused other (Table.mem_of_get (first.kept (Table.get_of_mem member)))
  kept before := second.kept (first.kept before)

theorem added_insertCaps {now : Time} {news : List NewPresign} {next last : Uuid} {table after : PresignTable}
    (inserted : PresignTable.insertCaps now news next table = some (after, last)) : Added now table after := by
  induction news generalizing next table with
  | nil =>
    cases inserted
    exact ⟨fun found => .inl found, fun found => found⟩
  | cons new news ih =>
    simp only [PresignTable.insertCaps] at inserted
    split at inserted
    · cases inserted
    next middle one => exact (added_insertCap one).trans (ih inserted)

/-- Where a presign row comes from: it was there, it was changed, or its cap was just recorded. -/
theorem PresignOp.row_exec {env : Env} {table : PresignTable} {next id : Uuid} {op : PresignOp} {row : Presign}
    (found : (op.exec env table next).2.1.get id = some row) :
    table.get id = some row ∨
    (∃ old, table.get id = some old ∧ PresignChange env op old row) ∨
    (table.get id = none ∧ ∃ new : NewPresign, row = new.row id env.now ∧
      ∀ other ∈ table.rows, other.suiObjectId ≠ new.suiObjectId) := by
  cases op with
  | select other => exact .inl found
  | selectPending => exact .inl found
  | selectTracked network => exact .inl found
  | claim args =>
    simp only [PresignOp.exec] at found
    split at found
    · exact .inl found
    next picked chosen =>
      have member := oldest_mem chosen
      simp only [List.mem_filter, decide_eq_true_eq] at member
      rcases Table.row_of_modify found with kept | ⟨old, before, same, rfl⟩
      · exact .inl kept
      · have own := Table.get_of_mem member.1
        rw [← same, Table.key_of_get before, before] at own
        cases own
        exact .inr (.inl ⟨picked, before, .claim picked args member.2.1⟩)
  | markConsumedPending target =>
    rcases Table.row_of_modify found with kept | ⟨old, before, rfl, rfl⟩
    · exact .inl kept
    · exact .inr (.inl ⟨old, before, .consumedPending old⟩)
  | markUsed target =>
    rcases Table.row_of_modify found with kept | ⟨old, before, rfl, rfl⟩
    · exact .inl kept
    · exact .inr (.inl ⟨old, before, .used old⟩)
  | rollbackToReady target =>
    rcases Table.row_of_modify found with kept | ⟨old, before, rfl, rfl⟩
    · exact .inl kept
    · exact .inr (.inl ⟨old, before, .rollback old⟩)
  | promote target =>
    rcases Table.row_of_modify found with kept | ⟨old, before, rfl, rfl⟩
    · exact .inl kept
    · exact .inr (.inl ⟨old, before, .promote old⟩)
  | quarantine cap =>
    rcases Table.row_of_update found with kept | ⟨old, before, meets, rfl⟩
    · exact .inl kept
    · obtain rfl : old.suiObjectId = cap := by simpa using meets
      exact .inr (.inl ⟨old, before, .quarantine old⟩)
  | touch target =>
    rcases Table.row_of_modify found with kept | ⟨old, before, rfl, rfl⟩
    · exact .inl kept
    · exact .inr (.inl ⟨old, before, .touch old⟩)
  | rescueExpired cutoff =>
    rcases Table.row_of_update found with kept | ⟨old, before, meets, rfl⟩
    · exact .inl kept
    · exact .inr (.inl ⟨old, before, .rescue old cutoff (of_decide_eq_true meets)⟩)
  | parkExpired cutoff =>
    rcases Table.row_of_update found with kept | ⟨old, before, meets, rfl⟩
    · exact .inl kept
    · exact .inr (.inl ⟨old, before, .park old cutoff (of_decide_eq_true meets)⟩)
  | insertMinted news =>
    simp only [PresignOp.exec] at found
    split at found
    · exact .inl found
    next inserted last done =>
      rcases (added_insertCaps done).row found with kept | new
      · exact .inl kept
      · exact .inr (.inr new)
  | insertDiscovered new =>
    simp only [PresignOp.exec] at found
    split at found
    · exact .inl found
    next inserted done =>
      rcases (added_insertCap done).row found with kept | new
      · exact .inl kept
      · exact .inr (.inr new)

/-- What becomes of a presign row: it stays or is changed; none is ever deleted. -/
theorem PresignOp.exec_row {env : Env} {table : PresignTable} {next id : Uuid} {op : PresignOp} {old : Presign}
    (before : table.get id = some old) :
    ∃ row, (op.exec env table next).2.1.get id = some row ∧ (row = old ∨ PresignChange env op old row) := by
  have modified : ∀ (target : Uuid) (change : Presign.Change) (done : old.id = target → PresignChange env op old (change old)),
      ∃ row, (table.modify target change).get id = some row ∧ (row = old ∨ PresignChange env op old row) := by
    intro target change done
    refine ⟨_, Table.modify_row before, ?_⟩
    split
    next same => exact .inr (done same)
    · exact .inl rfl
  have updated : ∀ (test : Presign → Bool) (change : Presign.Change) (done : test old = true → PresignChange env op old (change old)),
      ∃ row, (table.update (change.guard test)).get id = some row ∧ (row = old ∨ PresignChange env op old row) := by
    intro test change done
    refine ⟨_, Table.update_row before, ?_⟩
    split
    next meets => exact .inr (done meets)
    · exact .inl rfl
  cases op with
  | select other => exact ⟨old, before, .inl rfl⟩
  | selectPending => exact ⟨old, before, .inl rfl⟩
  | selectTracked network => exact ⟨old, before, .inl rfl⟩
  | claim args =>
    simp only [PresignOp.exec]
    split
    · exact ⟨old, before, .inl rfl⟩
    next picked chosen =>
      have member := oldest_mem chosen
      simp only [List.mem_filter, decide_eq_true_eq] at member
      refine modified picked.id (Presign.toAllocated env.now args.signRequestId) ?_
      intro same
      have own := Table.get_of_mem member.1
      rw [← same, Table.key_of_get before, before] at own
      cases own
      exact .claim old args member.2.1
  | markConsumedPending target =>
    exact modified target (Presign.toConsumedPending env.now) (by rintro rfl; exact .consumedPending old)
  | markUsed target => exact modified target (Presign.toUsed env.now) (by rintro rfl; exact .used old)
  | rollbackToReady target => exact modified target (Presign.toReady env.now) (by rintro rfl; exact .rollback old)
  | promote target => exact modified target (Presign.toPromoted env.now) (by rintro rfl; exact .promote old)
  | quarantine cap =>
    refine updated _ (Presign.toFailed env.now) ?_
    intro meets
    obtain rfl : old.suiObjectId = cap := by simpa using meets
    exact .quarantine old
  | touch target => exact modified target (Presign.toTouched env.now) (by rintro rfl; exact .touch old)
  | rescueExpired cutoff =>
    exact updated _ (Presign.toReady env.now) (fun meets => .rescue old cutoff (of_decide_eq_true meets))
  | parkExpired cutoff =>
    exact updated _ (Presign.toFailed env.now) (fun meets => .park old cutoff (of_decide_eq_true meets))
  | insertMinted news =>
    simp only [PresignOp.exec]
    split
    · exact ⟨old, before, .inl rfl⟩
    next inserted last done => exact ⟨old, (added_insertCaps done).kept before, .inl rfl⟩
  | insertDiscovered new =>
    simp only [PresignOp.exec]
    split
    · exact ⟨old, before, .inl rfl⟩
    next inserted done => exact ⟨old, (added_insertCap done).kept before, .inl rfl⟩

/-! ### Caps -/

theorem caps_insertCap {table after : PresignTable} {new : NewPresign} {id : Uuid} {now : Time}
    (distinct : (table.rows.map Presign.suiObjectId).Nodup) (inserted : table.insertCap new id now = some after) :
    (after.rows.map Presign.suiObjectId).Nodup := by
  unfold PresignTable.insertCap at inserted
  split at inserted
  · cases inserted
  next unused =>
    rw [Table.rows_insert inserted, List.map_append, List.nodup_append]
    refine ⟨distinct, List.nodup_singleton _, ?_⟩
    rintro cap old other same rfl
    obtain ⟨row, member, rfl⟩ := List.mem_map.mp old
    have taken : (new.row id now).suiObjectId = row.suiObjectId := (List.mem_singleton.mp same).symm
    simp only [List.any_eq_true, decide_eq_true_eq, not_exists, not_and] at unused
    exact unused row member taken.symm

theorem caps_insertCaps {now : Time} {news : List NewPresign} {next last : Uuid} {table after : PresignTable}
    (distinct : (table.rows.map Presign.suiObjectId).Nodup)
    (inserted : PresignTable.insertCaps now news next table = some (after, last)) :
    (after.rows.map Presign.suiObjectId).Nodup := by
  induction news generalizing next table with
  | nil =>
    cases inserted
    exact distinct
  | cons new news ih =>
    simp only [PresignTable.insertCaps] at inserted
    split at inserted
    · cases inserted
    next middle one => exact ih (caps_insertCap distinct one) inserted

/-- No two presign rows ever mirror the same cap. -/
theorem PresignOp.caps_exec {env : Env} {table : PresignTable} {next : Uuid} (op : PresignOp)
    (distinct : (table.rows.map Presign.suiObjectId).Nodup) :
    ((op.exec env table next).2.1.rows.map Presign.suiObjectId).Nodup := by
  have updated : ∀ (change : Presign.Change) (test : Presign → Bool)
      (keeps : ∀ row, (change row).suiObjectId = row.suiObjectId),
      ((table.update (change.guard test)).rows.map Presign.suiObjectId).Nodup := by
    intro change test keeps
    rw [Table.map_update test keeps]
    exact distinct
  cases op with
  | select id => exact distinct
  | selectPending => exact distinct
  | selectTracked network => exact distinct
  | claim args =>
    simp only [PresignOp.exec]
    split
    · exact distinct
    · exact updated _ _ (fun _ => rfl)
  | insertMinted news =>
    simp only [PresignOp.exec]
    split
    · exact distinct
    next inserted last done => exact caps_insertCaps distinct done
  | insertDiscovered new =>
    simp only [PresignOp.exec]
    split
    · exact distinct
    next inserted done => exact caps_insertCap distinct done
  | _ => exact updated _ _ (fun _ => rfl)

/-! ### Calls starting and ending -/

/-- Starting a call touches nothing but the queue. -/
theorem enter_jobs {tag : Call} {world after : World} (entered : enter tag world = some after) :
    after = { world with jobs := after.jobs } := by
  cases tag with
  | process id index =>
    simp only [enter] at entered
    split at entered
    · cases entered
    · split at entered
      · cases entered
        rfl
      · cases entered
  | _ =>
    cases entered
    rfl

theorem leave_jobs (tag : Call) (result : Option (Except Thrown Reply)) (world : World) :
    leave tag result world = { world with jobs := (leave tag result world).jobs } := by
  unfold leave
  split <;> rfl

/-- The end of a call touches nothing but the queue. -/
theorem close_jobs (config : Config) (index : Nat) (tag : Call) (program : Prog Reply) (world : World) :
    (machine config).close index tag program world =
      { world with jobs := ((machine config).close index tag program world).jobs } := by
  unfold Machine.close
  split
  · exact leave_jobs _ _ _
  · rfl

/-- A job in the queue stays as it is when a call ends, unless that call acknowledges it. -/
theorem close_job {config : Config} {index : Nat} {tag : Call} {program : Prog Reply} {world : World} {job : Nat} {entry : Job}
    (found : world.jobs[job]? = some entry)
    (unacknowledged : ∀ id value, tag = .process id job → program ≠ .ret value) :
    ((machine config).close index tag program world).jobs[job]? = some entry := by
  unfold Machine.close
  split
  next result ended =>
    change (leave tag (some result) world).jobs[job]? = some entry
    cases result with
    | error error => cases tag <;> exact found
    | ok value =>
      cases tag with
      | process id own =>
        simp only [leave, List.getElem?_modify, found]
        split
        next same =>
          subst same
          cases program with
          | ret value => exact absurd rfl (unacknowledged id value rfl)
          | raise error => cases ended
          | await op rest => cases ended
        · rfl
      | _ => exact found
  · exact found

/-- The end of a call keeps what a job is for. -/
theorem close_request (config : Config) {index : Nat} {tag : Call} {program : Prog Reply} {world : World} {job : Nat} {entry : Job}
    (found : world.jobs[job]? = some entry) : ∃ later,
      ((machine config).close index tag program world).jobs[job]? = some later ∧
        later.signRequestId = entry.signRequestId := by
  unfold Machine.close
  split
  · change ∃ later, (leave tag _ world).jobs[job]? = some later ∧ _
    unfold leave
    split
    · rw [List.getElem?_modify, found]
      exact ⟨_, rfl, by split <;> rfl⟩
    · exact ⟨entry, found, rfl⟩
  · exact ⟨entry, found, rfl⟩

/-! ### Which operation touches what -/

theorem exec_signRequests {op : Op} {env : Env} {world after : World} {answer : Res op}
    (executed : exec op env world = some (answer, after)) :
    (∃ statement, op = .sign statement ∧ after.signRequests = (statement.exec env world.signRequests).2) ∨
      after.signRequests = world.signRequests := by
  cases op with
  | sign op =>
    cases executed
    exact .inl ⟨op, rfl, rfl⟩
  | chain op =>
    obtain ⟨reply, _, same⟩ := Option.map_eq_some_iff.mp executed
    cases same
    exact .inr rfl
  | _ =>
    cases executed
    exact .inr rfl

theorem exec_presigns {op : Op} {env : Env} {world after : World} {answer : Res op}
    (executed : exec op env world = some (answer, after)) :
    (∃ statement, op = .presign statement ∧
      after.presigns = (statement.exec env world.presigns world.nextId).2.1) ∨ after.presigns = world.presigns := by
  cases op with
  | presign op =>
    cases executed
    exact .inl ⟨op, rfl, rfl⟩
  | chain op =>
    obtain ⟨reply, _, same⟩ := Option.map_eq_some_iff.mp executed
    cases same
    exact .inr rfl
  | _ =>
    cases executed
    exact .inr rfl

theorem exec_ledger {op : Op} {env : Env} {world after : World} {answer : Res op}
    (executed : exec op env world = some (answer, after)) :
    (∃ statement, op = .ledger statement ∧ after.ledger = (statement.exec world.ledger world.nextId).2.1) ∨
      after.ledger = world.ledger := by
  cases op with
  | ledger op =>
    cases executed
    exact .inl ⟨op, rfl, rfl⟩
  | chain op =>
    obtain ⟨reply, _, same⟩ := Option.map_eq_some_iff.mp executed
    cases same
    exact .inr rfl
  | _ =>
    cases executed
    exact .inr rfl

theorem insertCaps_next {now : Time} {news : List NewPresign} {next last : Uuid} {table after : PresignTable}
    (inserted : PresignTable.insertCaps now news next table = some (after, last)) : next ≤ last := by
  induction news generalizing next table with
  | nil =>
    cases inserted
    exact Nat.le_refl _
  | cons new news ih =>
    simp only [PresignTable.insertCaps] at inserted
    split at inserted
    · cases inserted
    · exact Nat.le_of_succ_le (ih inserted)

/-- Identifiers are only ever handed out upwards. -/
theorem exec_nextId {op : Op} {env : Env} {world after : World} {answer : Res op}
    (executed : exec op env world = some (answer, after)) : world.nextId ≤ after.nextId := by
  cases op with
  | presign op =>
    cases executed
    cases op with
    | claim args =>
      simp only [PresignOp.exec]
      split <;> exact Nat.le_refl _
    | insertMinted news =>
      simp only [PresignOp.exec]
      split
      · exact Nat.le_refl _
      next inserted last done => exact insertCaps_next done
    | insertDiscovered new =>
      simp only [PresignOp.exec]
      split
      · exact Nat.le_refl _
      · exact Nat.le_succ _
    | _ => exact Nat.le_refl _
  | ledger op =>
    cases executed
    cases op <;> exact Nat.le_succ _
  | chain op =>
    obtain ⟨reply, _, same⟩ := Option.map_eq_some_iff.mp executed
    cases same
    exact Nat.le_refl _
  | randomUUID =>
    cases executed
    exact Nat.le_succ _
  | _ =>
    cases executed
    exact Nat.le_refl _

/-- Where a sign request comes from, for any operation. -/
theorem row_of_exec {op : Op} {env : Env} {world after : World} {answer : Res op} {id : Uuid} {row : SignRequest}
    (executed : exec op env world = some (answer, after)) (found : after.signRequests.get id = some row) :
    world.signRequests.get id = some row ∨
    (∃ new, op = .sign (.insert new) ∧ id = new.id ∧ row = new.row env.now ∧ world.signRequests.get id = none ∧
      ∀ other ∈ world.signRequests.rows, ¬other.HasKey new.userId new.network new.idempotencyKey) ∨
    ∃ old statement, op = .sign statement ∧ world.signRequests.get id = some old ∧ SignChange env statement old row := by
  rcases exec_signRequests executed with ⟨statement, rfl, same⟩ | same
  · rw [same] at found
    rcases SignOp.row_exec found with kept | ⟨new, rfl, rest⟩ | ⟨old, before, change⟩
    · exact .inl kept
    · exact .inr (.inl ⟨new, rfl, rest⟩)
    · exact .inr (.inr ⟨old, statement, rfl, before, change⟩)
  · rw [same] at found
    exact .inl found

/-- What becomes of a sign request under any operation. -/
theorem exec_row {op : Op} {env : Env} {world after : World} {answer : Res op} {id : Uuid} {old : SignRequest}
    (executed : exec op env world = some (answer, after)) (before : world.signRequests.get id = some old) :
    op = .sign (.delete id) ∨ ∃ row, after.signRequests.get id = some row ∧
      (row = old ∨ ∃ statement, op = .sign statement ∧ SignChange env statement old row) := by
  rcases exec_signRequests executed with ⟨statement, rfl, same⟩ | same
  · rw [same]
    have outcome : statement = .delete id ∨ ∃ row, (statement.exec env world.signRequests).2.get id = some row ∧
        (row = old ∨ SignChange env statement old row) := SignOp.exec_row before
    rcases outcome with rfl | ⟨row, there, kept | change⟩
    · exact .inl rfl
    · exact .inr ⟨row, there, .inl kept⟩
    · exact .inr ⟨row, there, .inr ⟨statement, rfl, change⟩⟩
  · rw [same]
    exact .inr ⟨old, before, .inl rfl⟩

/-- Where a presign row comes from, for any operation. -/
theorem presign_of_exec {op : Op} {env : Env} {world after : World} {answer : Res op} {id : Uuid} {row : Presign}
    (executed : exec op env world = some (answer, after)) (found : after.presigns.get id = some row) :
    world.presigns.get id = some row ∨
    (∃ old statement, op = .presign statement ∧ world.presigns.get id = some old ∧ PresignChange env statement old row) ∨
    (world.presigns.get id = none ∧ ∃ new : NewPresign, row = new.row id env.now ∧
      ∀ other ∈ world.presigns.rows, other.suiObjectId ≠ new.suiObjectId) := by
  rcases exec_presigns executed with ⟨statement, rfl, same⟩ | same
  · rw [same] at found
    rcases PresignOp.row_exec found with kept | ⟨old, before, change⟩ | new
    · exact .inl kept
    · exact .inr (.inl ⟨old, statement, rfl, before, change⟩)
    · exact .inr (.inr new)
  · rw [same] at found
    exact .inl found

/-- No operation deletes a presign row or changes its cap. -/
theorem exec_presign {op : Op} {env : Env} {world after : World} {answer : Res op} {id : Uuid} {old : Presign}
    (executed : exec op env world = some (answer, after)) (before : world.presigns.get id = some old) :
    ∃ row, after.presigns.get id = some row ∧ row.suiObjectId = old.suiObjectId ∧
      (row = old ∨ ∃ statement, op = .presign statement ∧ PresignChange env statement old row) := by
  rcases exec_presigns executed with ⟨statement, rfl, same⟩ | same
  · rw [same]
    have outcome : ∃ row, (statement.exec env world.presigns world.nextId).2.1.get id = some row ∧
        (row = old ∨ PresignChange env statement old row) := PresignOp.exec_row before
    obtain ⟨row, there, rfl | change⟩ := outcome
    · exact ⟨row, there, rfl, .inl rfl⟩
    · exact ⟨row, there, change.kept.2, .inr ⟨statement, rfl, change⟩⟩
  · rw [same]
    exact ⟨old, before, rfl, .inl rfl⟩

/-- A cap is consumed by the submission that carries it, and by nothing else. -/
theorem exec_consumed {op : Op} {env : Env} {world after : World} {answer : Res op}
    (executed : exec op env world = some (answer, after)) :
    after.chain.consumed = world.chain.consumed ∨
      ∃ tx, op = .chain (.execute tx) ∧ env.outcome.lands = true ∧ tx.presignCapId ∈ world.chain.live ∧
        after.chain.consumed = tx.presignCapId :: world.chain.consumed := by
  cases op with
  | chain op =>
    obtain ⟨reply, replied, same⟩ := Option.map_eq_some_iff.mp executed
    cases same
    cases op with
    | execute tx =>
      cases replied
      dsimp only
      split
      next landed => exact .inr ⟨tx, rfl, landed.1, landed.2, rfl⟩
      · exact .inl rfl
    | executeMint args nek count =>
      simp only [ChainOp.exec] at replied
      split at replied
      · cases replied
        dsimp only
        split <;> exact .inl rfl
      · cases replied
    | listOwnedObjects network cursor =>
      simp only [ChainOp.exec] at replied
      split at replied
      · cases replied
        exact .inl rfl
      · cases replied
    | _ =>
      cases replied
      exact .inl rfl
  | _ =>
    cases executed
    exact .inl rfl

/-- A submission that lands is answered with success, or in a way that does not deny it. -/
theorem submitAnswer_landed {env : Env} (landed : env.outcome.lands = true) :
    (∃ executed, submitAnswer env true = .ok executed) ∨
      ∃ error, submitAnswer env true = .error error ∧ error.phase = .unknown := by
  unfold submitAnswer
  cases outcome : env.outcome with
  | success => exact .inl ⟨_, rfl⟩
  | preflight message =>
    rw [outcome] at landed
    cases landed
  | reverted message digest =>
    rw [outcome] at landed
    cases landed
  | unknown message landed => exact .inr ⟨_, rfl, rfl⟩
  | thrown name message landed => exact .inr ⟨_, rfl, rfl⟩

/-- The answer and the state after reads and submissions, by what they were asked. -/
theorem exec_presign_select {env : Env} {world after : World} {id : Uuid} {found : Option Presign}
    (executed : exec (.presign (.select id)) env world = some (found, after)) :
    world.presigns.get id = found ∧ after = world := by
  simp only [exec, PresignOp.exec, Option.some.injEq, Prod.mk.injEq] at executed
  exact ⟨executed.1, executed.2.symm⟩

theorem exec_select {env : Env} {world after : World} {id : Uuid} {found : Option SignRequest}
    (executed : exec (.sign (.select id)) env world = some (found, after)) :
    world.signRequests.get id = found ∧ after = world := by
  simp only [exec, SignOp.exec, Option.some.injEq, Prod.mk.injEq] at executed
  exact ⟨executed.1, executed.2.symm⟩

theorem exec_execute {env : Env} {world after : World} {tx : SignZeroTrust} {result : Except Thrown ExecutedTx}
    (executed : exec (.chain (.execute tx)) env world = some (result, after)) :
    result = submitAnswer env (tx.presignCapId ∈ world.chain.live) ∧ after.presigns = world.presigns := by
  simp only [exec, ChainOp.exec, Option.map_some, Option.some.injEq, Prod.mk.injEq] at executed
  obtain ⟨answered, rfl⟩ := executed
  exact ⟨answered.symm, rfl⟩

theorem exec_selectByKey {env : Env} {world after : World} {userId : Uuid} {network key : String}
    {existing : Option SignRequest} (executed : exec (.sign (.selectByKey userId network key)) env world = some (existing, after)) :
    after = world ∧ ∀ row ∈ existing, world.signRequests.get row.id = some row ∧ row.HasKey userId network key := by
  simp only [exec, SignOp.exec, Option.some.injEq, Prod.mk.injEq] at executed
  obtain ⟨answered, rfl⟩ := executed
  refine ⟨rfl, fun row found => ?_⟩
  rw [← answered] at found
  exact ⟨Table.get_of_mem (List.mem_of_find?_eq_some found), by simpa using List.find?_some found⟩

theorem exec_selectWallet {env : Env} {world after : World} {id userId : Uuid} {network : String} {found : Option DWallet}
    (executed : exec (.wallet (.selectOwned id userId network)) env world = some (found, after)) :
    after = world ∧ ∀ dw ∈ found, dw ∈ world.dwallets.rows ∧ dw.id = id := by
  simp only [exec, WalletOp.exec, Option.some.injEq, Prod.mk.injEq] at executed
  obtain ⟨answered, rfl⟩ := executed
  refine ⟨rfl, fun dw there => ?_⟩
  rw [← answered] at there
  have meets := List.find?_some there
  simp only [decide_eq_true_eq] at meets
  exact ⟨List.mem_of_find?_eq_some there, meets.1⟩

/-- A claim takes one ready presign and leaves every other row alone. -/
theorem exec_claim {env : Env} {world after : World} {args : AllocateArgs} {claimed : Option Uuid}
    (executed : exec (.presign (.claim args)) env world = some (claimed, after)) :
    (claimed = none ∧ after = world) ∨ ∃ picked, claimed = some picked.id ∧
      world.presigns.get picked.id = some picked ∧ picked.Matches args ∧
      after = { world with presigns := world.presigns.modify picked.id (Presign.toAllocated env.now args.signRequestId) } := by
  simp only [exec, PresignOp.exec] at executed
  cases chosen : oldest (world.presigns.rows.filter (fun row => row.Matches args ∧ row.id ∉ env.locked)) with
  | none =>
    simp only [chosen, Option.some.injEq, Prod.mk.injEq] at executed
    exact .inl ⟨executed.1.symm, executed.2.symm⟩
  | some picked =>
    simp only [chosen, Option.some.injEq, Prod.mk.injEq] at executed
    have member := oldest_mem chosen
    simp only [List.mem_filter, decide_eq_true_eq] at member
    exact .inr ⟨picked, executed.1.symm, Table.get_of_mem member.1, member.2.1, executed.2.symm⟩

/-- A prepare that stores its presign gets its row back. -/
theorem exec_setPresign {env : Env} {world after : World} {id presignId : Uuid} {updated : Option SignRequest}
    (executed : exec (.sign (.setPresign id presignId)) env world = some (updated, after)) :
    updated = (world.signRequests.get id).map (SignRequest.toPresign env.now presignId) ∧
      after.signRequests.get id = updated ∧ after.dwallets = world.dwallets := by
  simp only [exec, SignOp.exec, SignTable.set, Option.some.injEq, Prod.mk.injEq] at executed
  obtain ⟨answered, rfl⟩ := executed
  refine ⟨?_, answered, rfl⟩
  rw [← answered, Table.get_modify, if_pos rfl]

/-- No operation drops a dwallet or changes which one it is on chain. -/
theorem exec_dwallet {op : Op} {env : Env} {world after : World} {answer : Res op} {dw : DWallet}
    (executed : exec op env world = some (answer, after)) (member : dw ∈ world.dwallets.rows) :
    ∃ later ∈ after.dwallets.rows, later.id = dw.id ∧ later.suiDwalletId = dw.suiDwalletId := by
  cases op with
  | wallet op =>
    cases executed
    cases op with
    | setNek id nek =>
      have there := Table.get_of_mem member
      refine ⟨_, Table.mem_of_get (Table.modify_row there), ?_⟩
      split <;> exact ⟨rfl, rfl⟩
    | _ => exact ⟨dw, member, rfl, rfl⟩
  | chain op =>
    obtain ⟨reply, _, same⟩ := Option.map_eq_some_iff.mp executed
    cases same
    exact ⟨dw, member, rfl, rfl⟩
  | _ =>
    cases executed
    exact ⟨dw, member, rfl, rfl⟩

/-- The columns no `UPDATE` of a sign request sets. -/
theorem SignChange.kept {env : Env} {op : SignOp} {old row : SignRequest} (change : SignChange env op old row) :
    row.id = old.id ∧ row.userId = old.userId ∧ row.network = old.network ∧
      row.idempotencyKey = old.idempotencyKey ∧ row.suiDwalletId = old.suiDwalletId ∧
      row.signatureAlgorithm = old.signatureAlgorithm ∧ row.hashScheme = old.hashScheme ∧
      row.messageHex = old.messageHex := by
  cases change <;> exact ⟨rfl, rfl, rfl, rfl, rfl, rfl, rfl, rfl⟩

/-- A row is an old one with the same fixed columns, unless it was just inserted. -/
theorem old_row_of_exec {op : Op} {env : Env} {world after : World} {answer : Res op} {id : Uuid} {row : SignRequest}
    (executed : exec op env world = some (answer, after)) (kept : ∀ new, op ≠ .sign (.insert new))
    (found : after.signRequests.get id = some row) :
    ∃ old, world.signRequests.get id = some old ∧ (row = old ∨ ∃ statement, op = .sign statement ∧
      SignChange env statement old row) := by
  rcases row_of_exec executed found with same | ⟨new, same, _⟩ | ⟨old, statement, same, before, change⟩
  · exact ⟨row, same, .inl rfl⟩
  · exact absurd same (kept new)
  · exact ⟨old, before, .inr ⟨statement, same, change⟩⟩

/-- Only charges and refunds add rows to the ledger. -/
theorem exec_charges {op : Op} {env : Env} {world after : World} {answer : Res op}
    (executed : exec op env world = some (answer, after)) :
    after.ledger.charges = world.ledger.charges ∨ (∃ args, op = .ledger (.charge args)) ∨
      ∃ args, op = .ledger (.refund args) := by
  rcases exec_ledger executed with ⟨statement, rfl, same⟩ | same
  · cases statement with
    | openAccount userId network =>
      rw [same]
      exact .inl (MpcKit.Billing.Ledger.openAccount_charges _ _ _ _)
    | charge args => exact .inr (.inl ⟨args, rfl⟩)
    | refund args => exact .inr (.inr ⟨args, rfl⟩)
  · rw [same]
    exact .inl rfl

theorem exec_charge {env : Env} {world after : World} {args : MpcKit.Billing.ChargeArgs}
    {result : Except Thrown MpcKit.Billing.BillingCharge}
    (executed : exec (.ledger (.charge args)) env world = some (result, after)) :
    result = (world.ledger.charge args world.nextId).1 ∧ after.ledger = (world.ledger.charge args world.nextId).2 ∧
      after.signRequests = world.signRequests ∧ world.nextId ≤ after.nextId := by
  simp only [exec, LedgerOp.exec, Option.some.injEq, Prod.mk.injEq] at executed
  obtain ⟨answered, rfl⟩ := executed
  exact ⟨answered.symm, rfl, rfl, Nat.le_succ _⟩

theorem exec_refund {env : Env} {world after : World} {args : MpcKit.Billing.RefundArgs}
    {result : Except Thrown MpcKit.Billing.BillingCharge}
    (executed : exec (.ledger (.refund args)) env world = some (result, after)) :
    result = (world.ledger.refund args world.nextId).1 ∧ after.ledger = (world.ledger.refund args world.nextId).2 ∧
      after.signRequests = world.signRequests ∧ world.nextId ≤ after.nextId := by
  simp only [exec, LedgerOp.exec, Option.some.injEq, Prod.mk.injEq] at executed
  obtain ⟨answered, rfl⟩ := executed
  exact ⟨answered.symm, rfl, rfl, Nat.le_succ _⟩

/-- `markFailed` gets back the row it has just written. -/
theorem exec_setFailed {env : Env} {world after : World} {id : Uuid} {code message : String} {failed : Option SignRequest}
    (executed : exec (.sign (.setFailed id code message)) env world = some (failed, after)) :
    failed = after.signRequests.get id := by
  simp only [exec, SignOp.exec, Option.some.injEq, Prod.mk.injEq] at executed
  obtain ⟨answered, rfl⟩ := executed
  exact answered.symm

/-- The ledger only grows. -/
theorem exec_charges_mono {op : Op} {env : Env} {world after : World} {answer : Res op}
    (executed : exec op env world = some (answer, after)) :
    ∀ charge ∈ world.ledger.charges, charge ∈ after.ledger.charges := by
  intro charge member
  rcases exec_charges executed with same | ⟨args, rfl⟩ | ⟨args, rfl⟩
  · rw [same]
    exact member
  · rw [(exec_charge executed).2.1]
    rcases world.ledger.charge_charges args world.nextId with same | more
    · rw [same]
      exact member
    · rw [more]
      exact List.mem_append_left _ member
  · rw [(exec_refund executed).2.1]
    rcases world.ledger.refund_charges args world.nextId with same | more
    · rw [same]
      exact member
    · rw [more]
      exact List.mem_append_left _ member

/-- Where a row of the ledger comes from. -/
theorem charge_of_exec {op : Op} {env : Env} {world after : World} {answer : Res op}
    {charge : MpcKit.Billing.BillingCharge} (executed : exec op env world = some (answer, after))
    (member : charge ∈ after.ledger.charges) :
    charge ∈ world.ledger.charges ∨
    (∃ args, op = .ledger (.charge args) ∧ charge = args.newCharge.row world.nextId) ∨
    ∃ args, op = .ledger (.refund args) ∧ charge = args.newRefund.row world.nextId := by
  rcases exec_charges executed with same | ⟨args, rfl⟩ | ⟨args, rfl⟩
  · rw [same] at member
    exact .inl member
  · rw [(exec_charge executed).2.1] at member
    rcases world.ledger.charge_charges args world.nextId with same | more
    · rw [same] at member
      exact .inl member
    · rw [more] at member
      rcases List.mem_append.mp member with old | new
      · exact .inl old
      · exact .inr (.inl ⟨args, rfl, List.mem_singleton.mp new⟩)
  · rw [(exec_refund executed).2.1] at member
    rcases world.ledger.refund_charges args world.nextId with same | more
    · rw [same] at member
      exact .inl member
    · rw [more] at member
      rcases List.mem_append.mp member with old | new
      · exact .inl old
      · exact .inr (.inr ⟨args, rfl, List.mem_singleton.mp new⟩)

/-- The queue only grows, by the job of a submitted request. -/
theorem exec_jobs {op : Op} {env : Env} {world after : World} {answer : Res op}
    (executed : exec op env world = some (answer, after)) :
    after.jobs = world.jobs ∨ ∃ id, op = .queue (.signProcess id) ∧ after.jobs = world.jobs ++ [⟨id, 0, false⟩] := by
  cases op with
  | queue op =>
    cases executed
    cases op with
    | signProcess id =>
      simp only [QueueOp.exec]
      split
      · exact .inr ⟨id, rfl, rfl⟩
      · exact .inl rfl
    | presignRefill args => exact .inl rfl
  | chain op =>
    obtain ⟨reply, _, same⟩ := Option.map_eq_some_iff.mp executed
    cases same
    exact .inl rfl
  | _ =>
    cases executed
    exact .inl rfl

theorem exec_job {op : Op} {env : Env} {world after : World} {answer : Res op} {job : Nat} {entry : Job}
    (executed : exec op env world = some (answer, after)) (found : world.jobs[job]? = some entry) :
    after.jobs[job]? = some entry := by
  rcases exec_jobs executed with same | ⟨id, _, more⟩
  · rw [same]
    exact found
  · rw [more, List.getElem?_append_left (List.getElem?_eq_some_iff.mp found).1]
    exact found

/-- An `INSERT` that succeeds adds its row under a key and an identifier that were free. -/
theorem exec_insert {env : Env} {world after : World} {new : NewSignRequest} {result : Except Thrown SignRequest}
    (executed : exec (.sign (.insert new)) env world = some (result, after)) :
    (∃ error, result = .error error ∧ after = world ∧
      ((∃ other ∈ world.signRequests.rows, other.HasKey new.userId new.network new.idempotencyKey) ∨
        ∃ other, world.signRequests.get new.id = some other)) ∨
    result = .ok (new.row env.now) ∧
      (∀ other ∈ world.signRequests.rows, ¬other.HasKey new.userId new.network new.idempotencyKey) ∧
      ∃ table, world.signRequests.insert (new.row env.now) = some table ∧ after = { world with signRequests := table } := by
  cases taken : world.signRequests.rows.any (fun row => row.HasKey new.userId new.network new.idempotencyKey) with
  | true =>
    simp only [exec, SignOp.exec, taken, if_true, Option.some.injEq, Prod.mk.injEq] at executed
    obtain ⟨rfl, rfl⟩ := executed
    exact .inl ⟨_, rfl, rfl, .inl (by simpa using taken)⟩
  | false =>
    cases done : world.signRequests.insert (new.row env.now) with
    | none =>
      simp only [exec, SignOp.exec, taken, done, Bool.false_eq_true, if_false, Option.some.injEq,
        Prod.mk.injEq] at executed
      obtain ⟨rfl, rfl⟩ := executed
      exact .inl ⟨_, rfl, rfl, .inr (Table.get_of_insert_eq_none done)⟩
    | some table =>
      simp only [exec, SignOp.exec, taken, done, Bool.false_eq_true, if_false, Option.some.injEq,
        Prod.mk.injEq] at executed
      obtain ⟨rfl, rfl⟩ := executed
      exact .inr ⟨rfl, by simpa using taken, table, rfl, rfl⟩

end MpcKit.Sign
