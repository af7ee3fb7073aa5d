import MpcKit.Services.Accounts
import MpcKit.Services.Requests
import MpcKit.Sign.Owners

/-! Every sign request holds a presign its dwallet can sign with: one of its own network, curve
and algorithm, made under the network encryption key the coordinator bound the dwallet to. -/

namespace MpcKit.Services
open MpcKit.Backend MpcKit.Async
open MpcKit.Sign (Account DWallet Presign SignRequest PrepareSignArgs)

variable {config : Config}

/-- The coordinator lets this presign be used for this request. -/
structure Fits (config : Config) (row : SignRequest) (presign : Presign) : Prop where
  network : presign.network = row.network
  curve : presign.curve = row.curve
  signatureAlgorithm : presign.signatureAlgorithm = row.signatureAlgorithm
  networkEncryptionKeyId : config.boundNek row.suiDwalletId = some presign.networkEncryptionKeyId

/-- The key stored with a dwallet is the one it is bound to. -/
def Bound (config : Config) (dw : DWallet) : Prop :=
  ∀ nek ∈ dw.networkEncryptionKeyId, config.boundNek dw.suiDwalletId = some nek

structure Compatible (config : Config) (world : World) : Prop where
  rows : ∀ id row presignId, world.sign.signRequests.get id = some row → row.presignId = some presignId →
    ∃ presign, world.sign.presigns.get presignId = some presign ∧ Fits config row presign
  dwallets : ∀ id dw, world.sign.dwallets.get id = some dw → Bound config dw

/-! ### What answers say of keys and presigns -/

def PresignFact (config : Config) (world : World) : (op : Op) → Res op → Prop
  | .inl (.wallet (.select _)), found => ∀ dw ∈ found, Bound config dw
  | .inl (.chain (.getDWallet _ suiDwalletId)), told => ∀ nek, told = .ok (some nek) → config.boundNek suiDwalletId = some nek
  | .inr (.chain (.getDWallet _ suiDwalletId)), told => ∀ nek, told = .ok (some nek) → config.boundNek suiDwalletId = some nek
  | .inl (.presign (.claim bucket)), claimed => ∀ id ∈ claimed, ∃ presign, world.sign.presigns.get id = some presign ∧
      presign.network = bucket.network ∧ presign.curve = bucket.curve ∧
      presign.signatureAlgorithm = bucket.signatureAlgorithm ∧ presign.networkEncryptionKeyId = bucket.networkEncryptionKeyId
  | _, _ => True

theorem PresignFact.later {before after : World} (grows : Grows before after) {op : Op} {answer : Res op}
    (fact : PresignFact config before op answer) : PresignFact config after op answer := by
  cases op with
  | inl op =>
    cases op with
    | wallet op => cases op <;> exact fact
    | chain op => cases op <;> exact fact
    | presign op =>
      cases op with
      | claim bucket =>
        intro id claimed
        obtain ⟨presign, found, network, curve, algorithm, nek⟩ := fact id claimed
        obtain ⟨later, there, same⟩ := grows.presigns id presign found
        exact ⟨later, there, same.network.trans network, same.curve.trans curve,
          same.signatureAlgorithm.trans algorithm, same.networkEncryptionKeyId.trans nek⟩
      | _ => trivial
    | _ => trivial
  | inr op =>
    cases op with
    | chain op => cases op <;> exact fact
    | _ => trivial

/-- What the coordinator tells of a dwallet. -/
theorem told_of_answer {rpc : Except Thrown Unit} {known bound : Option ObjectId} (tells : known = bound) {nek : ObjectId}
    (told : rpc.map (fun _ => known) = .ok (some nek)) : bound = some nek := by
  cases rpc with
  | ok value =>
    cases told
    exact tells.symm
  | error error => cases told

theorem presignFact_of_exec {index : Nat} {op : Op} {env : Env} {world after : World} {answer : Res op}
    (compatible : Compatible config world) (executed : exec config index op env world = some (answer, after)) :
    PresignFact config after op answer := by
  cases op with
  | inl op =>
    obtain ⟨tells, sign, done, rfl⟩ := exec_sign executed
    cases op with
    | wallet op =>
      cases op with
      | select id =>
        cases done
        exact fun dw found => compatible.dwallets id dw found
      | _ => trivial
    | chain op =>
      cases op with
      | getDWallet network suiDwalletId =>
        cases done
        exact fun nek told => told_of_answer tells told
      | _ => trivial
    | presign op =>
      cases op with
      | claim bucket =>
        intro id claimed
        rcases Sign.exec_claim done with ⟨rfl, _⟩ | ⟨picked, rfl, found, matches_, rfl⟩
        · cases claimed
        · cases claimed
          obtain ⟨network, curve, algorithm, nek, _⟩ := matches_
          exact ⟨_, Table.modify_row found, by rw [if_pos rfl]; exact ⟨network, curve, algorithm, nek⟩⟩
      | _ => trivial
    | _ => trivial
  | inr op =>
    obtain ⟨tells, wallets, done, rfl⟩ := exec_wallets executed
    cases op with
    | chain op =>
      cases op with
      | getDWallet network suiDwalletId =>
        cases done
        exact fun nek told => told_of_answer tells told
      | _ => trivial
    | _ => trivial

/-! ### What an operation does to keys and presigns -/

section Step

variable {index : Nat} {op : Op} {env : Env} {world after : World} {answer : Res op} {call : Call}
  {history : History Op Res}

/-- A key a prepare knows is the one its dwallet is bound to. -/
theorem bound_of_knows {past : History Sign.Op Sign.Res} {id : Uuid} {nek : ObjectId}
    (read : ∀ op answer, Heard (past.map signing.entry) op answer → DWalletFact world op answer)
    (told : ∀ op answer, Heard (past.map signing.entry) op answer → PresignFact config world op answer)
    (knows : Sign.KnowsNek past id nek) :
    ∃ row, world.sign.dwallets.get id = some row ∧ config.boundNek row.suiDwalletId = some nek := by
  obtain ⟨dw, selected, source⟩ := knows
  obtain ⟨_, row, found, same⟩ := read _ _ (selected.within signing) dw rfl
  refine ⟨row, found, ?_⟩
  rw [same.suiDwalletId]
  rcases source with stored | ⟨network, answered⟩
  · exact told _ _ (selected.within signing) dw rfl nek stored
  · exact told _ _ (answered.within signing) nek rfl

/-- Keys are filled in with what the coordinator tells of the very dwallet. -/
theorem dwallets_of_exec (compatible : Compatible config world) (executed : exec config index op env world = some (answer, after))
    (before : (sources config call).before history op)
    (read : ∀ op answer, Heard history op answer → DWalletFact world op answer)
    (told : ∀ op answer, Heard history op answer → PresignFact config world op answer) {id : Uuid} {dw : DWallet}
    (found : after.sign.dwallets.get id = some dw) : Bound config dw := by
  cases op with
  | inl op =>
    obtain ⟨own, past, rfl, rfl, sourced⟩ := sourced_sign before
    obtain ⟨_, sign, done, rfl⟩ := exec_sign executed
    rcases (tables_sign done).2 with same | ⟨target, nek, rfl, same⟩
    · rw [show ({ world with sign := sign } : World).sign.dwallets = _ from same] at found
      exact compatible.dwallets id dw found
    · rw [show ({ world with sign := sign } : World).sign.dwallets = _ from same] at found
      rcases Table.row_of_modify found with kept | ⟨old, there, own, rfl⟩
      · exact compatible.dwallets id dw kept
      · obtain ⟨_, chosen, network, selected, answered⟩ := sourced
        obtain ⟨_, row, held, alike⟩ := read _ _ (selected.within signing) chosen rfl
        have key := Table.key_of_get there
        rw [← own, key, there] at held
        cases held
        intro key set
        cases set
        change config.boundNek old.suiDwalletId = _
        rw [alike.suiDwalletId]
        exact told _ _ (answered.within signing) nek rfl
  | inr op =>
    obtain ⟨own, past, rfl, rfl, sourced⟩ := sourced_wallets before
    obtain ⟨_, wallets, done, rfl⟩ := exec_wallets executed
    change wallets.dwallets.get id = some dw at found
    cases effect_wallets done with
    | none op accounts same =>
      rw [same] at found
      exact compatible.dwallets id dw found
    | account new inserted same =>
      rw [same] at found
      exact compatible.dwallets id dw found
    | dwallet new accounts fresh inserted =>
      rw [Table.get_insert inserted] at found
      split at found
      · cases found
        intro nek absent
        cases absent
      · exact compatible.dwallets id dw found
    | activate target digest nek accounts same =>
      rw [same] at found
      rcases Table.row_of_modify found with kept | ⟨old, there, own, rfl⟩
      · exact compatible.dwallets id dw kept
      · obtain ⟨args, chosen, account, _, joined, rfl, source⟩ := sourced
        obtain ⟨⟨named, row, held, alike⟩, _⟩ := read _ _ (Heard.within joined dwallets) _ rfl
        have key := Table.key_of_get there
        change world.sign.dwallets.get id = some old at there
        dsimp only at named
        rw [← named, ← own, key, there] at held
        cases held
        intro key set
        change config.boundNek old.suiDwalletId = some key
        cases nek with
        | none => exact compatible.dwallets id old there key set
        | some value =>
          cases set
          obtain ⟨network, answered⟩ := source key rfl
          rw [alike.suiDwalletId]
          exact told _ _ (answered.within dwallets) key rfl

theorem Fits.later {row other : SignRequest} {presign later : Presign} (fits : Fits config row presign)
    (same : SameRequest row other) (bucket : SameBucket presign later) : Fits config other later where
  network := by rw [bucket.network, same.network, fits.network]
  curve := by rw [bucket.curve, same.curve, fits.curve]
  signatureAlgorithm := by rw [bucket.signatureAlgorithm, same.signatureAlgorithm, fits.signatureAlgorithm]
  networkEncryptionKeyId := by
    rw [bucket.networkEncryptionKeyId, same.suiDwalletId, fits.networkEncryptionKeyId]

/-- A presign that fits does so after an operation. -/
theorem fits_after (executed : exec config index op env world = some (answer, after)) {presignId : Uuid}
    {old row : SignRequest} (same : SameRequest old row)
    (fits : ∃ presign, world.sign.presigns.get presignId = some presign ∧ Fits config old presign) :
    ∃ presign, after.sign.presigns.get presignId = some presign ∧ Fits config row presign := by
  obtain ⟨presign, found, fits⟩ := fits
  obtain ⟨later, there, bucket⟩ := (grows_exec executed).presigns presignId presign found
  exact ⟨later, there, fits.later same bucket⟩

/-- The presign a prepare stores in its row is one its dwallet can use. -/
theorem fits_of_setPresign {calls : Nat → Option ServiceThread} {thread : ServiceThread} {id presignId : Uuid}
    {row : SignRequest} (booked : Booked world calls) (found : calls index = some thread)
    (told : ∀ op answer, Heard thread.history op answer → PresignFact config world op answer)
    (before : (sources config thread.tag).before thread.history (.inl (.sign (.setPresign id presignId))))
    (held : world.sign.signRequests.get id = some row) :
    ∃ presign, world.sign.presigns.get presignId = some presign ∧ Fits config row presign := by
  obtain ⟨own, past, tag, history, args, dw, bucket, rfl, chosen, drawn, claimed, network, curve, algorithm, knows⟩ :=
    sourced_sign before
  have read := booked.backed index thread found
  have drew : Drew thread id := by
    rw [Drew, history]
    exact drawn.within signing
  obtain ⟨user, net, scheme, dwallet, chosenRow, sui, same⟩ := booked.registry.own index thread args id row found tag drew held
  rw [history] at read told
  obtain ⟨⟨named, listed, there, alike⟩, _⟩ := read _ _ (Heard.within chosen signing) dw rfl
  obtain ⟨bound, held, key⟩ := bound_of_knows read told knows
  obtain ⟨presign, stored, presignNetwork, presignCurve, presignAlgorithm, presignNek⟩ :=
    told _ _ (claimed.within signing) presignId rfl
  rw [chosenRow] at there
  cases there
  rw [named, chosenRow] at held
  cases held
  refine ⟨presign, stored, ?_, ?_, ?_, ?_⟩
  · rw [presignNetwork, network, net]
  · rw [presignCurve, curve, same, alike.curve]
  · rw [presignAlgorithm, algorithm, scheme]
  · rw [presignNek, sui, key]

end Step

/-! ### Every run -/

structure Matched (config : Config) (world : World) (calls : Nat → Option ServiceThread) : Prop where
  booked : Booked world calls
  compatible : Compatible config world
  told : Machine.Backed (PresignFact config) world calls

theorem matched_follows (config : Config) : Follows config (Matched config) where
  jobs jobs matched := by
    refine ⟨(booked_follows config).jobs jobs matched.booked, ⟨?_, matched.compatible.dwallets⟩,
      Backed.jobs matched.told PresignFact.later jobs⟩
    exact matched.compatible.rows
  replace matched echoes := ⟨(booked_follows config).replace matched.booked echoes, matched.compatible,
    matched.told.replace echoes (fun _ _ => id)⟩
  act {system index env thread op answer rest after} matched act := by
    have read := matched.booked.backed index thread act.found
    have told := matched.told index thread act.found
    refine ⟨(booked_follows config).act matched.booked act, ⟨?_, ?_⟩,
      matched.told.resume act.found (fun _ _ => PresignFact.later (grows_exec act.executed))
        (presignFact_of_exec matched.compatible act.executed)⟩
    · intro id row presignId found holds
      have executed : exec config index op env system.world = some (answer, after) := act.executed
      rcases request_of_exec executed found with kept | ⟨new, rfl, rfl, rfl⟩ | ⟨old, statement, rfl, early, change⟩
      · exact fits_after executed (.refl row) (matched.compatible.rows id row presignId kept holds)
      · cases holds
      · rcases change.presignId with same | ⟨stored, rfl, same⟩
        · exact fits_after executed (sameRequest_of_change change) (matched.compatible.rows id old presignId early (same ▸ holds))
        · rw [same] at holds
          cases holds
          rw [← Table.key_of_get early] at early
          exact fits_after executed (sameRequest_of_change change)
            (fits_of_setPresign matched.booked act.found told act.before early)
    · intro id dw found
      exact dwallets_of_exec matched.compatible act.executed act.before read told found

/-- However the calls are interleaved, a sign request that has a presign has one of its network,
curve and algorithm, under the key the coordinator bound its dwallet to. -/
theorem presigns_fit (config : Config) (initial system : ServiceSystem) (idle : initial.threads = [])
    (undrawn : ∀ row ∈ initial.world.sign.signRequests.rows, row.id < initial.world.sign.nextId)
    (compatible : Compatible config initial.world) (reached : (machine config).Reaches initial system) :
    ∀ row ∈ system.world.sign.signRequests.rows, ∀ presignId ∈ row.presignId,
      ∃ presign ∈ system.world.sign.presigns.rows, presign.id = presignId ∧ presign.network = row.network ∧
        presign.curve = row.curve ∧ presign.signatureAlgorithm = row.signatureAlgorithm ∧
        config.boundNek row.suiDwalletId = some presign.networkEncryptionKeyId := by
  have start : Matched config initial.world initial.calls := by
    refine ⟨booked_of_idle idle undrawn, compatible, fun index thread found => ?_⟩
    rw [System.calls, idle] at found
    cases found
  obtain ⟨_, matched⟩ := (matched_follows config).reaches idle start reached
  intro row member presignId holds
  obtain ⟨presign, found, fits⟩ := matched.compatible.rows row.id row presignId (Table.get_of_mem member) holds
  exact ⟨presign, Table.mem_of_get found, Table.key_of_get found, fits.network, fits.curve, fits.signatureAlgorithm,
    fits.networkEncryptionKeyId⟩

/-! ### A dwallet without a stored key -/

/-- An accepted dwallet whose key could not be read then, and a ready presign. -/
def signStart : ServiceSystem where
  threads := []
  world := {
    sign := { Sign.sampleStart.world with
      dwallets := ⟨[⟨1, 1, some 1, "testnet", "0xdwallet", 0, "0xother", none, "zero_trust", .active, "dkg",
        some "accept"⟩], by simp⟩ }
    keys := .empty _
    chain := ⟨[], [], [], []⟩
    stored := [⟨"0xdwallet", "0xaccount"⟩] }

/-- The prepare asks the coordinator for the key, while the sweep and the promotion run. -/
def keyless : List (Event Env Call) :=
  .start (.inl (Sign.samplePrepare "first" [7])) :: .start (.inl (.sweepExpired 300)) :: .start (.inl .promotePending) ::
    steps 0 9 calm ++ steps 1 3 calm ++ steps 2 1 calm ++ steps 0 7 calm

def Holds (presignId : Uuid) (system : ServiceSystem) : Prop :=
  ∃ row ∈ system.world.sign.signRequests.rows, row.presignId = some presignId

instance (presignId : Uuid) (system : ServiceSystem) : Decidable (Holds presignId system) := by
  unfold Holds
  infer_instance

theorem compatible_signStart : Compatible sampleConfig signStart.world where
  rows id row presignId found := by cases found
  dwallets id dw found := by
    have member := Table.mem_of_get found
    rw [show signStart.world.sign.dwallets.rows = [_] from rfl, List.mem_singleton] at member
    rw [member]
    exact fun nek absurd_ => nomatch absurd_

theorem presigns_fit_sample : ∃ system, (machine sampleConfig).Reaches signStart system ∧ Holds 2 system ∧
    ∀ row ∈ system.world.sign.signRequests.rows, ∀ presignId ∈ row.presignId,
      ∃ presign ∈ system.world.sign.presigns.rows, presign.id = presignId ∧ presign.network = row.network ∧
        presign.curve = row.curve ∧ presign.signatureAlgorithm = row.signatureAlgorithm ∧
        sampleConfig.boundNek row.suiDwalletId = some presign.networkEncryptionKeyId := by
  obtain ⟨system, reached, holds⟩ : ∃ system, (machine sampleConfig).Reaches signStart system ∧ Holds 2 system :=
    Machine.exists_reaches keyless (by decide +kernel)
  exact ⟨system, reached, holds,
    presigns_fit sampleConfig signStart system rfl (fun row member => nomatch member) compatible_signStart reached⟩

end MpcKit.Services
