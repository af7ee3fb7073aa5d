import MpcKit.Core.Replay

/-! Rosters stay usable: the threshold can be met, the number of members is bounded, and every
member is an id that some credential has. -/

namespace MpcKit.Core
open MpcKit.Transact

variable {c : Coordinator}

/-- What holds of the bookkeeping of every shared wallet. -/
structure StoredSharedDWallet.Sound (stored : StoredSharedDWallet c) : Prop where
  positive : 1 ≤ stored.threshold.toNat
  reachable : stored.threshold.toNat ≤ stored.credentials.length
  bounded : stored.credentials.length ≤ 16
  distinct : stored.credentials.contents.Nodup
  shaped : ∀ id ∈ stored.credentials.contents, IdShape id

/-! ### The initial roster -/

theorem insertEach_eq_ok {popped : List NewCredential} {set roster : VecSet Bytes}
    (built : Account.insertEach popped set = .ok roster) :
    roster.contents = set.contents ++ popped.map auth.newCredentialIdBytes ∧
      ∀ credential ∈ popped, IdShape (auth.newCredentialIdBytes credential) := by
  induction popped generalizing set with
  | nil =>
    simp only [Account.insertEach, pure_eq_ok] at built
    simp [built]
  | cons credential rest ih =>
    simp only [Account.insertEach, bind_eq_ok, assert_eq_ok, exists_const, auth.insertCredential,
      VecSet.insert_eq_ok] at built
    obtain ⟨_, checked, _, grown, ⟨_, contents⟩, later⟩ := built
    obtain ⟨all, shapes⟩ := ih later
    refine ⟨by simp [all, contents], ?_⟩
    intro other inside
    rcases List.mem_cons.mp inside with rfl | inside
    · exact idShape_of_assertPubkeyLength checked
    · exact shapes other inside

theorem sound_of_built {creds : List NewCredential} {threshold : UInt64} {roster : VecSet Bytes}
    (built : Account.buildInitialRoster creds threshold = .ok roster) (id : ID) (cap : c.DWalletCap) (nonce : UInt64) :
    StoredSharedDWallet.Sound ⟨id, cap, roster, threshold, nonce⟩ := by
  simp only [Account.buildInitialRoster, bind_eq_ok, assert_eq_ok, exists_const] at built
  obtain ⟨_, few, positive, within, inserted⟩ := built
  obtain ⟨contents, shapes⟩ := insertEach_eq_ok inserted
  have count : roster.length = creds.length := by
    simp [VecSet.length, contents]
  refine ⟨positive, ?_, ?_, roster.nodup, ?_⟩
  · exact within.trans_eq count.symm
  · exact count.trans_le few
  · intro member inside
    change member ∈ roster.contents at inside
    simp only [contents, VecSet.contents_empty, List.nil_append, List.mem_map, List.mem_reverse] at inside
    obtain ⟨credential, given, rfl⟩ := inside
    exact shapes credential (List.mem_reverse.mpr given)

/-! ### Operations -/

theorem StoredSharedDWallet.Sound.congr {before after : StoredSharedDWallet c} (sound : before.Sound)
    (credentials : after.credentials = before.credentials) (threshold : after.threshold = before.threshold) :
    after.Sound := by
  refine ⟨?_, ?_, ?_, ?_, ?_⟩
  · exact threshold ▸ sound.positive
  · rw [credentials, threshold]
    exact sound.reachable
  · exact credentials ▸ sound.bounded
  · exact after.credentials.nodup
  · exact credentials ▸ sound.shaped

theorem RosterChange.sound {before after : StoredSharedDWallet c} {op : SharedOp} (sound : before.Sound)
    (change : RosterChange before after op) : after.Sound := by
  cases op with
  | addCredential id =>
    obtain ⟨shape, room, _, contents, threshold⟩ := change
    have count : after.credentials.length = before.credentials.length + 1 := by
      simp [VecSet.length, contents]
    refine ⟨threshold ▸ sound.positive, ?_, ?_, after.credentials.nodup, ?_⟩
    · rw [threshold, count]
      exact sound.reachable.trans (Nat.le_succ _)
    · rw [count]
      exact room
    · intro member inside
      rw [contents, List.mem_append, List.mem_singleton] at inside
      rcases inside with old | rfl
      · exact sound.shaped member old
      · exact shape
  | removeCredential id =>
    obtain ⟨_, above, removed, threshold⟩ := change
    have count := VecSet.length_of_remove removed
    refine ⟨threshold ▸ sound.positive, ?_, ?_, after.credentials.nodup, ?_⟩
    · rw [threshold, count]
      omega
    · rw [count]
      exact (Nat.sub_le _ _).trans sound.bounded
    · intro other inside
      exact sound.shaped other (VecSet.mem_of_remove removed inside)
  | setThreshold threshold =>
    obtain ⟨positive, within, credentials, same⟩ := change
    refine ⟨same ▸ positive, ?_, ?_, after.credentials.nodup, ?_⟩
    · rw [same, credentials]
      exact within
    · exact credentials ▸ sound.bounded
    · exact credentials ▸ sound.shaped
  | requestSign => exact sound.congr change.1 change.2
  | requestFutureSign => exact sound.congr change.1 change.2
  | completeFutureSign => exact sound.congr change.1 change.2

/-- Ids are distinct and every roster is sound. -/
structure Chain.Sound (chain : Chain c) : Prop where
  distinct : chain.Distinct
  wrapper : ∀ {accountId dwalletId : ID} {stored : StoredSharedDWallet c},
    chain.wrapper accountId dwalletId = some stored → stored.Sound

section
variable {natives : Natives} {chain after : Chain c} {receipt : Receipt c} {input : Tx × Call c}

theorem WrapperChange.sound {tx : Tx} {signers : List Credential} {accountId dwalletId : ID}
    {label : Option (ID × ID × SharedOp)}
    {events : List (Event c)} {before : Option (StoredSharedDWallet c)} {stored : StoredSharedDWallet c}
    (change : WrapperChange natives tx signers accountId dwalletId label events before (some stored))
    (sound : ∀ old, before = some old → old.Sound) : stored.Sound := by
  generalize later : some stored = final at change
  cases change with
  | same => exact sound stored later.symm
  | operated operates =>
    cases later
    exact operates.roster.sound (sound _ rfl)
  | created own built =>
    cases later
    exact sound_of_built built _ _ _

theorem Chain.Sound.exec (sound : chain.Sound) (done : chain.exec natives input = .ok (receipt, after)) :
    after.Sound := by
  refine ⟨sound.distinct.exec done, ?_⟩
  intro accountId dwalletId stored found
  have change := wrapper_change sound.distinct done accountId dwalletId
  rw [found] at change
  exact change.sound fun old stood => sound.wrapper stood

theorem Chain.genesis_sound (state : c.State) (admin operator : ID) : (Chain.genesis state admin operator).Sound := by
  refine ⟨genesis_distinct state admin operator, ?_⟩
  intro _ _ _ found
  cases found

end

/-! ### Members that can sign -/

/-- The key has the length of its scheme. -/
def Credential.WellFormed : Credential → Prop
  | .ed25519 _ key => key.length = 32
  | .secp256k1 _ key => key.length = 33
  | .secp256r1 _ key => key.length = 33
  | .webAuthn passkey => passkey.publicKey.length = 33
  | .senderAddress _ => True

theorem exists_credential {id : Bytes} (shape : IdShape id) :
    ∃ credential : Credential, credential.id = id ∧ credential.WellFormed := by
  cases id with
  | nil => exact shape.elim
  | cons scheme key =>
    rcases shape with ⟨scheme_eq, length⟩ | ⟨scheme_eq, length⟩
    · simp only [List.mem_cons, List.not_mem_nil, or_false] at scheme_eq
      rcases scheme_eq with rfl | rfl
      · exact ⟨.ed25519 [] key, rfl, length⟩
      · exact ⟨.senderAddress ⟨key, length⟩, rfl, trivial⟩
    · simp only [List.mem_cons, List.not_mem_nil, or_false] at scheme_eq
      rcases scheme_eq with rfl | rfl | rfl
      · exact ⟨.secp256k1 [] key, rfl, length⟩
      · exact ⟨.secp256r1 [] key, rfl, length⟩
      · exact ⟨.webAuthn ⟨key, [], [], []⟩, rfl, length⟩

theorem exists_credentials {ids : List Bytes} (shaped : ∀ id ∈ ids, IdShape id) :
    ∃ creds : List Credential, creds.map Credential.id = ids ∧ ∀ credential ∈ creds, credential.WellFormed := by
  induction ids with
  | nil => exact ⟨[], rfl, by simp⟩
  | cons id rest ih =>
    obtain ⟨creds, same, formed⟩ := ih fun other inside => shaped other (List.mem_cons_of_mem _ inside)
    obtain ⟨credential, rfl, fine⟩ := exists_credential (shaped id List.mem_cons_self)
    refine ⟨credential :: creds, by simp [same], ?_⟩
    intro other inside
    rcases List.mem_cons.mp inside with rfl | inside
    · exact fine
    · exact formed other inside

/-- As many well-formed credentials of different members as the threshold asks for. -/
theorem StoredSharedDWallet.Sound.exists_signers {stored : StoredSharedDWallet c} (sound : stored.Sound) :
    ∃ creds : List Credential, creds.length = stored.threshold.toNat ∧ (creds.map Credential.id).Nodup ∧
      ∀ credential ∈ creds, credential.id ∈ stored.credentials.contents ∧ credential.WellFormed := by
  have part : (stored.credentials.contents.take stored.threshold.toNat).Sublist stored.credentials.contents :=
    List.take_sublist _ _
  obtain ⟨creds, same, formed⟩ := exists_credentials fun id inside => sound.shaped id (part.mem inside)
  refine ⟨creds, ?_, ?_, ?_⟩
  · have count := congrArg List.length same
    rw [List.length_map, List.length_take] at count
    exact count.trans (Nat.min_eq_left sound.reachable)
  · rw [same]
    exact sound.distinct.sublist part
  · intro credential inside
    refine ⟨part.mem ?_, formed credential inside⟩
    rw [← same]
    exact List.mem_map_of_mem inside

/-- Every shared wallet that calls of the package can produce has a sound roster, each entry of
which some well-formed credential matches, and enough of them for its threshold. -/
theorem roster_sound (natives : Natives) (state : c.State) (admin operator : ID) (inputs : List (Tx × Call c))
    (accountId dwalletId : ID) (stored : StoredSharedDWallet c)
    (found : (final (Chain.exec natives) (Chain.genesis state admin operator) inputs).wrapper accountId dwalletId =
      some stored) :
    (1 ≤ stored.threshold.toNat ∧ stored.threshold.toNat ≤ stored.credentials.length ∧
      stored.credentials.length ≤ 16) ∧ stored.credentials.contents.Nodup ∧
      (∀ id ∈ stored.credentials.contents, IdShape id ∧
        ∃ credential : Credential, credential.id = id ∧ credential.WellFormed) ∧
      ∃ creds : List Credential, creds.length = stored.threshold.toNat ∧ (creds.map Credential.id).Nodup ∧
        ∀ credential ∈ creds, credential.id ∈ stored.credentials.contents ∧ credential.WellFormed := by
  have kept : (final (Chain.exec natives) (Chain.genesis state admin operator) inputs).Sound :=
    final_invariant Chain.Sound.exec (Chain.genesis_sound state admin operator) inputs
  have sound := kept.wrapper found
  refine ⟨⟨sound.positive, sound.reachable, sound.bounded⟩, sound.distinct, ?_, sound.exists_signers⟩
  intro id inside
  exact ⟨sound.shaped id inside, exists_credential (sound.shaped id inside)⟩

/-- An account with a shared wallet of two members that both have to agree. -/
def sample.creation {c : Coordinator} : List (Tx × Call c) :=
  [(⟨⟨sender⟩, address 20, address 21⟩, .registerAccount (address 9)),
    (⟨⟨sender⟩, address 22, address 23⟩, .requestDkgShared (address 9) (address 20)
      ⟨address 40, 0, [], [], [], [.senderAddress sender, .ed25519 auth.sample.edKey], 2, [1]⟩ ⟨5, 6⟩)]

theorem roster_sound_sample :
    ∃ stored, (final (Chain.exec sample.natives) sample.genesis sample.creation).wrapper (sample.address 20)
        (sample.address 100) = some stored ∧ stored.credentials.length = 2 ∧
      stored.threshold.toNat ≤ stored.credentials.length := by
  have created : ((final (Chain.exec sample.natives) sample.genesis sample.creation).wrapper (sample.address 20)
      (sample.address 100)).map (fun stored => stored.credentials.length) = some 2 := by
    decide +kernel
  obtain ⟨stored, found, two⟩ := Option.map_eq_some_iff.mp created
  exact ⟨stored, found, two, (roster_sound _ _ _ _ _ _ _ stored found).1.2.1⟩

end MpcKit.Core
