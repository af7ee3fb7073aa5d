import MpcKit.Auth.SingleUse

/-! What the message behind a session has in common with a message this server issued. -/

namespace MpcKit.Siws
open MpcKit.Backend MpcKit.Async

/-- A nonce request for the address that a body claims has returned this nonce and message. -/
def Returned (config : Config) (calls : Nat → Option SiwsThread) (address : String) (nonce : Uuid) (message : String) : Prop :=
  Machine.Someone calls (fun thread => (∃ claimed, thread.tag = .nonce claimed ∧
    config.normalizeSuiAddress claimed = config.normalizeSuiAddress address) ∧
      thread.program.outcome = some (.ok (.nonce nonce message)))

/-- Every session was minted for a message that the server returned for the same address. -/
def FromIssuedMessage (config : Config) (system : SiwsSystem) : Prop :=
  ∀ session ∈ system.world.sessions, ∀ thread body, system.calls session.call = some thread → thread.tag = .verify body →
    ∃ nonce, Returned config system.calls body.address nonce body.message

/-! ### The reply of a nonce request -/

/-- A nonce request that returns has stored the nonce it returns, and the message names the server,
the address and the nonce. -/
def Answered (config : Config) : Call → Stage → Except SiwsError Reply → Prop
  | .nonce address, stage, .ok reply => ∃ nonce issuedAt,
      stage = .issued (identifierFor (config.normalizeSuiAddress address)) nonce ∧
      reply = .nonce nonce (buildSiwsMessage (config.normalizeSuiAddress address) config.host (nonceText nonce) issuedAt)
  | _, _, _ => True

variable {config : Config}

theorem nonce_answers (address : String) :
    (order config (.nonce address)).Follows .idle (getSiwsNonce config address) (Answered config (.nonce address)) := by
  refine .perform (.draw address) (fun nonce _ => .perform (.nonceNow address nonce) (fun now _ => ?_))
  refine .perform (.create address nonce _) (fun result _ => .unwrap (fun _ same => ?_) (fun _ _ => trivial))
  subst same
  exact .perform (.isoNow address _ nonce) (fun issuedAt _ => .ret ⟨nonce, issuedAt, rfl, rfl⟩)

def answering (config : Config) (call : Call) : Contract Op Res SiwsError Reply :=
  (order config call).contract (Answered config call)

theorem answering_honours : (machine config).Honours (answering config) where
  programs call := by
    cases call with
    | nonce address => exact (nonce_answers address).obeys
    | verify body => exact ((verify_follows body).mono (fun _ _ _ => trivial)).obeys
  answers _ _ := trivial

/-- What a nonce request has returned, on every run. -/
theorem answered_of_run {initial system : SiwsSystem} (idle : initial.threads = [])
    (run : (machine config).Reaches initial system) {index : Nat} {thread : SiwsThread}
    (found : system.calls index = some thread) {result : Except SiwsError Reply} (ended : thread.program.outcome = some result) :
    Answered config thread.tag (stage config thread) result := by
  have kept : Machine.Kept (answering config) initial := by
    intro index thread found
    rw [idle] at found
    cases found
  have tracked := run.tracked answering_honours (fun _ _ => True) kept trivial (fun _ _ _ _ => trivial)
  exact (tracked.1 index thread found).of_outcome ended

/-! ### What a session is bound to -/

/-- The request that stored this row for an address. Whatever it returns is the nonce of the row and the
message with this server's host, the address and the nonce. -/
structure Issuer (config : Config) (address : String) (row : Verification) (thread : SiwsThread) : Prop where
  asked : ∃ claimed, thread.tag = .nonce claimed ∧
    config.normalizeSuiAddress claimed = config.normalizeSuiAddress address ∧
    Stored config thread.history claimed row
  replied : ∀ reply, thread.program.outcome = some (.ok reply) → ∃ issuedAt, reply = .nonce row.value
    (buildSiwsMessage (config.normalizeSuiAddress address) config.host (nonceText row.value) issuedAt)

/-- Every session was minted by a request that found a nonce of its address unexpired at the time it read,
and contained in the message that the address signed. -/
def BoundToNonce (config : Config) (system : SiwsSystem) : Prop :=
  ∀ session ∈ system.world.sessions, ∃ (thread : SiwsThread) (body : VerifyBody) (verification : Verification),
    system.calls session.call = some thread ∧ Mints config system.world thread session body verification ∧
      Machine.Someone system.calls (Issuer config body.address verification)

/-- Once a row is stored, the request that stored it returns its nonce. -/
theorem Linked.issuer {system : SiwsSystem} (linked : Linked config system.world system.calls)
    (replies : ∀ index thread result, system.calls index = some thread → thread.program.outcome = some result →
      Answered config thread.tag (stage config thread) result) {address : String} {row : Verification}
    (issued : Machine.Someone system.calls (fun thread => ∃ claimed, thread.tag = .nonce claimed ∧
      config.normalizeSuiAddress claimed = config.normalizeSuiAddress address ∧
      Stored config thread.history claimed row)) :
    Machine.Someone system.calls (Issuer config address row) := by
  obtain ⟨index, thread, found, claimed, tag, same, stored⟩ := issued
  refine ⟨index, thread, found, ⟨claimed, tag, same, stored⟩, ?_⟩
  intro reply ended
  have answered := replies index thread _ found ended
  rw [tag] at answered
  obtain ⟨nonce, issuedAt, stands, replied⟩ := answered
  rw [linked.stored index thread found _ _ _ stored.created] at stands
  obtain ⟨_, value⟩ := Stage.issued.inj stands
  exact ⟨issuedAt, by rw [replied, same, value]⟩

/-- A session takes a signature of its address over a message that contains a nonce issued to it. -/
theorem bound_to_nonce (config : Config) (initial system : SiwsSystem) (idle : initial.threads = [])
    (blank : initial.world.verifications = []) (unused : initial.world.sessions = [])
    (run : (machine config).Reaches initial system) : BoundToNonce config system := by
  intro session there
  obtain ⟨⟨body, verification⟩, earned⟩ := (sourced_of_run idle blank unused run).earned there
  obtain ⟨thread, found, mints⟩ := earned.minted
  refine ⟨thread, body, verification, found, mints, ?_⟩
  apply (linked_of_run idle unused run).issuer
  · exact fun _ _ _ found ended => answered_of_run idle run found ended
  · exact earned.issued

theorem bound_to_nonce_sample : ∃ system, (machine sampleConfig).Reaches emptySystem system ∧ SignedIn system ∧
    BoundToNonce sampleConfig system := by
  obtain ⟨system, reached, signed⟩ : ∃ system, (machine sampleConfig).Reaches emptySystem system ∧ SignedIn system :=
    Machine.exists_reaches oneSignIn (by decide +kernel)
  exact ⟨system, reached, signed, bound_to_nonce sampleConfig emptySystem system rfl rfl rfl reached⟩

/-! ### A relayed statement -/

/-- An address signs whatever it is asked to. -/
def signingConfig : Config :=
  ⟨fun address => address, fun message signature address => signature = s!"{address} signs {message}", "mpckit.xyz"⟩

/-- Another site shows its own statement, with a nonce it asked this server for. -/
def relayed : String := s!"evil.example wants you to sign in\nNonce: {nonceText 0}"

def relayBody : VerifyBody := ⟨"0xa", relayed, s!"0xa signs {relayed}"⟩

def relaySteps : List (Event Env Call) := .start (.nonce "0xa") :: steps 0 4 ++ .start (.verify relayBody) :: steps 1 8

def Reply.isMessage (message : String) : Reply → Bool
  | .nonce _ returned => returned = message
  | .verified _ _ _ => false

/-- A session for a message that no request has returned. -/
def Unissued (system : SiwsSystem) : Prop := ∃ session ∈ system.world.sessions, ∃ thread ∈ system.calls session.call,
  thread.tag = .verify relayBody ∧ ∀ other ∈ system.threads, ∀ result ∈ other.program.outcome,
    ∀ reply ∈ result.toOption, reply.isMessage relayed = false

instance (system : SiwsSystem) : Decidable (Unissued system) := by
  unfold Unissued
  infer_instance

theorem Unissued.not_fromIssuedMessage {system : SiwsSystem} (unissued : Unissued system) :
    ¬FromIssuedMessage config system := by
  intro issued
  obtain ⟨session, there, thread, found, tag, never⟩ := unissued
  obtain ⟨nonce, index, other, known, _, returned⟩ := issued session there thread relayBody found tag
  have absent := never other (List.mem_of_getElem? known) _ returned _ rfl
  simp [Reply.isMessage, relayBody] at absent

/-- A statement that names another site is signed, relayed and accepted. -/
theorem not_from_issued_message : ∃ system, (machine signingConfig).Reaches emptySystem system ∧
    ¬FromIssuedMessage signingConfig system := by
  obtain ⟨system, reached, unissued⟩ : ∃ system, (machine signingConfig).Reaches emptySystem system ∧
      Unissued system := Machine.exists_reaches relaySteps (by decide +kernel)
  exact ⟨system, reached, unissued.not_fromIssuedMessage⟩

end MpcKit.Siws
