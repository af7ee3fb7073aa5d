import MpcKit.Sign.Sources

/-! What a submit call stores of its inputs, and what stands behind the signature a worker stores:
the row it read, the transaction it submitted for it and the coordinator's answer. -/

namespace MpcKit.Sign
open MpcKit.Backend MpcKit.Async
open MpcKit.Billing (ChargeArgs RefundArgs BillingCharge)
open Program (fold rescue unwrap only_perform only_unwrap Only Shows shows_unwrap)

/-! ### Hex text, there and back -/

theorem hexValue_hexDigit : ∀ value < 16, hexValue (hexDigits.getD value '0') = some value := by decide

theorem hexDigit_ne (value : Nat) : hexDigits.getD value '0' ≠ 'x' := by
  by_cases small : value < 16
  · have all : ∀ value < 16, hexDigits.getD value '0' ≠ 'x' := by decide
    exact all value small
  · rw [List.getD_eq_default _ _ (Nat.not_lt.mp small)]
    decide

def hexPair (byte : UInt8) : List Char := [hexDigits.getD (byte.toNat / 16) '0', hexDigits.getD (byte.toNat % 16) '0']

theorem toList_toHex (bytes : Bytes) : (toHex bytes).toList = bytes.flatMap hexPair := by
  unfold toHex
  rw [String.toList_ofList]
  rfl

theorem parseHex_hexPairs (bytes : Bytes) : parseHex (bytes.flatMap hexPair) = some bytes := by
  induction bytes with
  | nil => rfl
  | cons byte bytes ih =>
    have bound := byte.toNat_lt
    have high : hexValue (hexDigits.getD (byte.toNat / 16) '0') = some (byte.toNat / 16) := hexValue_hexDigit _ (by omega)
    have low : hexValue (hexDigits.getD (byte.toNat % 16) '0') = some (byte.toNat % 16) := hexValue_hexDigit _ (by omega)
    have whole : byte.toNat / 16 * 16 + byte.toNat % 16 = byte.toNat := by omega
    simp only [List.flatMap_cons, hexPair, List.cons_append, List.nil_append, parseHex, high, low]
    rw [ih]
    change some (UInt8.ofNat (byte.toNat / 16 * 16 + byte.toNat % 16) :: bytes) = some (byte :: bytes)
    rw [whole, UInt8.ofNat_toNat]

theorem fromHex_toHex (bytes : Bytes) : fromHex (toHex bytes) = .ok bytes := by
  have bare : (toHex bytes).startsWith "0x" = false := by
    apply Bool.eq_false_iff.mpr
    intro starts
    rw [String.startsWith_string_iff, toList_toHex] at starts
    have inside : 'x' ∈ bytes.flatMap hexPair := starts.subset (by decide)
    obtain ⟨byte, _, digit⟩ := List.mem_flatMap.mp inside
    simp only [hexPair, List.mem_cons, List.not_mem_nil, or_false] at digit
    cases digit with
    | inl high => exact hexDigit_ne _ high.symm
    | inr low => exact hexDigit_ne _ low.symm
  simp only [fromHex, bare, Bool.false_eq_true, if_false, toList_toHex, parseHex_hexPairs]

/-! ### The evidence -/

/-- A sign PTB carries what the row asks for and the inputs it holds. -/
structure SignZeroTrust.For (tx : SignZeroTrust) (row : SignRequest) : Prop where
  network : tx.network = row.network
  dwalletId : tx.dwalletId = row.suiDwalletId
  signatureAlgorithm : tx.signatureAlgorithm = row.signatureAlgorithm
  hashScheme : tx.hashScheme = row.hashScheme
  message : fromHex row.messageHex = .ok tx.message
  centralized : ∃ text, row.messageCentralizedSignatureHex = some text ∧ fromHex text = .ok tx.messageCentralizedSignature
  session : ∃ text, row.sessionIdentifierHex = some text ∧ fromHex text = .ok tx.sessionIdentifierBytes

/-- The arguments of the PTB for a row. -/
def SignRequest.order (row : SignRequest) (accountId coordinatorId cap : ObjectId)
    (message messageCentralizedSignature sessionIdentifierBytes : Bytes) : SignZeroTrust where
  network := row.network
  accountId := accountId
  coordinatorId := coordinatorId
  dwalletId := row.suiDwalletId
  presignCapId := cap
  signatureAlgorithm := row.signatureAlgorithm
  hashScheme := row.hashScheme
  message := message
  messageCentralizedSignature := messageCentralizedSignature
  sessionIdentifierBytes := sessionIdentifierBytes

section Evidence

variable (heard : (op : Op) → Res op → Prop) (id : Uuid) (row : SignRequest) (tx : SignZeroTrust)

/-- The row was read, and the transaction is for it, with the cap of its presign. -/
structure Built : Prop where
  read : heard (.sign (.select id)) (some row)
  cap : ∃ presign, row.presignId = some presign.id ∧ heard (.presign (.select presign.id)) (some presign) ∧
    tx.presignCapId = presign.suiObjectId
  carries : tx.For row

/-- The transaction was executed. -/
structure Submitted (executed : ExecutedTx) : Prop where
  built : Built heard id row tx
  sent : heard (.chain (.execute tx)) (.ok executed)

/-- The transaction announced a session, for which the coordinator answered with the signature. -/
inductive Signed (text : String) : Prop where
  | mk (executed : ExecutedTx) (session : String) (signature : Bytes) (submitted : Submitted heard id row tx executed)
      (announced : extractSignId executed = some session)
      (answered : heard (.chain (.getSign row.network session)) (.ok (some signature)))
      (same : text = toHex signature) : Signed text

end Evidence

theorem Built.mono {heard later : (op : Op) → Res op → Prop} {id : Uuid} {row : SignRequest} {tx : SignZeroTrust}
    (built : Built heard id row tx) (grown : ∀ op answer, heard op answer → later op answer) : Built later id row tx where
  read := grown _ _ built.read
  cap := by
    obtain ⟨presign, held, read, same⟩ := built.cap
    exact ⟨presign, held, grown _ _ read, same⟩
  carries := built.carries

theorem Submitted.mono {heard later : (op : Op) → Res op → Prop} {id : Uuid} {row : SignRequest} {tx : SignZeroTrust}
    {executed : ExecutedTx} (submitted : Submitted heard id row tx executed)
    (grown : ∀ op answer, heard op answer → later op answer) : Submitted later id row tx executed where
  built := submitted.built.mono grown
  sent := grown _ _ submitted.sent

theorem Signed.mono {heard later : (op : Op) → Res op → Prop} {id : Uuid} {row : SignRequest} {tx : SignZeroTrust}
    {text : String} (signed : Signed heard id row tx text) (grown : ∀ op answer, heard op answer → later op answer) :
    Signed later id row tx text := by
  cases signed with
  | mk executed session signature submitted announced answered same =>
    exact ⟨executed, session, signature, submitted.mono grown, announced, grown _ _ answered, same⟩

def SignOp.Traced (call : Call) (history : History Op Sign.Res) : SignOp → Prop
  | .setQueued id signature session => ∃ args row, call = .submit args ∧ id = args.signRequestId ∧
      Heard history (.sign (.selectOwned id args.userId args.network)) (some row) ∧
      signature = toHex args.messageCentralizedSignature ∧ session = toHex args.sessionIdentifierBytes
  | .setCompleted id text => ∃ job row tx, call = .process id job ∧ Signed (Heard history) id row tx text
  | _ => True

def Traced (call : Call) (history : History Op Res) : Op → Prop
  | .sign op => op.Traced call history
  | .chain (.execute tx) => ∃ id job row, call = .process id job ∧ Built (Heard history) id row tx
  | _ => True

def traced (call : Call) : Contract Op Res Thrown Reply where
  answers := Answers
  before := Traced call
  after _ _ := True

/-! ### What stores neither and sends nothing -/

def Op.Aside : Op → Prop
  | .sign (.setQueued _ _ _) => False
  | .sign (.setCompleted _ _) => False
  | .chain (.execute _) => False
  | _ => True

/-- It names no presign either. -/
def Op.Bare : Op → Prop
  | .sign (.setPresign _ _) => False
  | op => op.Aside

theorem Op.Bare.aside {op : Op} (bare : op.Bare) : op.Aside := by
  cases op with
  | sign op => cases op <;> first | exact bare | trivial
  | _ => exact bare

theorem Op.Plain.bare {op : Op} (plain : op.Plain) : op.Bare := by
  cases op with
  | sign op => cases op <;> trivial
  | chain op => cases op <;> trivial
  | _ => trivial

theorem Op.Aside.traced {op : Op} (aside : op.Aside) (call : Call) (history : History Op Res) : Traced call history op := by
  cases op with
  | sign op => cases op <;> trivial
  | chain op =>
    cases op with
    | execute tx => exact False.elim aside
    | _ => trivial
  | _ => trivial

section Walks

variable {config : Config} {call : Call} {history : History Op Res}

theorem shows_aside {α : Type} {program : Prog α} (aside : program.Only Op.Aside) :
    program.Shows (traced call) history (fun _ _ => True) :=
  aside.shows (fun later _ there => there.traced call later)

theorem bare_of_plain {α : Type} {program : Prog α} (plain : program.Only Op.Plain) : program.Only Op.Bare :=
  plain.mono (fun _ there => there.bare)

theorem aside_of_bare {α : Type} {program : Prog α} (bare : program.Only Op.Bare) : program.Only Op.Aside :=
  bare.mono (fun _ there => there.aside)

theorem aside_of_plain {α : Type} {program : Prog α} (plain : program.Only Op.Plain) : program.Only Op.Aside :=
  aside_of_bare (bare_of_plain plain)

theorem only_chargeCredits (args : ChargeArgs) : (chargeCredits args).Only Op.Bare := by
  unfold chargeCredits
  split
  · trivial
  · exact ⟨trivial, fun _ => ⟨trivial, fun result => only_unwrap result⟩⟩

theorem only_refundCredits (args : RefundArgs) : (refundCredits args).Only Op.Bare := by
  unfold refundCredits
  split
  · trivial
  · exact ⟨trivial, fun _ => ⟨trivial, fun result => only_unwrap result⟩⟩

theorem only_touchPresign (presignId : Option Uuid) : (touchPresign presignId).Only Op.Bare := by
  cases presignId with
  | none => trivial
  | some presignId => exact ⟨trivial, fun _ => trivial⟩

theorem only_markFailed (id : Uuid) (presignId : Option Uuid) (code message : String) :
    (markFailed config id presignId code message).Only Op.Bare := by
  apply only_perform trivial
  intro failed
  cases failed with
  | none => exact only_touchPresign presignId
  | some row => exact (only_refundCredits _).bind (fun _ => only_touchPresign presignId)

theorem only_ensureDwalletNek (dwalletId : Uuid) (network : String) : (ensureDwalletNek dwalletId network).Only Op.Bare := by
  apply only_perform trivial
  intro found
  cases found with
  | none => trivial
  | some dw =>
    dsimp only
    split
    · trivial
    · apply (bare_of_plain (only_getIkaClient network)).bind
      intro _
      apply only_perform trivial
      intro told
      apply (only_unwrap told).bind
      intro bound
      cases bound with
      | none => trivial
      | some nek => exact ⟨trivial, fun _ => trivial⟩

theorem only_allocate (bucket : AllocateArgs) : (allocate bucket).Only Op.Bare := by
  apply only_perform trivial
  intro claimed
  cases claimed with
  | none => trivial
  | some id => exact ⟨trivial, fun _ => trivial⟩

theorem only_prepareFresh (args : PrepareSignArgs) : (prepareFresh config args).Only Op.Aside := by
  apply only_perform trivial
  intro found
  cases found with
  | none => trivial
  | some dw =>
    dsimp only
    split
    · trivial
    · apply only_perform trivial
      intro id
      apply (aside_of_bare (only_chargeCredits _)).bind
      intro _
      apply only_perform trivial
      intro inserted
      apply (only_unwrap inserted).bind
      intro row
      apply (aside_of_bare (only_ensureDwalletNek _ _)).bind
      intro nek
      apply (aside_of_bare (only_allocate _)).bind
      intro presign
      cases presign with
      | none =>
        apply only_perform trivial
        intro _
        apply (aside_of_bare (only_refundCredits _)).bind
        intro _
        apply only_perform trivial
        intro queued
        exact (only_unwrap queued).bind (fun _ => trivial)
      | some presign =>
        exact ⟨trivial, fun _ => (aside_of_plain (only_fetchPresignBytes _ _)).bind (fun _ => trivial)⟩

theorem only_prepareSignRequest (args : PrepareSignArgs) : (prepareSignRequest config args).Only Op.Aside := by
  apply only_perform trivial
  intro existing
  split
  · apply only_perform trivial
    intro presign
    cases presign with
    | none => exact only_prepareFresh args
    | some presign => exact (aside_of_plain (only_fetchPresignBytes _ _)).bind (fun _ => trivial)
  · exact only_prepareFresh args

theorem only_abandonSubmit (row : SignRequest) (presignId : Uuid) (error : Thrown) :
    (abandonSubmit config row presignId error).Only Op.Bare := by
  unfold abandonSubmit
  split
  all_goals
    apply only_perform trivial
    intro _
    apply (only_markFailed _ _ _ _).bind
    intro _
    trivial

theorem only_sweepStuckPrepared (olderThanSec : Nat) : (sweepStuckPrepared config olderThanSec).Only Op.Bare := by
  apply only_perform trivial
  intro _
  apply only_perform trivial
  intro stuck
  apply (Only.fold stuck () _).bind
  · intro _
    trivial
  · intro state row
    unfold rescueOne
    dsimp only
    split
    · apply only_perform trivial
      intro _
      exact only_markFailed _ _ _ _
    · exact only_markFailed _ _ _ _

/-! ### Submit -/

theorem traces_submitPreparedSign (args : SubmitPreparedSignArgs) :
    (submitPreparedSign args).Shows (traced (.submit args)) history (fun _ _ => True) := by
  apply Shows.perform trivial
  intro found known
  cases found with
  | none => exact .raise trivial
  | some row =>
    have same : row.id = args.signRequestId := known row rfl
    have owned : Heard (⟨.sign (.selectOwned args.signRequestId args.userId args.network), some row⟩ :: history)
        (.sign (.selectOwned row.id args.userId args.network)) (some row) := by
      rw [same]
      exact .last
    dsimp only
    split
    · exact .ret trivial
    · split
      · exact .raise trivial
      · split
        · exact .raise trivial
        · have stored : Traced (.submit args)
              (⟨.sign (.selectOwned args.signRequestId args.userId args.network), some row⟩ :: history)
              (.sign (.setQueued row.id (toHex args.messageCentralizedSignature) (toHex args.sessionIdentifierBytes))) :=
            ⟨args, row, rfl, same, owned, rfl, rfl⟩
          apply Shows.perform stored
          intro updated _
          exact .perform trivial (fun _ _ => .unwrap (fun _ _ => .ret trivial) (fun _ _ => trivial))

/-! ### Worker -/

/-- The awaited session: the coordinator's answer, or the failure path that rethrows. -/
theorem traces_getSign {id : Uuid} {job : Nat} {row : SignRequest} {presignId : Uuid} {session : String} :
    (rescue (do
        let curve ← unwrap (curveFromNumber row.curve)
        let _ ← unwrap (signatureAlgorithmFromNumber curve row.signatureAlgorithm)
        match ← unwrap (← perform (.chain (.getSign row.network session))) with
        | some signature => return signature
        | none => throw (.app (errors.internal "completed sign has no signature bytes" "SIGN_BAD_SHAPE")))
      (fun error => do
        markUsed presignId
        markFailed config row.id none "COORDINATOR_TIMEOUT" error.text
        throw error)).Shows (traced (.process id job)) history (fun later result => ∀ signature, result = .ok signature →
      Heard later (.chain (.getSign row.network session)) (.ok (some signature))) := by
  apply Shows.rescue (fun later result => ∀ signature, result = .ok signature →
    Heard later (.chain (.getSign row.network session)) (.ok (some signature)))
  · apply Shows.unwrap
    · intro curve _
      apply Shows.unwrap
      · intro _ _
        apply Shows.perform trivial
        intro told _
        apply Shows.unwrap
        · intro found same
          subst same
          cases found with
          | none => exact .raise (fun _ absurd_ => nomatch absurd_)
          | some signature =>
            apply Shows.ret
            intro other returned
            cases returned
            exact .last
        · exact fun _ _ _ absurd_ => nomatch absurd_
      · exact fun _ _ _ absurd_ => nomatch absurd_
    · exact fun _ _ _ absurd_ => nomatch absurd_
  · exact fun _ _ _ heard => heard
  · intro later error _ _
    apply Shows.perform trivial
    intro _ _
    apply (shows_aside (aside_of_bare (only_markFailed row.id none "COORDINATOR_TIMEOUT" error.text))).bind
    · exact fun _ _ _ _ => .raise (fun _ absurd_ => nomatch absurd_)
    · exact fun _ _ _ _ _ absurd_ => nomatch absurd_

theorem traces_finishSign {id : Uuid} {job : Nat} {row : SignRequest} {presignId : Uuid} {tx : SignZeroTrust}
    {executed : ExecutedTx} (same : row.id = id) (submitted : Submitted (Heard history) id row tx executed) :
    (finishSign config row presignId executed).Shows (traced (.process id job)) history (fun _ _ => True) := by
  apply Shows.perform trivial
  intro _ _
  apply Shows.perform trivial
  intro _ _
  split
  · exact .perform trivial (fun _ _ => shows_aside (aside_of_bare (only_markFailed _ _ _ _)))
  next session announced =>
    apply Shows.perform trivial
    intro _ _
    apply traces_getSign.bind
    · intro later signature grown answered
      apply Shows.perform trivial
      intro _ _
      have early : ∀ op answer, Heard history op answer → Heard (⟨.presign (.markUsed presignId), ()⟩ :: later) op answer :=
        fun op answer heard => ((((heard.cons _).cons _).cons _).later grown).cons _
      have stored : Traced (.process id job) (⟨.presign (.markUsed presignId), ()⟩ :: later)
          (.sign (.setCompleted row.id (toHex signature))) :=
        ⟨job, row, tx, by rw [same], executed, session, signature, same ▸ submitted.mono early, announced,
          (answered signature rfl).cons _, rfl⟩
      apply Shows.perform stored
      intro _ _
      exact .perform trivial (fun _ _ => shows_unwrap trivial)
    · exact fun _ _ _ _ => trivial

theorem traces_submitSign {id : Uuid} {job : Nat} {row : SignRequest} {presignId : Uuid} {tx : SignZeroTrust}
    (same : row.id = id) (built : Built (Heard history) id row tx) :
    (submitSign config row presignId tx).Shows (traced (.process id job)) history (fun _ _ => True) := by
  apply Shows.perform trivial
  intro block _
  apply Shows.unwrap
  · intro _ _
    have still : Built (Heard (⟨.chain (.buildSignZeroTrust tx), block⟩ :: history)) id row tx :=
      built.mono (fun _ _ heard => heard.cons _)
    have sends :
      Traced (.process id job) (⟨.chain (.buildSignZeroTrust tx), block⟩ :: history) (.chain (.execute tx)) :=
      ⟨id, job, row, rfl, still⟩
    apply Shows.perform sends
    intro result _
    cases result with
    | error error => exact shows_aside (aside_of_bare (only_abandonSubmit _ _ _))
    | ok executed => exact traces_finishSign same ⟨still.mono (fun _ _ heard => heard.cons _), .last⟩
  · exact fun _ _ => trivial

theorem traces_signQueued {id : Uuid} {job : Nat} {row : SignRequest} {presignId : Uuid} {signature session : String}
    (same : row.id = id) (read : Heard history (.sign (.select id)) (some row)) (held : row.presignId = some presignId)
    (centralized : row.messageCentralizedSignatureHex = some signature) (identified : row.sessionIdentifierHex = some session) :
    (signQueued config row presignId signature session).Shows (traced (.process id job)) history (fun _ _ => True) := by
  apply Shows.perform trivial
  intro found known
  cases found with
  | none => exact shows_aside (aside_of_bare (only_markFailed _ _ _ _))
  | some presign =>
    have own : presign.id = presignId := known presign rfl
    apply Shows.unwrap
    · intro messageCentralizedSignature decoded
      apply Shows.unwrap
      · intro sessionIdentifierBytes parsed
        apply (shows_aside (aside_of_plain (only_getIkaClient _))).bind
        · intro located coordinatorId grown _
          apply Shows.perform trivial
          intro found _
          cases found with
          | none => exact shows_aside (aside_of_bare (only_markFailed _ _ _ _))
          | some dw =>
            apply (shows_aside (aside_of_plain (only_accountSuiObjectIdFor _))).bind
            · intro linked accountSuiId further _
              apply Shows.unwrap
              · intro message said
                have early : ∀ op answer, Heard (⟨.presign (.select presignId), some presign⟩ :: history) op answer →
                    Heard linked op answer := fun op answer heard => ((heard.later grown).cons _).later further
                have carried : Heard linked (.presign (.select presign.id)) (some presign) := by
                  rw [own]
                  exact early _ _ .last
                let tx := row.order accountSuiId coordinatorId presign.suiObjectId message messageCentralizedSignature
                  sessionIdentifierBytes
                have built : Built (Heard linked) id row tx :=
                  ⟨early _ _ (read.cons _), ⟨presign, by rw [own]; exact held, carried, rfl⟩,
                    ⟨rfl, rfl, rfl, rfl, said, ⟨signature, centralized, decoded⟩, ⟨session, identified, parsed⟩⟩⟩
                exact traces_submitSign same built
              · exact fun _ _ => trivial
            · exact fun _ _ _ _ => trivial
        · exact fun _ _ _ _ => trivial
      · exact fun _ _ => trivial
    · exact fun _ _ => trivial

theorem of_present {text : Option String} {shown : String} (there : present text = some shown) : text = some shown :=
  (Option.filter_eq_some_iff.mp there).1

theorem traces_processSignJob (id : Uuid) (job : Nat) :
    (processSignJob config id).Shows (traced (.process id job)) history (fun _ _ => True) := by
  apply Shows.perform trivial
  intro found known
  cases found with
  | none => exact .ret trivial
  | some row =>
    have same : row.id = id := known row rfl
    dsimp only
    split
    · exact .ret trivial
    · split
      · exact shows_aside (aside_of_bare (only_markFailed _ _ _ _))
      next presignId held =>
        split
        next signature session centralized identified =>
          exact traces_signQueued same .last held (of_present centralized) (of_present identified)
        · exact shows_aside (aside_of_bare (only_markFailed _ _ _ _))

/-! ### Every call -/

theorem traces_program (config : Config) (call : Call) : (program config call).Shows (traced call) [] (fun _ _ => True) := by
  cases call with
  | prepare args => exact (shows_aside (only_prepareSignRequest args)).followed (fun _ _ => .ret trivial)
  | submit args => exact (traces_submitPreparedSign args).followed (fun _ _ => .ret trivial)
  | process id job => exact (traces_processSignJob id job).followed (fun _ _ => .ret trivial)
  | sweepStuckPrepared olderThanSec =>
    exact (shows_aside (aside_of_bare (only_sweepStuckPrepared olderThanSec))).followed (fun _ _ => .ret trivial)
  | sweepExpired olderThanSec =>
    exact (shows_aside (aside_of_plain (only_sweepExpired olderThanSec))).followed (fun _ _ => .ret trivial)
  | promotePending => exact (shows_aside (aside_of_plain only_promotePending)).followed (fun _ _ => .ret trivial)
  | discover network pages =>
    exact (shows_aside (aside_of_plain (only_discover network pages))).followed (fun _ _ => .ret trivial)
  | refill args => exact (shows_aside (aside_of_plain (only_refill config args))).followed (fun _ _ => .ret trivial)

end Walks
end MpcKit.Sign
