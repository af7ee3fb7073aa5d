import MpcKit.Sign.Signatures

/-! What a prepare names and answers with: one presign for the row it drew, and the row, the cap and
the bytes of the cap. -/

namespace MpcKit.Sign
open MpcKit.Backend MpcKit.Async
open Program (unwrap Only Shows)

/-- No row was given a presign yet. -/
def Nameless (history : History Op Res) : Prop :=
  ∀ id presignId answer, ¬Heard history (.sign (.setPresign id presignId)) answer

section Evidence

variable (heard : (op : Op) → Res op → Prop)

/-- The chain gave these bytes for the session of the cap. -/
def Fetched (network : String) (cap : ObjectId) (bytes : Bytes) : Prop :=
  ∃ session, heard (.chain (.getObject network cap)) (.ok (some (some session))) ∧
    heard (.chain (.getPresign network session)) (.ok (some bytes))

/-- The row a prepare answers with has this presign: it was found under the key, or drawn and given it. -/
inductive Picked (args : PrepareSignArgs) (answered : Option SignRequest) (presignId : Uuid) : Prop where
  | replayed (row : SignRequest) (same : answered = some row)
      (found : heard (.sign (.selectByKey args.userId args.network args.idempotencyKey)) (some row))
      (key : row.HasKey args.userId args.network args.idempotencyKey) (held : row.presignId = some presignId) : Picked args answered presignId
  | fresh (id : Uuid) (drawn : heard .randomUUID id) (named : heard (.sign (.setPresign id presignId)) answered)
      (own : ∀ row, answered = some row → row.id = id) :
      Picked args answered presignId

structure Responds (args : PrepareSignArgs) (result : PrepareSignResult) (presign : Presign) (bytes : Bytes) : Prop where
  picked : Picked heard args result.signRequest presign.id
  read : heard (.presign (.select presign.id)) (some presign)
  fetched : Fetched heard args.network presign.suiObjectId bytes
  cap : result.presignSuiObjectId = presign.suiObjectId
  bytesHex : result.presignBytesHex = toHex bytes

end Evidence

section Mono

variable {heard later : (op : Op) → Res op → Prop} {args : PrepareSignArgs}

theorem Picked.mono {answered : Option SignRequest} {presignId : Uuid} (picked : Picked heard args answered presignId)
    (grown : ∀ op answer, heard op answer → later op answer) : Picked later args answered presignId := by
  cases picked with
  | replayed row same found key held => exact .replayed row same (grown _ _ found) key held
  | fresh id drawn named own => exact .fresh id (grown _ _ drawn) (grown _ _ named) own

theorem Responds.mono {result : PrepareSignResult} {presign : Presign} {bytes : Bytes}
    (responds : Responds heard args result presign bytes) (grown : ∀ op answer, heard op answer → later op answer) :
    Responds later args result presign bytes where
  picked := responds.picked.mono grown
  read := grown _ _ responds.read
  fetched := by
    obtain ⟨session, object, given⟩ := responds.fetched
    exact ⟨session, grown _ _ object, grown _ _ given⟩
  cap := responds.cap
  bytesHex := responds.bytesHex

end Mono

/-- A row is named once, after its id was drawn. -/
def NamesOnce (history : History Op Res) : Op → Prop
  | .sign (.setPresign id _) => Nameless history ∧ Heard history .randomUUID id
  | _ => True

def Responded (args : PrepareSignArgs) (history : History Op Res) : Except Thrown Reply → Prop
  | .ok (.prepared result) => ∃ presign bytes, Responds (Heard history) args result presign bytes
  | _ => True

def responding (args : PrepareSignArgs) : Contract Op Res Thrown Reply where
  answers := Answers
  before := NamesOnce
  after := Responded args

theorem Nameless.cons {history : History Op Res} (nameless : Nameless history) (op : Op) (bare : op.Bare) (answer : Res op) :
    Nameless (⟨op, answer⟩ :: history) := by
  intro id presignId reply heard
  cases List.mem_cons.mp heard with
  | inl last =>
    cases last
    exact bare
  | inr earlier => exact nameless id presignId reply earlier

theorem Op.Bare.allowed {op : Op} (bare : op.Bare) (history : History Op Res) : NamesOnce history op := by
  cases op with
  | sign op =>
    cases op with
    | setPresign id presignId => exact False.elim bare
    | _ => trivial
  | _ => trivial

section Walks

variable {config : Config} {args : PrepareSignArgs} {history : History Op Res}

/-- What names no row leaves all of them nameless. -/
theorem shows_bare {α : Type} {program : Prog α} (bare : program.Only Op.Bare) (nameless : Nameless history) :
    program.Shows (responding args) history (fun later _ => Nameless later) := by
  apply Only.obeys (fun later => history <:+ later ∧ Nameless later) bare ⟨List.suffix_rfl, nameless⟩
  · intro later op kind kept
    exact ⟨kind.allowed later, fun answer => ⟨kept.1.trans (List.suffix_cons _ _), kept.2.cons op kind answer⟩⟩
  · exact fun _ _ kept => kept

theorem shows_free {α : Type} {program : Prog α} (bare : program.Only Op.Bare) :
    program.Shows (responding args) history (fun _ _ => True) :=
  bare.shows (fun later _ kind => kind.allowed later)

theorem shows_fetchPresignBytes (network : String) (cap : ObjectId) :
    (fetchPresignBytes network cap).Shows (responding args) history
      (fun later result => ∀ bytes, result = .ok bytes → Fetched (Heard later) network cap bytes) := by
  have opened : (getIkaClient network).Only Op.Bare := (only_getIkaClient network).mono (fun _ plain => plain.bare)
  apply (shows_free opened).bind
  · intro later _ _ _
    apply Shows.perform trivial
    intro object _
    apply Shows.unwrap
    · intro found same
      subst same
      cases found with
      | none =>
        apply Shows.perform trivial
        exact fun _ _ => .raise (fun _ absurd_ => nomatch absurd_)
      | some session =>
        cases session with
        | none => exact .raise (fun _ absurd_ => nomatch absurd_)
        | some session =>
          apply Shows.perform trivial
          intro told _
          apply Shows.unwrap
          · intro given same
            subst same
            cases given with
            | none => exact .raise (fun _ absurd_ => nomatch absurd_)
            | some bytes =>
              apply Shows.ret
              intro other returned
              cases returned
              exact ⟨session, Heard.last.cons _, .last⟩
          · exact fun _ _ _ absurd_ => nomatch absurd_
    · exact fun _ _ _ absurd_ => nomatch absurd_
  · exact fun _ _ _ _ _ absurd_ => nomatch absurd_

theorem names_allocate {bucket : AllocateArgs} (nameless : Nameless history) :
    (allocate bucket).Shows (responding args) history (fun later result => Nameless later ∧
      ∀ presign, result = .ok (some presign) → Heard later (.presign (.select presign.id)) (some presign)) := by
  apply Shows.perform trivial
  intro claimed _
  have still : Nameless (⟨.presign (.claim bucket), claimed⟩ :: history) := nameless.cons (.presign (.claim bucket)) trivial claimed
  cases claimed with
  | none => exact .ret ⟨still, fun _ absurd_ => nomatch absurd_⟩
  | some id =>
    apply Shows.await trivial
    intro found known
    apply Shows.ret
    refine ⟨still.cons (.presign (.select id)) trivial found, ?_⟩
    intro presign returned
    cases returned
    rw [show presign.id = id from known presign rfl]
    exact .last

theorem responds_prepareFresh (nameless : Nameless history) :
    (prepareFresh config args).Shows (responding args) history
      (fun later result => ∀ reply, result = .ok reply → ∃ presign bytes, Responds (Heard later) args reply presign bytes) := by
  apply Shows.perform trivial
  intro found _
  cases found with
  | none => exact .raise (fun _ absurd_ => nomatch absurd_)
  | some dw =>
    dsimp only
    split
    · exact .raise (fun _ absurd_ => nomatch absurd_)
    · apply Shows.perform trivial
      intro id _
      have nameless := (nameless.cons (.wallet (.selectOwned args.dwalletId args.userId args.network)) trivial (some dw)).cons
        .randomUUID trivial id
      apply (shows_bare (only_chargeCredits _) nameless).bind
      · intro charged _ grown nameless
        have drawn : Heard charged .randomUUID id := Heard.last.later grown
        apply Shows.perform trivial
        intro inserted known
        apply Shows.unwrap
        · intro row same
          subst same
          obtain ⟨now, rfl⟩ := known row rfl
          have nameless := nameless.cons (.sign (.insert (args.newRequest dw id))) trivial (.ok ((args.newRequest dw id).row now))
          apply (shows_bare (only_ensureDwalletNek _ _) nameless).bind
          · intro keyed nek after nameless
            have drawn : Heard keyed .randomUUID id := (drawn.cons _).later after
            apply (names_allocate nameless).bind
            · intro allotted presign after ready
              obtain ⟨nameless, read⟩ := ready
              have drawn : Heard allotted .randomUUID id := drawn.later after
              cases presign with
              | none =>
                apply Shows.perform trivial
                intro _ _
                apply (shows_free (only_refundCredits _)).bind
                · intro _ _ _ _
                  apply Shows.perform trivial
                  intro queued _
                  apply Shows.unwrap
                  · exact fun _ _ => .raise (fun _ absurd_ => nomatch absurd_)
                  · exact fun _ _ _ absurd_ => nomatch absurd_
                · exact fun _ _ _ _ _ absurd_ => nomatch absurd_
              | some presign =>
                have allowed : NamesOnce allotted
                    (.sign (.setPresign ((args.newRequest dw id).row now).id presign.id)) := ⟨nameless, drawn⟩
                apply Shows.perform allowed
                intro updated own
                apply (shows_fetchPresignBytes args.network presign.suiObjectId).bind
                · intro later bytes grown fetched
                  apply Shows.ret
                  intro reply returned
                  cases returned
                  have picked : Picked (Heard later) args updated presign.id := .fresh id ((drawn.cons _).later grown) (Heard.last.later grown) own
                  exact ⟨presign, bytes, picked, ((read presign rfl).cons _).later grown, fetched bytes rfl, rfl, rfl⟩
                · exact fun _ _ _ _ _ absurd_ => nomatch absurd_
            · exact fun _ _ _ _ _ absurd_ => nomatch absurd_
          · exact fun _ _ _ _ _ absurd_ => nomatch absurd_
        · exact fun _ _ _ absurd_ => nomatch absurd_
      · exact fun _ _ _ _ _ absurd_ => nomatch absurd_

theorem responds_prepareSignRequest (args : PrepareSignArgs) :
    (prepareSignRequest config args).Shows (responding args) []
      (fun later result => ∀ reply, result = .ok reply → ∃ presign bytes, Responds (Heard later) args reply presign bytes) := by
  have start : Nameless [] := fun _ _ _ => List.not_mem_nil
  apply Shows.perform trivial
  intro existing keyed
  have asked := start.cons (.sign (.selectByKey args.userId args.network args.idempotencyKey)) trivial existing
  split
  next row presignId found =>
    obtain ⟨existing, rfl, held⟩ := Option.bind_eq_some_iff.mp found
    obtain ⟨_, held, same⟩ := Option.map_eq_some_iff.mp held
    cases same
    apply Shows.perform trivial
    intro presign known
    cases presign with
    | none => exact responds_prepareFresh (asked.cons (.presign (.select presignId)) trivial none)
    | some presign =>
      apply (shows_fetchPresignBytes args.network presign.suiObjectId).bind
      · intro later bytes grown fetched
        apply Shows.ret
        intro reply returned
        cases returned
        have same : presign.id = presignId := known presign rfl
        subst same
        exact ⟨presign, bytes, .replayed row rfl ((Heard.last.cons _).later grown) (keyed row rfl) held, Heard.last.later grown,
          fetched bytes rfl, rfl, rfl⟩
      · exact fun _ _ _ _ _ absurd_ => nomatch absurd_
  · exact responds_prepareFresh asked

/-- What a prepare names and answers with; what the other calls have read. -/
def naming : Call → Contract Op Res Thrown Reply
  | .prepare args => responding args
  | call => sourced call

theorem naming_eq {call : Call} (other : ∀ args, call ≠ .prepare args) : naming call = sourced call := by
  unfold naming
  split
  next args => exact absurd rfl (other args)
  · rfl

theorem obeys_naming (config : Config) (call : Call) : (program config call).Obeys (naming call) [] := by
  by_cases prepares : ∃ args, call = .prepare args
  · obtain ⟨args, rfl⟩ := prepares
    have walk : (program config (.prepare args)).Shows (responding args) [] (Responded args) := by
      apply (responds_prepareSignRequest args).bind
      · exact fun _ reply _ responds => .ret (responds reply rfl)
      · exact fun _ _ _ _ => trivial
    exact walk.obeys (fun _ _ ended => ended)
  · rw [naming_eq (fun args same => prepares ⟨args, same⟩)]
    exact (shows_program config call).obeys (fun _ _ _ => trivial)

/-- Only a prepare names a row: one, and the one it drew. -/
theorem once_of_naming {call : Call} {history : History Op Res} {id presignId : Uuid}
    (before : (naming call).before history (.sign (.setPresign id presignId))) :
    Nameless history ∧ Heard history .randomUUID id := by
  by_cases prepares : ∃ args, call = .prepare args
  · obtain ⟨args, rfl⟩ := prepares
    exact before
  · rw [naming_eq (fun args same => prepares ⟨args, same⟩)] at before
    obtain ⟨args, _, _, same, _⟩ := before
    exact absurd ⟨args, same⟩ prepares

theorem answers_naming {op : Op} {env : Env} {world after : World} {answer : Res op}
    (executed : exec op env world = some (answer, after)) (call : Call) : (naming call).answers op answer := by
  unfold naming
  split
  · exact answers_exec executed
  · exact ⟨answers_exec executed, selects_exec executed⟩

end Walks
end MpcKit.Sign
