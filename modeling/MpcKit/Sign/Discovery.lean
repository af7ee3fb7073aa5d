import MpcKit.Sign.Exclusivity
import MpcKit.Sign.Walks

/-! `discover` against what the chain holds. A pass joins three batched reads by position and by id, any
of which may fail wholly or in parts, and inserts while other writers do; each scanned cap gets exactly
one verdict, and a row that is inserted describes the cap it names. -/

namespace MpcKit.Sign
open MpcKit.Backend MpcKit.Async
open Program (fold rescue unwrap Obeys)

abbrev Past := History Op Res

/-- What the chain holds for the operator wallet: its pages, the session of each cap, the curve and
algorithm of each session, and the value of its dynamic field. -/
structure View where
  page : Option String → Page
  presignId : ObjectId → Option String
  session : String → Option (Nat × Nat)
  nek : String → Option Bytes

def SessionJson.parameters : SessionJson → Option (Nat × Nat)
  | ⟨some curve, some signatureAlgorithm⟩ => some (curve, signatureAlgorithm)
  | _ => none

/-- The answer shows the view, or leaves out what could not be read. -/
def View.Shows (view : View) : Entry Op Res → Prop
  | ⟨.chain (.listOwnedObjects _ cursor), .ok page⟩ => page = view.page cursor
  | ⟨.chain (.getCaps _ capIds), .ok objects⟩ => ∀ entry ∈ capIds.zipIdx, ∀ presignId ∈ (objects.getD entry.2 none).join,
      view.presignId entry.1 = some presignId
  | ⟨.chain (.getSessions _ sessionIds), .ok objects⟩ => ∀ entry ∈ sessionIds.zipIdx, ∀ json ∈ objects.getD entry.2 none,
      ∀ parameters ∈ json.parameters, view.session entry.1 = some parameters
  | ⟨.chain (.getDynamicField _ parentId name), .ok (some bcs)⟩ =>
      name = encodeVectorU8 nekDynamicFieldName → view.nek parentId = some bcs
  | _ => True

def View.Shown (view : View) (past : Past) : Prop := ∀ entry ∈ past, view.Shows entry

def Page.caps (page : Page) : List ObjectId :=
  (page.objects.filter (fun object => includes object.type unverifiedPresignCapType)).map OwnedObject.objectId

/-- The caps on all pages from a cursor on; `none` when there are more than `pages` of them. -/
def View.caps (view : View) : Nat → Option String → Option (List ObjectId)
  | 0, _ => none
  | pages + 1, cursor =>
      if ¬(view.page cursor).hasNextPage then some (view.page cursor).caps
      else match (view.page cursor).cursor.filter (· ≠ "") with
        | none => some (view.page cursor).caps
        | some next => (view.caps pages (some next)).map ((view.page cursor).caps ++ ·)

/-- A pending row of a scanned cap, with the parameters of the cap's own session. -/
structure View.Matches (view : View) (network : String) (capIds : List ObjectId) (row : Presign) : Prop where
  status : row.status = .pending
  scanned : row.suiObjectId ∈ capIds
  network : row.network = network
  session : ∃ presignId bcs, view.presignId row.suiObjectId = some presignId ∧
    view.session presignId = some (row.curve, row.signatureAlgorithm) ∧
    view.nek presignId = some bcs ∧ row.networkEncryptionKeyId = toHexAddress bcs

/-! ### Verdicts -/

/-- What became of a scanned cap. -/
inductive Verdict where
  | tracked
  | inserted
  | failed
  deriving DecidableEq, Repr

def tally (verdicts : List (ObjectId × Verdict)) : DiscoverResult where
  scanned := verdicts.length
  alreadyTracked := (verdicts.filter (fun entry => entry.2 = .tracked)).length
  inserted := (verdicts.filter (fun entry => entry.2 = .inserted)).length
  failed := (verdicts.filter (fun entry => entry.2 = .failed)).length

/-- A row with the cap's id was there. -/
def Tracked (network : String) (past : Past) (capId : ObjectId) : Prop :=
  (∃ ids, ⟨.presign (.selectTracked network), ids⟩ ∈ past ∧ capId ∈ ids) ∨
    ∃ new, new.suiObjectId = capId ∧ ⟨.presign (.insertDiscovered new), false⟩ ∈ past

def Inserted (past : Past) (capId : ObjectId) : Prop :=
  ∃ new, new.suiObjectId = capId ∧ ⟨.presign (.insertDiscovered new), true⟩ ∈ past

/-- The verdicts are borne out by what the pass has done. -/
structure Judged (network : String) (past : Past) (verdicts : List (ObjectId × Verdict)) : Prop where
  tracked : ∀ capId, (capId, .tracked) ∈ verdicts → Tracked network past capId
  inserted : ∀ capId, (capId, .inserted) ∈ verdicts ↔ Inserted past capId

theorem tally_sum (verdicts : List (ObjectId × Verdict)) :
    (tally verdicts).scanned = (tally verdicts).alreadyTracked + (tally verdicts).inserted + (tally verdicts).failed := by
  induction verdicts with
  | nil => rfl
  | cons entry verdicts ih =>
    obtain ⟨capId, verdict⟩ := entry
    simp only [tally, List.length_cons, List.filter_cons] at ih ⊢
    cases verdict <;> simp <;> omega

/-- The operations of a pass, and what it says in its inserts. -/
def surveys (view : View) (network : String) (pages : Nat) : Contract Op Res Thrown Reply where
  answers _ _ := True
  before past op := match op with
    | .chain _ => True
    | .presign (.selectTracked _) => True
    | .presign (.insertDiscovered new) => view.Shown past → ∀ capIds, view.caps pages none = some capIds →
        ∀ id now, view.Matches network capIds (new.row id now)
    | _ => False
  after past result := match result with
    | .ok (.discovered result) => ∃ verdicts, result = tally verdicts ∧ Judged network past verdicts ∧
        (view.Shown past → ∀ capIds, view.caps pages none = some capIds → (verdicts.map Prod.fst).Perm capIds)
    | .ok _ => False
    | .error _ => True

/-! ### Walking through a pass -/

section Walk

variable {view : View} {network : String} {pages : Nat} {past : Past}

/-- A part of a pass keeps the contract and ends as `after` says when it returns. -/
abbrev Holds {α : Type} (view : View) (network : String) (pages : Nat) (after : Past → α → Prop) (past : Past)
    (program : Prog α) : Prop :=
  program.Obeys ((surveys view network pages).ending (Program.between after (fun _ _ => True))) past

/-- Nothing has been inserted yet. -/
def Reading (past : Past) : Prop := ∀ new answer, ⟨.presign (.insertDiscovered new), answer⟩ ∉ past

theorem Reading.chain (reading : Reading past) {op : ChainOp} {answer : op.Res} :
    Reading (⟨.chain op, answer⟩ :: past) := by
  intro new reply member
  rcases List.mem_cons.mp member with same | before
  · cases same
  · exact reading new reply before

theorem shown_tail {entry : Entry Op Res} (shown : view.Shown (entry :: past)) : view.Shown past :=
  fun other member => shown other (List.mem_cons_of_mem _ member)

theorem shown_head {entry : Entry Op Res} (shown : view.Shown (entry :: past)) : view.Shows entry :=
  shown entry List.mem_cons_self

/-- The caps of the pages from `cursor` on are added; what the reads before have told stays known. -/
theorem listCaps_holds (more : Nat) (cursor : Option String) (known : List ObjectId) (reading : Reading past) {fact : Prop}
    (sure : view.Shown past → fact) :
    Holds view network pages (fun past capIds => Reading past ∧ (view.Shown past → fact ∧
      ∀ rest, view.caps more cursor = some rest → capIds = known ++ rest)) past (listCaps network more cursor known) := by
  induction more generalizing cursor known past fact with
  | zero => exact ⟨reading, fun shown => ⟨sure shown, fun rest impossible => by cases impossible⟩⟩
  | succ more ih =>
    refine ⟨trivial, fun answer _ => ?_⟩
    cases answer with
    | error error => trivial
    | ok page =>
      have onward : Reading (⟨.chain (.listOwnedObjects network cursor), .ok page⟩ :: past) := reading.chain
      have told : view.Shown (⟨.chain (.listOwnedObjects network cursor), .ok page⟩ :: past) →
          fact ∧ page = view.page cursor := fun shown => ⟨sure (shown_tail shown), shown_head shown⟩
      change Holds view network pages _ _ (if _ then _ else _)
      split
      next last =>
        refine ⟨onward, fun shown => ⟨(told shown).1, fun rest listed => ?_⟩⟩
        obtain ⟨_, rfl⟩ := told shown
        rw [View.caps, if_pos last] at listed
        cases listed
        rfl
      next further =>
        split
        next ended =>
          refine ⟨onward, fun shown => ⟨(told shown).1, fun rest listed => ?_⟩⟩
          obtain ⟨_, rfl⟩ := told shown
          rw [View.caps, if_neg further, ended] at listed
          cases listed
          rfl
        next next there =>
          refine (ih (some next) _ onward told).mono fun past result held => ?_
          cases result with
          | error error => trivial
          | ok capIds =>
            refine ⟨held.1, fun shown => ?_⟩
            obtain ⟨⟨kept, rfl⟩, found⟩ := held.2 shown
            refine ⟨kept, fun rest listed => ?_⟩
            rw [View.caps, if_neg further, there] at listed
            obtain ⟨others, inner, rfl⟩ := Option.map_eq_some_iff.mp listed
            rw [found others inner, List.append_assoc]
            rfl

/-- What the reads before the first insert have told. -/
structure Known (view : View) (network : String) (pages : Nat) (capIds tracked : List ObjectId) (past : Past) : Prop where
  reading : Reading past
  scanned : view.Shown past → ∀ whole, view.caps pages none = some whole → capIds = whole
  tracked : ∀ capId ∈ tracked, ∃ ids, ⟨.presign (.selectTracked network), ids⟩ ∈ past ∧ capId ∈ ids

theorem Known.chain {capIds tracked : List ObjectId} (known : Known view network pages capIds tracked past) {op : ChainOp}
    {answer : op.Res} : Known view network pages capIds tracked (⟨.chain op, answer⟩ :: past) where
  reading := known.reading.chain
  scanned shown := known.scanned (shown_tail shown)
  tracked capId member := by
    obtain ⟨ids, seen, inside⟩ := known.tracked capId member
    exact ⟨ids, List.mem_cons_of_mem _ seen, inside⟩

/-- Every `presign_id` that was read is the one of its cap. -/
def CapsRead (view : View) (past : Past) (caps : List (ObjectId × Option String)) : Prop :=
  view.Shown past → ∀ capId presignId, (capId, some presignId) ∈ caps → view.presignId capId = some presignId

def SessionsRead (view : View) (past : Past) (sessions : List (String × Nat × Nat)) : Prop :=
  view.Shown past → ∀ sessionId curve signatureAlgorithm, (sessionId, curve, signatureAlgorithm) ∈ sessions →
    view.session sessionId = some (curve, signatureAlgorithm)

theorem fetchCapBatch_holds {capIds tracked : List ObjectId} {caps : List (ObjectId × Option String)} (batch : List ObjectId)
    (known : Known view network pages capIds tracked past) (read : CapsRead view past caps) :
    Holds view network pages (fun past caps => Known view network pages capIds tracked past ∧ CapsRead view past caps)
      past (fetchCapBatch network caps batch) := by
  refine ⟨trivial, fun answer _ => ?_⟩
  cases answer with
  | error error =>
    refine ⟨known.chain, fun shown capId presignId member => ?_⟩
    rcases List.mem_append.mp member with before | failed
    · exact read (shown_tail shown) capId presignId before
    · obtain ⟨other, _, same⟩ := List.mem_map.mp failed
      cases same
  | ok objects =>
    refine ⟨known.chain, fun shown capId presignId member => ?_⟩
    rcases List.mem_append.mp member with before | found
    · exact read (shown_tail shown) capId presignId before
    · obtain ⟨⟨other, index⟩, inside, same⟩ := List.mem_map.mp found
      obtain ⟨rfl, content⟩ := Prod.mk.inj same
      obtain ⟨content, _⟩ := Option.filter_eq_some_iff.mp content
      exact shown_head shown (_, index) inside presignId content

theorem fetchSessionBatch_holds {capIds tracked : List ObjectId} {caps : List (ObjectId × Option String)}
    {sessions : List (String × Nat × Nat)} (batch : List String)
    (known : Known view network pages capIds tracked past) (read : CapsRead view past caps)
    (seen : SessionsRead view past sessions) :
    Holds view network pages (fun past sessions => Known view network pages capIds tracked past ∧ CapsRead view past caps ∧
      SessionsRead view past sessions) past (fetchSessionBatch network sessions batch) := by
  refine ⟨trivial, fun answer _ => ?_⟩
  have kept : CapsRead view (⟨.chain (.getSessions network batch), answer⟩ :: past) caps :=
    fun shown => read (shown_tail shown)
  cases answer with
  | error error => exact ⟨known.chain, kept, fun shown => seen (shown_tail shown)⟩
  | ok objects =>
    refine ⟨known.chain, kept, fun shown sessionId curve signatureAlgorithm member => ?_⟩
    rcases List.mem_append.mp member with before | found
    · exact seen (shown_tail shown) _ _ _ before
    · obtain ⟨⟨other, index⟩, inside, same⟩ := List.mem_filterMap.mp found
      dsimp only at same
      split at same
      next first second content =>
        cases same
        exact shown_head shown (_, index) inside _ content _ rfl
      · cases same

/-! #### The loop over the untracked caps -/

theorem Tracked.cons {capId : ObjectId} (tracked : Tracked network past capId) (entry : Entry Op Res) :
    Tracked network (entry :: past) capId := by
  rcases tracked with ⟨ids, seen, inside⟩ | ⟨new, own, refused⟩
  · exact .inl ⟨ids, List.mem_cons_of_mem _ seen, inside⟩
  · exact .inr ⟨new, own, List.mem_cons_of_mem _ refused⟩

theorem Inserted.cons {capId : ObjectId} (inserted : Inserted past capId) (entry : Entry Op Res) :
    Inserted (entry :: past) capId := by
  obtain ⟨new, own, landed⟩ := inserted
  exact ⟨new, own, List.mem_cons_of_mem _ landed⟩

theorem inserted_cons {entry : Entry Op Res} {capId : ObjectId} (inserted : Inserted (entry :: past) capId) :
    Inserted past capId ∨ ∃ new, new.suiObjectId = capId ∧ entry = ⟨.presign (.insertDiscovered new), true⟩ := by
  obtain ⟨new, own, landed⟩ := inserted
  rcases List.mem_cons.mp landed with same | before
  · exact .inr ⟨new, own, same.symm⟩
  · exact .inl ⟨new, own, before⟩

/-- One more verdict, which the newest entry bears out. -/
theorem Judged.add {verdicts : List (ObjectId × Verdict)} (judged : Judged network past verdicts) {capId : ObjectId}
    {verdict : Verdict} {later : Past} (tracked : ∀ other, Tracked network past other → Tracked network later other)
    (own : verdict = .tracked → Tracked network later capId)
    (inserted : ∀ other, Inserted later other ↔ Inserted past other ∨ verdict = .inserted ∧ other = capId) :
    Judged network later (verdicts ++ [(capId, verdict)]) where
  tracked other member := by
    rcases List.mem_append.mp member with before | new
    · exact tracked other (judged.tracked other before)
    · cases List.mem_singleton.mp new
      exact own rfl
  inserted other := by
    rw [inserted, ← judged.inserted, List.mem_append, List.mem_singleton, Prod.mk.injEq]
    constructor
    · rintro (before | ⟨rfl, rfl⟩)
      · exact .inl before
      · exact .inr ⟨rfl, rfl⟩
    · rintro (before | ⟨rfl, rfl⟩)
      · exact .inl before
      · exact .inr ⟨rfl, rfl⟩

theorem Judged.chain {verdicts : List (ObjectId × Verdict)} (judged : Judged network past verdicts) {op : ChainOp}
    {answer : op.Res} : Judged network (⟨.chain op, answer⟩ :: past) verdicts where
  tracked other member := (judged.tracked other member).cons _
  inserted other := by
    rw [judged.inserted]
    refine ⟨fun before => before.cons _, fun later => ?_⟩
    rcases inserted_cons later with before | ⟨new, _, same⟩
    · exact before
    · cases same

/-- The result so far: `base` caps were tracked from the start, the done ones have their verdicts. -/
def counted (scanned base : Nat) (verdicts : List (ObjectId × Verdict)) : DiscoverResult :=
  ⟨scanned, base + (tally verdicts).alreadyTracked, (tally verdicts).inserted, (tally verdicts).failed⟩

/-- What holds between two caps of the loop. -/
structure Judging (view : View) (network : String) (pages : Nat) (capIds tracked : List ObjectId)
    (caps : List (ObjectId × Option String)) (sessions : List (String × Nat × Nat)) (base : Nat) (done : List ObjectId)
    (past : Past) (state : DiscoverResult) : Prop where
  scanned : view.Shown past → ∀ whole, view.caps pages none = some whole → capIds = whole
  tracked : ∀ capId ∈ tracked, ∃ ids, ⟨.presign (.selectTracked network), ids⟩ ∈ past ∧ capId ∈ ids
  read : CapsRead view past caps
  seen : SessionsRead view past sessions
  judged : ∃ verdicts, verdicts.map Prod.fst = done ∧ Judged network past verdicts ∧
    state = counted capIds.length base verdicts

section Loop

variable {capIds tracked : List ObjectId} {caps : List (ObjectId × Option String)} {sessions : List (String × Nat × Nat)}
variable {base : Nat} {done : List ObjectId} {state : DiscoverResult}

theorem Judging.chain (judging : Judging view network pages capIds tracked caps sessions base done past state)
    {op : ChainOp} {answer : op.Res} :
    Judging view network pages capIds tracked caps sessions base done (⟨.chain op, answer⟩ :: past) state where
  scanned shown := judging.scanned (shown_tail shown)
  tracked capId member := by
    obtain ⟨ids, seen, inside⟩ := judging.tracked capId member
    exact ⟨ids, List.mem_cons_of_mem _ seen, inside⟩
  read shown := judging.read (shown_tail shown)
  seen shown := judging.seen (shown_tail shown)
  judged := by
    obtain ⟨verdicts, same, judged, counts⟩ := judging.judged
    exact ⟨verdicts, same, judged.chain, counts⟩

theorem Judging.fail (judging : Judging view network pages capIds tracked caps sessions base done past state)
    (capId : ObjectId) : Judging view network pages capIds tracked caps sessions base (done ++ [capId]) past
      { state with failed := state.failed + 1 } where
  scanned := judging.scanned
  tracked := judging.tracked
  read := judging.read
  seen := judging.seen
  judged := by
    obtain ⟨verdicts, same, judged, rfl⟩ := judging.judged
    refine ⟨verdicts ++ [(capId, .failed)], by rw [List.map_append, same]; rfl,
      judged.add (fun _ => id) (by rintro ⟨⟩) (fun other => by simp), ?_⟩
    simp [counted, tally]

theorem Judging.insert (judging : Judging view network pages capIds tracked caps sessions base done past state)
    (new : NewPresign) (fresh : Bool) :
    Judging view network pages capIds tracked caps sessions base (done ++ [new.suiObjectId])
      (⟨.presign (.insertDiscovered new), fresh⟩ :: past)
      (if fresh then { state with inserted := state.inserted + 1 }
        else { state with alreadyTracked := state.alreadyTracked + 1 }) where
  scanned shown := judging.scanned (shown_tail shown)
  tracked capId member := by
    obtain ⟨ids, seen, inside⟩ := judging.tracked capId member
    exact ⟨ids, List.mem_cons_of_mem _ seen, inside⟩
  read shown := judging.read (shown_tail shown)
  seen shown := judging.seen (shown_tail shown)
  judged := by
    obtain ⟨verdicts, same, judged, rfl⟩ := judging.judged
    cases fresh with
    | true =>
      refine ⟨verdicts ++ [(new.suiObjectId, .inserted)], by rw [List.map_append, same]; rfl,
        judged.add (fun _ held => held.cons _) (by rintro ⟨⟩) (fun other => ⟨fun later => ?_, ?_⟩), ?_⟩
      · rcases inserted_cons later with before | ⟨row, own, equal⟩
        · exact .inl before
        · cases equal
          exact .inr ⟨rfl, own.symm⟩
      · rintro (before | ⟨_, rfl⟩)
        · exact before.cons _
        · exact ⟨new, rfl, List.mem_cons_self⟩
      · simp [counted, tally]
    | false =>
      refine ⟨verdicts ++ [(new.suiObjectId, .tracked)], by rw [List.map_append, same]; rfl,
        judged.add (fun _ held => held.cons _) (fun _ => .inr ⟨new, rfl, List.mem_cons_self⟩)
          (fun other => ⟨fun later => ?_, ?_⟩), ?_⟩
      · rcases inserted_cons later with before | ⟨row, own, equal⟩
        · exact .inl before
        · cases equal
      · rintro (before | ⟨impossible, _⟩)
        · exact before.cons _
        · cases impossible
      · simp [counted, tally, Nat.add_assoc]

theorem mem_mapSet {κ ν : Type} [DecidableEq κ] {entries : List (κ × ν)} {key other : κ} {value old : ν}
    (member : (other, old) ∈ mapSet entries key value) : (other, old) ∈ entries ∨ other = key ∧ old = value := by
  unfold mapSet at member
  split at member
  · obtain ⟨entry, inside, same⟩ := List.mem_map.mp member
    split at same
    · cases same
      exact .inr ⟨rfl, rfl⟩
    · exact .inl (same ▸ inside)
  · rcases List.mem_append.mp member with before | new
    · exact .inl before
    · cases List.mem_singleton.mp new
      exact .inr ⟨rfl, rfl⟩

theorem mem_capPresignId {capId : ObjectId} {presignId : String} (member : (capId, presignId) ∈ capPresignId caps) :
    (capId, some presignId) ∈ caps := by
  have grown : ∀ entry ∈ capPresignId caps, (entry.1, some entry.2) ∈ caps := by
    unfold capPresignId
    refine List.foldlRecOn (motive := fun known : List (ObjectId × String) =>
      ∀ entry ∈ known, (entry.1, some entry.2) ∈ caps) caps _ (by simp) ?_
    intro known held first inside
    obtain ⟨cap, content⟩ := first
    cases content with
    | none => exact held
    | some presignId =>
      rintro ⟨other, old⟩ there
      rcases mem_mapSet there with before | ⟨rfl, rfl⟩
      · exact held _ before
      · exact inside
  exact grown _ member

/-- Reading the key leaves the loop where it is, whether or not it succeeds. -/
theorem readNek_holds (judging : Judging view network pages capIds tracked caps sessions base done past state)
    (presignId : String) :
    (readNekFromDynamicField network presignId).Obeys ((surveys view network pages).ending (Program.between
      (fun past nek => Judging view network pages capIds tracked caps sessions base done past state ∧
        (view.Shown past → ∃ bcs, view.nek presignId = some bcs ∧ nek = toHexAddress bcs))
      (fun past _ => Judging view network pages capIds tracked caps sessions base done past state))) past := by
  refine ⟨trivial, fun answer _ => ?_⟩
  cases answer with
  | error error => exact judging.chain
  | ok value =>
    cases value with
    | none => exact judging.chain
    | some bcs =>
      change Obeys _ _ (if _ then _ else _)
      split
      · exact judging.chain
      · exact ⟨judging.chain, fun shown => ⟨bcs, shown_head shown rfl, rfl⟩⟩

theorem discoverOne_holds (judging : Judging view network pages capIds tracked caps sessions base done past state)
    {capId : ObjectId} (scanned : capId ∈ capIds) :
    Holds view network pages (Judging view network pages capIds tracked caps sessions base (done ++ [capId])) past
      (discoverOne network caps sessions state capId) := by
  unfold discoverOne
  split
  · exact judging.fail capId
  · apply Obeys.rescue (Program.between (Judging view network pages capIds tracked caps sessions base (done ++ [capId]))
      (fun past _ => Judging view network pages capIds tracked caps sessions base done past state))
    · split
      next => exact judging
      next other presignId found =>
        have content : (capId, some presignId) ∈ caps := by
          have same : other = capId := by simpa using List.find?_some found
          exact mem_capPresignId (same ▸ List.mem_of_find?_eq_some found)
        split
        next => exact judging
        next session curve signatureAlgorithm there =>
          have known : (presignId, curve, signatureAlgorithm) ∈ sessions := by
            have same : session = presignId := by simpa using List.find?_some there
            exact same ▸ List.mem_of_find?_eq_some there
          apply Obeys.bind (readNek_holds judging presignId)
          · rintro past nek ⟨judging, read⟩
            refine ⟨fun shown whole listed id now => ⟨rfl, ?_, rfl, ?_⟩, fun fresh _ => ?_⟩
            · exact judging.scanned shown whole listed ▸ scanned
            · obtain ⟨bcs, value, written⟩ := read shown
              exact ⟨presignId, bcs, judging.read shown _ _ content, judging.seen shown _ _ _ known, value, written⟩
            · have inserted := judging.insert ⟨capId, network, curve, signatureAlgorithm, nek, none⟩ fresh
              cases fresh <;> exact inserted
          · exact fun past error judging => judging
    · exact fun past state judging => judging
    · exact fun past error judging => judging.fail capId

/-- The caps that were tracked from the start get their verdict too. -/
theorem Judging.finish (judging : Judging view network pages capIds tracked caps sessions
      (capIds.length - (capIds.filter (fun capId => capId ∉ tracked)).length)
      (capIds.filter (fun capId => capId ∉ tracked)) past state) :
    (surveys view network pages).after past (.ok (.discovered state)) := by
  obtain ⟨verdicts, done, judged, rfl⟩ := judging.judged
  have parts := List.filter_append_perm (fun capId => decide (capId ∈ tracked)) capIds
  have others : capIds.filter (fun capId => !decide (capId ∈ tracked)) = capIds.filter (fun capId => capId ∉ tracked) := by
    simp
  rw [others, ← done] at parts
  have lengths := parts.length_eq
  rw [List.length_append, List.length_map] at lengths
  refine ⟨(capIds.filter (fun capId => capId ∈ tracked)).map (fun capId => (capId, .tracked)) ++ verdicts, ?_, ⟨?_, ?_⟩, ?_⟩
  · have before : capIds.length - (capIds.filter (fun capId => capId ∉ tracked)).length =
        (capIds.filter (fun capId => capId ∈ tracked)).length := by
      rw [← done, List.length_map]
      omega
    have sums := lengths
    simp only [counted, tally, List.filter_append, List.length_append, List.length_map, before]
    simp [List.filter_map, Function.comp_def]
    omega
  · intro capId member
    rcases List.mem_append.mp member with start | later
    · obtain ⟨other, inside, same⟩ := List.mem_map.mp start
      cases same
      obtain ⟨ids, seen, there⟩ := judging.tracked capId (by simpa using (List.mem_filter.mp inside).2)
      exact .inl ⟨ids, seen, there⟩
    · exact judged.tracked capId later
  · intro capId
    rw [← judged.inserted, List.mem_append]
    refine or_iff_right ?_
    rintro start
    obtain ⟨other, _, same⟩ := List.mem_map.mp start
    cases same
  · intro shown whole listed
    rw [List.map_append, List.map_map]
    have same := judging.scanned shown whole listed
    subst same
    simpa [Function.comp_def] using parts

end Loop

theorem survey_holds {capIds tracked : List ObjectId} (known : Known view network pages capIds tracked past) :
    Obeys ((surveys view network pages).ending (fun past result =>
        (surveys view network pages).after past (result.map .discovered))) past (
      if capIds.filter (fun capId => capId ∉ tracked) = [] then
        return ⟨capIds.length, capIds.length - (capIds.filter (fun capId => capId ∉ tracked)).length, 0, 0⟩
      else do
        let caps ← fold (fetchCapBatch network) [] (batches discoverPageSize (capIds.filter (fun capId => capId ∉ tracked)))
        let sessions ← fold (fetchSessionBatch network) [] (batches discoverPageSize ((capPresignId caps).map Prod.snd).eraseDups)
        fold (discoverOne network caps sessions)
          ⟨capIds.length, capIds.length - (capIds.filter (fun capId => capId ∉ tracked)).length, 0, 0⟩
          (capIds.filter (fun capId => capId ∉ tracked)) : Prog DiscoverResult) := by
  have start : ∀ {caps sessions past}, Known view network pages capIds tracked past → CapsRead view past caps →
      SessionsRead view past sessions → Judging view network pages capIds tracked caps sessions
        (capIds.length - (capIds.filter (fun capId => capId ∉ tracked)).length) [] past
        ⟨capIds.length, capIds.length - (capIds.filter (fun capId => capId ∉ tracked)).length, 0, 0⟩ := by
    intro caps sessions past known read seen
    refine ⟨known.scanned, known.tracked, read, seen, [], rfl, ⟨by simp, fun capId => ?_⟩, rfl⟩
    constructor
    · intro impossible
      cases impossible
    · rintro ⟨new, _, landed⟩
      exact absurd landed (known.reading new true)
  split
  next nothing =>
    have judging := @start [] [] _ known (fun _ _ _ impossible => by cases impossible)
      (fun _ _ _ _ impossible => by cases impossible)
    exact (nothing ▸ judging : Judging view network pages capIds tracked [] [] _
      (capIds.filter (fun capId => capId ∉ tracked)) past _).finish
  next =>
    apply Obeys.bind (Obeys.fold (fun past caps => Known view network pages capIds tracked past ∧ CapsRead view past caps)
      (fun _ _ => True) ⟨known, fun _ _ _ impossible => by cases impossible⟩
      (fun batch _ past caps held => fetchCapBatch_holds batch held.1 held.2))
    · rintro past caps ⟨known, read⟩
      apply Obeys.bind (Obeys.fold (fun past sessions => Known view network pages capIds tracked past ∧
        CapsRead view past caps ∧ SessionsRead view past sessions) (fun _ _ => True)
        ⟨known, read, fun _ _ _ _ impossible => by cases impossible⟩
        (fun batch _ past sessions held => fetchSessionBatch_holds batch held.1 held.2.1 held.2.2))
      · rintro past sessions ⟨known, read, seen⟩
        refine (Obeys.fold_done (Judging view network pages capIds tracked caps sessions _) (fun _ _ => True) []
          (start known read seen) (fun done capId rest split past state judging => discoverOne_holds judging ?_)
          (capIds.filter (fun capId => capId ∉ tracked)) rfl).mono ?_
        · have member : capId ∈ capIds.filter (fun capId => capId ∉ tracked) := by
            rw [← List.nil_append (capIds.filter _), split]
            simp
          exact List.mem_of_mem_filter member
        · intro past result held
          cases result with
          | ok state => exact held.finish
          | error error => trivial
      · exact fun past error _ => trivial
    · exact fun past error _ => trivial

theorem discover_obeys (view : View) (network : String) (pages : Nat) :
    (discover network pages).Obeys ((surveys view network pages).ending (fun past result =>
      (surveys view network pages).after past (result.map .discovered))) [] := by
  have reading : Reading [] := fun _ _ => List.not_mem_nil
  apply Obeys.bind (listCaps_holds pages none [] reading (fun _ => trivial))
  · rintro past capIds ⟨reading, listed⟩
    have scanned : view.Shown past → ∀ whole, view.caps pages none = some whole → capIds = whole :=
      fun shown whole there => (listed shown).2 whole there
    dsimp only
    split
    · exact survey_holds ⟨reading, scanned, fun _ impossible => by cases impossible⟩
    · refine ⟨trivial, fun tracked _ => survey_holds ⟨?_, fun shown => scanned (shown_tail shown), ?_⟩⟩
      · intro new answer member
        rcases List.mem_cons.mp member with same | before
        · cases same
        · exact reading new answer before
      · exact fun capId member => ⟨tracked, List.mem_cons_self, member⟩
  · exact fun past error _ => trivial

end Walk

/-! ### Passes among other calls -/

/-- Nothing is asked of the other calls. -/
def surveyed (view : View) : Call → Contract Op Res Thrown Reply
  | .discover network pages => surveys view network pages
  | _ => ⟨fun _ _ => True, fun _ _ => True, fun _ _ => True⟩

theorem obeys_anything {ε α : Type} (program : Program Op Res ε α) (past : Past) :
    program.Obeys ⟨fun _ _ => True, fun _ _ => True, fun _ _ => True⟩ past := by
  induction program generalizing past with
  | ret value => trivial
  | raise error => trivial
  | await op next ih => exact ⟨trivial, fun answer _ => ih answer _⟩

theorem honours_surveyed (config : Config) (view : View) : (machine config).Honours (surveyed view) where
  programs call := by
    cases call with
    | discover network pages =>
      refine Obeys.bind (discover_obeys view network pages) (fun past result ended => ended) (fun past error ended => ?_)
      exact ended
    | _ => exact obeys_anything _ _
  answers := by
    intro index op env world answer after executed call
    cases call <;> trivial

/-- A row mirrors the cap. -/
def Mirrored (world : World) (capId : ObjectId) : Prop := ∃ row ∈ world.presigns.rows, row.suiObjectId = capId

def Indexed (world : World) : Prop := ∀ row ∈ world.presigns.rows, row.id < world.nextId

section Step

variable {op : Op} {env : Env} {world after : World} {answer : Res op} {capId : ObjectId}

theorem Mirrored.exec (mirrored : Mirrored world capId) (executed : exec op env world = some (answer, after)) :
    Mirrored after capId := by
  obtain ⟨row, member, rfl⟩ := mirrored
  obtain ⟨later, found, same, _⟩ := exec_presign executed (Table.get_of_mem member)
  exact ⟨later, Table.mem_of_get found, same⟩

/-- A discovered cap gets its row, or there was one. -/
theorem exec_insertDiscovered {new : NewPresign} {fresh : Bool} (indexed : Indexed world)
    (executed : exec (.presign (.insertDiscovered new)) env world = some (fresh, after)) :
    (fresh = true ∧ ¬Mirrored world new.suiObjectId ∧
      after.presigns.rows = world.presigns.rows ++ [new.row world.nextId env.now]) ∨
    (fresh = false ∧ Mirrored world new.suiObjectId ∧ after = world) := by
  cases inserted : PresignTable.insertCap world.presigns new world.nextId env.now with
  | none =>
    simp only [exec, PresignOp.exec, inserted] at executed
    cases executed
    refine .inr ⟨rfl, ?_, rfl⟩
    unfold PresignTable.insertCap at inserted
    split at inserted
    next taken =>
      obtain ⟨row, member, same⟩ := List.any_eq_true.mp taken
      exact ⟨row, member, of_decide_eq_true same⟩
    next =>
      -- The identifier is new, so only the index on the cap can refuse the row.
      obtain ⟨other, found⟩ := Table.get_of_insert_eq_none inserted
      have below := indexed other (Table.mem_of_get found)
      rw [Table.key_of_get found] at below
      exact absurd below (Nat.lt_irrefl _)
  | some table =>
    simp only [exec, PresignOp.exec, inserted] at executed
    cases executed
    unfold PresignTable.insertCap at inserted
    split at inserted
    · cases inserted
    next unused =>
      refine .inl ⟨rfl, ?_, Table.rows_insert inserted⟩
      rintro ⟨row, member, same⟩
      exact unused (List.any_eq_true.mpr ⟨row, member, decide_eq_true same⟩)

theorem ids_insertCap {now : Time} {new : NewPresign} {next : Uuid} {table grown : PresignTable}
    (below : ∀ row ∈ table.rows, row.id < next) (inserted : table.insertCap new next now = some grown) :
    ∀ row ∈ grown.rows, row.id < next + 1 := by
  unfold PresignTable.insertCap at inserted
  split at inserted
  · cases inserted
  · intro row member
    rw [Table.rows_insert inserted] at member
    rcases List.mem_append.mp member with before | added
    · exact Nat.lt_succ_of_lt (below row before)
    · rw [List.mem_singleton.mp added]
      exact Nat.lt_succ_self _

theorem ids_insertCaps {now : Time} {news : List NewPresign} {next last : Uuid} {table grown : PresignTable}
    (below : ∀ row ∈ table.rows, row.id < next)
    (inserted : PresignTable.insertCaps now news next table = some (grown, last)) : ∀ row ∈ grown.rows, row.id < last := by
  induction news generalizing next table with
  | nil =>
    cases inserted
    exact below
  | cons new news ih =>
    simp only [PresignTable.insertCaps] at inserted
    split at inserted
    · cases inserted
    next middle one => exact ih (ids_insertCap below one) inserted

/-- Ids are handed out upwards. -/
theorem PresignOp.ids_exec {table : PresignTable} {next : Uuid} (op : PresignOp) (below : ∀ row ∈ table.rows, row.id < next) :
    ∀ row ∈ (op.exec env table next).2.1.rows, row.id < (op.exec env table next).2.2 := by
  have updated : ∀ (change : Presign.Change) (test : Presign → Bool),
      ∀ row ∈ (table.update (change.guard test)).rows, row.id < next := by
    intro change test row member
    obtain ⟨old, before, rfl⟩ := List.mem_map.mp member
    rw [(change.guard test).keeps]
    exact below old before
  cases op with
  | select id => exact below
  | selectPending => exact below
  | selectTracked network => exact below
  | claim args =>
    simp only [PresignOp.exec]
    split
    · exact below
    · exact updated _ _
  | insertMinted news =>
    simp only [PresignOp.exec]
    split
    · exact below
    next inserted last done => exact ids_insertCaps below done
  | insertDiscovered new =>
    simp only [PresignOp.exec]
    split
    · exact below
    next inserted done => exact ids_insertCap below done
  | _ => exact updated _ _

theorem Indexed.exec (indexed : Indexed world) (executed : exec op env world = some (answer, after)) : Indexed after := by
  cases op with
  | presign op =>
    cases executed
    exact op.ids_exec indexed
  | _ =>
    intro row member
    rcases exec_presigns executed with ⟨statement, other, _⟩ | same
    · cases other
    · rw [same] at member
      exact Nat.lt_of_lt_of_le (indexed row member) (exec_nextId executed)

/-- What a cap found to be tracked or just inserted says about the table. -/
theorem mirrored_of_entry {network : String} {past : Past} (indexed : Indexed world)
    (executed : exec op env world = some (answer, after))
    (before : Tracked network past capId ∨ Inserted past capId → Mirrored world capId)
    (now : Tracked network (⟨op, answer⟩ :: past) capId ∨ Inserted (⟨op, answer⟩ :: past) capId) : Mirrored after capId := by
  rcases now with (⟨ids, seen, inside⟩ | ⟨new, rfl, refused⟩) | inserted
  · rcases List.mem_cons.mp seen with same | earlier
    · cases same
      cases executed
      obtain ⟨row, member, rfl⟩ := List.mem_map.mp inside
      exact ⟨row, (List.mem_filter.mp member).1, rfl⟩
    · exact (before (.inl (.inl ⟨ids, earlier, inside⟩))).exec executed
  · rcases List.mem_cons.mp refused with same | earlier
    · cases same
      rcases exec_insertDiscovered indexed executed with ⟨impossible, _⟩ | ⟨_, there, rfl⟩
      · cases impossible
      · exact there
    · exact (before (.inl (.inr ⟨new, rfl, earlier⟩))).exec executed
  · rcases inserted_cons inserted with earlier | ⟨new, rfl, same⟩
    · exact (before (.inr earlier)).exec executed
    · cases same
      rcases exec_insertDiscovered indexed executed with ⟨_, _, rows⟩ | ⟨impossible, _⟩
      · refine ⟨new.row world.nextId env.now, ?_, rfl⟩
        rw [rows]
        simp
      · cases impossible

end Step

/-- What a pass knows of the table, and of the world it began in when it is a `young` one. -/
structure Sound (view : View) (begun world : World) (young : Prop) (thread : SignThread) : Prop where
  recorded : ∀ {network pages}, thread.tag = .discover network pages →
    ∀ capId, Tracked network thread.history capId ∨ Inserted thread.history capId → Mirrored world capId
  described : ∀ {network pages capIds}, thread.tag = .discover network pages → view.Shown thread.history →
    view.caps pages none = some capIds → ∀ new answer, ⟨.presign (.insertDiscovered new), answer⟩ ∈ thread.history →
      ∀ id now, view.Matches network capIds (new.row id now)
  fresh : ∀ {network pages}, thread.tag = .discover network pages → young →
    ∀ capId, Inserted thread.history capId → ¬Mirrored begun capId

theorem sound_start {view : View} {begun world : World} {young : Prop} {thread : SignThread} (empty : thread.history = []) :
    Sound view begun world young thread where
  recorded _ capId done := by
    rw [empty] at done
    rcases done with (⟨_, seen, _⟩ | ⟨_, _, seen⟩) | ⟨_, _, seen⟩ <;> cases seen
  described _ _ _ new answer seen := by
    rw [empty] at seen
    cases seen
  fresh _ _ capId done := by
    rw [empty] at done
    obtain ⟨_, _, seen⟩ := done
    cases seen

/-- The other calls only add to the table. -/
theorem Sound.grow {view : View} {begun world after : World} {young : Prop} {thread : SignThread}
    (sound : Sound view begun world young thread) (grown : ∀ capId, Mirrored world capId → Mirrored after capId) :
    Sound view begun after young thread where
  recorded tag capId done := grown capId (sound.recorded tag capId done)
  described := sound.described
  fresh := sound.fresh

theorem Sound.act {view : View} {begun world after : World} {young : Prop} {thread : SignThread} {op : Op} {answer : Res op}
    {env : Env} {rest : Prog Reply} (sound : Sound view begun world young thread) (indexed : Indexed world)
    (kept : ∀ capId, Mirrored begun capId → Mirrored world capId)
    (executed : exec op env world = some (answer, after)) (before : (surveyed view thread.tag).before thread.history op) :
    Sound view begun after young (thread.resume ⟨op, answer⟩ rest) where
  recorded tag capId done := mirrored_of_entry indexed executed (sound.recorded tag capId) done
  described := by
    intro network pages capIds tag shown listed new reply seen id now
    rcases List.mem_cons.mp seen with same | earlier
    · cases same
      have asked : thread.tag = .discover network pages := tag
      rw [asked] at before
      exact before (shown_tail shown) capIds listed id now
    · exact sound.described tag (shown_tail shown) listed new reply earlier id now
  fresh := by
    intro network pages tag young capId done there
    rcases inserted_cons done with earlier | ⟨new, rfl, same⟩
    · exact sound.fresh tag young capId earlier there
    · cases same
      rcases exec_insertDiscovered indexed executed with ⟨_, absent, _⟩ | ⟨impossible, _⟩
      · exact absent (kept _ there)
      · cases impossible

/-- The calls from number `count` on began in the world `begun` or later. -/
structure Surveyed (view : View) (begun : World) (count : Nat) (world : World) (calls : Nat → Option SignThread) : Prop where
  indexed : Indexed world
  kept : ∀ capId, Mirrored begun capId → Mirrored world capId
  sound : ∀ index thread, calls index = some thread → Sound view begun world (count ≤ index) thread

theorem Surveyed.queue {view : View} {begun world : World} {count : Nat} {calls : Nat → Option SignThread}
    (link : Surveyed view begun count world calls) (jobs : List Job) :
    Surveyed view begun count { world with jobs := jobs } calls :=
  ⟨link.indexed, link.kept, fun index thread found => (link.sound index thread found).grow (fun _ => id)⟩

theorem Surveyed.move {config : Config} {view : View} {begun : World} {count : Nat} {system : SignSystem}
    {event : Event Env Call} {world : World} {calls : Nat → Option SignThread}
    (link : Surveyed view begun count system.world system.calls)
    (move : (machine config).Move (surveyed view) system event world calls) : Surveyed view begun count world calls := by
  cases move with
  | start tag opened free entered path =>
    rw [close_jobs, enter_jobs entered]
    refine Surveyed.queue ⟨link.indexed, link.kept, fun index thread found => ?_⟩ _
    rcases Machine.calls_update found with ⟨_, rfl⟩ | ⟨_, found⟩
    · exact sound_start rfl
    · exact link.sound index thread found
  | step acting env actor op answer rest opened act =>
    have executed : exec op env system.world = some (answer, opened) := act.executed
    rw [close_jobs]
    refine Surveyed.queue ⟨link.indexed.exec executed, fun capId there => (link.kept capId there).exec executed,
      fun index thread found => ?_⟩ _
    rcases Machine.calls_update found with ⟨rfl, rfl⟩ | ⟨_, found⟩
    · exact (link.sound _ actor act.found).act link.indexed link.kept executed act.before
    · exact (link.sound index thread found).grow (fun capId there => there.exec executed)
  | cut stopped actor there running =>
    change Surveyed view begun count (leave actor.tag none system.world) _
    rw [leave_jobs]
    refine Surveyed.queue ⟨link.indexed, link.kept, fun index thread found => ?_⟩ _
    rcases Machine.calls_update found with ⟨rfl, rfl⟩ | ⟨_, found⟩
    · have sound := link.sound _ actor there
      exact ⟨sound.recorded, sound.described, sound.fresh⟩
    · exact link.sound index thread found

/-- A step of a pass adds at most one row, which describes its cap, and changes none. -/
theorem discover_step {view : View} {world after : World} {network : String} {pages : Nat} {past : Past} {op : Op}
    {answer : Res op} {env : Env} (indexed : Indexed world) (executed : exec op env world = some (answer, after))
    (before : (surveys view network pages).before past op) :
    ∃ added, after.presigns.rows = world.presigns.rows ++ added ∧
      ∀ row ∈ added, view.Shown past → ∀ capIds, view.caps pages none = some capIds → view.Matches network capIds row := by
  cases op with
  | chain op =>
    obtain ⟨reply, _, same⟩ := Option.map_eq_some_iff.mp executed
    cases same
    exact ⟨[], by simp, by simp⟩
  | presign op =>
    cases op with
    | selectTracked of =>
      cases executed
      exact ⟨[], by simp [PresignOp.exec], by simp⟩
    | insertDiscovered new =>
      rcases exec_insertDiscovered indexed executed with ⟨_, _, rows⟩ | ⟨_, _, rfl⟩
      · refine ⟨[new.row world.nextId env.now], rows, fun row member shown capIds listed => ?_⟩
        rw [List.mem_singleton.mp member]
        exact before shown capIds listed _ _
      · exact ⟨[], by simp, by simp⟩
    | _ => exact before.elim
  | _ => exact before.elim

/-- A pass that returns has a verdict on every cap, none of its steps touches a row that was there, and a
pass that begins later inserts only what it counted as failed. -/
theorem discover_accounts (config : Config) (view : View) {network : String} {pages : Nat} {capIds : List ObjectId}
    (listed : view.caps pages none = some capIds) {initial system : SignSystem} (idle : initial.threads = [])
    (indexed : Indexed initial.world) (reached : (machine config).Reaches initial system) {index : Nat} {pass : SignThread}
    (found : system.threads[index]? = some pass) (asked : pass.tag = .discover network pages) :
    (∀ env after, (machine config).next system (.step index env) = some after →
      ∃ added, after.world.presigns.rows = system.world.presigns.rows ++ added ∧
        ∀ row ∈ added, view.Shown pass.history → view.Matches network capIds row) ∧
    ∀ result, pass.program.outcome = some (.ok (.discovered result)) →
      result.scanned = result.alreadyTracked + result.inserted + result.failed ∧
      ∃ verdicts, result = tally verdicts ∧ Judged network pass.history verdicts ∧
        (view.Shown pass.history → result.scanned = capIds.length ∧ (verdicts.map Prod.fst).Perm capIds ∧
          ∀ after, (machine config).Reaches system after → ∀ other second, system.threads.length ≤ other →
            after.threads[other]? = some second → second.tag = pass.tag → view.Shown second.history →
            ∀ capId, Inserted second.history capId → (capId, .failed) ∈ verdicts) := by
  have start : Machine.Kept (surveyed view) initial := by
    intro index thread found
    rw [idle] at found
    cases found
  obtain ⟨kept, link⟩ := reached.tracked (honours_surveyed config view) (Surveyed view initial.world 0) start
    ⟨indexed, fun _ => id, fun index thread found => by simp [System.calls, idle] at found⟩
    (fun _ link _ move => link.move move)
  constructor
  · intro env after stepped
    cases (machine config).effect_of_next stepped with
    | step _ _ acting op rest answer world here alive awaits executed =>
      rw [found] at here
      cases here
      have path := kept index pass found
      rw [awaits, asked] at path
      obtain ⟨added, rows, described⟩ := discover_step link.indexed executed path.1
      refine ⟨added, ?_, fun row member shown => described row member shown capIds listed⟩
      rw [close_jobs]
      exact rows
  · intro result returned
    have ended := (kept index pass found).of_outcome returned
    rw [asked] at ended
    obtain ⟨verdicts, rfl, judged, whole⟩ := ended
    refine ⟨tally_sum verdicts, verdicts, rfl, judged, fun shown => ?_⟩
    have all := whole shown capIds listed
    refine ⟨by simpa [tally] using all.length_eq, all, ?_⟩
    intro after later other second young there tag seen capId inserted
    have again : Surveyed view system.world system.threads.length system.world system.calls := by
      refine ⟨link.indexed, fun _ => id, fun index thread there => ?_⟩
      have inside : index < system.threads.length := (List.getElem?_eq_some_iff.mp there).1
      have sound := link.sound index thread there
      exact ⟨sound.recorded, sound.described, fun _ young => absurd inside (Nat.not_lt.mpr young)⟩
    have sound := (later.tracked (honours_surveyed config view) (Surveyed view system.world system.threads.length)
      kept again (fun _ link _ move => link.move move)).2.sound other second there
    have absent := sound.fresh (tag.trans asked) young capId inserted
    obtain ⟨new, rfl, landed⟩ := inserted
    have scanned := (sound.described (tag.trans asked) seen listed new true landed 0 0).scanned
    obtain ⟨⟨same, verdict⟩, member, rfl⟩ := List.mem_map.mp (all.mem_iff.mpr scanned)
    cases verdict with
    | tracked => exact absurd ((link.sound index pass found).recorded asked _ (.inl (judged.tracked _ member))) absent
    | inserted => exact absurd ((link.sound index pass found).recorded asked _ (.inr ((judged.inserted _).mp member))) absent
    | failed => exact member

/-! ### A cap that one pass cannot read -/

/-- What a pass has returned. -/
def report (pass : SignThread) : Option DiscoverResult :=
  match pass.program.outcome with
  | some (.ok (.discovered result)) => some result
  | _ => none

theorem outcome_of_report {pass : SignThread} {result : DiscoverResult} (returned : report pass = some result) :
    pass.program.outcome = some (.ok (.discovered result)) := by
  unfold report at returned
  split at returned
  next ended =>
    cases returned
    exact ended
  · cases returned

instance (view : View) (entry : Entry Op Res) : Decidable (view.Shows entry) := by
  obtain ⟨op, answer⟩ := entry
  induction op using Op.casesOn with
  | chain op => induction op using ChainOp.casesOn with
    | getDynamicField network parentId name => rcases answer with _ | _ | _ <;> unfold View.Shows <;> infer_instance
    | _ => cases answer <;> unfold View.Shows <;> infer_instance
  | _ => exact isTrue trivial

instance (view : View) (past : Past) : Decidable (view.Shown past) := inferInstanceAs (Decidable (∀ _ ∈ _, _))

instance (network : String) (pages : Nat) (call : Call) : Decidable (call = .discover network pages) := by
  induction call using Call.casesOn with
  | discover other more =>
    exact decidable_of_iff (other = network ∧ more = pages) ⟨by rintro ⟨rfl, rfl⟩; rfl, by rintro ⟨⟩; exact ⟨rfl, rfl⟩⟩
  | _ => exact isFalse (by rintro ⟨⟩)

instance (world : World) : Decidable (Indexed world) := inferInstanceAs (Decidable (∀ _ ∈ _, _))

def sampleCap (capId : ObjectId) : OwnedObject := ⟨capId, "0x1" ++ unverifiedPresignCapType⟩

/-- Three caps on two pages, all of one session. -/
def sampleView : View where
  page cursor := if cursor = none then ⟨[sampleCap "0xa", sampleCap "0xb"], true, some "more"⟩
    else ⟨[sampleCap "0xc"], false, none⟩
  presignId _ := some "0xsession"
  session _ := some (0, 0)
  nek _ := some [1]

/-- The first cap has its row. -/
def sampleWallet : SignSystem where
  threads := []
  world := {
    signRequests := .empty _
    presigns := ⟨[⟨2, "testnet", "0xa", 0, 0, "0xnek", .ready, none, none, none, none, 0, 0⟩], by simp⟩
    ledger := ⟨[], [], []⟩
    dwallets := .empty _
    accounts := .empty _
    jobs := []
    chain := ⟨["0xa", "0xb", "0xc"], []⟩
    nextId := 10 }

/-- Only the first cap of a batch can be read. -/
def patchy : Env := { calm with
  page := sampleView.page (some "more"), capBatch := [some (some "0xsession"), none],
  sessionBatch := [some ⟨some 0, some 0⟩], fieldValue := some [1] }

def samplePass (index : Nat) : List (Event Env Call) :=
  .start (.discover "testnet" 3) :: .step index { patchy with page := sampleView.page none } :: steps index 6 patchy

theorem discover_accounts_sample : ∃ system after pass second, (machine sampleConfig).Reaches sampleWallet system ∧
    (machine sampleConfig).Reaches system after ∧ system.threads[0]? = some pass ∧ after.threads[1]? = some second ∧
    report pass = some ⟨3, 1, 1, 1⟩ ∧ report second = some ⟨3, 2, 1, 0⟩ ∧
    ∃ verdicts, tally verdicts = ⟨3, 1, 1, 1⟩ ∧ ∀ capId, Inserted second.history capId → (capId, .failed) ∈ verdicts := by
  obtain ⟨system, reached, after, played, pass, found, second, there, asked, again, shown, seen, returned, later, rest⟩ :
      ∃ system, (machine sampleConfig).Reaches sampleWallet system ∧
        ∃ after ∈ (machine sampleConfig).play system (samplePass 1), ∃ pass ∈ system.threads[0]?,
        ∃ second ∈ after.threads[1]?, pass.tag = .discover "testnet" 3 ∧ second.tag = .discover "testnet" 3 ∧
          sampleView.Shown pass.history ∧ sampleView.Shown second.history ∧ report pass = some ⟨3, 1, 1, 1⟩ ∧
          report second = some ⟨3, 2, 1, 0⟩ ∧ system.threads.length = 1 :=
    Machine.exists_reaches (samplePass 0) (by decide +kernel)
  have whole : sampleView.caps 3 none = some ["0xa", "0xb", "0xc"] := by decide +kernel
  have indexed : Indexed sampleWallet.world := by decide
  obtain ⟨_, verdicts, counts, _, accounted⟩ :=
    (discover_accounts sampleConfig sampleView whole rfl indexed reached found asked).2 _ (outcome_of_report returned)
  have onward := Machine.reaches_of_play played
  refine ⟨system, after, pass, second, reached, onward, found, there, returned, later, verdicts, counts.symm, ?_⟩
  exact (accounted shown).2.2 after onward 1 second (Nat.le_of_eq rest) there (again.trans asked.symm) seen

end MpcKit.Sign
