import MpcKit.Services.Growth
import MpcKit.Sign.Sources
import MpcKit.Wallets.Sources

/-! What the answers a call has got still say of the world, however long ago it got them. -/

namespace MpcKit.Services
open MpcKit.Backend MpcKit.Async
open MpcKit.Sign (Account DWallet Presign)

/-- What each call has read before it writes. -/
def sources (config : Config) : Call → Contract Op Res Thrown Reply
  | .inl call => (Sign.sourced call).within signing .inl
  | .inr call => (Wallets.sourced config.wallets call).within dwallets .inr

theorem honours (config : Config) : (machine config).Honours (sources config) where
  programs := by
    rintro (call | call)
    · have obeys : (Sign.program config.sign call).Obeys (Sign.sourced call) [] :=
        (Sign.shows_program config.sign call).obeys (fun _ _ _ => trivial)
      exact obeys.within signing Sum.inl
    · have obeys : (Wallets.program config.wallets call).Obeys (Wallets.sourced config.wallets call) [] :=
        (Wallets.shows_program config.wallets call).obeys (fun _ _ _ => trivial)
      exact obeys.within dwallets Sum.inr
  answers := by
    rintro index op env world answer after executed (call | call)
    · rintro ⟨own, reply⟩ same
      cases same
      obtain ⟨_, sign, done, _⟩ := exec_sign executed
      exact ⟨Sign.answers_exec done, Sign.selects_exec done⟩
    · rintro ⟨own, reply⟩ same
      cases same
      trivial

/-- What is known before an operation of the sign services. -/
theorem sourced_sign {config : Config} {call : Call} {history : History Op Res} {op : Sign.Op}
    (before : (sources config call).before history (.inl op)) :
    ∃ own past, call = .inl own ∧ history = past.map signing.entry ∧ Sign.Sourced own past op := by
  cases call with
  | inl own =>
    obtain ⟨past, action, same, named, sourced⟩ := before
    cases named
    exact ⟨own, past, rfl, same, sourced⟩
  | inr own =>
    obtain ⟨_, _, _, named, _⟩ := before
    cases named

/-- What is known before an operation of the dwallet service. -/
theorem sourced_wallets {config : Config} {call : Call} {history : History Op Res} {op : Wallets.Op}
    (before : (sources config call).before history (.inr op)) :
    ∃ own past, call = .inr own ∧ history = past.map dwallets.entry ∧ Wallets.Sourced config.wallets own past op := by
  cases call with
  | inl own =>
    obtain ⟨_, _, _, named, _⟩ := before
    cases named
  | inr own =>
    obtain ⟨past, action, same, named, sourced⟩ := before
    cases named
    exact ⟨own, past, rfl, same, sourced⟩

/-! ### One event -/

/-- Starting and ending a call change nothing but the jobs of the queue. -/
theorem enter_grows {call : Call} {world after : World} (entered : enter call world = some after) :
    ∃ jobs, after = { world with sign := { world.sign with jobs := jobs } } := by
  cases call with
  | inl call =>
    obtain ⟨sign, started, rfl⟩ := Option.map_eq_some_iff.mp entered
    exact ⟨sign.jobs, by rw [← Sign.enter_jobs started]⟩
  | inr call =>
    cases entered
    exact ⟨world.sign.jobs, rfl⟩

theorem leave_grows (call : Call) (result : Option (Except Thrown Reply)) (world : World) :
    ∃ jobs, leave call result world = { world with sign := { world.sign with jobs := jobs } } := by
  cases call with
  | inl call => exact ⟨_, congrArg (fun sign => { world with sign := sign }) (Sign.leave_jobs call _ world.sign)⟩
  | inr call => exact ⟨world.sign.jobs, rfl⟩

theorem close_grows (config : Config) (index : Nat) (call : Call) (program : Program Op Res Thrown Reply) (world : World) :
    ∃ jobs, (machine config).close index call program world = { world with sign := { world.sign with jobs := jobs } } := by
  unfold Machine.close
  split
  · exact leave_grows call _ world
  · exact ⟨world.sign.jobs, rfl⟩

theorem Grows.refl (world : World) : Grows world world where
  accounts := .refl (fun _ => rfl) _
  dwallets := .refl SameDWallet.refl _
  presigns := .refl SameBucket.refl _
  stored _ there := there
  nextId := Nat.le_refl _

theorem Grows.jobs (world : World) (jobs : List Sign.Job) :
    Grows world { world with sign := { world.sign with jobs := jobs } } := { Grows.refl world with }

/-- No event takes any of it away. -/
theorem grows_move {config : Config} {contract : Call → Contract Op Res Thrown Reply} {system : ServiceSystem}
    {event : Event Env Call} {world : World} {calls : Nat → Option ServiceThread}
    (move : (machine config).Move contract system event world calls) :
    Grows system.world world := by
  cases move with
  | start call entered free opened path =>
    obtain ⟨jobs, rfl⟩ := enter_grows opened
    obtain ⟨left, same⟩ := close_grows config system.threads.length call ((machine config).program call)
      { system.world with sign := { system.world.sign with jobs := jobs } }
    rw [same]
    exact .jobs system.world left
  | step index env thread op answer rest after act =>
    obtain ⟨left, same⟩ := close_grows config index thread.tag rest after
    rw [same]
    exact { grows_exec act.executed with }
  | cut index thread found running =>
    obtain ⟨left, same⟩ := leave_grows thread.tag none system.world
    change Grows system.world (leave thread.tag none system.world)
    rw [same]
    exact .jobs system.world left

/-! ### Links between the world and the calls -/

variable {config : Config}

theorem Backed.jobs {fact : World → (op : Op) → Res op → Prop} {world : World} {calls : Nat → Option ServiceThread}
    (backed : Machine.Backed fact world calls)
    (lasts : ∀ {before after : World}, Grows before after → ∀ {op answer}, fact before op answer → fact after op answer)
    (jobs : List Sign.Job) : Machine.Backed fact { world with sign := { world.sign with jobs := jobs } } calls :=
  fun index thread found op answer heard => lasts (.jobs world jobs) (backed index thread found op answer heard)

/-- A link that every event keeps. -/
structure Follows (config : Config) (link : World → (Nat → Option ServiceThread) → Prop) : Prop where
  jobs : ∀ {world calls} (jobs : List Sign.Job), link world calls →
    link { world with sign := { world.sign with jobs := jobs } } calls
  replace : ∀ {world calls index replaced}, link world calls → Machine.Echoes calls index replaced →
    link world (Function.update calls index (some replaced))
  act : ∀ {system index env thread op answer rest after}, link system.world system.calls →
    (machine config).Act (sources config) system index env thread op answer rest after →
    link after (Function.update system.calls index (some (thread.resume ⟨op, answer⟩ rest)))

theorem Follows.moved {link : World → (Nat → Option ServiceThread) → Prop} (follows : Follows config link)
    {system : ServiceSystem} {event : Event Env Call} {world : World} {calls : Nat → Option ServiceThread}
    (linked : link system.world system.calls)
    (move : (machine config).Move (sources config) system event world calls) : link world calls := by
  cases move with
  | start call entered free opened path =>
    obtain ⟨jobs, rfl⟩ := enter_grows opened
    obtain ⟨left, same⟩ := close_grows config system.threads.length call ((machine config).program call)
      { system.world with sign := { system.world.sign with jobs := jobs } }
    rw [same]
    exact follows.jobs left (follows.jobs jobs (follows.replace linked (.inl rfl)))
  | step index env thread op answer rest after act =>
    obtain ⟨left, same⟩ := close_grows config index thread.tag rest after
    rw [same]
    exact follows.jobs left (follows.act linked act)
  | cut index thread found running =>
    obtain ⟨left, same⟩ := leave_grows thread.tag none system.world
    have echoes : Machine.Echoes system.calls index { thread with cut := true } := .inr ⟨thread, found, rfl, rfl⟩
    change link (leave thread.tag none system.world) _
    rw [same]
    exact follows.jobs left (follows.replace linked echoes)

/-- A link that holds before any call holds throughout. -/
theorem Follows.reaches {link : World → (Nat → Option ServiceThread) → Prop} (follows : Follows config link)
    {initial system : ServiceSystem} (idle : initial.threads = []) (start : link initial.world initial.calls)
    (reached : (machine config).Reaches initial system) :
    Machine.Kept (sources config) system ∧ link system.world system.calls := by
  refine reached.tracked (honours config) link ?_ start (fun _ linked _ move => follows.moved linked move)
  intro index thread found
  rw [idle] at found
  cases found

end MpcKit.Services
