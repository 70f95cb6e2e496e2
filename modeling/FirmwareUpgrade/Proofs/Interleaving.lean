import FirmwareUpgrade.Proofs.Run
import FirmwareUpgrade.Proofs.Wiring

/-!
# Jobs on threads of their own

A link does a job in one go. Where each job has a thread of its own its actions come one by one, and
calls and the actions of other jobs come in between. `Link.act` is one action of a job, `Threaded` a
link with the threads of its jobs, and `Threaded.Step` one step of it: a call, a step of some thread,
or something that happens to the device, which may turn into any other device at any time.

`stretch_finish` says that a job whose steps come one right after the other is done as the link does
it. `Threaded.Runs` are the runs from a new link. Each records its transitions, and every call in it
is a `Commission` of its own, which stands for the completion that comes with the call.
-/
namespace FirmwareUpgrade

/-- What the thread of a job does next. -/
inductive JobStage where
  | claim (interface setting : UInt8)
  | alternate (held : Claim) (setting : UInt8)
  /-- Asks for the status, perhaps once more after the error was cleared. -/
  | status (held : Claim) (cleared : Bool)
  | clearError (held : Claim)
  | abort (held : Claim)
  /-- Puts its claim in the place of the one that the link has. -/
  | store (held : Claim)
  | transfer (held : Claim) (request : ControlRequest) (data : Bytes)
  /-- Gives its claim up. The completion is called with this reply after that. -/
  | release (held : Claim) (reply : Reply)
  | complete (reply : Reply)

namespace JobStage

def start : Work → JobStage
  | .selectInterface interface setting => claim interface setting
  | .transfer held request data => transfer held request data

/-- The claim that the thread holds. -/
def held? : JobStage → Option Claim
  | claim .. | complete _ => none
  | alternate c _ | status c _ | clearError c | abort c | store c | transfer c .. | release c _ =>
    some c

/-- Goes on with a result, or gives the claim up on an error. -/
def orRelease {β : Type} (held : Claim) (result : Except UsbError β) (next : β → JobStage) : JobStage :=
  match result with
  | .ok b => next b
  | .error cause => release held (.error cause)

/-- What is left to do with a device of this status. -/
def afterStatus (held : Claim) (cleared : Bool) (s : Status) : JobStage :=
  if s.code = 0 ∨ cleared = true then
    if s.state = Status.dfuIdle then store held else abort held
  else clearError held

end JobStage

/-- One action of a job on the device, and what the job does after it. There is none where the job has
nothing to do on the device, or an action never ends. -/
def Link.act {α : Type} (l : Link α) : JobStage → Option (Link α × JobStage)
  | .claim interface setting =>
    match l.wire.claim interface with
    | (wire, .ok ()) =>
      some ({ l with wire, nextSerial := l.nextSerial + 1 },
        .alternate ⟨l.nextSerial, interface⟩ setting)
    | (wire, .error (.failed _)) => some ({ l with wire }, .complete (.error .io))
    | (_, .error .hangs) => none
  | .alternate c setting =>
    match l.wire.alternate setting with
    | (wire, .ok ()) => some ({ l with wire }, .status c false)
    | (wire, .error (.failed _)) => some ({ l with wire }, .release c (.error .io))
    | (_, .error .hangs) => none
  | .status c cleared =>
    let (wire, result) := l.wire.status c.interface
    some ({ l with wire }, .orRelease c result (.afterStatus c cleared))
  | .clearError c =>
    let (wire, reply) := l.wire.request (.clearStatus c.interface) #[]
    some ({ l with wire }, .orRelease c reply fun _ => .status c true)
  | .abort c =>
    let (wire, reply) := l.wire.request (.abort c.interface) #[]
    some ({ l with wire }, .orRelease c reply fun _ => .store c)
  | .transfer c r data =>
    let (wire, reply) := l.wire.request r data
    some ({ l with wire }, .release c reply)
  | .store _ | .release .. | .complete _ => none

/-- The control transfer of a request on the device, and the reply that it amounts to. -/
inductive ControlRequest.Transfers (r : ControlRequest) (data : Bytes) : BusEvent → Reply → Prop
  | sent (result : Except TransferError Unit) : r.direction = .out →
    Transfers r data (.sent r.request r.value r.index data result)
      ((result.map fun _ => #[]).mapError TransferError.toUsbError)
  | asked (result : Except TransferError Bytes) : r.direction = .inward →
    Transfers r data (.asked r.request r.value r.index r.length result)
      (result.mapError TransferError.toUsbError)

theorem Wire.request_transfers (w : Wire) (r : ControlRequest) (data : Bytes) :
    ∃ e, (w.request r data).1.trace = w.trace.push e ∧ r.Transfers data e (w.request r data).2 := by
  cases hr : r.direction with
  | out =>
    refine ⟨.sent r.request r.value r.index data (w.sendData r.request r.value r.index data).2, ?_, ?_⟩
    · rw [request, hr]
      exact w.trace_sendData ..
    · rw [request, hr]
      exact .sent _ hr
  | inward =>
    refine ⟨.asked r.request r.value r.index r.length
      (w.askData r.request r.value r.index r.length).2, ?_, ?_⟩
    · rw [request, hr]
      exact w.trace_askData ..
    · rw [request, hr]
      exact .asked _ hr

/-- The actions that lead from one stage of a job to the next, with what came of them. -/
inductive JobStage.Moves : JobStage → BusEvent → JobStage → Prop
  | claimed (c : Claim) (setting : UInt8) :
    Moves (.claim c.interface setting) (.claim c.interface true) (.alternate c setting)
  | unclaimed (interface setting : UInt8) :
    Moves (.claim interface setting) (.claim interface false) (.complete (.error .io))
  | selected (c : Claim) (setting : UInt8) :
    Moves (.alternate c setting) (.alternate setting true) (.status c false)
  | unselected (c : Claim) (setting : UInt8) :
    Moves (.alternate c setting) (.alternate setting false) (.release c (.error .io))
  | status {c : Claim} {e : BusEvent} {reply : Reply} (cleared : Bool) :
    (ControlRequest.getStatus c.interface).Transfers #[] e reply →
    Moves (.status c cleared) e (.orRelease c
      (reply.bind fun data => (Status.decode data).mapError fun _ => .io) (.afterStatus c cleared))
  | clearError {c : Claim} {e : BusEvent} {reply : Reply} :
    (ControlRequest.clearStatus c.interface).Transfers #[] e reply →
    Moves (.clearError c) e (.orRelease c reply fun _ => .status c true)
  | abort {c : Claim} {e : BusEvent} {reply : Reply} :
    (ControlRequest.abort c.interface).Transfers #[] e reply →
    Moves (.abort c) e (.orRelease c reply fun _ => .store c)
  | transfer {c : Claim} {r : ControlRequest} {data : Bytes} {e : BusEvent} {reply : Reply} :
    r.Transfers data e reply → Moves (.transfer c r data) e (.release c reply)

/-- An action leaves its trace, and nothing but the wire and the count of claims changes. -/
theorem Link.act_moves {α : Type} {l l' : Link α} {p q : JobStage} (h : l.act p = some (l', q)) :
    ∃ wire serial e, l' = { l with wire := wire, nextSerial := serial } ∧
      wire.trace = l.wire.trace.push e ∧ p.Moves e q := by
  cases p with
  | claim interface setting =>
    have htrace := l.wire.trace_act .claim (.claim interface)
    simp only [act] at h
    split at h
    · rename_i wire hclaim
      obtain ⟨rfl, rfl⟩ := Prod.mk.inj (Option.some.inj h)
      exact ⟨wire, _, _, rfl, l.wire.trace_act_of_ok hclaim, .claimed ⟨l.nextSerial, interface⟩ setting⟩
    · rename_i wire text hclaim
      obtain ⟨rfl, rfl⟩ := Prod.mk.inj (Option.some.inj h)
      rw [show l.wire.act .claim (.claim interface) = _ from hclaim] at htrace
      exact ⟨wire, _, _, rfl, htrace.resolve_left (by simp), .unclaimed interface setting⟩
    · cases h
  | alternate c setting =>
    have htrace := l.wire.trace_act .alternate (.alternate setting)
    simp only [act] at h
    split at h
    · rename_i wire halternate
      obtain ⟨rfl, rfl⟩ := Prod.mk.inj (Option.some.inj h)
      exact ⟨wire, _, _, rfl, l.wire.trace_act_of_ok halternate, .selected c setting⟩
    · rename_i wire text halternate
      obtain ⟨rfl, rfl⟩ := Prod.mk.inj (Option.some.inj h)
      rw [show l.wire.act .alternate (.alternate setting) = _ from halternate] at htrace
      exact ⟨wire, _, _, rfl, htrace.resolve_left (by simp), .unselected c setting⟩
    · cases h
  | status c cleared =>
    obtain ⟨rfl, rfl⟩ := Prod.mk.inj (Option.some.inj h)
    obtain ⟨e, htrace, htransfers⟩ := l.wire.request_transfers (.getStatus c.interface) #[]
    exact ⟨_, _, e, rfl, htrace, .status cleared htransfers⟩
  | clearError c =>
    obtain ⟨rfl, rfl⟩ := Prod.mk.inj (Option.some.inj h)
    obtain ⟨e, htrace, htransfers⟩ := l.wire.request_transfers (.clearStatus c.interface) #[]
    exact ⟨_, _, e, rfl, htrace, .clearError htransfers⟩
  | abort c =>
    obtain ⟨rfl, rfl⟩ := Prod.mk.inj (Option.some.inj h)
    obtain ⟨e, htrace, htransfers⟩ := l.wire.request_transfers (.abort c.interface) #[]
    exact ⟨_, _, e, rfl, htrace, .abort htransfers⟩
  | transfer c r data =>
    obtain ⟨rfl, rfl⟩ := Prod.mk.inj (Option.some.inj h)
    obtain ⟨e, htrace, htransfers⟩ := l.wire.request_transfers r data
    exact ⟨_, _, e, rfl, htrace, .transfer htransfers⟩
  | store | release | complete => cases h

/-- A thread that has begun with its job. -/
structure Thread (α : Type) where
  completion : α
  stage : JobStage

/-- A link and the threads that have begun. Its jobs are those whose threads have not. -/
structure Threaded (α : Type) where
  link : Link α
  threads : List (Thread α)

/-- A call of the class driver, told apart from all others by its number. It stands for the completion
that comes with the call. -/
structure Commission where
  number : Nat
  target : ClassHandle
  request : ClassCall
deriving DecidableEq, Repr

/-- What happens in a link with threads. -/
inductive Happening where
  /-- A class handle is given out. -/
  | opened (target : ClassHandle)
  | called (x : Commission) (result : Except UsbError Unit)
  /-- A class handle is to be taken back. -/
  | closed (target : ClassHandle) (result : Except UsbError Unit)
  | begun (x : Commission)
  | acted (x : Commission) (e : BusEvent)
  | stored (x : Commission) (c : Claim)
  | released (x : Commission)
  | completed (x : Commission) (reply : Reply)
  /-- The host resets the device, or the device changes. -/
  | elsewhere

namespace Happening

/-- The call whose job took a step, once its thread had begun. -/
def worker? : Happening → Option Commission
  | acted x _ | stored x _ | released x | completed x _ => some x
  | _ => none

def acted? : Happening → Option BusEvent
  | acted _ e => some e
  | _ => none

/-- A call is refused. -/
def isRefusal : Happening → Bool
  | called _ (.error _) | closed _ (.error _) => true
  | _ => false

/-- The live handle behind this, from the one before. -/
def live (target : Option ClassHandle) : Happening → Option ClassHandle
  | opened target => some target
  | closed _ (.ok ()) => none
  | _ => target

/-- The number of the next class handle behind this, from the one before. -/
def nextClass (n : Nat) : Happening → Nat
  | opened _ => n + 1
  | _ => n

/-- The claim of the link behind this, from the one before. -/
def claimed (claim : Option Claim) : Happening → Option Claim
  | stored _ c => some c
  | closed _ (.ok ()) => none
  | _ => claim

end Happening

namespace Threaded

section
variable {α : Type}

def new (wire : Wire) : Threaded α := ⟨.new wire, []⟩

/-- Whether the link, a job or a thread holds a claim. -/
def holds (s : Threaded α) (c : Claim) : Bool :=
  s.link.holds c || s.threads.any (·.stage.held? == some c)

/-- Releases the interface of a claim that nothing holds any more. -/
def releaseUnheld (s : Threaded α) (c : Claim) : Threaded α :=
  if s.holds c then s
  else { s with link := { s.link with wire := s.link.wire.record (.release c.interface) } }

/-- Holds another claim, or none, instead of the one held so far. -/
def replaceClaim (s : Threaded α) (c : Option Claim) : Threaded α :=
  let old := s.link.claimed
  let s := { s with link := { s.link with claimed := c } }
  match old with
  | none => s
  | some old => s.releaseUnheld old

/-- Takes the live handle back and gives up the claimed interface. -/
def deinit (s : Threaded α) (target : ClassHandle) : Threaded α × Except UsbError Unit :=
  if s.link.liveClass = some target then
    ({ s with link := { s.link with liveClass := none } }.replaceClaim none, .ok ())
  else (s, .error .invalidHandle)

/-- What is left of each call on its way. -/
def stages (s : Threaded α) : List (α × JobStage) :=
  s.link.jobs.map (fun job => (job.completion, JobStage.start job.work)) ++
    s.threads.map fun t => (t.completion, t.stage)

end

/-- One step of a link with threads. -/
inductive Step : Threaded Commission → Happening → Threaded Commission → Prop
  | init {s : Threaded Commission} :
    Step s (.opened ⟨s.link.nextClass⟩) { s with link := s.link.init.1 }
  | submit {s : Threaded Commission} {x : Commission} :
    Step s (.called x (s.link.submit x.target x.request x).2.result)
      { s with link := (s.link.submit x.target x.request x).1 }
  /-- No thread can be started. -/
  | busy {s : Threaded Commission} {x : Commission} {work : Work} :
    s.link.work x.target x.request = .ok work → Step s (.called x (.error .busy)) s
  | deinit {s : Threaded Commission} {target : ClassHandle} :
    Step s (.closed target (s.deinit target).2) (s.deinit target).1
  | begins {l : Link Commission} {threads : List (Thread Commission)}
      {before after : List (Job Commission)} {job : Job Commission} :
    l.jobs = before ++ job :: after →
    Step ⟨l, threads⟩ (.begun job.completion)
      ⟨{ l with jobs := before ++ after }, threads ++ [⟨job.completion, .start job.work⟩]⟩
  | acts {l l' : Link Commission} {before after : List (Thread Commission)} {x : Commission}
      {p q : JobStage} {e : BusEvent} :
    l.act p = some (l', q) → l'.wire.trace = l.wire.trace.push e →
    Step ⟨l, before ++ ⟨x, p⟩ :: after⟩ (.acted x e) ⟨l', before ++ ⟨x, q⟩ :: after⟩
  | stores {l : Link Commission} {before after : List (Thread Commission)} {x : Commission}
      {c : Claim} :
    Step ⟨l, before ++ ⟨x, .store c⟩ :: after⟩ (.stored x c)
      (replaceClaim ⟨l, before ++ ⟨x, .complete (.ok #[])⟩ :: after⟩ (some c))
  | releases {l : Link Commission} {before after : List (Thread Commission)} {x : Commission}
      {c : Claim} {reply : Reply} :
    Step ⟨l, before ++ ⟨x, .release c reply⟩ :: after⟩ (.released x)
      (releaseUnheld ⟨l, before ++ ⟨x, .complete reply⟩ :: after⟩ c)
  | completes {l : Link Commission} {before after : List (Thread Commission)} {x : Commission}
      {reply : Reply} :
    Step ⟨l, before ++ ⟨x, .complete reply⟩ :: after⟩ (.completed x reply) ⟨l, before ++ after⟩
  | resets {s : Threaded Commission} :
    Step s .elsewhere { s with link := { s.link with wire := s.link.wire.reset.1 } }
  | changes {s : Threaded Commission} (d : BusDevice) :
    Step s .elsewhere { s with link := { s.link with wire := { s.link.wire with device := d } } }

/-! ## Jobs done in one go -/

theorem releaseUnheld_eq {α : Type} {l : Link α} {threads : List (Thread α)} {c : Claim}
    (h : ∀ t ∈ threads, t.stage.held? ≠ some c) :
    releaseUnheld ⟨l, threads⟩ c = ⟨l.releaseUnheld c, threads⟩ := by
  have hnone : threads.any (·.stage.held? == some c) = false := by simpa using h
  have hholds : holds ⟨l, threads⟩ c = l.holds c := by rw [holds, hnone, Bool.or_false]
  rw [releaseUnheld, hholds, Link.releaseUnheld]
  split <;> rfl

theorem replaceClaim_eq {α : Type} {l : Link α} {threads : List (Thread α)} (c : Option Claim)
    (h : ∀ t ∈ threads, t.stage.held? = none) :
    replaceClaim ⟨l, threads⟩ c = ⟨l.replaceClaim c, threads⟩ := by
  cases hold : l.claimed with
  | none => simp [replaceClaim, Link.replaceClaim, hold]
  | some old =>
    have hnot : ∀ t ∈ threads, t.stage.held? ≠ some old := fun t ht => by simp [h t ht]
    simp only [replaceClaim, Link.replaceClaim, hold]
    exact releaseUnheld_eq hnot

/-- Steps of the thread of one call, one right after the other. -/
inductive Stretch (x : Commission) : Threaded Commission → List Happening → Threaded Commission → Prop
  | nil (s : Threaded Commission) : Stretch x s [] s
  | cons {s s' t : Threaded Commission} {e : Happening} {es : List Happening} :
    e.worker? = some x → Step s e s' → Stretch x s' es t → Stretch x s (e :: es) t

section
variable {x : Commission} {l l' m : Link Commission} {p q : JobStage} {c : Claim} {w : Wire}
  {s t : Threaded Commission} {es : List Happening}

/-- The only thread, which is that of `x`, is here. -/
def alone (l : Link Commission) (x : Commission) (p : JobStage) : Threaded Commission := ⟨l, [⟨x, p⟩]⟩

theorem Stretch.trans {es' : List Happening} {u : Threaded Commission} (h : Stretch x s es t)
    (h' : Stretch x t es' u) : Stretch x s (es ++ es') u := by
  induction h with
  | nil => exact h'
  | cons hw hs _ ih => exact .cons hw hs (ih h')

theorem Stretch.worker (h : Stretch x s es t) : ∀ e ∈ es, e.worker? = some x := by
  induction h with
  | nil => simp
  | cons hw _ _ ih => exact List.forall_mem_cons.mpr ⟨hw, ih⟩

theorem stretch_act (h : l.act p = some (m, q)) : ∃ es, Stretch x (alone l x p) es (alone m x q) := by
  obtain ⟨wire, serial, e, rfl, htrace, -⟩ := Link.act_moves h
  exact ⟨[.acted x e], .cons rfl (@Step.acts l _ [] [] x p q e h htrace) (.nil _)⟩

/-- An action goes in front of what follows. -/
theorem stretch_act_then (h : l.act p = some (m, q))
    (hrest : ∃ es, Stretch x (alone m x q) es t) : ∃ es, Stretch x (alone l x p) es t := by
  obtain ⟨es, hfirst⟩ := stretch_act (x := x) h
  obtain ⟨es', hrest⟩ := hrest
  exact ⟨es ++ es', hfirst.trans hrest⟩

theorem stretch_release (reply : Reply) :
    ∃ es, Stretch x (alone l x (.release c reply)) es
      (alone (l.releaseUnheld c) x (.complete reply)) := by
  have hstep := @Step.releases l [] [] x c reply
  rw [List.nil_append, releaseUnheld_eq (by simp [JobStage.held?])] at hstep
  exact ⟨[.released x], .cons rfl hstep (.nil _)⟩

theorem stretch_store :
    ∃ es, Stretch x (alone l x (.store c)) es
      (alone (l.replaceClaim (some c)) x (.complete (.ok #[]))) := by
  have hstep := @Step.stores l [] [] x c
  rw [List.nil_append, replaceClaim_eq _ (by simp [JobStage.held?])] at hstep
  exact ⟨[.stored x c], .cons rfl hstep (.nil _)⟩

/-- What is left once the status needs no clearing is to abort an unfinished transfer. -/
theorem stretch_abortTransfer {cleared : Bool} {st : Status} (h : st.code = 0 ∨ cleared = true) :
    ∃ es, Stretch x (alone { l with wire := w } x (.afterStatus c cleared st)) es
      (alone { l with wire := (w.abortTransfer c.interface st).1 } x
        (.orRelease c (w.abortTransfer c.interface st).2 fun _ => .store c)) := by
  rw [JobStage.afterStatus, if_pos h]
  by_cases hidle : st.state = Status.dfuIdle
  · simp only [Wire.abortTransfer, if_pos hidle, JobStage.orRelease]
    exact ⟨[], .nil _⟩
  · simp only [Wire.abortTransfer, if_neg hidle]
    cases hr : w.request (.abort c.interface) #[] with
    | mk wire reply => cases reply <;> exact stretch_act (by simp [Link.act, hr, Except.map]; rfl)

theorem stretch_settleDevice :
    ∃ es, Stretch x (alone { l with wire := w } x (.status c false)) es
      (alone { l with wire := (w.settleDevice c.interface).1 } x
        (.orRelease c (w.settleDevice c.interface).2 fun _ => .store c)) := by
  cases hstatus : w.status c.interface with
  | mk w₁ result =>
    cases result with
    | error cause =>
      simp only [Wire.settleDevice, hstatus]
      exact stretch_act (by simp [Link.act, hstatus, JobStage.orRelease])
    | ok st =>
      refine stretch_act_then (m := { l with wire := w₁ }) (q := .afterStatus c false st)
        (by simp [Link.act, hstatus, JobStage.orRelease]) ?_
      simp only [Wire.settleDevice, hstatus, Wire.clearError]
      by_cases hcode : st.code = 0
      · simp only [if_pos hcode]
        exact stretch_abortTransfer (.inl hcode)
      · simp only [JobStage.afterStatus, hcode, Bool.false_eq_true, or_self, if_false]
        cases hclear : w₁.request (.clearStatus c.interface) #[] with
        | mk w₂ reply =>
          cases reply with
          | error cause => exact stretch_act (by simp [Link.act, hclear, JobStage.orRelease])
          | ok data =>
            dsimp only
            refine stretch_act_then (m := { l with wire := w₂ }) (q := .status c true)
              (by simp [Link.act, hclear, JobStage.orRelease]) ?_
            cases hagain : w₂.status c.interface with
            | mk w₃ result =>
              cases result with
              | error cause => exact stretch_act (by simp [Link.act, hagain, JobStage.orRelease])
              | ok st' =>
                refine stretch_act_then (m := { l with wire := w₃ }) (q := .afterStatus c true st')
                  (by simp [Link.act, hagain, JobStage.orRelease]) ?_
                exact stretch_abortTransfer (.inr rfl)

theorem stretch_selectInterface {interface setting : UInt8} {notices : List Notice} {reply : Reply}
    (h : l.selectInterface interface setting = (l', notices, .reply reply)) :
    ∃ es, Stretch x (alone l x (.claim interface setting)) es (alone l' x (.complete reply)) := by
  unfold Link.selectInterface at h
  split at h
  · rename_i wire hitch hclaim
    cases hitch with
    | hangs => simp [Link.hitch] at h
    | failed text =>
      obtain ⟨rfl, -, rfl⟩ : _ ∧ _ ∧ _ := by simpa [Link.hitch] using h
      exact stretch_act (by simp [Link.act, hclaim])
  · rename_i wire hclaim
    refine stretch_act_then (m := { l with wire, nextSerial := l.nextSerial + 1 })
      (q := .alternate ⟨l.nextSerial, interface⟩ setting) (by simp [Link.act, hclaim]) ?_
    dsimp only at h
    split at h
    · simp [Link.hitch] at h
    · rename_i wire' text halternate
      obtain ⟨rfl, -, rfl⟩ : _ ∧ _ ∧ _ := by simpa [Link.hitch] using h
      exact stretch_act_then (by simp [Link.act, halternate]) (stretch_release _)
    · rename_i wire' halternate
      refine stretch_act_then
        (m := { l with wire := wire', nextSerial := l.nextSerial + 1 })
        (q := .status ⟨l.nextSerial, interface⟩ false) (by simp [Link.act, halternate]) ?_
      obtain ⟨es, hsettle⟩ := stretch_settleDevice (x := x) (w := wire')
        (l := { l with nextSerial := l.nextSerial + 1 }) (c := ⟨l.nextSerial, interface⟩)
      split at h
      · rename_i wire'' cause hsettled
        obtain ⟨rfl, -, rfl⟩ : _ ∧ _ ∧ _ := by simpa using h
        simp only [hsettled, JobStage.orRelease] at hsettle
        obtain ⟨es', hrelease⟩ := stretch_release (x := x) (c := ⟨l.nextSerial, interface⟩)
          (l := { l with wire := wire'', nextSerial := l.nextSerial + 1 }) (.error cause)
        exact ⟨es ++ es', hsettle.trans hrelease⟩
      · rename_i wire'' hsettled
        obtain ⟨rfl, -, rfl⟩ : _ ∧ _ ∧ _ := by simpa using h
        simp only [hsettled, JobStage.orRelease] at hsettle
        obtain ⟨es', hstore⟩ := stretch_store (x := x) (c := ⟨l.nextSerial, interface⟩)
          (l := { l with wire := wire'', nextSerial := l.nextSerial + 1 })
        exact ⟨es ++ es', hsettle.trans hstore⟩

theorem stretch_perform {work : Work} {notices : List Notice} {reply : Reply}
    (h : l.perform work = (l', notices, .reply reply)) :
    ∃ es, Stretch x (alone l x (.start work)) es (alone l' x (.complete reply)) := by
  cases work with
  | selectInterface interface setting => exact stretch_selectInterface h
  | transfer held r data =>
    obtain ⟨rfl, -, rfl⟩ : _ ∧ _ ∧ _ := by simpa [Link.perform] using h
    exact stretch_act_then rfl (stretch_release _)

/-- A job whose thread takes all its steps with nothing in between is done as the link does it. -/
theorem stretch_finish {i : Nat} {notices : List Notice} {reply : Reply}
    (h : l.finish i = (l', notices, some (x, reply))) :
    ∃ s es, Step ⟨l, []⟩ (.begun x) s ∧ Stretch x s (es ++ [.completed x reply]) ⟨l', []⟩ := by
  unfold Link.finish at h
  split at h
  · simp at h
  · rename_i job hjob
    obtain ⟨hi, rfl⟩ := List.getElem?_eq_some_iff.mp hjob
    have hsplit : l.jobs = l.jobs.take i ++ l.jobs[i] :: l.jobs.drop (i + 1) := by
      rw [List.getElem_cons_drop, List.take_append_drop]
    have hbegin := @Step.begins l [] _ _ _ hsplit
    rw [← List.eraseIdx_eq_take_drop_succ] at hbegin
    dsimp only at h
    split at h
    · rename_i m notices' reply' hperform
      obtain ⟨rfl, -, rfl, rfl⟩ : _ ∧ _ ∧ _ ∧ _ := by simpa using h
      obtain ⟨es, hdone⟩ := stretch_perform (x := l.jobs[i].completion) hperform
      have hcomplete := @Step.completes m [] [] l.jobs[i].completion reply'
      exact ⟨_, es, hbegin, hdone.trans (.cons rfl hcomplete (.nil _))⟩
    · simp at h

/-- A call of a link is one of a link with threads. -/
theorem deinit_eq {target : ClassHandle} (h : l.stuck = false) :
    deinit ⟨l, []⟩ target = (⟨(l.deinit target).1, []⟩, (l.deinit target).2) := by
  unfold deinit Link.deinit
  split
  · simp only [h, Bool.false_eq_true, if_false]
    rw [replaceClaim_eq none (by simp)]
  · rfl

end

/-! ## What a step changes -/

/-- The setup packets that went over the wire so far. -/
def packets (s : Threaded Commission) : List Bytes :=
  s.link.wire.trace.toList.filterMap BusEvent.packet?

section
variable {s s' : Threaded Commission} {e : Happening}

/-- To release a claim that is not held takes one action at most, which is no transfer. -/
theorem exists_releaseUnheld (s : Threaded Commission) (c : Claim) :
    ∃ wire, s.releaseUnheld c = { s with link := { s.link with wire := wire } } ∧
      wire.trace.toList.filterMap BusEvent.packet? = s.packets := by
  unfold releaseUnheld
  split
  · exact ⟨s.link.wire, rfl, rfl⟩
  · exact ⟨_, rfl, by simp [packets, Wire.record, BusEvent.packet?]⟩

theorem exists_replaceClaim (s : Threaded Commission) (c : Option Claim) :
    ∃ wire, s.replaceClaim c = { s with link := { s.link with wire := wire, claimed := c } } ∧
      wire.trace.toList.filterMap BusEvent.packet? = s.packets := by
  unfold replaceClaim
  dsimp only
  split
  · exact ⟨s.link.wire, rfl, rfl⟩
  · exact exists_releaseUnheld ..

theorem deinit_cases (s : Threaded Commission) (target : ClassHandle) :
    s.link.liveClass ≠ some target ∧ s.deinit target = (s, .error .invalidHandle) ∨
      s.link.liveClass = some target ∧ ∃ wire, s.deinit target =
        ({ s with link := { s.link with wire := wire, liveClass := none, claimed := none } }, .ok ()) ∧
        wire.trace.toList.filterMap BusEvent.packet? = s.packets := by
  unfold deinit
  split
  · rename_i hlive
    obtain ⟨wire, heq, hpackets⟩ :=
      exists_replaceClaim { s with link := { s.link with liveClass := none } } none
    exact .inr ⟨hlive, wire, by rw [heq], hpackets⟩
  · rename_i hlive
    exact .inl ⟨hlive, rfl⟩

theorem packets_reset (w : Wire) :
    w.reset.1.trace.toList.filterMap BusEvent.packet? = w.trace.toList.filterMap BusEvent.packet? := by
  obtain ⟨later, htrace, hnone⟩ := @Wire.record_act w .reset .reset fun _ => rfl
  rw [show w.reset = w.act .reset .reset from rfl, htrace, List.filterMap_append,
    List.filterMap_eq_nil_iff.mpr hnone, List.append_nil]

/-- How the handles, the claim and the packets come out of what happened. -/
structure Follows (s : Threaded Commission) (e : Happening) (s' : Threaded Commission) : Prop where
  live : s'.link.liveClass = e.live s.link.liveClass
  nextClass : s'.link.nextClass = e.nextClass s.link.nextClass
  claimed : s'.link.claimed = e.claimed s.link.claimed
  packets : s'.packets = s.packets ++ (e.acted?.bind BusEvent.packet?).toList

theorem Step.follows (h : Step s e s') : Follows s e s' := by
  cases h with
  | init => exact ⟨rfl, rfl, rfl, by simp [Happening.acted?, packets, Link.init]⟩
  | @submit _ x =>
    rcases s.link.submit_cases x.target x.request x with ⟨cause, heq⟩ | ⟨work, -, heq⟩ <;>
    · rw [heq]
      exact ⟨rfl, rfl, rfl, by simp [Happening.acted?, packets]⟩
  | @deinit _ target =>
    rcases s.deinit_cases target with ⟨-, heq⟩ | ⟨-, wire, heq, hpackets⟩
    · rw [heq]
      exact ⟨rfl, rfl, rfl, by simp [Happening.acted?]⟩
    · rw [heq]
      exact ⟨rfl, rfl, rfl, by simpa [Happening.acted?, packets] using hpackets⟩
  | @acts _ _ _ _ _ _ _ e hact htrace =>
    obtain ⟨wire, serial, -, rfl, -, -⟩ := Link.act_moves hact
    refine ⟨rfl, rfl, rfl, ?_⟩
    rw [packets, htrace, Array.toList_push, List.filterMap_append]
    refine congrArg _ ?_
    cases hpacket : e.packet? <;> simp [Happening.acted?, hpacket]
  | @stores l before after x c =>
    obtain ⟨wire, heq, hpackets⟩ :=
      exists_replaceClaim ⟨l, before ++ ⟨x, .complete (.ok #[])⟩ :: after⟩ (some c)
    rw [heq]
    exact ⟨rfl, rfl, rfl, by simpa [Happening.acted?, packets] using hpackets⟩
  | @releases l before after x c reply =>
    obtain ⟨wire, heq, hpackets⟩ :=
      exists_releaseUnheld ⟨l, before ++ ⟨x, .complete reply⟩ :: after⟩ c
    rw [heq]
    exact ⟨rfl, rfl, rfl, by simpa [Happening.acted?, packets] using hpackets⟩
  | resets => exact ⟨rfl, rfl, rfl, by simpa [Happening.acted?, packets] using packets_reset _⟩
  | _ => exact ⟨rfl, rfl, rfl, by simp [Happening.acted?, packets]⟩

/-- How the calls on their way change. -/
inductive Shifts (l : Link Commission) :
    List (Commission × JobStage) → Happening → List (Commission × JobStage) → Prop
  | accepted {x : Commission} {work : Work} {ps : List (Commission × JobStage)} :
    l.work x.target x.request = .ok work →
    Shifts l ps (.called x (.ok ())) ((x, .start work) :: ps)
  | acted {x : Commission} {p q : JobStage} {e : BusEvent} {ps : List (Commission × JobStage)} :
    p.Moves e q → Shifts l ((x, p) :: ps) (.acted x e) ((x, q) :: ps)
  | stored {x : Commission} {c : Claim} {ps : List (Commission × JobStage)} :
    Shifts l ((x, .store c) :: ps) (.stored x c) ((x, .complete (.ok #[])) :: ps)
  | released {x : Commission} {c : Claim} {reply : Reply} {ps : List (Commission × JobStage)} :
    Shifts l ((x, .release c reply) :: ps) (.released x) ((x, .complete reply) :: ps)
  | completed {x : Commission} {reply : Reply} {ps : List (Commission × JobStage)} :
    Shifts l ((x, .complete reply) :: ps) (.completed x reply) ps
  | rest {ps : List (Commission × JobStage)} {e : Happening} :
    e.worker? = none → (∀ x, e ≠ .called x (.ok ())) → Shifts l ps e ps

theorem stages_update {l : Link Commission} {before after : List (Thread Commission)}
    (t : Thread Commission) :
    (stages ⟨l, before ++ t :: after⟩).Perm
      ((t.completion, t.stage) :: stages ⟨l, before ++ after⟩) := by
  simp only [stages, List.map_append, List.map_cons, ← List.append_assoc]
  exact List.perm_middle

theorem stages_begin {l : Link Commission} {threads : List (Thread Commission)}
    {before after : List (Job Commission)} {job : Job Commission} (h : l.jobs = before ++ job :: after) :
    (stages ⟨l, threads⟩).Perm (stages ⟨{ l with jobs := before ++ after },
      threads ++ [⟨job.completion, .start job.work⟩]⟩) := by
  simp only [stages, h, List.map_append, List.map_cons, List.map_nil, ← List.append_assoc]
  refine (List.perm_append_right_iff _).mpr List.perm_middle |>.trans ?_
  rw [List.cons_append]
  exact (List.perm_append_singleton _ _).symm

theorem Step.shifts (h : Step s e s') :
    ∃ ps ps', s.stages.Perm ps ∧ s'.stages.Perm ps' ∧ Shifts s.link ps e ps' := by
  cases h with
  | init => exact ⟨_, _, .refl _, .refl _, .rest rfl (by simp)⟩
  | @submit _ x =>
    cases hwork : s.link.work x.target x.request with
    | error cause =>
      rw [Link.submit, hwork]
      exact ⟨_, _, .refl _, .refl _, .rest rfl (by simp [Answer.refused])⟩
    | ok work =>
      rw [Link.submit, hwork]
      refine ⟨_, _, .refl _, ?_, .accepted hwork⟩
      simp only [stages, List.map_append, List.map_cons, List.map_nil, List.append_assoc]
      exact List.perm_middle
  | busy => exact ⟨_, _, .refl _, .refl _, .rest rfl (by simp)⟩
  | @deinit _ target =>
    rcases s.deinit_cases target with ⟨-, heq⟩ | ⟨-, wire, heq, -⟩ <;> rw [heq] <;>
      exact ⟨_, _, .refl _, .refl _, .rest rfl (by simp)⟩
  | begins hjobs => exact ⟨_, _, stages_begin hjobs, .refl _, .rest rfl (by simp)⟩
  | acts hact htrace =>
    obtain ⟨wire, serial, e, rfl, hpush, hmoves⟩ := Link.act_moves hact
    obtain ⟨rfl, -⟩ := Array.push_eq_push.mp (hpush.symm.trans htrace)
    exact ⟨_, _, stages_update _, stages_update _, .acted hmoves⟩
  | @stores l before after x c =>
    obtain ⟨wire, heq, -⟩ :=
      exists_replaceClaim ⟨l, before ++ ⟨x, .complete (.ok #[])⟩ :: after⟩ (some c)
    rw [heq]
    exact ⟨_, _, stages_update _, stages_update _, .stored⟩
  | @releases l before after x c reply =>
    obtain ⟨wire, heq, -⟩ :=
      exists_releaseUnheld ⟨l, before ++ ⟨x, .complete reply⟩ :: after⟩ c
    rw [heq]
    exact ⟨_, _, stages_update _, stages_update _, .released⟩
  | completes => exact ⟨_, _, stages_update _, .refl _, .completed⟩
  | resets => exact ⟨_, _, .refl _, .refl _, .rest rfl (by simp)⟩
  | changes d => exact ⟨_, _, .refl _, .refl _, .rest rfl (by simp)⟩

/-- A call that is refused leaves everything as it is. -/
theorem Step.eq_of_isRefusal (h : Step s e s') (he : e.isRefusal = true) : s' = s := by
  cases h with
  | @submit _ x =>
    rcases s.link.submit_cases x.target x.request x with ⟨cause, heq⟩ | ⟨work, -, heq⟩
    · rw [heq]
    · rw [heq] at he
      cases he
  | busy => rfl
  | @deinit _ target =>
    rcases s.deinit_cases target with ⟨-, heq⟩ | ⟨-, wire, heq, -⟩
    · rw [heq]
    · rw [heq] at he
      cases he
  | _ => cases he

end

/-! ## Runs -/

/-- A step with what came before and after it. -/
structure Transition where
  before : Threaded Commission
  event : Happening
  after : Threaded Commission

/-- What happened in a history. -/
def events (h : List Transition) : List Happening := h.map (·.event)

@[simp] theorem events_append (h h' : List Transition) : events (h ++ h') = events h ++ events h' :=
  List.map_append

theorem mem_events {h : List Transition} {e : Happening} : e ∈ events h ↔ ∃ τ ∈ h, τ.event = e :=
  List.mem_map

/-- A run from a new link, with its transitions, oldest first. No two calls are the same. -/
inductive Runs (wire : Wire) : List Transition → Threaded Commission → Prop
  | new : Runs wire [] (.new wire)
  | step {h : List Transition} {s s' : Threaded Commission} {e : Happening} :
    Runs wire h s → Step s e s' →
    (∀ x result, e = .called x result → ∀ earlier, .called x earlier ∉ events h) →
    Runs wire (h ++ [⟨s, e, s'⟩]) s'

section
variable {wire : Wire} {h : List Transition} {s t : Threaded Commission} {x : Commission}

/-- A run takes its steps one by one. -/
theorem Runs.transition (hr : Runs wire h s) : ∀ τ ∈ h, Step τ.before τ.event τ.after := by
  induction hr with
  | new => simp
  | step _ hs _ ih =>
    intro τ hτ
    rcases List.mem_append.mp hτ with hτ | hτ
    · exact ih τ hτ
    · obtain rfl := List.mem_singleton.mp hτ
      exact hs

theorem Runs.stretch {es : List Happening} (hr : Runs wire h s) (hs : Stretch x s es t) :
    ∃ later, events later = es ∧ Runs wire (h ++ later) t := by
  induction hs generalizing h with
  | nil => exact ⟨[], rfl, by simpa using hr⟩
  | @cons s s' _ e _ hw hstep _ ih =>
    obtain ⟨later, hes, hrun⟩ := ih (hr.step hstep (by rintro _ _ rfl; cases hw))
    exact ⟨⟨s, e, s'⟩ :: later, congrArg (e :: ·) hes, by simpa using hrun⟩

end

/-! ## What a link does in one go -/

section
variable {wire : Wire} {h : List Transition} {l : Link Commission} {x : Commission}

theorem Runs.init (hr : Runs wire h ⟨l, []⟩) :
    Runs wire (h ++ [⟨⟨l, []⟩, .opened ⟨l.nextClass⟩, ⟨l.init.1, []⟩⟩]) ⟨l.init.1, []⟩ :=
  hr.step .init (by simp)

theorem Runs.submit (hr : Runs wire h ⟨l, []⟩) (hx : ∀ earlier, .called x earlier ∉ events h) :
    Runs wire (h ++ [⟨⟨l, []⟩, .called x (l.submit x.target x.request x).2.result,
      ⟨(l.submit x.target x.request x).1, []⟩⟩]) ⟨(l.submit x.target x.request x).1, []⟩ :=
  hr.step .submit fun _ _ heq => (Happening.called.inj heq).1 ▸ hx

theorem Runs.deinit (hr : Runs wire h ⟨l, []⟩) (target : ClassHandle) (hl : l.stuck = false) :
    Runs wire (h ++ [⟨⟨l, []⟩, .closed target (l.deinit target).2, ⟨(l.deinit target).1, []⟩⟩])
      ⟨(l.deinit target).1, []⟩ := by
  have hstep := @Step.deinit ⟨l, []⟩ target
  rw [deinit_eq hl] at hstep
  exact hr.step hstep (by simp)

theorem Runs.finish (hr : Runs wire h ⟨l, []⟩) (i : Nat) (reply : Reply)
    (hf : (l.finish i).2.2 = some (x, reply)) :
    ∃ later, Happening.completed x reply ∈ events later ∧
      (∀ e ∈ events later, e = .begun x ∨ e.worker? = some x) ∧
      Runs wire (h ++ later) ⟨(l.finish i).1, []⟩ := by
  obtain ⟨s, es, hbegin, hstretch⟩ := stretch_finish (l := l) (i := i) (by rw [← hf])
  obtain ⟨later, hes, hrun⟩ := (hr.step hbegin (by simp)).stretch hstretch
  have hlast : Happening.completed x reply ∈ events later := by simp [hes]
  refine ⟨⟨⟨l, []⟩, .begun x, s⟩ :: later, .tail _ hlast, fun e he => ?_, by simpa using hrun⟩
  rcases List.mem_cons.mp he with rfl | he
  · exact .inl rfl
  · exact .inr (hstretch.worker _ (hes ▸ he))

/-- A device in the idle state of DFU, with no configuration to speak of. -/
def idleDevice : BusDevice where
  vendor := 0
  product := 0
  bus := "1"
  address := 5
  listed := []
  configurations := []
  twists := []
  memory := #[]
  uploadOffset := 0
  status := 0
  state := Status.dfuIdle
  pollTimeout := 0
  corrupt := none
  counts := .replicate BusAction.all.length 0

/-- The selection of an interface on a new class handle. -/
def selection : Commission := ⟨0, ⟨1⟩, .setInterface ⟨2⟩ 0⟩

/-- The link with its job on the way, and behind its success. -/
def selecting : Link Commission :=
  ((Link.new ⟨idleDevice, #[]⟩).init.1.submit selection.target selection.request selection).1

def selected : Link Commission := (selecting.finish 0).1

theorem claimed_selected : selected.claimed = some ⟨0, 2⟩ := by decide +kernel

theorem runs_selecting :
    ∃ h, Runs ⟨idleDevice, #[]⟩ h ⟨selecting, []⟩ ∧ ∀ e ∈ events h, e.worker? = none :=
  ⟨_, (@Runs.new ⟨idleDevice, #[]⟩).init.submit (by simp [events]), by simp [events, Happening.worker?]⟩

theorem runs_selected :
    ∃ h, Runs ⟨idleDevice, #[]⟩ h ⟨selected, []⟩ ∧ .completed selection (.ok #[]) ∈ events h ∧
      ∀ e ∈ events h, ∀ x, e.worker? = some x → x = selection := by
  obtain ⟨h, hr, hnone⟩ := runs_selecting
  obtain ⟨later, hdone, hown, hr'⟩ := hr.finish (x := selection) 0 (.ok #[]) (by decide +kernel)
  refine ⟨h ++ later, hr', ?_, ?_⟩ <;> rw [events_append]
  · exact List.mem_append_right _ hdone
  · intro e he x hx
    rcases List.mem_append.mp he with he | he
    · rw [hnone e he] at hx
      cases hx
    · rcases hown e he with rfl | hworker
      · cases hx
      · exact Option.some.inj (hx.symm.trans hworker)

end

end Threaded

end FirmwareUpgrade
