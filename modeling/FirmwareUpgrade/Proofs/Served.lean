import FirmwareUpgrade.Proofs.Traffic

/-!
# Requests of any kind

A controller may be handed any request: one that the queue held, one that somebody forged, or one
that came past the queue. In a `Served` session it handles requests of any kind in any order, over
a driver that answers as it likes. Between two requests everything but the controller may change.

What the controller does is read off its deeds: the requests that it takes up, the phases that it
shows and the primitives that it calls. For each operation it is said here which deeds it adds.
-/
namespace FirmwareUpgrade

/-- Whether an effect is something that the controller does. A report is none, and neither is the
call of a completion, which is made by the driver. -/
def Effect.isDeed : Effect → Bool
  | taken _ | watch _ | exchange _ => true
  | completed .. | notice _ | relayed _ => false

theorem Effect.not_isDeed_of_isReport {e : Effect} (h : e.isReport = true) : e.isDeed = false := by
  cases e with
  | taken | completed | watch | exchange => simp [isReport] at h
  | notice | relayed => rfl

namespace Session

variable {δ κ : Type}

/-! ## Deeds -/

/-- What the controller has done, oldest first. -/
def deeds (s : Session δ κ) : List Effect := s.effects.filter (·.isDeed)

/-- What the record gains that is no deed does not change what was done. -/
theorem Adds.deeds_eq {s t : Session δ κ} (h : Adds (·.isDeed = false) s t) : t.deeds = s.deeds := by
  obtain ⟨later, he, hl⟩ := h
  have hnone : later.filter (·.isDeed) = [] := by
    rw [List.filter_eq_nil_iff]
    exact fun e hm => by simp [hl e hm]
  rw [deeds, he, List.filter_append, hnone, List.append_nil, deeds]

section
variable (s : Session δ κ)

theorem deeds_record (e : Effect) :
    (s.record e).deeds = s.deeds ++ if e.isDeed then [e] else [] := by
  rw [deeds, effects_record, List.filter_append, deeds]
  cases he : e.isDeed <;> simp [he]

@[simp] theorem deeds_taken (q : Request) : (s.record (.taken q)).deeds = s.deeds ++ [.taken q] :=
  deeds_record s _

@[simp] theorem deeds_note (n : Notice) : (s.note n).deeds = s.deeds := by
  simp [note, deeds_record, Effect.isDeed]

@[simp] theorem deeds_relayAll (ns : List Notice) : (s.relayAll ns).deeds = s.deeds :=
  (Adds.relayAll s fun _ => rfl).deeds_eq

@[simp] theorem deeds_modify (f : Controller → Controller) : (s.modify f).deeds = s.deeds := rfl

@[simp] theorem deeds_withDriver (driver : δ) : (s.withDriver driver).deeds = s.deeds := rfl

@[simp] theorem deeds_deliver (x : Completion) (r : Reply) : (s.deliver x r).deeds = s.deeds := by
  apply Adds.deeds_eq
  exact .deliver (fun _ => rfl) s rfl

@[simp] theorem deeds_deliverAll (ds : List (Completion × Reply)) :
    (s.deliverAll ds).deeds = s.deeds := by
  induction ds generalizing s with
  | nil => rfl
  | cons d ds ih => rw [deliverAll_cons, ih, deeds_deliver]

@[simp] theorem deeds_settled (op : InFlight) (x : Completion) (r : Reply) :
    (s.settled op x r).deeds = s.deeds := by
  apply Adds.deeds_eq
  exact .settled (fun _ => rfl) s op x r

@[simp] theorem deeds_setPhase (p : Phase) : (s.setPhase p).deeds = s.deeds ++ [.watch p] := by
  simp [deeds, Effect.isDeed]

@[simp] theorem deeds_fail (cause : UpgradeError) :
    (s.fail cause).deeds = s.deeds ++ [.watch .error] := by
  simp [deeds, Effect.isDeed]

theorem deeds_exchange {α : Type} (run : δ → δ × α) (entry : α → Exchange)
    (notices : α → List Notice) :
    (s.exchange run entry notices).1.deeds =
      s.deeds ++ [.exchange (entry (run s.state.driver).2)] := by
  rw [exchange_eq, deeds_relayAll, deeds_record, deeds_withDriver]
  rfl

@[simp] theorem deeds_handOver (drv : Driver δ) (target : ClassHandle) (request : ClassCall)
    (length : Nat) :
    (s.handOver drv target request length).deeds =
      s.deeds ++ [.exchange (.call target request ⟨s.controller.nextTicket, request.operation⟩
        (s.answerTo drv target request).result)] := by
  simp only [handOver, deeds_relayAll, deeds_record, deeds_withDriver, deeds_modify, answerTo]
  rfl

@[simp] theorem deeds_initialised (driver : δ) (device : DeviceHandle) (target : ClassHandle) :
    (s.initialised driver device target).deeds = s.deeds ++ [.exchange (.init device (.ok target))] := by
  simp [initialised, deeds_record, Effect.isDeed]

end

/-! ## The end of a use of the device -/

section
variable (drv : Driver δ) {s : Session δ κ} {target : ClassHandle} {device : DeviceHandle}

theorem deeds_returnClass_of_idle (complaint : UsbError → Notice)
    (hl : s.controller.liveClass = none) : (s.returnClass drv complaint).deeds = s.deeds := by
  simp [returnClass, hl]

theorem deeds_returnClass (complaint : UsbError → Notice)
    (hl : s.controller.liveClass = some target) (hd : s.controller.boundDevice = some device) :
    ∃ result, (s.returnClass drv complaint).deeds =
      s.deeds ++ [.exchange (.deinit device target result)] := by
  refine ⟨(drv.deinit s.state.driver device target).2, ?_⟩
  have hx := deeds_exchange (s.modify ({ · with liveClass := none })) (drv.deinit · device target)
    (.deinit device target ·) fun _ => []
  unfold returnClass
  simp only [hl, hd]
  split
  · rename_i he
    simpa [he] using hx
  · rename_i he
    simpa [he] using hx

/-- What remains of a class handle is given back once. -/
theorem deeds_release (hl : s.controller.liveClass = some target)
    (hd : s.controller.boundDevice = some device) :
    ∃ result, (s.release drv).deeds = s.deeds ++ [.exchange (.deinit device target result)] := by
  obtain ⟨result, hr⟩ := deeds_returnClass drv .deinitAfterDetach hl hd
  refine ⟨result, ?_⟩
  rw [release, deeds_modify, noteInFlight]
  split
  · rw [deeds_note, hr]
  · exact hr

theorem deeds_release_of_idle (hl : s.controller.liveClass = none) :
    (s.release drv).deeds = s.deeds := by
  have hr := deeds_returnClass_of_idle drv .deinitAfterDetach hl
  rw [release, deeds_modify, noteInFlight]
  split
  · rw [deeds_note, hr]
  · exact hr

/-- A successful upgrade ends with a bus reset, the return of the class handle and a new
enumeration, in this order. -/
theorem deeds_finish {host : HostHandle} (hl : s.controller.liveClass = some target)
    (hd : s.controller.boundDevice = some device) (hh : s.controller.boundHost = some host) :
    ∃ result, (s.finish drv).deeds =
      s.deeds ++ [.exchange (.busReset host), .exchange (.deinit device target result),
        .exchange (.reEnumerate device)] := by
  have hreset : Becomes s (s.resetBus drv) s.controller := by
    simp only [resetBus, hh]
    exact Becomes.refl.exchange rfl
  have hbus : (s.resetBus drv).deeds = s.deeds ++ [.exchange (.busReset host)] := by
    simp only [resetBus, hh]
    exact deeds_exchange s _ _ _
  obtain ⟨result, hr⟩ := deeds_returnClass drv (s := s.resetBus drv) .deinitFailed
    (by rw [hreset.controller, hl]) (by rw [hreset.controller, hd])
  have hreturned := returnClass_becomes drv hreset .deinitFailed (by simp)
  refine ⟨result, ?_⟩
  simp only [finish, deeds_note, reEnumerate, hreturned.controller, hd]
  rw [deeds_exchange, hr, hbus]
  simp

end

/-- Unless the completion of the operation in flight was lost, all that is done before a request is
dealt with is to take it up. -/
theorem deeds_noticed {s : Session δ κ} (h : ¬Bereft s) (q : Request) :
    (s.noticed q).deeds = s.deeds ++ [.taken q] := by
  rw [← deeds_taken]
  rcases noticed_cases h q with he | ⟨ticket, he⟩
  · rw [he]
  · rw [he]
    exact deeds_note (s.record (.taken q)).forgetLoss _

/-! ## Sessions that are served -/

/-- The second session came from the first without the controller: the queue, the driver and the
cell for a lost completion may be others, and what was recorded is none of its deeds. -/
structure Elsewhere (s t : Session δ κ) : Prop where
  controller : t.controller = s.controller
  others : Adds (·.isDeed = false) s t

/-- A session in which a new controller has handled any requests. -/
inductive Served (drv : Driver δ) (image : Bytes) (config : Config) : Session δ κ → Prop
  | start (driver : δ) (channel : Channel Request κ) :
    Served drv image config ⟨.new driver image config, channel⟩
  | elsewhere {s t : Session δ κ} : Served drv image config s → Elsewhere s t →
    Served drv image config t
  | handle {s : Session δ κ} (q : Request) : Served drv image config s →
    Served drv image config (Session.handle drv s q).1

theorem Elsewhere.of_beside {allowed : Request → Prop} {s t : Session δ κ}
    (h : Beside allowed s t) : Elsewhere s t :=
  ⟨h.controller, h.reports.mono fun _ => Effect.not_isDeed_of_isReport⟩

theorem Elsewhere.deliver (s : Session δ κ) (x : Completion) (r : Reply) :
    Elsewhere s (s.deliver x r) :=
  ⟨controller_deliver x r, .deliver (fun _ => rfl) s rfl⟩

theorem Elsewhere.dropOldest (s : Session δ κ) : Elsewhere s s.dropOldest := ⟨rfl, .of_effects_eq rfl⟩

end Session

def Move.isEvent {δ : Type} : Move δ → Bool
  | event .. => true
  | _ => false

def Move.isWork {δ : Type} : Move δ → Bool
  | work => true
  | _ => false

theorem Move.eq_work_of_isWork {δ : Type} {m : Move δ} (h : m.isWork = true) : m = .work := by
  cases m with
  | work => rfl
  | _ => simp [isWork] at h

/-- An installation that others share serves its controller. -/
theorem Installation.Shared.served {δ κ : Type} {drv : Driver δ} {driver : δ} {image : Bytes}
    {config : Config} {i : Installation δ κ}
    (h : Shared drv (fun _ => True) (new driver image config) i) :
    Session.Served drv image config i.session :=
  h.keeps (fun _ _ => trivial) (.start driver _)
    (fun hb hs => .elsewhere hs (.of_beside hb))
    (fun _ hs _ => .handle _ (.elsewhere hs (.dropOldest _)))
    (fun x r hs _ => .elsewhere hs (.deliver _ x r))

namespace Installation

variable {δ κ : Type} {drv : Driver δ} {image : Bytes} {config : Config} {i : Installation δ κ}

/-- Only the worker has the controller do something. -/
theorem elsewhere_move (drv : Driver δ) (i : Installation δ κ) {m : Move δ}
    (hw : m.isWork = false) : Session.Elsewhere i.session (i.move drv m).session := by
  cases m with
  | event vendor product host device event =>
    have haside := aside_event drv i vendor product host device event
    exact ⟨haside.controller, (reports_event drv i vendor product host device event).mono
      fun _ => Effect.not_isDeed_of_isReport⟩
  | drive driver notices =>
    exact ⟨(aside_drive drv i driver notices).controller,
      .relayAll (i.session.withDriver driver) fun _ => rfl⟩
  | complete x r => exact .deliver i.session x r
  | work => simp [Move.isWork] at hw

/-- A controller that is served is so after any move. -/
theorem served_move (h : Session.Served drv image config i.session) (m : Move δ) :
    Session.Served drv image config (i.move drv m).session := by
  cases hw : m.isWork with
  | false => exact .elsewhere h (elsewhere_move drv i hw)
  | true =>
    obtain rfl := Move.eq_work_of_isWork hw
    rcases i.session_work drv with ⟨-, hs⟩ | ⟨q, -, hs⟩
    · rwa [hs]
    · rw [hs]
      exact .handle q (.elsewhere h (.dropOldest _))

end Installation

end FirmwareUpgrade
