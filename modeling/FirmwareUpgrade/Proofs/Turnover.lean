import FirmwareUpgrade.Proofs.Resting

/-!
# The read-back buffer is taken and given up by turns

A buffer is taken when the first block is to be read back, and given up in three places: when it was
compared with the image, when the upgrade fails, and when the device is let go of. `Stock` is what
the controller keeps of all that, and a request does nothing to it but take a buffer where there is
none and give up the one that there is (`Stock.Turn`). So the counts show how many buffers there
are, and between two that are given up exactly one is taken.
-/
namespace FirmwareUpgrade

/-! ## Taking and giving up -/

/-- Whether a read-back buffer is held, and how many were taken and given up. -/
structure Stock where
  held : Bool
  taken : Nat
  given : Nat
deriving DecidableEq

namespace Stock

variable {s t : Stock}

def take (s : Stock) : Stock :=
  if s.held then s else { s with held := true, taken := s.taken + 1 }

def give (s : Stock) : Stock :=
  if s.held then { s with held := false, given := s.given + 1 } else s

/-- What was taken and not given up is held. -/
def Balanced (s : Stock) : Prop := s.taken = s.given + if s.held then 1 else 0

/-- What one request does to the stock. A buffer that it takes may be given up again, but none is
taken once one was given up. -/
inductive Turn (s : Stock) : Stock → Prop
  | rest : Turn s s
  | give : Turn s s.give
  | take : Turn s s.take
  | takeGive : Turn s s.take.give

theorem held_give (s : Stock) : s.give.held = false := by
  unfold Stock.give
  cases hs : s.held <;> simp [hs]

theorem give_of_held_eq_false (h : s.held = false) : s.give = s := by simp [Stock.give, h]

theorem give_give (s : Stock) : s.give.give = s.give := give_of_held_eq_false s.held_give

/-- Whatever a request did, the upgrade may fail behind it. -/
theorem Turn.andGive (h : Turn s t) : Turn s t.give := by
  cases h with
  | rest => exact .give
  | give =>
    rw [give_give]
    exact .give
  | take => exact .takeGive
  | takeGive =>
    rw [give_give]
    exact .takeGive

theorem Balanced.give (h : s.Balanced) : s.give.Balanced := by
  unfold Balanced Stock.give at *
  cases hs : s.held <;> simp_all

theorem Balanced.take (h : s.Balanced) : s.take.Balanced := by
  unfold Balanced Stock.take at *
  cases hs : s.held <;> simp_all

theorem Balanced.turn (h : s.Balanced) (ht : Turn s t) : t.Balanced := by
  cases ht with
  | rest => exact h
  | give => exact h.give
  | take => exact h.take
  | takeGive => exact h.take.give

theorem Turn.given_le (h : Turn s t) : s.given ≤ t.given ∧ t.given ≤ s.given + 1 := by
  cases h <;> cases hs : s.held <;> simp [Stock.give, Stock.take, hs]

/-- Behind a request that gave a buffer up there is none. -/
theorem Turn.held_of_given_lt (h : Turn s t) (hlt : s.given < t.given) : t.held = false := by
  cases h with
  | rest => exact absurd hlt (lt_irrefl _)
  | give | takeGive => exact held_give _
  | take =>
    refine absurd hlt ?_
    cases hs : s.held <;> simp [Stock.take, hs]

end Stock

namespace Controller

variable (c : Controller)

/-- What the controller keeps of its read-back buffers. -/
def stock : Stock := ⟨c.readback.isSome, c.readbackAllocations, c.readbackFrees⟩

variable {c} in
/-- Whatever else may differ, the buffer and the counts make the stock. -/
theorem stock_congr {d : Controller} (hr : d.readback.isSome = c.readback.isSome)
    (ha : d.readbackAllocations = c.readbackAllocations) (hf : d.readbackFrees = c.readbackFrees) :
    d.stock = c.stock := by
  rw [stock, hr, ha, hf, stock]

theorem stock_freeReadback : c.freeReadback.stock = c.stock.give := by
  unfold freeReadback stock Stock.give
  split <;> simp [*]

theorem stock_allocateReadback : c.allocateReadback.stock = c.stock.take := by
  unfold allocateReadback stock Stock.take
  split <;> simp [*]

theorem stock_recordFailure (cause : UpgradeError) :
    (c.recordFailure cause).stock = c.stock.give := by
  rw [← stock_freeReadback]
  rfl

theorem stock_forgetDevice : c.forgetDevice.stock = c.stock.give :=
  stock_freeReadback { c with inFlight := none, boundDevice := none, boundInterface := none }

/-- Only the phase that reads back takes a buffer. -/
theorem stock_enter (p : Phase) :
    (c.enter p).stock = if p = .readBack then c.stock.take else c.stock := by
  unfold enter
  dsimp only
  split
  · exact stock_allocateReadback { c with phase := p, watch := p }
  · rfl

theorem stock_enter_of_ne {p : Phase} (hp : p ≠ .readBack) : (c.enter p).stock = c.stock := by
  rw [stock_enter, if_neg hp]

theorem stock_enter_turn (p : Phase) : c.stock.Turn (c.enter p).stock := by
  rw [stock_enter]
  split
  · exact .take
  · exact .rest

theorem stock_checkStatus (data : Bytes) (next : Phase) :
    (c.checkStatus data next).controller.stock = c.stock := by
  unfold checkStatus
  split <;> rfl

theorem stock_takeChunk (requested : Nat) (data : Bytes) :
    (c.takeChunk requested data).controller.stock = c.stock := by
  unfold takeChunk
  dsimp only
  split <;> exact stock_congr (by simp [storeReadback]) rfl rfl

theorem controller_verify : c.verify.controller = c.freeReadback.resetCounters := by
  unfold verify
  dsimp only
  split <;> rfl

theorem stock_verify : c.verify.controller.stock = c.stock.give := by
  rw [controller_verify, ← stock_freeReadback]
  rfl

/-- The success of an operation takes no buffer. -/
theorem stock_succeed (op : InFlight) (data : Bytes) :
    c.stock.Turn (c.succeed op data).controller.stock := by
  unfold succeed
  split
  case h_2 =>
    rw [stock_checkStatus]
    exact .rest
  case h_5 =>
    rw [stock_takeChunk]
    exact .rest
  case h_6 =>
    split
    · have hchecked := c.stock_checkStatus data .detach
      unfold Verdict.andThen
      split
      · rename_i he
        rw [he] at hchecked
        rw [hchecked]
        exact .rest
      · rename_i he
        rw [he] at hchecked
        dsimp only at hchecked ⊢
        rw [stock_verify, hchecked]
        exact .give
    · rw [stock_checkStatus]
      exact .rest
  all_goals exact .rest

theorem stock_conclude (op : InFlight) (operation : Operation) (r : Reply) :
    c.stock.Turn (c.conclude op operation r).controller.stock := by
  cases r with
  | error cause => exact .rest
  | ok data => exact stock_succeed { c with inFlight := none } op data

end Controller

namespace Session

variable {δ κ : Type} {drv : Driver δ} {s t : Session δ κ} {σ : Stock} {q : Request}

/-! ## What a request does to the stock -/

theorem stock_fail (h : σ.Turn s.controller.stock) (cause : UpgradeError) :
    σ.Turn (s.fail cause).controller.stock := by
  rw [controller_fail, Controller.stock_enter_of_ne _ (by simp), Controller.stock_recordFailure]
  exact h.andGive

theorem stock_advance (h : σ.Turn s.controller.stock) (p : Phase) :
    σ.Turn (s.advance p).controller.stock := by
  unfold advance
  split
  · exact h
  · exact stock_fail h _

theorem stock_initialise (h : σ.Turn s.controller.stock) (device : DeviceHandle) :
    σ.Turn (s.initialise drv device).controller.stock := by
  rcases initialise_cases drv s device with ⟨u, cause, hu, he⟩ | ⟨driver, target, he⟩
  · rw [he]
    apply stock_fail
    rwa [hu.controller]
  · rw [he]
    exact stock_advance (s := s.initialised driver device target) h _

theorem stock_start (h : σ.Turn s.controller.stock) (target : ClassHandle) (request : ClassCall)
    (length : Nat) : σ.Turn (s.start drv target request length).controller.stock := by
  have hbegun : ∀ ds, σ.Turn
      ((s.handOver drv target request length).deliverAll ds).controller.stock := by
    intro ds
    rw [controller_deliverAll, controller_handOver]
    exact h
  rw [start_eq]
  split
  · exact hbegun _
  · exact stock_fail (hbegun _) _

theorem stock_outcome (o : Outcome drv s q t) : s.controller.stock.Turn t.controller.stock := by
  have hentered : ∀ p, s.controller.stock.Turn (s.setPhase p).controller.stock :=
    s.controller.stock_enter_turn
  cases o with
  | dropped | ignored | stale | bound => exact .rest
  | released =>
    rw [controller_setPhase, (release_becomes drv s).controller,
      Controller.stock_enter_of_ne _ (by simp), Controller.stock_forgetDevice]
    exact .give
  | initialised device => exact stock_initialise (hentered _) device
  | started p target request length => exact stock_start (hentered p) target request length
  | skipped => exact stock_advance (hentered _) _
  | finished =>
    rw [(finish_becomes drv _).controller]
    exact hentered .complete
  | blocked p cause => exact stock_fail (hentered p) cause
  | reported => exact hentered .error
  | advanced x r op p =>
    apply stock_advance
    rw [controller_settled]
    exact s.controller.stock_conclude op _ r
  | failed x r op cause =>
    apply stock_fail
    rw [controller_settled]
    exact s.controller.stock_conclude op _ r

variable (drv s q) in
/-- A request takes at most one buffer and gives at most one up, in this order. -/
theorem stock_handle : s.controller.stock.Turn (controller (handle drv s q).1).stock := by
  by_cases hb : Bereft s
  · -- The upgrade has failed before the request is looked at, so nothing more is taken.
    have hnoticed : (s.noticed q).controller.stock = s.controller.stock.give := by
      rw [noticed_of_bereft hb, controller_fail, Controller.stock_enter_of_ne _ (by simp),
        Controller.stock_recordFailure]
      rfl
    rcases (outcome_handle drv s q).of_failed (by simp [noticed_of_bereft hb])
        (idle_noticed hb q) with ⟨-, n, ht⟩ | ⟨-, ht⟩
    · rw [ht, controller_note, hnoticed]
      exact .give
    · rw [ht, controller_setPhase, (release_becomes drv _).controller,
        Controller.stock_enter_of_ne _ (by simp), Controller.stock_forgetDevice]
      show s.controller.stock.Turn (s.noticed q).controller.stock.give
      rw [hnoticed]
      exact Stock.Turn.give.andGive
  · rw [← (noticed_of_not_bereft hb q).1.controller]
    exact stock_outcome (outcome_handle drv s q)

/-! ## What any requests do to the stock -/

section
variable {image : Bytes} {config : Config}

theorem Served.balanced (h : Served drv image config s) : s.controller.stock.Balanced := by
  induction h with
  | start driver channel => rfl
  | elsewhere _ hst ih => rwa [hst.controller]
  | @handle s q _ ih => exact ih.turn (stock_handle drv s q)

theorem Served.disturbed {qs : List Request} (h : Served drv image config s)
    (hd : Disturbed drv s qs t) : Served drv image config t := by
  induction hd with
  | start => exact h
  | elsewhere _ hu ih => exact .elsewhere ih hu
  | handle q _ ih => exact .handle q ih

theorem Disturbed.given_le {qs : List Request} (hd : Disturbed drv s qs t) :
    s.controller.stock.given ≤ t.controller.stock.given := by
  induction hd with
  | start => exact le_rfl
  | elsewhere _ hu ih => rwa [hu.controller]
  | @handle qs t q _ ih => exact ih.trans (stock_handle drv t q).given_le.1

end

/-! ## Where the buffer is given up -/

/-- The request has what came back compared with the image: it completes the status check behind the
last block, and the device reports no error. -/
structure Verifies (s : Session δ κ) (q : Request) : Prop where
  noLoss : ¬Bereft s
  phase : s.controller.phase = .getStatusRead
  remaining : s.controller.remaining = 0
  completes : ∃ x data status, q = .completed x (.ok data) ∧
    s.controller.awaited? x.ticket ≠ none ∧ Status.decode data = .ok status ∧
    status.check = .ok ()

end Session

namespace Controller

/-- A good status behind the last block has the buffer compared. -/
theorem conclude_compares {c : Controller} {data : Bytes} {status : Status}
    (hp : c.phase = .getStatusRead) (hr : c.remaining = 0) (hs : Status.decode data = .ok status)
    (hc : status.check = .ok ()) (op : InFlight) (operation : Operation) :
    ∃ (d : Controller) (notices : List Notice), d.mismatch = c.mismatch ∧
      c.conclude op operation (.ok data) =
        { d.verify with notices := notices ++ d.verify.notices } := by
  refine ⟨{ c with inFlight := none, lastStatus := some status },
    if status.pollTimeout = 0 then [] else [.pollTimeout status.pollTimeout], rfl, ?_⟩
  simp only [conclude, succeed, hp, checkStatus, hs, hc, Except.map, Verdict.andThen]
  exact if_pos hr

end Controller

namespace Session

variable {δ κ : Type} {drv : Driver δ} {image : Bytes} {config : Config} {s t : Session δ κ}
  {q : Request}

/-- What follows a comparison: if a difference was found the upgrade has failed at it, and if not
that is reported. Either way the buffer is gone. -/
theorem Verifies.handle (h : Verifies s q) (drv : Driver δ) :
    (controller (Session.handle drv s q).1).readback = none ∧
      match s.controller.mismatch with
      | some offset => (controller (Session.handle drv s q).1).phase = .error ∧
          (controller (Session.handle drv s q).1).lastError = some (.verificationMismatch offset)
      | none => .notice .verified ∈ effects (Session.handle drv s q).1 := by
  obtain ⟨x, data, status, rfl, hx, hs, hc⟩ := h.completes
  obtain ⟨op, hop⟩ := Option.ne_none_iff_exists'.mp hx
  have hnoticed := (noticed_of_not_bereft h.noLoss (.completed x (.ok data))).1.controller
  have hawaited : (s.noticed (.completed x (.ok data))).controller.awaited? x.ticket = some op := by
    rw [hnoticed, hop]
  obtain ⟨d, notices, hd, hv⟩ :=
    Controller.conclude_compares h.phase h.remaining hs hc op x.operation
  rw [← hnoticed] at hv
  have hsettled : ((s.noticed (.completed x (.ok data))).settled op x
      (.ok data)).controller.readback = none := by
    rw [controller_settled, hv]
    simp [Controller.controller_verify, Controller.resetCounters]
  have htake : (Session.handle drv s (.completed x (.ok data))).1 =
      (s.noticed (.completed x (.ok data))).complete x (.ok data) := rfl
  rw [htake]
  cases hm : s.controller.mismatch with
  | some offset =>
    have hfails : ((s.noticed (.completed x (.ok data))).controller.conclude op x.operation
        (.ok data)).next = .error (.verificationMismatch offset) := by
      rw [hv, Controller.verify, hd, hm]
    rw [complete_of_error hawaited hfails]
    simp [Controller.readback_enter_of_ne]
  | none =>
    have hnext : d.verify.next = .ok .detach := by rw [Controller.verify, hd, hm]
    have hverified : d.verify.notices = [.verified] := by rw [Controller.verify, hd, hm]
    rw [complete_of_ok hawaited (p := .detach) (by rw [hv, hnext])]
    refine ⟨?_, (grows_advance .detach).subset ?_⟩
    · unfold advance
      split
      · exact hsettled
      · simp [Controller.readback_enter_of_ne]
    · simp [settled, hv, hverified]

/-- The request gives up a buffer. -/
def GivesUp (drv : Driver δ) (s : Session δ κ) (q : Request) : Prop :=
  s.controller.readbackFrees < (controller (handle drv s q).1).readbackFrees

/-- How buffers are taken and given up in a session. -/
structure TurnsOver (drv : Driver δ) (image : Bytes) (s : Session δ κ) : Prop where
  /-- What was taken and not given up is held. -/
  balanced : s.controller.readbackAllocations =
    s.controller.readbackFrees + if s.controller.readback.isSome then 1 else 0
  size : ∀ buffer, s.controller.readback = some buffer → buffer.size = image.size
  /-- A request takes at most one and gives at most one up, in this order. -/
  turn : ∀ q, s.controller.stock.Turn (controller (handle drv s q).1).stock
  /-- Over any requests at most one more is taken than is given up. -/
  once : ∀ qs t, Disturbed drv s qs t →
    s.controller.readbackFrees ≤ t.controller.readbackFrees ∧
    t.controller.readbackAllocations ≤ s.controller.readbackAllocations +
      (t.controller.readbackFrees - s.controller.readbackFrees) + 1
  /-- Between two that are given up one after the other exactly one is taken. -/
  between : ∀ q qs t q', GivesUp drv s q → Disturbed drv (handle drv s q).1 qs t →
    t.controller.readbackFrees = (controller (handle drv s q).1).readbackFrees →
    GivesUp drv t q' →
    (controller (handle drv t q').1).readbackAllocations =
      (controller (handle drv s q).1).readbackAllocations + 1
  released : (controller (handle drv s (.nextPhase .unattached)).1).readback = none
  /-- A comparison gives the buffer up, whatever it shows. -/
  compared : ∀ q, Verifies s q → (controller (handle drv s q).1).readback = none ∧
    match s.controller.mismatch with
    | some offset => (controller (handle drv s q).1).phase = .error ∧
        (controller (handle drv s q).1).lastError = some (.verificationMismatch offset)
    | none => .notice .verified ∈ effects (handle drv s q).1

theorem Served.takes_once {qs : List Request} (h : Served drv image config s)
    (hd : Disturbed drv s qs t) :
    s.controller.readbackFrees ≤ t.controller.readbackFrees ∧
      t.controller.readbackAllocations ≤ s.controller.readbackAllocations +
        (t.controller.readbackFrees - s.controller.readbackFrees) + 1 := by
  have hle : s.controller.readbackFrees ≤ t.controller.readbackFrees := hd.given_le
  have hs : s.controller.readbackAllocations =
    s.controller.readbackFrees + if s.controller.readback.isSome then 1 else 0 := h.balanced
  have ht : t.controller.readbackAllocations =
    t.controller.readbackFrees + if t.controller.readback.isSome then 1 else 0 :=
      (h.disturbed hd).balanced
  refine ⟨hle, ?_⟩
  split at ht <;> omega

/-- Behind a request that gives a buffer up, as many were taken as were given up. -/
theorem Served.even_of_givesUp (h : Served drv image config s) (hq : GivesUp drv s q) :
    (controller (Session.handle drv s q).1).readbackAllocations =
      (controller (Session.handle drv s q).1).readbackFrees := by
  have hgone : (controller (Session.handle drv s q).1).stock.held = false :=
    (stock_handle drv s q).held_of_given_lt hq
  have hbalanced := (Served.handle q h).balanced
  rw [Stock.Balanced, hgone] at hbalanced
  exact hbalanced

/-- In a session that has handled any requests, over any driver, the counts of the buffers that were
taken and given up differ by the one that is held, which is as long as the image. A request takes
none behind one that it gives up, no stretch of requests takes more than one more than it gives up,
and between two that are given up it is exactly one. The buffer is gone when the device was let go
of, and when it was compared with the image, whether they were the same or not. -/
theorem Served.turnsOver (h : Served drv image config s) : TurnsOver drv image s where
  balanced := h.balanced
  size := h.inRange.readback_size
  turn := stock_handle drv s
  once _ _ := h.takes_once
  between q qs t q' hq hd hf hq' := by
    have hserved : Served drv image config (Session.handle drv s q).1 := .handle q h
    have hfirst := h.even_of_givesUp hq
    have hsecond := (hserved.disturbed hd).even_of_givesUp hq'
    have hone := (stock_handle drv t q').given_le.2
    have hmore : t.controller.readbackFrees <
      (controller (Session.handle drv t q').1).readbackFrees := hq'
    have hle : (controller (Session.handle drv t q').1).readbackFrees ≤
      t.controller.readbackFrees + 1 := hone
    omega
  released := by
    rw [handle_unattached, controller_setPhase, (release_becomes drv _).controller,
      Controller.readback_enter_of_ne _ _ (by simp), Controller.readback_forgetDevice]
  compared _ hq := hq.handle drv

end Session

namespace Installation

/-- The last status of the read-back is asked for; a byte came back. -/
def readBackByte (byte : UInt8) : Installation Nat Unit :=
  readingBack.moves obliging (fulfil 5 .upload #[byte])

/-- A byte that came back changed is found, and the buffer is gone. -/
theorem readBackByte_turns_over :
    (readBackByte 9).controller.readback = some #[9] ∧
      Session.Verifies (readBackByte 9).session (.completed ⟨6, .getStatus⟩ (.ok wellStatus)) ∧
      (Session.controller (Session.handle obliging (readBackByte 9).session
        (.completed ⟨6, .getStatus⟩ (.ok wellStatus))).1).readback = none := by
  have hserved : Session.Served obliging #[7] .standard (readBackByte 9).session :=
    Shared.served ((Shared.of_plays (by decide +kernel)).trans (.of_plays (by decide +kernel)))
  have hverifies : Session.Verifies (readBackByte 9).session
      (.completed ⟨6, .getStatus⟩ (.ok wellStatus)) :=
    { noLoss := fun ⟨op, _, hlost⟩ => by
        have hnone : (readBackByte 9).session.state.lost = none := by decide +kernel
        simp [hnone] at hlost
      phase := by decide +kernel
      remaining := by decide +kernel
      completes := ⟨_, _, Status.ofCode 0 Status.dfuIdle, rfl, by decide +kernel,
        by decide +kernel, by decide +kernel⟩ }
  exact ⟨by decide +kernel, hverifies, (hserved.turnsOver.compared _ hverifies).1⟩

end Installation

end FirmwareUpgrade
