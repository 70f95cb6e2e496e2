import FirmwareUpgrade.Board
import FirmwareUpgrade.Proofs.Resting

/-!
# Waiting for the end of an upgrade

A task that waits for the end of an upgrade reads the phase that observers see. If it is one in
which an upgrade stays the call returns it, and otherwise the task looks whether its time is up,
sleeps and reads again. Between two of its steps the worker, the driver, the host stack and other
tasks do what they like (`Vigil.Course`).

So the task is told of an end only if it reads the phase before the device is let go of. Where it
does, the call returns that phase (`Vigil.Ends.returned_of_read`). If the worker gets to the detach
of the device first, the end goes by unseen.
-/
namespace FirmwareUpgrade

namespace Board

theorem awaitTerminal_append {seen : List Phase} (h : ∀ p ∈ seen, p.isTerminal = false)
    (rest : List Phase) : awaitTerminal (seen ++ rest) = awaitTerminal rest := by
  induction seen with
  | nil => rfl
  | cons p seen ih =>
    rw [List.cons_append, awaitTerminal, if_neg (by simp [h p])]
    exact ih fun q hq => h q (List.mem_cons_of_mem _ hq)

theorem awaitTerminal_eq_timeout {seen : List Phase} (h : ∀ p ∈ seen, p.isTerminal = false) :
    awaitTerminal seen = .error .timeout := by
  rw [← List.append_nil seen, awaitTerminal_append h]
  rfl

end Board

/-- What a task that waits does next. -/
inductive Watchfulness where
  | reading
  /-- It looks whether its time is up. -/
  | asking
  /-- The call has returned. -/
  | returned
deriving DecidableEq

/-- A call that waits for the end of an upgrade, over the installation that it watches. -/
structure Vigil (δ κ : Type) where
  installation : Installation δ κ
  /-- Whether the time is up. -/
  expired : Bool
  /-- The phases that were read, in this order. -/
  readings : List Phase
  next : Watchfulness

/-- One step of the task that waits, or of the others. -/
inductive Tick (δ κ : Type) where
  | wake
  /-- The time is up. -/
  | expire
  | move (m : Move δ)
  /-- Another task sends a request. -/
  | send (q : Request) (callback : Option κ)

namespace Vigil

variable {δ κ : Type}

abbrev session (v : Vigil δ κ) : Session δ κ := v.installation.session

abbrev phase (v : Vigil δ κ) : Phase := v.installation.controller.phase

def start (i : Installation δ κ) : Vigil δ κ := ⟨i, false, [], .reading⟩

/-- What the call returns in the end. -/
def result (v : Vigil δ κ) : Except WorkerError Phase := Board.awaitTerminal v.readings

/-- The next step of the task that waits. -/
def wake (v : Vigil δ κ) : Vigil δ κ :=
  match v.next with
  | .reading =>
    { v with
      readings := v.readings ++ [v.installation.controller.watch]
      next := if v.installation.controller.watch.isTerminal then .returned else .asking }
  | .asking => { v with next := if v.expired then .returned else .reading }
  | .returned => v

def tick (drv : Driver δ) (v : Vigil δ κ) : Tick δ κ → Vigil δ κ
  | .wake => v.wake
  | .expire => { v with expired := true }
  | .move m => { v with installation := v.installation.move drv m }
  | .send q callback => { v with installation := (v.installation.send q callback).1 }

/-- Steps of all kinds, behind each of which something holds. -/
inductive Course (drv : Driver δ) (P : Vigil δ κ → Prop) (v : Vigil δ κ) : Vigil δ κ → Prop
  | start : Course drv P v v
  | tick {u : Vigil δ κ} (t : Tick δ κ) : Course drv P v u → P (u.tick drv t) →
    Course drv P v (u.tick drv t)

variable {drv : Driver δ} {image : Bytes} {config : Config} {P : Vigil δ κ → Prop}
  {u v w : Vigil δ κ} {p : Phase}

/-- As long as the call lasts, nothing that it read was an end. -/
def Unseen (v : Vigil δ κ) : Prop :=
  v.next ≠ .returned → ∀ p ∈ v.readings, p.isTerminal = false

/-! ## One step -/

theorem installation_wake (v : Vigil δ κ) : v.wake.installation = v.installation := by
  unfold wake
  split <;> rfl

theorem phase_wake (v : Vigil δ κ) : v.wake.phase = v.phase :=
  congrArg (fun i : Installation δ κ => i.controller.phase) v.installation_wake

/-- A step reads the phase, or leaves the readings as they are. -/
theorem readings_tick (drv : Driver δ) (v : Vigil δ κ) (t : Tick δ κ) :
    (v.tick drv t).readings = v.readings ∧ (v.next = .returned → (v.tick drv t).next = .returned) ∨
      v.next = .reading ∧ t = .wake := by
  cases t with
  | expire | move | send => exact .inl ⟨rfl, id⟩
  | wake =>
    cases hn : v.next with
    | reading => exact .inr ⟨rfl, rfl⟩
    | asking | returned => simp [tick, wake, hn]

theorem wake_of_reading (h : v.next = .reading) (hw : v.installation.controller.watch = v.phase) :
    v.wake.readings = v.readings ++ [v.phase] ∧
      v.wake.next = if v.phase.isTerminal then .returned else .asking := by
  simp only [wake, h, hw, and_self]

theorem unseen_tick (h : v.Unseen) (t : Tick δ κ) : (v.tick drv t).Unseen := by
  cases t with
  | expire | move | send => exact h
  | wake =>
    show v.wake.Unseen
    unfold wake Unseen
    cases hn : v.next with
    | reading =>
      intro hlasts p hp
      rcases List.mem_append.mp hp with hp | hp
      · exact h (by simp [hn]) p hp
      · obtain rfl := List.mem_singleton.mp hp
        by_contra hend
        simp [hend] at hlasts
    | asking => exact fun _ => h (by simp [hn])
    | returned => simp [hn]

theorem served_tick (h : Session.Served drv image config v.session) (t : Tick δ κ) :
    Session.Served drv image config (v.tick drv t).session := by
  cases t with
  | wake => simpa [tick, session, installation_wake] using h
  | expire => exact h
  | move m => exact Installation.served_move h m
  | send q callback =>
    have hbeside : Session.Beside (fun _ => True) v.session
        (v.installation.send q callback).1.session :=
      Installation.beside_send v.installation callback trivial
    exact .elsewhere h (.of_beside hbeside)

/-- An upgrade that has ended is disturbed only by the worker when it comes to the detach of the
device. -/
theorem phase_tick (h : Session.Served drv image config v.session)
    (ht : v.phase.isTerminal = true) (t : Tick δ κ) :
    (v.tick drv t).phase = v.phase ∨
      t = .move .work ∧ v.session.requests = .nextPhase .unattached ::
        v.session.dropOldest.requests := by
  cases t with
  | wake => exact .inl v.phase_wake
  | expire => exact .inl rfl
  | send q callback => exact .inl rfl
  | move m =>
    cases hw : m.isWork with
    | false =>
      exact .inl (congrArg Controller.phase
        (Installation.elsewhere_move drv v.installation hw).controller)
    | true =>
      obtain rfl := Move.eq_work_of_isWork hw
      rcases v.installation.session_work drv with ⟨-, hs⟩ | ⟨q, hq, hs⟩
      · exact .inl (congrArg (fun s : Session δ κ => s.controller.phase) hs)
      · by_cases hu : q = .nextPhase .unattached
        · exact .inr ⟨rfl, hu ▸ hq⟩
        · have hrest := (Session.handle_of_ended drv (s := v.session.dropOldest) ht
            (h.consistent.idle_of_terminal ht) hu).1.controller
          refine .inl ?_
          show (v.installation.move drv .work).session.controller.phase = _
          rw [hs, hrest]
          rfl

/-! ## Any number of steps -/

theorem Course.served (h : Course drv P v w) (hv : Session.Served drv image config v.session) :
    Session.Served drv image config w.session := by
  induction h with
  | start => exact hv
  | tick t _ _ ih => exact served_tick ih t

theorem Course.served_after (h : Course drv P v w)
    (hv : Session.Served drv image config v.session) (t : Tick δ κ) :
    Session.Served drv image config (w.tick drv t).session :=
  served_tick (h.served hv) t

theorem Course.unseen (h : Course drv P v w) (hv : v.Unseen) : w.Unseen := by
  induction h with
  | start => exact hv
  | tick t _ _ ih => exact unseen_tick ih t

theorem unseen_start (i : Installation δ κ) : (start i).Unseen := by
  intro _ p hp
  simp [start] at hp

/-- When the call is over nothing changes about it. -/
theorem Course.returned (h : Course drv P v w) (hv : v.next = .returned) :
    w.next = .returned ∧ w.readings = v.readings := by
  induction h with
  | start => exact ⟨hv, rfl⟩
  | @tick u t _ _ ih =>
    obtain ⟨hu, hr⟩ := ih
    rcases readings_tick drv u t with ⟨hsame, hreturned⟩ | ⟨hn, -⟩
    · exact ⟨hreturned hu, hsame.trans hr⟩
    · simp [hu] at hn

/-- While an upgrade stays in a phase, the first reading of it is the last one. -/
theorem Course.stays (h : Course drv (fun u => u.phase = p) v w)
    (hs : Session.Served drv image config v.session) (hv : v.phase = p)
    (ht : p.isTerminal = true) :
    w.phase = p ∧
      (w.readings = v.readings ∨ w.readings = v.readings ++ [p] ∧ w.next = .returned) := by
  induction h with
  | start => exact ⟨hv, .inl rfl⟩
  | @tick u t hcourse hp ih =>
    refine ⟨hp, ?_⟩
    obtain ⟨hu, hr⟩ := ih
    have hwatch : u.installation.controller.watch = u.phase := (hcourse.served hs).consistent.watch
    rcases readings_tick drv u t with ⟨hsame, hreturned⟩ | ⟨hn, rfl⟩
    · rw [hsame]
      exact hr.imp_right fun ⟨hl, ho⟩ => ⟨hl, hreturned ho⟩
    · -- The task reads, so the call is not over and nothing was read of this phase.
      have hl := hr.resolve_right fun ⟨_, ho⟩ => by simp [hn] at ho
      obtain ⟨hreadings, hnext⟩ := wake_of_reading hn hwatch
      rw [hu, ht, if_pos rfl] at hnext
      rw [hl, hu] at hreadings
      exact .inr ⟨hreadings, hnext⟩

/-- Where no upgrade ends, no end is read. -/
theorem Course.blind (h : Course drv (fun u => u.phase.isTerminal = false) v w)
    (hs : Session.Served drv image config v.session)
    (hv : ∀ p ∈ v.readings, p.isTerminal = false) : ∀ p ∈ w.readings, p.isTerminal = false := by
  induction h with
  | start => exact hv
  | @tick u t hcourse hp ih =>
    rcases readings_tick drv u t with ⟨hsame, -⟩ | ⟨hn, rfl⟩
    · rwa [hsame]
    · have hwatch : u.installation.controller.watch = u.phase :=
        (hcourse.served hs).consistent.watch
      have hphase : u.phase.isTerminal = false := u.phase_wake ▸ hp
      intro p hmem
      rw [show (u.tick drv .wake).readings = u.readings ++ [u.phase] from
        (wake_of_reading hn hwatch).1] at hmem
      rcases List.mem_append.mp hmem with hmem | hmem
      · exact ih p hmem
      · rwa [List.mem_singleton.mp hmem]

/-! ## What the call returns -/

/-- While the call lasts the worker takes the step with which the upgrade ends in a phase. -/
structure Ends (drv : Driver δ) (v : Vigil δ κ) (p : Phase) : Prop where
  lasts : v.next ≠ .returned
  running : v.phase.isTerminal = false
  terminal : p.isTerminal = true
  entered : (v.tick drv (.move .work)).phase = p

section
variable {i : Installation δ κ} (hi : Session.Served drv image config i.session)
  (h0 : Course drv (fun _ => True) (start i) v) (he : v.Ends drv p)
  (h : Course drv (fun u => u.phase = p) (v.tick drv (.move .work)) u)
include hi h0 he h

/-- The end of an upgrade that is read is what the call returns. -/
theorem Ends.returned_of_read (hread : u.readings ≠ v.readings) {w : Vigil δ κ}
    (hw : Course drv (fun _ => True) u w) : w.next = .returned ∧ w.result = .ok p := by
  have hentered := h0.served_after hi (.move .work)
  have hunseen := h0.unseen (unseen_start i) he.lasts
  obtain ⟨hl, hn⟩ := (h.stays hentered he.entered he.terminal).2.resolve_left hread
  obtain ⟨hreturned, hr⟩ := hw.returned hn
  refine ⟨hreturned, ?_⟩
  rw [result, hr, hl, show (v.tick drv (.move .work)).readings = v.readings from rfl,
    Board.awaitTerminal_append hunseen, Board.awaitTerminal, if_pos he.terminal]

/-- A task that is about to read reads the phase that lasts. -/
theorem Ends.read_of_reading (hn : u.next = .reading) : u.wake.readings ≠ v.readings := by
  have hentered := h0.served_after hi (.move .work)
  have hsame : u.readings = v.readings :=
    (h.stays hentered he.entered he.terminal).2.resolve_right fun ⟨_, ho⟩ => by simp [hn] at ho
  rw [(wake_of_reading hn (h.served hentered).consistent.watch).1, hsame]
  simp

/-- Let a call that waits begin anywhere and the upgrade then end in a phase, which lasts up to some
moment. If the phase was read by that moment, then the call has returned it. If not, and no upgrade
ends again before the call does, then it returns that the time is up. The phase is read by two more
steps of the task that waits, unless these find the time up first. And it lasts until the worker
comes to the detach of the device. -/
theorem Ends.returns_if_read :
    (u.readings ≠ v.readings →
      ∀ w, Course drv (fun _ => True) u w → w.next = .returned ∧ w.result = .ok p) ∧
    (u.readings = v.readings → ∀ w, Course drv (fun w => w.phase.isTerminal = false) u w →
      w.next = .returned → w.result = .error .timeout) ∧
    (u.next = .reading ∨ u.next = .asking ∧ u.expired = false →
      u.wake.wake.next = .returned ∧ u.wake.wake.result = .ok p) ∧
    ∀ t, (u.tick drv t).phase ≠ p → t = .move .work ∧
      u.session.requests = .nextPhase .unattached :: u.session.dropOldest.requests := by
  have hentered := h0.served_after hi (.move .work)
  have hu := h.served hentered
  have hphase := (h.stays hentered he.entered he.terminal).1
  have hlasts : Course drv (fun u => u.phase = p) (v.tick drv (.move .work)) u.wake :=
    .tick .wake h (u.phase_wake.trans hphase)
  refine ⟨fun hread w => he.returned_of_read hi h0 h hread, fun hsame w hw hreturned => ?_, ?_,
    fun t ht => ?_⟩
  · apply Board.awaitTerminal_eq_timeout
    exact hw.blind hu (hsame ▸ h0.unseen (unseen_start i) he.lasts)
  · rintro (hn | ⟨hn, hx⟩)
    · exact he.returned_of_read hi h0 hlasts (he.read_of_reading hi h0 h hn)
        (.tick .wake .start trivial)
    · have hnext : u.wake.next = .reading := by simp [wake, hn, hx]
      have hread := he.read_of_reading hi h0 hlasts hnext
      have hstill : u.wake.wake.phase = p := by rw [phase_wake, phase_wake, hphase]
      exact he.returned_of_read hi h0 (.tick .wake hlasts hstill) hread .start
  · rw [← hphase] at ht
    exact (phase_tick hu (hphase ▸ he.terminal) t).resolve_left ht

end

theorem awaitTerminal_replicate (n : Nat) (p : Phase) :
    Board.awaitTerminal (List.replicate (n + 1) p) = Board.awaitTerminal [p] := by
  cases hp : p.isTerminal with
  | true => simp [List.replicate_succ, Board.awaitTerminal, hp]
  | false =>
    have hone : ∀ q ∈ [p], q.isTerminal = false := by simpa using hp
    rw [Board.awaitTerminal_eq_timeout hone]
    apply Board.awaitTerminal_eq_timeout
    intro q hq
    rwa [List.eq_of_mem_replicate hq]

/-- While nothing else happens one reading is as good as many. -/
theorem result_of_undisturbed {b : Board} {w : Vigil (Accelerator Completion) Nat}
    {drv : Driver (Accelerator Completion)}
    (h : Course drv (fun u => u.installation = b) (start b) w) (hw : w.next = .returned) :
    w.result = b.waitResult := by
  have hinv : w.installation = b ∧ ∃ n, w.readings = List.replicate n b.controller.watch ∧
      (n = 0 → w.next = .reading) := by
    clear hw
    induction h with
    | start => exact ⟨rfl, 0, rfl, fun _ => rfl⟩
    | @tick u t _ hsame ih =>
      obtain ⟨hb, n, hr, hn⟩ := ih
      refine ⟨hsame, ?_⟩
      cases t with
      | expire | move | send => exact ⟨n, hr, hn⟩
      | wake =>
        show ∃ n, u.wake.readings = _ ∧ (n = 0 → u.wake.next = .reading)
        unfold wake
        cases hnext : u.next with
        | reading => exact ⟨n + 1, by simp [hr, hb, List.replicate_succ'], by simp⟩
        | asking | returned => exact ⟨n, hr, fun hz => absurd (hn hz) (by simp [hnext])⟩
  obtain ⟨-, n, hr, hn⟩ := hinv
  cases n with
  | zero => simp [hw] at hn
  | succ n => rw [result, hr, awaitTerminal_replicate, Board.waitResult]

/-! ## An end that goes by -/

def ticks (drv : Driver δ) (v : Vigil δ κ) (ts : List (Tick δ κ)) : Vigil δ κ :=
  ts.foldl (tick drv) v

theorem course_ticks (drv : Driver δ) (ts : List (Tick δ κ)) :
    ∀ u : Vigil δ κ, Course drv (fun _ => True) v u →
      Course drv (fun _ => True) v (u.ticks drv ts) := by
  induction ts with
  | nil => exact fun _ hu => hu
  | cons t ts ih => exact fun u hu => ih (u.tick drv t) (.tick t hu trivial)

end Vigil

namespace Board

open Vigil

/-- The class driver cannot be initialised on this accelerator. -/
def mute : Board := start (.new { Faults.none with failInit := true } false) #[7] .standard

def event (e : HostEvent) : Tick (Accelerator Completion) Nat :=
  .move (.event dfuVendor dfuProduct Accelerator.host Accelerator.device e)

/-- A task waits and reads the phase. Then the accelerator attaches, is enumerated and is detached
again, and the worker comes to the end of the enumeration. -/
def beforeFailure : Vigil (Accelerator Completion) Nat :=
  (Vigil.start mute).ticks Accelerator.driver
    [.wake, event (.attach Accelerator.configuration), event .enumerationDone, event .detach,
      .move .work]

/-- The upgrade fails and the worker comes to the detach. Then the task wakes up. -/
def afterFailure : Vigil (Accelerator Completion) Nat :=
  beforeFailure.ticks Accelerator.driver
    [.move .work, .move .work, .wake, .wake, .expire, .wake]

/-- The task has waited when the old identity of the device goes away behind a successful
upgrade. -/
def beforeCompletion : Vigil Nat Unit :=
  (Vigil.start (Installation.blank 7)).ticks Installation.obliging
    (.wake :: ((Installation.ordinary 7).dropLast.map .move))

def afterCompletion : Vigil Nat Unit :=
  beforeCompletion.ticks Installation.obliging
    [.move .work, .move (.event dfuVendor dfuProduct Accelerator.host Accelerator.device .detach),
      .move .work, .wake, .wake, .expire, .wake]

/-- An end that comes while a task waits and has time left can go by unseen, in failure and in
success. -/
theorem exists_end_unseen :
    beforeFailure.Ends Accelerator.driver .error ∧ beforeFailure.expired = false ∧
      afterFailure.next = .returned ∧ afterFailure.result = .error .timeout ∧
      beforeCompletion.Ends Installation.obliging .complete ∧ beforeCompletion.expired = false ∧
      afterCompletion.next = .returned ∧ afterCompletion.result = .error .timeout :=
  ⟨⟨by decide +kernel, by decide +kernel, by decide +kernel, by decide +kernel⟩,
    by decide +kernel, by decide +kernel, by decide +kernel,
    ⟨by decide +kernel, by decide +kernel, by decide +kernel, by decide +kernel⟩,
    by decide +kernel, by decide +kernel, by decide +kernel⟩

theorem served_mute : Session.Served Accelerator.driver #[7] .standard mute.session :=
  .elsewhere (.start _ _) ⟨rfl, .record _ rfl⟩

/-- If the task wakes up before the worker comes to the detach, it is told of the failure. -/
theorem failure_returns_if_read :
    beforeFailure.Ends Accelerator.driver .error ∧
      (beforeFailure.tick Accelerator.driver (.move .work)).wake.wake.result = .ok .error := by
  have hends : beforeFailure.Ends Accelerator.driver .error :=
    ⟨by decide +kernel, by decide +kernel, by decide +kernel, by decide +kernel⟩
  have hcourse : Vigil.Course Accelerator.driver (fun _ => True) (Vigil.start mute) beforeFailure :=
    course_ticks Accelerator.driver _ _ .start
  have hnext : (beforeFailure.tick Accelerator.driver (.move .work)).next = .asking ∧
      (beforeFailure.tick Accelerator.driver (.move .work)).expired = false := by decide +kernel
  exact ⟨hends, ((hends.returns_if_read served_mute hcourse .start).2.2.1 (.inr hnext)).2⟩

end Board

end FirmwareUpgrade
