import FirmwareUpgrade.Proofs.Run

/-!
# Runs in which others send

The queue is open to every task that holds a sender. Here a run may also contain requests of others,
of a kind that is allowed: mostly all but reports of completed operations, which only the driver can
make. `Shared.keeps` turns what single steps preserve into what such a run preserves.
-/
namespace FirmwareUpgrade

/-- A request that steps on or names a device, and reports no completion. -/
abbrev Request.Steering (q : Request) : Prop := q.completion? = none

/-- Whether an effect is a mere report, and not that the image was found equal to what came back. -/
def Effect.isReport : Effect → Bool
  | notice n => n != .verified
  | relayed _ => true
  | _ => false

theorem Effect.isSilent_of_isReport {e : Effect} (h : e.isReport = true) : e.isSilent = true := by
  cases e with
  | notice | relayed => exact h
  | _ => simp [isReport] at h

namespace Session

variable {δ κ : Type}

/-! ## What is added to the record -/

/-- The second session came from the first with effects of one kind only. -/
def Adds (p : Effect → Prop) (s t : Session δ κ) : Prop :=
  ∃ later, t.effects = s.effects ++ later ∧ ∀ e ∈ later, p e

namespace Adds

variable {p : Effect → Prop} {s t u : Session δ κ}

theorem of_effects_eq (h : t.effects = s.effects) : Adds p s t := ⟨[], by simp [h], by simp⟩

theorem refl : Adds p s s := of_effects_eq rfl

theorem trans (h : Adds p s t) (k : Adds p t u) : Adds p s u := by
  obtain ⟨a, ha, hpa⟩ := h
  obtain ⟨b, hb, hpb⟩ := k
  refine ⟨a ++ b, by rw [hb, ha, List.append_assoc], fun e he => ?_⟩
  rcases List.mem_append.mp he with h | h
  · exact hpa e h
  · exact hpb e h

theorem mono {p' : Effect → Prop} (h : Adds p s t) (hp : ∀ e, p e → p' e) : Adds p' s t := by
  obtain ⟨later, he, hl⟩ := h
  exact ⟨later, he, fun e hm => hp e (hl e hm)⟩

theorem record (s : Session δ κ) {e : Effect} (h : p e) : Adds p s (s.record e) :=
  ⟨[e], by simp, by simpa using h⟩

theorem relayAll (s : Session δ κ) {ns : List Notice} (h : ∀ n, p (.relayed n)) :
    Adds p s (s.relayAll ns) :=
  ⟨ns.map .relayed, by simp, by simpa using fun n _ => h n⟩

theorem deliver (hn : ∀ n, p (.notice n)) (s : Session δ κ) {x : Completion} {r : Reply}
    (hc : p (.completed x r)) : Adds p s (s.deliver x r) := by
  have hcompleted : Adds p s (s.record (.completed x r)) := record s hc
  unfold Session.deliver
  dsimp only
  split
  · exact hcompleted.trans (.of_effects_eq rfl)
  · exact hcompleted.trans ((record _ (hn _)).trans (.of_effects_eq rfl))

section
variable (hn : ∀ n, p (.notice n)) (hw : ∀ phase, p (.watch phase)) (s : Session δ κ)

include hn

theorem noteAll (ns : List Notice) : Adds p s (s.noteAll ns) :=
  ⟨ns.map .notice, by simp, by simpa using fun n _ => hn n⟩

theorem settled (op : InFlight) (x : Completion) (r : Reply) : Adds p s (s.settled op x r) :=
  trans (.of_effects_eq rfl)
    (noteAll hn (s.modify fun c => (c.conclude op x.operation r).controller) _)

include hw

theorem setPhase (phase : Phase) : Adds p s (s.setPhase phase) :=
  ⟨_, effects_setPhase s phase, by simp [hn, hw]⟩

theorem fail (cause : UpgradeError) : Adds p s (s.fail cause) :=
  ⟨_, effects_fail s cause, by simp [hn, hw]⟩

end

end Adds

/-- The second session came from the first without the controller, with at most one request more in
the queue. -/
structure Beside (allowed : Request → Prop) (s t : Session δ κ) : Prop where
  controller : t.controller = s.controller
  lost : t.state.lost = s.state.lost
  reports : Adds (·.isReport = true) s t
  requests : t.requests = s.requests ∨ ∃ q, allowed q ∧ t.requests = s.requests ++ [q]

theorem Beside.silently {allowed : Request → Prop} {s t : Session δ κ} (h : Beside allowed s t) :
    Silently s t :=
  h.reports.mono fun _ => Effect.isSilent_of_isReport

end Session

namespace Installation

variable {δ κ : Type} {drv : Driver δ} {allowed : Request → Prop} {start i j k : Installation δ κ}

/-- A run in which other tasks send requests of the kind that is allowed. -/
inductive Shared (drv : Driver δ) (allowed : Request → Prop) (start : Installation δ κ) :
    Installation δ κ → Prop
  | start : Shared drv allowed start start
  | move {i : Installation δ κ} (m : Move δ) : Shared drv allowed start i →
    Honest (i.move drv m).effects → Shared drv allowed start (i.move drv m)
  | send {i : Installation δ κ} (q : Request) (callback : Option κ) : Shared drv allowed start i →
    allowed q → Shared drv allowed start (i.send q callback).1

theorem Shared.trans (h : Shared drv allowed i j) (h' : Shared drv allowed j k) :
    Shared drv allowed i k := by
  induction h' with
  | start => exact h
  | move m _ hh ih => exact .move m ih hh
  | send q callback _ hq ih => exact .send q callback ih hq

theorem Shared.mono {permitted : Request → Prop} (h : Shared drv allowed i j)
    (hq : ∀ q, allowed q → permitted q) : Shared drv permitted i j := by
  induction h with
  | start => exact .start
  | move m _ hh ih => exact .move m ih hh
  | send q callback _ hallowed ih => exact .send q callback ih (hq q hallowed)

theorem Shared.of_run {may : Move δ → Prop} (h : Run drv may i j) : Shared drv allowed i j := by
  induction h with
  | start => exact .start
  | next m _ _ hh ih => exact .move m ih hh

/-- Moves that are given one by one make such a run, since it may begin with any of them. -/
theorem Shared.of_plays {ms : List (Move δ)} (h : Plays drv (fun _ => True) i ms) :
    Shared drv allowed i (i.moves drv ms) :=
  .of_run (.of_plays h)

theorem Aside.beside {m : Move δ} {s t : Session δ κ} (h : Aside m s t)
    (hr : Session.Adds (·.isReport = true) s t) (hsteer : ∀ q : Request, q.Steering → allowed q) :
    Session.Beside allowed s t where
  controller := h.controller
  lost := h.lost
  reports := hr
  requests := h.requests.imp_right fun ⟨q, ⟨_, hq, _⟩, hr⟩ => ⟨q, hsteer q hq, hr⟩

theorem reports_event (drv : Driver δ) (i : Installation δ κ) (vendor product : UInt16)
    (host : HostHandle) (device : DeviceHandle) (event : HostEvent) :
    i.session.Adds (·.isReport = true)
      (i.move drv (.event vendor product host device event)).session := by
  obtain ⟨channel, notices, hs, hn, -⟩ := i.session_dispatch vendor product host device event
  change Session.Adds _ _ (i.dispatch vendor product host device event).1.session
  rw [hs]
  refine ⟨notices.map .notice, Session.effects_noteAll _ _, fun e he => ?_⟩
  obtain ⟨n, hmem, rfl⟩ := List.mem_map.mp he
  have hne : n ≠ .verified := fun hv => hn (hv ▸ hmem)
  simpa [Effect.isReport] using hne

theorem beside_send (i : Installation δ κ) {q : Request} (callback : Option κ) (hq : allowed q) :
    Session.Beside allowed i.session (i.send q callback).1.session := by
  have he : (i.send q callback).1.session.effects = i.session.effects ++ [] :=
    (List.append_nil _).symm
  refine ⟨rfl, rfl, ⟨[], he, by simp⟩, ?_⟩
  change List.map (·.request) (i.channel.push ⟨q, callback⟩).waiting = _ ∨
    ∃ q', _ ∧ List.map (·.request) (i.channel.push ⟨q, callback⟩).waiting = _
  cases hr : i.channel.refusal? with
  | none =>
    rw [Channel.waiting_push_of_refusal?_eq_none _ hr]
    exact .inr ⟨q, hq, by simp [Session.requests]⟩
  | some reason =>
    rw [Channel.push_of_refusal?_eq_some _ hr]
    exact .inl rfl

/-- What the steps of a run preserve holds at its end: those beside the controller, the handling of
the oldest request, and the call of a completion that the driver holds. -/
theorem Shared.keeps {P : Session δ κ → Prop} (h : Shared drv allowed start i)
    (hsteer : ∀ q : Request, q.Steering → allowed q) (h0 : P start.session)
    (hbeside : ∀ {s t : Session δ κ}, Session.Beside allowed s t → P s → P t)
    (hhandle : ∀ {s : Session δ κ} {q : Request}, s.requests = q :: s.dropOldest.requests → P s →
      Honest (Session.effects (Session.handle drv s.dropOldest q).1) →
      P (Session.handle drv s.dropOldest q).1)
    (hdeliver : ∀ {s : Session δ κ} (x : Completion) (r : Reply), P s → 0 < s.account.held x →
      P (s.deliver x r)) : P i.session := by
  induction h with
  | start => exact h0
  | send q callback _ hq ih => exact hbeside (beside_send _ callback hq) ih
  | @move i m _ hh ih =>
    cases m with
    | event vendor product host device event =>
      exact hbeside ((aside_event drv i vendor product host device event).beside
        (reports_event drv i vendor product host device event) hsteer) ih
    | drive driver notices =>
      exact hbeside ((aside_drive drv i driver notices).beside
        (.relayAll (i.session.withDriver driver) fun _ => rfl) hsteer) ih
    | complete x r => exact hdeliver x r ih (Session.held_of_honest hh)
    | work =>
      rcases i.session_work drv with ⟨-, hs⟩ | ⟨q, hq, hs⟩
      · rwa [hs]
      · rw [effects, hs] at hh
        rw [hs]
        exact hhandle hq ih hh

end Installation

end FirmwareUpgrade
