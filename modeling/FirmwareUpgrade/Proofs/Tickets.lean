import FirmwareUpgrade.Proofs.Traffic

/-!
# Which completions count

An operation is ongoing from its issue until the worker takes up a completion with its ticket, the
upgrade fails or the device is gone. The record shows this without a look at the controller, and
`Tracks` ties the two together: an operation is in flight exactly while one is ongoing, and it is
the one that was issued last. Tickets come round again after `2 ^ 32` operations, so a completion
can be told by its ticket as long as it is not older than that.
-/
namespace FirmwareUpgrade

/-- Whether an effect ends an operation that has the ticket. -/
def Effect.ends (ticket : UInt32) : Effect → Bool
  | taken (.completed x _) => x.ticket == ticket
  | watch .error | watch .unattached => true
  | _ => false

/-- Operation number `n`, counted from zero, went to the driver with this completion, and nothing
has ended it since. -/
def Ongoing (effects : List Effect) (n : Nat) (x : Completion) : Prop :=
  ∃ before e after, effects = before ++ e :: after ∧ (issued before).length = n ∧
    e.issued? = some x ∧ ∀ f ∈ after, f.ends x.ticket = false

def Request.ticket? (q : Request) : Option UInt32 := q.completion?.map (·.ticket)

theorem Effect.ends_taken {q : Request} {ticket : UInt32} :
    (taken q).ends ticket = false ↔ q.ticket? ≠ some ticket := by
  cases q <;> simp [ends, Request.ticket?, Request.completion?]

/-- An effect that neither issues an operation nor ends one. -/
def Effect.Inert (e : Effect) : Prop := e.issued? = none ∧ ∀ ticket, e.ends ticket = false

theorem Effect.inert_of_isSilent {e : Effect} (h : e.isSilent = true) : e.Inert := by
  cases e with
  | exchange x => cases x <;> simp_all [isSilent, Inert, issued?, ends]
  | notice | relayed => simp [Inert, issued?, ends]
  | _ => simp [isSilent] at h

section
variable {effects later : List Effect} {e : Effect} {n : Nat} {x : Completion}

theorem issued_append (h : ∀ e ∈ later, e.issued? = none) :
    issued (effects ++ later) = issued effects := by
  rw [issued, List.filterMap_append, List.filterMap_eq_nil_iff.mpr h, List.append_nil]
  rfl

theorem not_ongoing_nil : ¬Ongoing [] n x := by
  rintro ⟨before, e, after, h, -⟩
  simp at h

/-- One effect more may issue an operation or end one. -/
theorem ongoing_append_singleton :
    Ongoing (effects ++ [e]) n x ↔
      e.issued? = some x ∧ n = (issued effects).length ∨
        Ongoing effects n x ∧ e.ends x.ticket = false := by
  constructor
  · rintro ⟨before, f, after, he, hn, hx, ha⟩
    induction after using List.reverseRecOn with
    | nil =>
      obtain ⟨rfl, hfe⟩ := List.append_inj' he rfl
      obtain rfl := List.singleton_inj.mp hfe
      exact .inl ⟨hx, hn.symm⟩
    | append_singleton after g _ =>
      rw [← List.cons_append, ← List.append_assoc] at he
      obtain ⟨rfl, hge⟩ := List.append_inj' he rfl
      obtain rfl := List.singleton_inj.mp hge
      exact .inr ⟨⟨before, f, after, rfl, hn, hx, fun g hg => ha g (by simp [hg])⟩,
        ha _ (by simp)⟩
  · rintro (⟨hx, rfl⟩ | ⟨⟨before, f, after, rfl, hn, hx, ha⟩, he⟩)
    · exact ⟨effects, e, [], rfl, rfl, hx, by simp⟩
    · refine ⟨before, f, after ++ [e], by simp, hn, hx, fun g hg => ?_⟩
      rcases List.mem_append.mp hg with hg | hg
      · exact ha g hg
      · rwa [List.mem_singleton.mp hg]

theorem ongoing_append (h : ∀ e ∈ later, e.Inert) :
    Ongoing (effects ++ later) n x ↔ Ongoing effects n x := by
  induction later using List.reverseRecOn with
  | nil => rw [List.append_nil]
  | append_singleton later e ih =>
    obtain ⟨hi, he⟩ := h e (by simp)
    rw [← List.append_assoc, ongoing_append_singleton, hi, he, ih fun f hf => h f (by simp [hf])]
    simp

/-- Without an issue nothing comes to be ongoing. -/
theorem Ongoing.of_append (h : Ongoing (effects ++ later) n x)
    (hl : ∀ e ∈ later, e.issued? = none) : Ongoing effects n x := by
  induction later using List.reverseRecOn with
  | nil => rwa [List.append_nil] at h
  | append_singleton later e ih =>
    rw [← List.append_assoc, ongoing_append_singleton] at h
    rcases h with ⟨hx, -⟩ | ⟨h, -⟩
    · simp [hl e (by simp)] at hx
    · exact ih h fun f hf => hl f (by simp [hf])

end

namespace Session

variable {δ κ : Type} {s t u : Session δ κ} {ticket : Option UInt32} {q : Request} {n : Nat}
  {x : Completion}

/-! ## Steps without an issue -/

theorem Adds.issued (h : Adds (·.issued? = none) s t) :
    t.account.issued = s.account.issued := by
  obtain ⟨later, he, hl⟩ := h
  change FirmwareUpgrade.issued t.effects = _
  rw [he, issued_append hl]
  rfl

/-- The second session came from the first without an operation being issued. -/
structure Unissued (s t : Session δ κ) : Prop where
  nextTicket : t.controller.nextTicket = s.controller.nextTicket
  adds : Adds (·.issued? = none) s t

namespace Unissued

theorem trans (h : Unissued s t) (k : Unissued t u) : Unissued s u :=
  ⟨k.nextTicket.trans h.nextTicket, h.adds.trans k.adds⟩

theorem of_silently (h : Silently s t)
    (hn : t.controller.nextTicket = s.controller.nextTicket) : Unissued s t :=
  ⟨hn, Adds.mono h fun _ he => (Effect.inert_of_isSilent he).1⟩

theorem setPhase (s : Session δ κ) (p : Phase) : Unissued s (s.setPhase p) :=
  ⟨by simp, .setPhase (fun _ => rfl) (fun _ => rfl) s p⟩

theorem fail (s : Session δ κ) (cause : UpgradeError) : Unissued s (s.fail cause) :=
  ⟨by simp, .fail (fun _ => rfl) (fun _ => rfl) s cause⟩

theorem advance (s : Session δ κ) (p : Phase) : Unissued s (s.advance p) := by
  unfold Session.advance
  split
  · exact ⟨rfl, .of_effects_eq rfl⟩
  · exact .fail s _

theorem settled (s : Session δ κ) (op : InFlight) (x : Completion) (r : Reply) :
    Unissued s (s.settled op x r) where
  nextTicket := by
    rw [controller_settled]
    exact (Controller.conclude_alike s.controller op x.operation r).nextTicket
  adds := .settled (fun _ => rfl) s op x r

theorem initialise (drv : Driver δ) (s : Session δ κ) (device : DeviceHandle) :
    Unissued s (s.initialise drv device) := by
  rcases initialise_cases drv s device with ⟨u, cause, hu, he⟩ | ⟨driver, target, he⟩
  · rw [he]
    exact (of_silently hu.silently (by rw [hu.controller])).trans (.fail u _)
  · rw [he]
    have hinit : Unissued s (s.initialised driver device target) :=
      ⟨rfl, ⟨_, s.effects_initialised driver device target, by simp [Effect.issued?]⟩⟩
    exact hinit.trans (.advance _ _)

end Unissued

theorem idle_advance {p : Phase} (h : s.controller.inFlight = none) :
    (s.advance p).controller.inFlight = none := by
  unfold advance
  split
  · exact h
  · simp

theorem idle_initialise (drv : Driver δ) (device : DeviceHandle)
    (h : s.controller.inFlight = none) :
    (s.initialise drv device).controller.inFlight = none := by
  rcases initialise_cases drv s device with ⟨u, cause, -, he⟩ | ⟨driver, target, he⟩
  · rw [he]
    simp
  · rw [he]
    refine idle_advance ?_
    simpa [Controller.startOver, Controller.resetCounters] using h

theorem idle_settled {op : InFlight} {r : Reply} :
    (s.settled op x r).controller.inFlight = none := by
  rw [controller_settled]
  exact (Controller.conclude_alike s.controller op x.operation r).inFlight

/-! ## What the controller knows of the operations -/

/-- The controller takes tickets from a counter, and has in flight what is ongoing. A completion
with the ticket given is just being taken up, and has already ended its operation. -/
structure Tracks (ticket : Option UInt32) (s : Session δ κ) : Prop where
  next : s.controller.nextTicket = UInt32.ofNat s.account.issued.length
  drawn : ∀ n x, s.account.issued[n]? = some x → x.ticket = UInt32.ofNat n
  live : ∀ op, s.controller.inFlight = some op → s.controller.liveClass ≠ none
  purpose : ∀ op, s.controller.inFlight = some op →
    s.controller.phase.operation? = some op.operation
  last : ∀ op, s.controller.inFlight = some op →
    s.account.issued.getLast? = some op.completion
  ongoing : ∀ n x, Ongoing s.effects n x ↔
    n + 1 = s.account.issued.length ∧
      ∃ op, s.controller.inFlight = some op ∧ op.completion = x ∧ ticket ≠ some op.ticket

namespace Tracks

theorem not_ongoing (h : Tracks ticket s)
    (ht : ∀ op, s.controller.inFlight = some op → ticket = some op.ticket) :
    ¬Ongoing s.effects n x := by
  rw [h.ongoing]
  rintro ⟨-, op, hop, -, hne⟩
  exact hne (ht op hop)

/-- It does not matter what is taken up, unless it is the completion of the operation in flight. -/
theorem retake (h : Tracks ticket s) {later : Option UInt32}
    (ht : ∀ op, s.controller.inFlight = some op → ticket ≠ some op.ticket ∧ later ≠ some op.ticket) :
    Tracks later s := by
  refine { h with ongoing := fun n x => (h.ongoing n x).trans (and_congr_right fun _ => ?_) }
  constructor
  · rintro ⟨op, hop, hx, -⟩
    exact ⟨op, hop, hx, (ht op hop).2⟩
  · rintro ⟨op, hop, hx, -⟩
    exact ⟨op, hop, hx, (ht op hop).1⟩

theorem idle (h : Tracks ticket s) (hu : Unissued s t) (hidle : t.controller.inFlight = none)
    (hnone : ∀ n x, ¬Ongoing t.effects n x) : Tracks none t where
  next := by rw [hu.nextTicket, hu.adds.issued, h.next]
  drawn := by
    rw [hu.adds.issued]
    exact h.drawn
  live := fun op hop => by simp [hidle] at hop
  purpose := fun op hop => by simp [hidle] at hop
  last := fun op hop => by simp [hidle] at hop
  ongoing := fun n x => by simp [hnone, hidle]

/-- A session comes to rest when the completion of the operation in flight is taken up. -/
theorem rest (h : Tracks ticket s)
    (ht : ∀ op, s.controller.inFlight = some op → ticket = some op.ticket) (hu : Unissued s t)
    (hidle : t.controller.inFlight = none) : Tracks none t := by
  refine h.idle hu hidle fun n x hx => ?_
  obtain ⟨later, he, hl⟩ := hu.adds
  rw [he] at hx
  exact h.not_ongoing ht (hx.of_append hl)

theorem stay (h : Tracks ticket s) (hidle : s.controller.inFlight = none) (hu : Unissued s t)
    (hidle' : t.controller.inFlight = none) : Tracks none t :=
  h.rest (fun op hop => by simp [hidle] at hop) hu hidle'

theorem setPhase (h : Tracks ticket s) (hidle : s.controller.inFlight = none) (p : Phase) :
    Tracks none (s.setPhase p) :=
  h.stay hidle (.setPhase s p) (by simpa using hidle)

theorem inertly (h : Tracks ticket s) (ha : Adds Effect.Inert s t)
    (hc : t.controller = s.controller) : Tracks ticket t := by
  have hissued := (ha.mono fun _ he => he.1).issued
  obtain ⟨later, he, hl⟩ := ha
  refine ⟨?_, ?_, ?_, ?_, ?_, fun n x => ?_⟩
  · rw [hc, hissued]
    exact h.next
  · rw [hissued]
    exact h.drawn
  · rw [hc]
    exact h.live
  · rw [hc]
    exact h.purpose
  · rw [hc, hissued]
    exact h.last
  · rw [he, ongoing_append hl, hc, hissued]
    exact h.ongoing n x

theorem bind (h : Tracks ticket s) (b : Binding) :
    Tracks ticket (s.modify (·.bind b.host b.device b.interface)) :=
  ⟨h.next, h.drawn, h.live, h.purpose, h.last, h.ongoing⟩

theorem beside (h : Tracks ticket s) {allowed : Request → Prop} (hb : Beside allowed s t) :
    Tracks ticket t :=
  h.inertly (hb.reports.mono fun _ he =>
    Effect.inert_of_isSilent (Effect.isSilent_of_isReport he)) hb.controller

theorem dropOldest (h : Tracks ticket s) : Tracks ticket s.dropOldest :=
  h.inertly (.of_effects_eq rfl) rfl

theorem note (h : Tracks ticket s) (n : Notice) : Tracks ticket (s.note n) :=
  h.inertly (.record s ⟨rfl, fun _ => rfl⟩) rfl

theorem deliver (h : Tracks ticket s) (x : Completion) (r : Reply) :
    Tracks ticket (s.deliver x r) :=
  h.inertly (.deliver (fun _ => ⟨rfl, fun _ => rfl⟩) s ⟨rfl, fun _ => rfl⟩) (controller_deliver x r)

theorem fail (h : Tracks ticket s) (cause : UpgradeError) : Tracks none (s.fail cause) := by
  refine h.idle (.fail s cause) (by simp) fun n x hx => ?_
  rw [effects_fail, List.append_cons, List.append_cons, ongoing_append_singleton] at hx
  simp [Effect.issued?, Effect.ends] at hx

theorem deliverAll (ds : List (Completion × Reply)) :
    ∀ {s : Session δ κ}, Tracks ticket s → Tracks ticket (s.deliverAll ds) := by
  induction ds with
  | nil => exact id
  | cons d ds ih => exact fun h => ih (h.deliver d.1 d.2)

theorem taken (h : Tracks none s) (q : Request) : Tracks q.ticket? (s.record (.taken q)) := by
  have hissued : (s.record (.taken q)).account.issued = s.account.issued := by
    rw [account_record, Account.add_taken]
  refine ⟨?_, ?_, h.live, h.purpose, ?_, fun n x => ?_⟩
  · rw [hissued]
    exact h.next
  · rw [hissued]
    exact h.drawn
  · rw [hissued]
    exact h.last
  · rw [effects_record, ongoing_append_singleton, hissued, h.ongoing, Effect.ends_taken]
    constructor
    · rintro (⟨hx, -⟩ | ⟨⟨hn, op, hop, rfl, -⟩, ht⟩)
      · simp [Effect.issued?] at hx
      · exact ⟨hn, op, hop, rfl, ht⟩
    · rintro ⟨hn, op, hop, rfl, ht⟩
      exact .inr ⟨⟨hn, op, hop, rfl, by simp⟩, ht⟩

/-- An operation that goes to the driver with nothing in flight is the only one ongoing. -/
theorem handOver (h : Tracks none s) (hidle : s.controller.inFlight = none)
    (hlive : s.controller.liveClass ≠ none) (drv : Driver δ) (target : ClassHandle)
    {request : ClassCall} (hp : s.controller.phase.operation? = some request.operation)
    (length : Nat) : Tracks none (s.handOver drv target request length) := by
  have hissued : (s.handOver drv target request length).account.issued =
      s.account.issued ++ [⟨s.controller.nextTicket, request.operation⟩] := by
    rw [account_handOver, Account.add_call]
  refine ⟨?_, fun n x hx => ?_, ?_, ?_, ?_, fun n x => ?_⟩
  · rw [hissued, controller_handOver, List.length_append, List.length_singleton]
    simp [Controller.begin, h.next, UInt32.ofNat_add]
  · rw [hissued, List.getElem?_append] at hx
    split at hx
    · exact h.drawn n x hx
    · obtain ⟨hn, rfl⟩ : n = s.account.issued.length ∧ _ = x := by
        rw [List.getElem?_singleton] at hx
        split at hx
        · exact ⟨by omega, Option.some.inj hx⟩
        · simp at hx
      rw [hn, ← h.next]
  · intro op _
    simpa [Controller.begin] using hlive
  · intro op hop
    rw [controller_handOver] at hop ⊢
    obtain rfl := Option.some.inj hop
    exact hp
  · intro op hop
    rw [controller_handOver] at hop
    obtain rfl := Option.some.inj hop
    rw [hissued, List.getLast?_concat]
    rfl
  · have hrelayed : ∀ e ∈ (s.answerTo drv target request).notices.map Effect.relayed,
        e.Inert := by
      intro e he
      obtain ⟨notice, -, rfl⟩ := List.mem_map.mp he
      exact ⟨rfl, fun _ => rfl⟩
    have hnone := h.not_ongoing (n := n) (x := x) (fun op hop => by simp [hidle] at hop)
    rw [effects_handOver, List.append_cons, ongoing_append hrelayed, ongoing_append_singleton,
      hissued, controller_handOver]
    simp only [hnone, false_and, or_false, Effect.issued?, Option.some.injEq, List.length_append,
      List.length_singleton, Nat.add_right_cancel_iff, Controller.begin]
    constructor
    · rintro ⟨rfl, hn⟩
      exact ⟨hn, _, rfl, rfl, by simp⟩
    · rintro ⟨hn, op, rfl, hx, -⟩
      exact ⟨hx, hn⟩

theorem start (h : Tracks none s) (hidle : s.controller.inFlight = none)
    (hlive : s.controller.liveClass ≠ none) (drv : Driver δ) (target : ClassHandle)
    {request : ClassCall} (hp : s.controller.phase.operation? = some request.operation)
    (length : Nat) : Tracks none (s.start drv target request length) := by
  have hd := (h.handOver hidle hlive drv target hp length).deliverAll
    (s.answerTo drv target request).delivered
  rw [start_eq]
  split
  · exact hd
  · exact hd.fail _

/-- Whatever comes of a request, the controller has in flight what is ongoing. -/
theorem outcome {drv : Driver δ} (h : Tracks q.ticket? s) (o : Outcome drv s q t) :
    Tracks none t := by
  cases o with
  | dropped p n _ => exact h.note n
  | released =>
    have hr := s.release_becomes drv
    have hu : Unissued s (s.release drv) := .of_silently hr.silently (by simp [hr.controller])
    refine h.idle (hu.trans (.setPhase _ _)) ?_ fun n x hx => ?_
    · simp [hr.controller]
    · rw [effects_setPhase, List.append_cons, ongoing_append_singleton] at hx
      simp [Effect.issued?, Effect.ends] at hx
  | initialised device _ hidle _ =>
    have hidle' : (s.setPhase .attached).controller.inFlight = none := by simpa using hidle
    exact (h.setPhase hidle .attached).stay hidle' (.initialise drv _ device)
      (idle_initialise drv device hidle')
  | started p target request length _ hidle hlive ha =>
    refine (h.setPhase hidle p).start (by simpa using hidle) (by simp [hlive]) drv target ?_ length
    rw [controller_setPhase, Controller.phase_enter]
    exact Controller.operation?_of_action ha
  | skipped _ hidle _ _ =>
    have hidle' : (s.setPhase .readBack).controller.inFlight = none := by simpa using hidle
    exact (h.setPhase hidle .readBack).stay hidle' (.advance _ _) (idle_advance hidle')
  | finished _ hidle _ =>
    have hidle' : (s.setPhase .complete).controller.inFlight = none := by simpa using hidle
    have hf := (s.setPhase .complete).finish_becomes drv
    refine (h.setPhase hidle .complete).stay hidle' (.of_silently hf.silently ?_) ?_
    · rw [hf.controller]
    · rw [hf.controller]
      exact hidle'
  | blocked p cause _ _ hidle => exact (h.setPhase hidle p).fail cause
  | reported _ hidle => exact (h.setPhase hidle .error).note _
  | bound b _ => exact (h.note _).bind b
  | ignored b _ => exact h.note _
  | stale x r hx =>
    -- The operation in flight would have been awaited, so the ticket taken up is not its own.
    refine (h.retake fun op hop => ⟨fun ht => ?_, by simp⟩).note _
    rw [Controller.awaited?_eq_some_iff.mpr ⟨h.live op hop, hop, (Option.some.inj ht).symm⟩] at hx
    simp at hx
  | advanced x r op p hx _ =>
    obtain ⟨-, hop, ht⟩ := Controller.awaited?_eq_some_iff.mp hx
    refine h.rest (fun op' hop' => ?_) ((Unissued.settled s op x r).trans (.advance _ p))
      (idle_advance idle_settled)
    rw [← Option.some.inj (hop.symm.trans hop'), ht]
    rfl
  | failed x r op cause hx _ =>
    obtain ⟨-, hop, ht⟩ := Controller.awaited?_eq_some_iff.mp hx
    refine Tracks.fail (h.rest (fun op' hop' => ?_) (.settled s op x r) idle_settled) cause
    rw [← Option.some.inj (hop.symm.trans hop'), ht]
    rfl

end Tracks

namespace Tracks

theorem noticed (h : Tracks none s) (q : Request) : Tracks q.ticket? (s.noticed q) := by
  by_cases hb : Bereft s
  · rw [noticed_of_bereft hb]
    have hl : Tracks q.ticket? (s.record (.taken q)).forgetLoss :=
      (h.taken q).inertly (.of_effects_eq rfl) rfl
    exact (hl.fail .queueFull).retake fun op hop => by simp at hop
  · obtain ⟨hu, hs⟩ := noticed_of_not_bereft hb q
    exact (h.taken q).inertly (Adds.mono hs fun _ => Effect.inert_of_isSilent) hu.controller

theorem handle (h : Tracks none s) (drv : Driver δ) (q : Request) :
    Tracks none (Session.handle drv s q).1 :=
  (h.noticed q).outcome (outcome_handle drv s q)

/-- As long as an operation is not older than the tickets reach back, no other one has its
ticket. -/
theorem eq_of_ticket (h : Tracks ticket s) {op : InFlight} (hop : s.controller.inFlight = some op)
    (hn : s.account.issued[n]? = some x) (hlen : s.account.issued.length ≤ n + 2 ^ 32)
    (hx : op.ticket = x.ticket) : op.completion = x ∧ n + 1 = s.account.issued.length := by
  -- The operation in flight was issued last, with a ticket that is its number modulo `2 ^ 32`.
  have hlast := h.last op hop
  rw [List.getLast?_eq_getElem?] at hlast
  have ht : UInt32.ofNat (s.account.issued.length - 1) = UInt32.ofNat n :=
    (h.drawn _ _ hlast).symm.trans (hx.trans (h.drawn n x hn))
  have hlt := (List.getElem?_eq_some_iff.mp hn).1
  have hmod := congrArg UInt32.toNat ht
  rw [UInt32.toNat_ofNat', UInt32.toNat_ofNat'] at hmod
  obtain rfl : n = s.account.issued.length - 1 := by omega
  exact ⟨Option.some.inj (hlast.symm.trans hn), by omega⟩

theorem fresh (h : Tracks ticket s) (hk : s.account.issued.length < 2 ^ 32)
    (operation : Operation) : ⟨s.controller.nextTicket, operation⟩ ∉ s.account.issued := by
  intro hm
  obtain ⟨n, hn⟩ := List.mem_iff_getElem?.mp hm
  have ht : UInt32.ofNat s.account.issued.length = UInt32.ofNat n :=
    h.next.symm.trans (h.drawn n _ hn)
  have hlt := (List.getElem?_eq_some_iff.mp hn).1
  have hmod := congrArg UInt32.toNat ht
  rw [UInt32.toNat_ofNat', UInt32.toNat_ofNat'] at hmod
  omega

theorem ongoing_iff (h : Tracks none s) (hn : s.account.issued[n]? = some x)
    (hlen : s.account.issued.length ≤ n + 2 ^ 32) :
    Ongoing s.effects n x ↔ ∃ op, s.controller.inFlight = some op ∧ op.completion = x := by
  rw [h.ongoing]
  constructor
  · rintro ⟨-, op, hop, hx, -⟩
    exact ⟨op, hop, hx⟩
  · rintro ⟨op, hop, rfl⟩
    exact ⟨(h.eq_of_ticket hop hn hlen rfl).2, op, hop, rfl, by simp⟩

end Tracks

/-! ## The handling of a completion -/

theorem untouched_complete {r : Reply} (h : s.controller.awaited? x.ticket = none) :
    Untouched s (s.complete x r) := by
  simp only [complete, h]
  exact .note s _

theorem idle_complete {r : Reply} {op : InFlight}
    (h : s.controller.awaited? x.ticket = some op) :
    (s.complete x r).controller.inFlight = none := by
  cases hv : (s.controller.conclude op x.operation r).next with
  | ok p =>
    rw [complete_of_ok h hv]
    exact idle_advance idle_settled
  | error cause =>
    rw [complete_of_error h hv]
    simp

/-- The completion of an operation that is not too old has an effect exactly if the operation is
ongoing and its loss is not recorded. -/
theorem Tracks.complete {r : Reply} (h : Tracks none s) (hn : s.account.issued[n]? = some x)
    (hlen : s.account.issued.length ≤ n + 2 ^ 32) :
    (Ongoing s.effects n x ∧ ¬Bereft s →
      ((s.noticed (.completed x r)).complete x r).controller ≠
        (s.noticed (.completed x r)).controller) ∧
    (¬(Ongoing s.effects n x ∧ ¬Bereft s) →
      Untouched (s.noticed (.completed x r)) ((s.noticed (.completed x r)).complete x r)) := by
  constructor
  · rintro ⟨ho, hb⟩ heq
    obtain ⟨-, op, hop, rfl, -⟩ := (h.ongoing n x).mp ho
    have hc := (noticed_of_not_bereft hb (.completed op.completion r)).1.controller
    have hx : (s.noticed (.completed op.completion r)).controller.awaited? op.ticket = some op :=
      Controller.awaited?_eq_some_iff.mpr ⟨hc ▸ h.live op hop, hc ▸ hop, rfl⟩
    have hidle := idle_complete (x := op.completion) (r := r) hx
    rw [heq, hc, hop] at hidle
    simp at hidle
  · intro hno
    refine untouched_complete ?_
    by_cases hb : Bereft s
    · exact Controller.awaited?_of_idle (idle_noticed hb _) _
    · by_contra hne
      obtain ⟨op, hx⟩ := Option.ne_none_iff_exists'.mp hne
      obtain ⟨-, hop, ht⟩ := Controller.awaited?_eq_some_iff.mp hx
      rw [(noticed_of_not_bereft hb _).1.controller] at hop
      exact hno ⟨(h.ongoing_iff hn hlen).mpr ⟨op, hop, (h.eq_of_ticket hop hn hlen ht).1⟩, hb⟩

end Session

namespace Installation

variable {δ κ : Type} {drv : Driver δ} {allowed : Request → Prop} {i : Installation δ κ}

theorem tracks_new (driver : δ) (image : Bytes) (config : Config) :
    (new driver image config : Installation δ κ).session.Tracks none := by
  have hidle : ∀ op,
      (new driver image config : Installation δ κ).session.controller.inFlight ≠ some op := by
    intro op hop
    cases hop
  refine ⟨rfl, fun n x hx => ?_, fun op hop => absurd hop (hidle op),
    fun op hop => absurd hop (hidle op), fun op hop => absurd hop (hidle op), fun n x => ?_⟩
  · have hissued : (new driver image config : Installation δ κ).session.account.issued = [] := rfl
    simp [hissued] at hx
  · exact iff_of_false not_ongoing_nil fun ⟨_, op, hop, _⟩ => hidle op hop

theorem Shared.tracks {driver : δ} {image : Bytes} {config : Config}
    (h : Shared drv allowed (new driver image config) i) : i.session.Tracks none := by
  have hall : Shared drv (fun _ => True) (new driver image config) i := h.mono fun _ _ => trivial
  refine hall.keeps (fun _ _ => trivial) (tracks_new driver image config) ?_ ?_ ?_
  · intro s t hb ht
    exact ht.beside hb
  · intro s q _ ht _
    exact ht.dropOldest.handle drv q
  · intro s x r ht _
    exact ht.deliver x r

/-- In a run in which others may send any requests, let the next one in the queue be the completion
of operation number `n`, after which fewer than `2 ^ 32` others were issued. The operation is in
flight exactly if since its issue its completion was not taken up, the upgrade has not failed and
the device was not detached. Its completion changes the controller exactly if the operation is in
flight and not recorded as lost; otherwise the controller, the queue and the driver stay as they
are. What `found` adds is the look for a loss, which does nothing unless the completion of the
operation in flight was refused. -/
theorem completion_counts_iff (drv : Driver δ) (driver : δ) (image : Bytes) (config : Config)
    (h : Shared drv (fun _ => True) (new driver image config) i) {x : Completion} {r : Reply}
    {rest : List Request} (hreq : i.session.requests = .completed x r :: rest) {n : Nat}
    (hn : (issued i.effects)[n]? = some x) (hlen : (issued i.effects).length ≤ n + 2 ^ 32) :
    let found := i.session.dropOldest.noticed (.completed x r)
    let after := (i.move drv .work).session
    (Ongoing i.effects n x ↔ ∃ op, i.controller.inFlight = some op ∧ op.completion = x) ∧
      (¬i.session.Bereft → i.session.dropOldest.Untouched found) ∧
      (after.controller ≠ found.controller ↔ Ongoing i.effects n x ∧ ¬i.session.Bereft) ∧
      (after.controller = found.controller → found.Untouched after) := by
  intro found after
  have ht : i.session.dropOldest.Tracks none := h.tracks.dropOldest
  have hafter : after = found.complete x r := (session_work_of_requests drv hreq).1
  obtain ⟨hcounts, hnot⟩ := ht.complete (r := r) hn hlen
  refine ⟨h.tracks.ongoing_iff hn hlen,
    fun hb => (Session.noticed_of_not_bereft (s := i.session.dropOldest) hb _).1, ?_,
    fun hsame => ?_⟩
  · constructor
    · intro hne
      by_contra hno
      exact hne (hafter ▸ (hnot hno).controller)
    · intro hyes
      rw [hafter]
      exact hcounts hyes
  · rw [hafter]
    refine hnot fun hyes => hcounts hyes ?_
    rw [← hafter, hsame]

/-- The device is attached again while the first operation of the last attachment is still with the
driver, which now calls its completion. -/
def abandonedReply : Installation Nat Unit :=
  (blank 7).moves obliging <|
    [enumeration, [.work, .work, .work,
      .event dfuVendor dfuProduct Accelerator.host Accelerator.device .detach, .work],
      enumeration, [.work, .work, .work, .complete ⟨0, .setInterface⟩ (.ok #[])]].flatten

theorem abandonedReply_untouched :
    ¬Ongoing abandonedReply.effects 0 ⟨0, .setInterface⟩ ∧
      (abandonedReply.session.dropOldest.noticed
        (.completed ⟨0, .setInterface⟩ (.ok #[]))).Untouched
          (abandonedReply.move obliging .work).session := by
  have hreq : abandonedReply.session.requests = [.completed ⟨0, .setInterface⟩ (.ok #[])] := by
    decide +kernel
  obtain ⟨hongoing, -, hcounts, hno⟩ := completion_counts_iff (i := abandonedReply) (n := 0)
    obliging 0 #[7] .standard (.of_plays (by decide +kernel)) hreq (by decide +kernel)
    (by decide +kernel)
  have hnot : ¬Ongoing abandonedReply.effects 0 ⟨0, .setInterface⟩ := by
    rw [hongoing, show abandonedReply.controller.inFlight = some ⟨1, .setInterface, 0⟩ by
      decide +kernel]
    decide
  refine ⟨hnot, hno ?_⟩
  by_contra hne
  exact hnot (hcounts.mp hne).1

end Installation

end FirmwareUpgrade
