import FirmwareUpgrade.Proofs.Outcome

/-!
# The handling of a request

`Upholds` says of a session that its upgrade is on course and that every effect recorded so far was
sound when it happened: an operation is issued when all before it are fulfilled, the device is asked
to detach when all of the image came back, and an upgrade is complete with all of the image sent and
compared exactly if it began early enough. It is shown that the handling of a request upholds this.
-/
namespace FirmwareUpgrade

/-- How an effect stands to the effects before it. -/
def Sound (T : Terms) (before : List Effect) : Effect → Prop
  | .watch .complete =>
    (Attachment.ofEffects (before ++ [.watch .complete])).Justified T.image ↔
      Attachment.Early T.image (Attachment.ofEffects (before ++ [.watch .complete])).opening
  | .exchange (.call _ request _ _) => T.kept → fulfilled before = issued before ∧
      calls before = (Attachment.ofEffects before).issues.map (·.request) ∧
      (request.operation = .detach → (Attachment.ofEffects before).uploaded = T.image.toList)
  | _ => True

/-- Effects of which nothing is asked. -/
def Effect.isPlain : Effect → Bool
  | watch .complete | exchange (.call ..) => false
  | _ => true

theorem Sound.of_isPlain {T : Terms} {e : Effect} (h : e.isPlain = true) (before : List Effect) :
    Sound T before e := by
  unfold Sound
  split
  · simp [Effect.isPlain] at h
  · simp [Effect.isPlain] at h
  · trivial

theorem Effect.isPlain_of_isSilent {e : Effect} (h : e.isSilent = true) : e.isPlain = true := by
  unfold isPlain
  split <;> simp_all [isSilent]

namespace Session

variable {δ κ : Type} {T : Terms} {s t : Session δ κ}

/-- A completion of the operation in flight that was lost is not also on its way. -/
def LossFinal (s : Session δ κ) : Prop :=
  ∀ op, s.controller.inFlight = some op → s.state.lost = some op.ticket →
    s.account.outstanding s.requests op.completion = 0

theorem LossFinal.of_none (h : s.state.lost = none) : LossFinal s := by
  intro op _ hop
  rw [h] at hop
  simp at hop

/-- The session is on course, was sound throughout, and waits for no completion that is lost. -/
structure Upholds (T : Terms) (s : Session δ κ) : Prop where
  course : Course T s.controller s.account s.requests
  sound : Throughout (Sound T) s.effects
  lost : LossFinal s

theorem Silently.sound (h : Silently s t) (hs : Throughout (Sound T) s.effects) :
    Throughout (Sound T) t.effects :=
  h.throughout (fun _ _ he => .of_isPlain (Effect.isPlain_of_isSilent he) _) hs

/-! ## Failure -/

theorem sound_fail (cause : UpgradeError) (h : Throughout (Sound T) s.effects) :
    Throughout (Sound T) (s.fail cause).effects := by
  rw [effects_fail]
  refine h.append fun e he => Sound.of_isPlain ?_
  simp only [List.mem_cons, List.not_mem_nil, or_false] at he
  rcases he with rfl | rfl | rfl <;> rfl

theorem upholds_fail (hb : Base T s.controller s.account s.requests)
    (hs : Throughout (Sound T) s.effects) (cause : UpgradeError) : Upholds T (s.fail cause) where
  course := by
    rw [account_fail, controller_fail, requests_fail]
    exact hb.fail cause
  sound := sound_fail cause hs
  lost := fun op hop => by simp at hop

theorem upholds_advance {p : Phase} (hb : Base T s.controller s.account s.requests)
    (hs : Throughout (Sound T) s.effects) (hl : s.state.lost = none)
    (hc : Course T s.controller s.account (s.requests ++ [.nextPhase p])) :
    Upholds T (s.advance p) := by
  cases hr : s.channel.refusal? with
  | none =>
    rw [advance_of_room p hr]
    refine ⟨?_, hs, .of_none hl⟩
    rw [requests_post _ hr]
    exact hc
  | some reason =>
    rw [advance_of_refusal p hr]
    exact upholds_fail hb hs _

/-! ## Completions -/

theorem honest_iff :
    Honest s.effects ↔ ∀ x, s.account.called.count x ≤ s.account.issued.count x := Iff.rfl

theorem held_of_honest {x : Completion} {r : Reply} (h : Honest (s.deliver x r).effects) :
    0 < s.account.held x := by
  have hx := honest_iff.mp h x
  rw [account_deliver, Account.add_completed, List.count_append, List.count_singleton_self] at hx
  dsimp only at hx
  unfold Account.held
  omega

theorem honest_of_deliverAll (ds : List (Completion × Reply)) :
    ∀ {s : Session δ κ}, Honest (s.deliverAll ds).effects → Honest s.effects := by
  induction ds with
  | nil => exact id
  | cons d ds ih =>
    intro s h
    have hd := ih (s := s.deliver d.1 d.2) h
    rw [honest_iff] at hd ⊢
    intro x
    have hx := hd x
    rw [account_deliver, Account.add_completed, List.count_append] at hx
    dsimp only at hx
    omega

/-- What the call of one held completion keeps, the calls of several keep. -/
theorem deliverAll_induction {P : Session δ κ → Prop}
    (hP : ∀ s x r, P s → 0 < s.account.held x → P (s.deliver x r))
    (ds : List (Completion × Reply)) :
    ∀ {s : Session δ κ}, P s → Honest (s.deliverAll ds).effects → P (s.deliverAll ds) := by
  induction ds with
  | nil => exact fun h _ => h
  | cons d ds ih =>
    intro s h hh
    exact ih (hP s d.1 d.2 h (held_of_honest (honest_of_deliverAll ds hh))) hh

theorem sound_deliver (x : Completion) (r : Reply) (h : Throughout (Sound T) s.effects) :
    Throughout (Sound T) (s.deliver x r).effects := by
  obtain ⟨later, he, hl⟩ := s.effects_deliver x r
  rw [he]
  refine h.append fun e hm => Sound.of_isPlain ?_
  rcases List.mem_cons.mp hm with rfl | hm
  · rfl
  · exact Effect.isPlain_of_isSilent (hl e hm)

theorem upholds_deliver (x : Completion) (r : Reply) (h : Upholds T s)
    (hx : 0 < s.account.held x) : Upholds T (s.deliver x r) where
  course := by
    rw [controller_deliver, account_deliver]
    exact h.course.deliver hx (s.requests_deliver x r)
  sound := sound_deliver x r h.sound
  lost := by
    intro op hop hlost
    rw [controller_deliver] at hop
    rw [account_deliver]
    rcases s.deliver_cases x r with ⟨hreq, hcell⟩ | ⟨hreq, hcell⟩
    · rw [hcell] at hlost
      have hle := Account.outstanding_add_completed_le (r := r) hx (.inr hreq) op.completion
      rw [h.lost op hop hlost] at hle
      exact Nat.le_zero.mp hle
    · rw [hcell, Option.some.injEq] at hlost
      obtain ⟨target, t, i, done, last, hs⟩ := h.course.stage.flying_of_inFlight hop
      have ho := hs.own x hlost
      have hxc : x = op.completion := by
        by_contra hne
        rw [if_neg hne] at ho
        unfold Account.outstanding at ho
        omega
      rw [if_pos hxc] at ho
      rw [hreq, ← hxc]
      unfold Account.outstanding at ho ⊢
      rw [Account.held_add_completed, if_pos rfl]
      omega

theorem upholds_deliverAll (ds : List (Completion × Reply)) (h : Upholds T s)
    (hh : Honest (s.deliverAll ds).effects) : Upholds T (s.deliverAll ds) :=
  deliverAll_induction (fun _ x r h hx => upholds_deliver x r h hx) ds h hh

theorem upholds_fail_deliverAll (ds : List (Completion × Reply))
    (hb : Base T s.controller s.account s.requests) (hs : Throughout (Sound T) s.effects)
    (hh : Honest (s.deliverAll ds).effects) (cause : UpgradeError) :
    Upholds T ((s.deliverAll ds).fail cause) := by
  have h := deliverAll_induction
    (P := fun s => Base T s.controller s.account s.requests ∧ Throughout (Sound T) s.effects)
    (fun s x r h hx => ⟨by
      rw [controller_deliver, account_deliver]
      exact h.1.deliver hx (s.requests_deliver x r), sound_deliver x r h.2⟩) ds ⟨hb, hs⟩ hh
  exact upholds_fail h.1 h.2 cause

/-! ## The start of an operation -/

theorem sound_handOver (drv : Driver δ) (target : ClassHandle) (request : ClassCall)
    (length : Nat) (h : Throughout (Sound T) s.effects)
    (hc : T.kept → s.account.fulfilled = s.account.issued ∧
      s.account.calls = s.account.attachment.issues.map (·.request) ∧
      (request.operation = .detach → s.account.attachment.uploaded = T.image.toList)) :
    Throughout (Sound T) (s.handOver drv target request length).effects := by
  have hcall : Sound T s.effects (.exchange (.call target request
      ⟨s.controller.nextTicket, request.operation⟩ (s.answerTo drv target request).result)) := hc
  rw [effects_handOver, List.append_cons]
  refine (Throughout.append_singleton.mpr ⟨h, hcall⟩).append fun e he => Sound.of_isPlain ?_
  obtain ⟨n, -, rfl⟩ := List.mem_map.mp he
  rfl

/-- An operation is started where its phase was entered. -/
theorem upholds_start (drv : Driver δ) {target : ClassHandle} {t : Task} {p : Phase} {i : Nat}
    {request : ClassCall} {length : Nat}
    (h : Arrived T s.controller s.account s.requests target t p i)
    (hb : Base T s.controller s.account s.requests) (hs : Throughout (Sound T) s.effects)
    (hl : s.state.lost = none) (ha : s.controller.action p = .start request length)
    (hk : T.kept ∨ s.account.issued.length < 2 ^ 32)
    (hh : Honest (s.start drv target request length).effects) :
    Upholds T (s.start drv target request length) := by
  have hsound : Throughout (Sound T) (s.handOver drv target request length).effects := by
    refine sound_handOver drv target request length hs fun hT => ?_
    obtain ⟨ho, -, -, hq⟩ := h.kept hT
    exact ⟨hq.fulfilled.symm, hb.calls hT, h.uploaded_eq hb ho ha⟩
  have hbase : Base T (s.handOver drv target request length).controller
      (s.handOver drv target request length).account
      (s.handOver drv target request length).requests := by
    rw [controller_handOver, account_handOver, requests_handOver]
    exact h.base_call hb ha _
  rw [start_eq] at hh ⊢
  cases hr : (s.answerTo drv target request).result with
  | ok =>
    simp only [hr] at hh ⊢
    refine upholds_deliverAll _ ⟨⟨hbase, ?_⟩, hsound, .of_none (by rwa [lost_handOver])⟩ hh
    rw [controller_handOver, account_handOver, requests_handOver, hr]
    exact .flying target t _ i _ _ (h.flying hb ha hk)
  | error cause =>
    simp only [hr] at hh ⊢
    refine upholds_fail_deliverAll _ hbase hsound ?_ _
    have hf := honest_iff.mp hh
    rw [account_fail, Account.add_watch] at hf
    exact hf

/-! ## Steps -/

theorem sound_setPhase {p : Phase} (h : Throughout (Sound T) s.effects)
    (hp : p = .complete → ((s.setPhase p).account.attachment.Justified T.image ↔
      Attachment.Early T.image (s.setPhase p).account.attachment.opening)) :
    Throughout (Sound T) (s.setPhase p).effects := by
  have hn : Throughout (Sound T)
      (s.effects ++ [.notice (.phaseChanged s.controller.phase p)]) :=
    Throughout.append_singleton.mpr ⟨h, .of_isPlain rfl _⟩
  have he : (s.setPhase p).effects =
      s.effects ++ [.notice (.phaseChanged s.controller.phase p)] ++ [.watch p] := by
    rw [effects_setPhase, List.append_assoc]
    rfl
  rw [he]
  refine Throughout.append_singleton.mpr ⟨hn, ?_⟩
  by_cases hc : p = .complete
  · have hj := hp hc
    subst hc
    change (Attachment.ofEffects (s.setPhase .complete).effects).Justified _ ↔
      Attachment.Early _ (Attachment.ofEffects (s.setPhase .complete).effects).opening at hj
    rw [he] at hj
    exact hj
  · refine .of_isPlain ?_ _
    unfold Effect.isPlain
    split <;> simp_all

theorem base_setPhase {p : Phase}
    (h : Base T s.controller s.account (.nextPhase p :: s.requests)) :
    Base T (s.setPhase p).controller (s.setPhase p).account (s.setPhase p).requests := by
  rw [controller_setPhase, account_setPhase, requests_setPhase]
  exact (h.drop.watch p).enter p

/-- A step into a phase that needs a class handle stays in the course of the upgrade. -/
theorem arrived_setPhase {p : Phase}
    (h : Course T s.controller s.account (.nextPhase p :: s.requests))
    (hs : Throughout (Sound T) s.effects) (hp : p.needsClass = true)
    (hopen : s.controller.phase.isTerminal = false) (hidle : s.controller.inFlight = none)
    (hlive : s.controller.liveClass ≠ none) :
    Throughout (Sound T) (s.setPhase p).effects ∧ ∃ target t i,
      Arrived T (s.setPhase p).controller (s.setPhase p).account (s.setPhase p).requests
        target t p i := by
  obtain ⟨target, t, i, harr⟩ := h.arrive hp hopen hidle hlive
  rw [← account_setPhase, ← controller_setPhase] at harr
  refine ⟨sound_setPhase hs fun hc => ?_, target, t, i, harr⟩
  subst hc
  exact harr.justified_iff (base_setPhase h.base)

/-- The class driver is initialised, or cannot be. -/
theorem upholds_initialise (drv : Driver δ) (device : DeviceHandle)
    (hb : Base T s.controller s.account s.requests) (hs : Throughout (Sound T) s.effects)
    (hl : s.state.lost = none)
    (hi : ∀ target,
      Base T (s.controller.startOver target)
          (s.account.add (.exchange (.init device (.ok target)))) s.requests ∧
        Course T (s.controller.startOver target)
          (s.account.add (.exchange (.init device (.ok target))))
          (s.requests ++ [.nextPhase .setInterface])) :
    Upholds T (s.initialise drv device) := by
  rcases initialise_cases drv s device with ⟨u, cause, hu, he⟩ | ⟨driver, target, he⟩
  · rw [he]
    refine upholds_fail ?_ (hu.silently.sound hs) _
    rw [hu.controller, hu.silently.account_eq, hu.requests_eq]
    exact hb
  · rw [he]
    obtain ⟨hbase, hcourse⟩ := hi target
    have hsound : Throughout (Sound T) (s.initialised driver device target).effects := by
      rw [effects_initialised]
      refine hs.append fun e hm => Sound.of_isPlain ?_
      simp only [List.mem_cons, List.not_mem_nil, or_false] at hm
      rcases hm with rfl | rfl <;> rfl
    refine upholds_advance ?_ hsound hl ?_
    · rwa [controller_initialised, account_initialised, requests_initialised]
    · rwa [controller_initialised, account_initialised, requests_initialised]

/-- Everything that belongs to the device is let go of. -/
theorem upholds_release (drv : Driver δ)
    (h : Course T s.controller s.account (.nextPhase .unattached :: s.requests))
    (hs : Throughout (Sound T) s.effects) (hl : s.state.lost = none) :
    Upholds T ((s.release drv).setPhase .unattached) := by
  have hr := s.release_becomes drv
  refine ⟨?_, sound_setPhase (hr.silently.sound hs) (by simp), .of_none (hr.lost.trans hl)⟩
  rw [controller_setPhase, account_setPhase, requests_setPhase, hr.controller,
    hr.silently.account_eq, hr.requests_eq]
  exact h.release

/-! ## One request -/

theorem upholds_note {n : Notice} (hn : n ≠ .verified)
    (h : Course T s.controller s.account s.requests) (hs : Throughout (Sound T) s.effects)
    (hl : s.state.lost = none) : Upholds T (s.note n) := by
  have hsil : Silently s (s.note n) := .note hn
  refine ⟨?_, hsil.sound hs, .of_none hl⟩
  rw [controller_note, hsil.account_eq, requests_note]
  exact h

/-- A request as the worker finds it: the account before it was taken up, and the course with the
request still at the head of the queue. -/
def Pending (T : Terms) (s : Session δ κ) (q : Request) : Prop :=
  ∃ k, s.account = k.add (.taken q) ∧ Course T s.controller k (q :: s.requests) ∧
    (T.kept ∨ k.issued.length < 2 ^ 32)

/-- Only a completion that is taken up is an entry of the account. -/
theorem Pending.steering {q : Request} (h : Pending T s q) (hq : q.completion? = none) :
    Course T s.controller s.account (q :: s.requests) ∧
      (T.kept ∨ s.account.issued.length < 2 ^ 32) := by
  obtain ⟨k, hacc, hc, hk⟩ := h
  obtain rfl : s.account = k := by
    rw [hacc, Account.add_taken]
    cases q with
    | completed => simp [Request.completion?] at hq
    | _ => simp [Effect.fulfilled?]
  exact ⟨hc, hk⟩

theorem sound_settled (op : InFlight) (x : Completion) (r : Reply)
    (h : Throughout (Sound T) s.effects) : Throughout (Sound T) (s.settled op x r).effects := by
  rw [settled, effects_noteAll, effects_modify]
  refine h.append fun e he => Sound.of_isPlain ?_
  obtain ⟨n, -, rfl⟩ := List.mem_map.mp he
  rfl

theorem base_settled {k : Account} {x : Completion} {r : Reply}
    (hacc : s.account = k.add (.taken (.completed x r)))
    (h : Base T s.controller k (.completed x r :: s.requests)) (op : InFlight) :
    Base T (s.settled op x r).controller (s.settled op x r).account
      (s.settled op x r).requests := by
  rw [controller_settled, account_settled, requests_settled, hacc]
  exact h.conclude op _

/-- Whatever comes of a request, the upgrade stays on course. While a completion is handled the
driver is not asked for anything, so it need not be honest then. -/
theorem upholds_outcome {drv : Driver δ} {q : Request} (o : Outcome drv s q t)
    (h : Pending T s q) (hs : Throughout (Sound T) s.effects) (hl : s.state.lost = none)
    (hh : q.completion? = none → Honest t.effects) : Upholds T t := by
  cases o with
  | dropped p n ho =>
    obtain ⟨hc, -⟩ := h.steering rfl
    refine upholds_note (Controller.objection?_ne_verified ho) (hc.drop ?_) hs hl
    by_cases ha : p = .attached
    · exact .inl (by simp [Request.transition?, ha])
    · exact .inr (Controller.of_objection?_eq_some ha ho)
  | released => exact upholds_release drv (h.steering rfl).1 hs hl
  | initialised device hphase _ _ =>
    obtain ⟨hc, -⟩ := h.steering rfl
    refine upholds_initialise drv device (base_setPhase hc.base) (sound_setPhase hs (by simp)) hl
      fun target => ?_
    rw [controller_setPhase, account_setPhase, requests_setPhase]
    exact hc.initialise hphase device target
  | started p target request length hopen hidle hlive ha =>
    obtain ⟨hc, hk⟩ := h.steering rfl
    have hp := Phase.needsClass_of_operation? (Controller.operation?_of_action ha)
    obtain ⟨hsound, target', t, i, harr⟩ :=
      arrived_setPhase hc hs hp hopen hidle (by simp [hlive])
    obtain rfl : target = target' := by
      have hsame := harr.live
      rw [controller_setPhase, Controller.liveClass_enter, hlive] at hsame
      exact Option.some.inj hsame
    refine upholds_start drv harr (base_setPhase hc.base) hsound hl ?_ ?_ (hh rfl)
    · rw [controller_setPhase, Controller.action_enter]
      exact ha
    · rw [account_setPhase, Account.add_watch]
      exact hk
  | skipped hopen hidle hlive hz =>
    obtain ⟨hc, -⟩ := h.steering rfl
    obtain ⟨hsound, target, t, i, harr⟩ := arrived_setPhase hc hs rfl hopen hidle hlive
    have hb := base_setPhase hc.base
    have hskip := harr.skip (by simpa [Controller.chunkLength, Controller.remaining] using hz)
    exact upholds_advance hb hsound hl ⟨hb.postStep (by simp) (by simp) (by simp), hskip⟩
  | finished hopen hidle hlive =>
    obtain ⟨hc, -⟩ := h.steering rfl
    obtain ⟨hsound, target, t, i, harr⟩ := arrived_setPhase hc hs rfl hopen hidle hlive
    have hf := (s.setPhase .complete).finish_becomes drv
    refine ⟨?_, hf.silently.sound hsound, .of_none (hf.lost.trans hl)⟩
    rw [hf.controller, hf.silently.account_eq, hf.requests_eq]
    exact harr.finish (base_setPhase hc.base)
  | blocked p cause hp _ _ =>
    obtain ⟨hc, -⟩ := h.steering rfl
    refine upholds_fail (base_setPhase hc.base) (sound_setPhase hs ?_) cause
    rintro rfl
    simp at hp
  | reported _ _ =>
    -- No step to the failure is ever queued.
    obtain ⟨hc, -⟩ := h.steering rfl
    have hpost := hc.base.postable .error (by simp [transitions, Request.transition?])
    simp at hpost
  | bound b hp =>
    obtain ⟨hc, -⟩ := h.steering rfl
    have hn : Silently s (s.note (.bound b)) := .note (by simp)
    refine ⟨?_, hn.sound hs, .of_none hl⟩
    rw [account_modify, hn.account_eq]
    exact hc.bind hp
  | ignored b _ => exact upholds_note (by simp) ((h.steering rfl).1.drop (.inl rfl)) hs hl
  | stale x r hx =>
    obtain ⟨k, hacc, hc, -⟩ := h
    refine upholds_note (by simp) ?_ hs hl
    rw [hacc]
    exact hc.dropStale hx
  | advanced x r op p hx hv =>
    obtain ⟨k, hacc, hc, -⟩ := h
    refine upholds_advance (base_settled hacc hc.base op) (sound_settled op x r hs) ?_ ?_
    · rw [lost_settled, hl]
    · rw [controller_settled, account_settled, requests_settled, hacc]
      exact hc.conclude hx hv
  | failed x r op cause hx _ =>
    obtain ⟨k, hacc, hc, -⟩ := h
    exact upholds_fail (base_settled hacc hc.base op) (sound_settled op x r hs) cause

/-- A loss that is noticed ends the upgrade, which stays on course with that. -/
theorem pending_noticed {q : Request} (h : Course T s.controller s.account (q :: s.requests))
    (hs : Throughout (Sound T) s.effects) (hk : T.kept ∨ s.account.issued.length < 2 ^ 32) :
    Pending T (s.noticed q) q ∧ Throughout (Sound T) (s.noticed q).effects := by
  have hsound : Throughout (Sound T) (s.record (.taken q)).effects := by
    rw [effects_record]
    exact Throughout.append_singleton.mpr ⟨hs, .of_isPlain rfl _⟩
  by_cases hb : Bereft s
  · rw [noticed_of_bereft hb]
    refine ⟨⟨s.account.add (.watch .error), ?_, h.base.fail .queueFull, ?_⟩, sound_fail _ hsound⟩
    · have hacc : (s.record (.taken q)).forgetLoss.account = s.account.add (.taken q) :=
        account_record s _
      rw [account_fail, hacc, Account.add_watch, Account.add_watch, Account.add_taken,
        Account.add_taken]
    · rwa [Account.add_watch]
  · obtain ⟨hu, hsil⟩ := noticed_of_not_bereft hb q
    refine ⟨⟨s.account, hsil.account_eq.trans (account_record s _), ?_, hk⟩, hsil.sound hsound⟩
    rw [hu.controller, hu.requests_eq]
    exact h

/-- The handling of a request keeps the upgrade on course. -/
theorem upholds_handle (drv : Driver δ) {q : Request}
    (h : Course T s.controller s.account (q :: s.requests))
    (hs : Throughout (Sound T) s.effects) (hk : T.kept ∨ s.account.issued.length < 2 ^ 32)
    (hh : q.completion? = none → Honest (effects (handle drv s q).1)) :
    Upholds T (handle drv s q).1 := by
  obtain ⟨hp, hsound⟩ := pending_noticed h hs hk
  exact upholds_outcome (outcome_handle drv s q) hp hsound (lost_noticed s q) hh

end Session

end FirmwareUpgrade
