import FirmwareUpgrade.Proofs.Tickets

/-!
# One operation at a time

An operation that the driver accepted is pending until its completion is called. It is shown that
on a class handle none is issued while one is pending, as long as the tickets are not used up. The
controller does not count what is pending: it goes by the operation in flight, and where it forgets
that one it has no class handle or is in a phase that is not left.
-/
namespace FirmwareUpgrade

/-- Accepted, and its completion was not called yet. -/
def Issue.isPending (d : Issue) : Bool := d.accepted && d.reply.isNone

/-- The operations on the class handle that the driver has not finished. -/
def Attachment.pending (a : Attachment) : List Issue := a.issues.filter Issue.isPending

/-- An operation is issued only on the class handle initialised last, and with none pending. -/
def Alone (before : List Effect) : Effect → Prop
  | .exchange (.call target _ _ _) =>
    (Attachment.ofEffects before).pending = [] ∧
      (Attachment.ofEffects before).target = some target
  | _ => True

/-- Effects that concern neither an operation nor the class handle. -/
def Effect.isApart : Effect → Bool
  | exchange (.init _ (.ok _)) | exchange (.call ..) | completed .. => false
  | _ => true

theorem Effect.isApart_of_isSilent {e : Effect} (h : e.isSilent = true) : e.isApart = true := by
  unfold isSilent at h
  split at h <;> simp_all [isApart]

theorem alone_of_isApart {e : Effect} (h : e.isApart = true) (before : List Effect) :
    Alone before e := by
  unfold Alone
  split
  · simp [Effect.isApart] at h
  · trivial

theorem Effect.of_isApart {e : Effect} (h : e.isApart = true) :
    e.issued? = none ∧ e.called? = none := by
  cases e with
  | completed => simp [isApart] at h
  | exchange x => cases x <;> simp_all [isApart, issued?, called?]
  | _ => exact ⟨rfl, rfl⟩

namespace Issue

@[simp] theorem completion_settle (d : Issue) (x : Completion) (r : Reply) :
    (d.settle x r).completion = d.completion := by
  unfold settle
  split <;> rfl

theorem isPending_of_settle {d : Issue} {x : Completion} {r : Reply}
    (h : (d.settle x r).isPending = true) : d.isPending = true := by
  unfold settle at h
  split at h
  · simp [isPending] at h
  · exact h

theorem reply_settle {d : Issue} {x : Completion} (r : Reply) (h : d.completion = x) :
    (d.settle x r).reply ≠ none := by
  unfold settle
  split
  · simp
  · rename_i hno
    intro hnone
    exact hno ⟨h, by simp [hnone]⟩

theorem reply_settle_of_ne {d : Issue} (x : Completion) (r : Reply) (h : d.reply ≠ none) :
    (d.settle x r).reply ≠ none := by
  unfold settle
  split
  · simp
  · exact h

end Issue

namespace Attachment

theorem length_pending_map_settle (issues : List Issue) (x : Completion) (r : Reply) :
    ((issues.map (·.settle x r)).filter Issue.isPending).length ≤
      (issues.filter Issue.isPending).length := by
  rw [← List.countP_eq_length_filter, ← List.countP_eq_length_filter, List.countP_map]
  exact List.countP_mono_left fun d _ h => Issue.isPending_of_settle h

theorem observe_of_isApart (a : Attachment) {e : Effect} (h : e.isApart = true) :
    (a.observe e).issues = a.issues ∧ (a.observe e).target = a.target := by
  unfold observe
  split
  case h_1 | h_2 | h_3 => simp [Effect.isApart] at h
  case h_4 => split <;> exact ⟨rfl, rfl⟩
  case h_5 | h_6 => exact ⟨rfl, rfl⟩

/-- If operations are issued one at a time, no more than one is pending at any time. -/
theorem length_pending_le_one {effects : List Effect} (h : Throughout Alone effects) :
    (ofEffects effects).pending.length ≤ 1 := by
  induction effects using List.reverseRecOn with
  | nil => exact Nat.zero_le 1
  | append_singleton effects e ih =>
    obtain ⟨hbefore, halone⟩ := Throughout.append_singleton.mp h
    have hle := ih hbefore
    rw [ofEffects_append_singleton]
    by_cases ha : e.isApart = true
    · rw [pending, ((ofEffects effects).observe_of_isApart ha).1]
      exact hle
    · cases e with
      | completed x r => exact (length_pending_map_settle _ x r).trans hle
      | exchange ex =>
        cases ex with
        | init device result =>
          cases result with
          | ok target => exact Nat.zero_le 1
          | error cause => simp [Effect.isApart] at ha
        | call target request x result =>
          have hnone : (ofEffects effects).pending = [] := halone.1
          unfold pending at hnone ⊢
          simp only [observe, List.filter_append, hnone, List.nil_append]
          exact List.length_filter_le _ _
        | _ => simp [Effect.isApart] at ha
      | _ => simp [Effect.isApart] at ha

end Attachment

/-- The controller issues nothing before the completion is called: its operation is in flight, or
no operation can be issued. -/
def Controller.Waits (c : Controller) (x : Completion) : Prop :=
  (∃ op, c.inFlight = some op ∧ op.completion = x) ∨ c.liveClass = none ∨
    c.phase.isTerminal = true

namespace Session

variable {δ κ : Type} {s t u : Session δ κ} {q : Request} {x : Completion} {r : Reply}

/-! ## What sets nothing going -/

theorem Adds.apart (h : Adds (·.isApart = true) s t) :
    t.account.attachment.issues = s.account.attachment.issues ∧
      t.account.attachment.target = s.account.attachment.target ∧
      t.account.issued = s.account.issued ∧ t.account.called = s.account.called := by
  obtain ⟨later, he, hl⟩ := h
  rw [account, he, account]
  clear he
  induction later using List.reverseRecOn with
  | nil => simp
  | append_singleton later e ih =>
    obtain ⟨hissues, htarget, hissued, hcalled⟩ := ih fun f hf => hl f (by simp [hf])
    have ha := hl e (by simp)
    obtain ⟨hi, ht⟩ := (Account.ofEffects (s.effects ++ later)).attachment.observe_of_isApart ha
    rw [← List.append_assoc, Account.ofEffects_append_singleton]
    simp only [Account.add, Effect.of_isApart ha, Option.toList_none, List.append_nil]
    exact ⟨hi.trans hissues, ht.trans htarget, hissued, hcalled⟩

theorem apart_noticed (s : Session δ κ) (q : Request) :
    Adds (·.isApart = true) s (s.noticed q) := by
  have htaken : Adds (·.isApart = true) s (s.record (.taken q)) := .record s rfl
  by_cases hb : Bereft s
  · rw [noticed_of_bereft hb]
    exact htaken.trans (.trans (.of_effects_eq rfl) (.fail (fun _ => rfl) (fun _ => rfl) _ _))
  · exact htaken.trans
      (Adds.mono (noticed_of_not_bereft hb q).2 fun _ => Effect.isApart_of_isSilent)

/-- Whatever is pending is waited for. -/
structure Exclusive (s : Session δ κ) : Prop where
  known : ∀ x ∈ s.account.called, x ∈ s.account.issued
  handed : ∀ x r, .completed x r ∈ s.requests → x ∈ s.account.called
  drawn : ∀ d ∈ s.account.attachment.issues, d.completion ∈ s.account.issued
  replied : ∀ d ∈ s.account.attachment.issues, d.completion ∈ s.account.called → d.reply ≠ none
  pending : ∀ d ∈ s.account.attachment.pending, s.controller.Waits d.completion
  bound : ∀ target, s.controller.liveClass = some target →
    s.account.attachment.target = some target
  alone : Throughout Alone s.effects

namespace Exclusive

theorem apart (h : Exclusive s) (ha : Adds (·.isApart = true) s t)
    (hr : ∀ x r, .completed x r ∈ t.requests → .completed x r ∈ s.requests)
    (hl : ∀ target, t.controller.liveClass = some target → s.controller.liveClass = some target)
    (hw : ∀ d ∈ s.account.attachment.pending, s.controller.Waits d.completion →
      t.controller.Waits d.completion) : Exclusive t := by
  obtain ⟨hissues, htarget, hissued, hcalled⟩ := ha.apart
  have hpending : t.account.attachment.pending = s.account.attachment.pending := by
    rw [Attachment.pending, hissues, Attachment.pending]
  refine ⟨?_, ?_, ?_, ?_, ?_, ?_, ?_⟩
  · rw [hissued, hcalled]
    exact h.known
  · intro x r hx
    rw [hcalled]
    exact h.handed x r (hr x r hx)
  · rw [hissues, hissued]
    exact h.drawn
  · rw [hissues, hcalled]
    exact h.replied
  · rw [hpending]
    exact fun d hd => hw d hd (h.pending d hd)
  · intro target ht
    rw [htarget]
    exact h.bound target (hl target ht)
  · obtain ⟨later, he, hlater⟩ := ha
    rw [he]
    exact h.alone.append fun e hm before => alone_of_isApart (hlater e hm) before

theorem fail (h : Exclusive s) (ha : Adds (·.isApart = true) s t)
    (hr : ∀ x r, .completed x r ∈ t.requests → .completed x r ∈ s.requests)
    (hl : t.controller.liveClass = s.controller.liveClass) (cause : UpgradeError) :
    Exclusive (t.fail cause) := by
  refine h.apart (ha.trans (.fail (fun _ => rfl) (fun _ => rfl) t cause)) hr ?_ ?_
  · intro target ht
    simpa [hl] using ht
  · intro d _ _
    exact .inr (.inr (by simp [Phase.isTerminal]))

theorem deliver (h : Exclusive s) (x : Completion) (r : Reply) (hx : 0 < s.account.held x) :
    Exclusive (s.deliver x r) := by
  have hissued := Account.mem_issued_of_held hx
  have hacc : (s.deliver x r).account = s.account.add (.completed x r) := account_deliver x r
  rw [Account.add_completed] at hacc
  refine ⟨?_, ?_, ?_, ?_, ?_, ?_, ?_⟩
  · rw [hacc]
    intro y hy
    rcases List.mem_append.mp hy with hy | hy
    · exact h.known y hy
    · rwa [List.mem_singleton.mp hy]
  · rw [hacc]
    intro y r' hy
    rcases s.requests_deliver x r with hreq | hreq
    · rw [hreq] at hy
      exact List.mem_append_left _ (h.handed y r' hy)
    · rw [hreq] at hy
      rcases List.mem_append.mp hy with hy | hy
      · exact List.mem_append_left _ (h.handed y r' hy)
      · have hxy := List.mem_singleton.mp hy
        rw [Request.completed.injEq] at hxy
        simp [hxy.1]
  · rw [hacc]
    intro d hd
    obtain ⟨e, he, rfl⟩ := List.mem_map.mp hd
    rw [Issue.completion_settle]
    exact h.drawn e he
  · rw [hacc]
    intro d hd hcalled
    obtain ⟨e, he, rfl⟩ := List.mem_map.mp hd
    rw [Issue.completion_settle] at hcalled
    rcases List.mem_append.mp hcalled with hc | hc
    · exact Issue.reply_settle_of_ne x r (h.replied e he hc)
    · exact Issue.reply_settle r (List.mem_singleton.mp hc)
  · rw [hacc, controller_deliver]
    intro d hd
    obtain ⟨hd, hp⟩ := List.mem_filter.mp hd
    obtain ⟨e, he, rfl⟩ := List.mem_map.mp hd
    rw [Issue.completion_settle]
    exact h.pending e (List.mem_filter.mpr ⟨he, Issue.isPending_of_settle hp⟩)
  · rw [hacc, controller_deliver]
    exact h.bound
  · obtain ⟨later, he, hsil⟩ := s.effects_deliver x r
    rw [he]
    refine h.alone.append fun e hm before => ?_
    rcases List.mem_cons.mp hm with rfl | hm
    · trivial
    · exact alone_of_isApart (Effect.isApart_of_isSilent (hsil e hm)) before

theorem deliverAll (h : Exclusive s) (ds : List (Completion × Reply))
    (hh : Honest (s.deliverAll ds).effects) : Exclusive (s.deliverAll ds) :=
  deliverAll_induction (fun _ x r h hx => h.deliver x r hx) ds h hh

/-- Where an operation can be issued, none is pending. -/
theorem pending_eq_nil (h : Exclusive s) (hidle : s.controller.inFlight = none)
    (hlive : s.controller.liveClass ≠ none) (hopen : s.controller.phase.isTerminal = false) :
    s.account.attachment.pending = [] := by
  refine List.eq_nil_iff_forall_not_mem.mpr fun d hd => ?_
  rcases h.pending d hd with ⟨op, hop, -⟩ | hl | hp
  · simp [hidle] at hop
  · exact hlive hl
  · simp [hopen] at hp

theorem handOver (h : Exclusive s) (ht : Tracks none s)
    (hnone : s.account.attachment.pending = []) (hk : s.account.issued.length < 2 ^ 32)
    (drv : Driver δ) {target : ClassHandle} (hlive : s.controller.liveClass = some target)
    (request : ClassCall) (length : Nat) :
    Exclusive (s.handOver drv target request length) := by
  have hfresh := ht.fresh hk request.operation
  have hacc := account_handOver drv (s := s) target request length
  rw [Account.add_call] at hacc
  refine ⟨?_, ?_, ?_, ?_, ?_, ?_, ?_⟩
  · rw [hacc]
    exact fun y hy => List.mem_append_left _ (h.known y hy)
  · rw [hacc, requests_handOver]
    exact h.handed
  · rw [hacc]
    intro d hd
    rcases List.mem_append.mp hd with hd | hd
    · exact List.mem_append_left _ (h.drawn d hd)
    · rw [List.mem_singleton.mp hd]
      exact List.mem_append_right _ (List.mem_singleton_self _)
  · rw [hacc]
    intro d hd hcalled
    rcases List.mem_append.mp hd with hd | hd
    · exact h.replied d hd hcalled
    · -- Its ticket is new, so its completion cannot have been called before.
      rw [List.mem_singleton.mp hd] at hcalled
      exact absurd (h.known _ hcalled) hfresh
  · rw [hacc, controller_handOver]
    intro d hd
    obtain ⟨hd, hp⟩ := List.mem_filter.mp hd
    rcases List.mem_append.mp hd with hd | hd
    · have hmem := List.mem_filter.mpr ⟨hd, hp⟩
      rw [← Attachment.pending, hnone] at hmem
      exact absurd hmem List.not_mem_nil
    · rw [List.mem_singleton.mp hd]
      exact .inl ⟨_, rfl, rfl⟩
  · rw [hacc, controller_handOver]
    exact h.bound
  · have hcall : Alone s.effects (.exchange (.call target request
        ⟨s.controller.nextTicket, request.operation⟩ (s.answerTo drv target request).result)) :=
      ⟨hnone, h.bound target hlive⟩
    rw [effects_handOver, List.append_cons]
    refine (Throughout.append_singleton.mpr ⟨h.alone, hcall⟩).append fun e he =>
      alone_of_isApart ?_
    obtain ⟨n, -, rfl⟩ := List.mem_map.mp he
    rfl

theorem start (h : Exclusive s) (ht : Tracks none s)
    (hnone : s.account.attachment.pending = []) (drv : Driver δ) {target : ClassHandle}
    (hlive : s.controller.liveClass = some target) (request : ClassCall) (length : Nat)
    (hk : s.account.issued.length < 2 ^ 32)
    (hh : Honest (s.start drv target request length).effects) :
    Exclusive (s.start drv target request length) := by
  have hover := h.handOver ht hnone hk drv hlive request length
  rw [start_eq] at hh ⊢
  split
  · rename_i hr
    rw [hr] at hh
    exact hover.deliverAll _ hh
  · rename_i hr
    rw [hr] at hh
    have hf := honest_iff.mp hh
    rw [account_fail, Account.add_watch] at hf
    exact (hover.deliverAll _ hf).fail .refl (fun _ _ => id) rfl _

theorem advance (h : Exclusive s) (p : Phase) : Exclusive (s.advance p) := by
  cases hr : s.channel.refusal? with
  | some reason =>
    rw [advance_of_refusal p hr]
    exact h.fail .refl (fun _ _ => id) rfl _
  | none =>
    rw [advance_of_room p hr]
    refine h.apart (.of_effects_eq rfl) (fun x r hx => ?_) (fun _ => id) (fun _ _ => id)
    rw [requests_post _ hr] at hx
    simpa using hx

theorem initialised (h : Exclusive s) (driver : δ) (device : DeviceHandle)
    (target : ClassHandle) : Exclusive (s.initialised driver device target) := by
  have hacc := s.account_initialised driver device target
  rw [Account.add_init] at hacc
  refine ⟨?_, ?_, ?_, ?_, ?_, ?_, ?_⟩
  · rw [hacc]
    exact h.known
  · rw [hacc]
    exact h.handed
  · rw [hacc]
    exact fun d hd => absurd hd List.not_mem_nil
  · rw [hacc]
    exact fun d hd => absurd hd List.not_mem_nil
  · rw [hacc]
    exact fun d hd => absurd hd List.not_mem_nil
  · rw [hacc]
    exact fun _ => id
  · rw [effects_initialised]
    refine h.alone.append fun e hm before => ?_
    simp only [List.mem_cons, List.not_mem_nil, or_false] at hm
    rcases hm with rfl | rfl <;> trivial

theorem note (h : Exclusive s) (n : Notice) : Exclusive (s.note n) :=
  h.apart (.record s rfl) (fun _ _ => id) (fun _ => id) (fun _ _ => id)

theorem initialise (h : Exclusive s) (drv : Driver δ) (device : DeviceHandle) :
    Exclusive (s.initialise drv device) := by
  rcases initialise_cases drv s device with ⟨u, cause, hu, he⟩ | ⟨driver, target, he⟩
  · rw [he]
    refine h.fail (Adds.mono hu.silently fun _ => Effect.isApart_of_isSilent) ?_ ?_ _
    · rw [hu.requests_eq]
      exact fun _ _ => id
    · rw [hu.controller]
  · rw [he]
    exact (h.initialised driver device target).advance _

/-- From a phase that can be left, the next one waits for the same. -/
theorem setPhase (h : Exclusive s) (hopen : s.controller.phase.isTerminal = false) (p : Phase) :
    Exclusive (s.setPhase p) := by
  refine h.apart (.setPhase (fun _ => rfl) (fun _ => rfl) s p) (fun _ _ => id) ?_ ?_
  · simp
  · intro d _ hw
    rcases hw with hop | hl | hp
    · exact .inl (by simpa using hop)
    · exact .inr (.inl (by simpa using hl))
    · simp [hopen] at hp

theorem settled (h : Exclusive s) {op : InFlight} (hop : s.controller.inFlight = some op)
    (hcalled : op.completion ∈ s.account.called) (x : Completion) (r : Reply) :
    Exclusive (s.settled op x r) := by
  have halike := Controller.conclude_alike s.controller op x.operation r
  refine h.apart (.settled (fun _ => rfl) s op x r) (fun y r' hy => by simpa using hy) ?_ ?_
  · rw [controller_settled, halike.liveClass]
    exact fun _ => id
  · intro d hd hw
    rw [controller_settled]
    rcases hw with ⟨op', hop', hd'⟩ | hl | hp
    · -- The completion in flight was called, so its operation is not pending.
      obtain rfl := Option.some.inj (hop.symm.trans hop')
      obtain ⟨hmem, hpending⟩ := List.mem_filter.mp hd
      have hreply := h.replied d hmem (hd' ▸ hcalled)
      simp [Issue.isPending, hreply] at hpending
    · exact .inr (.inl (by rw [halike.liveClass]; exact hl))
    · exact .inr (.inr (by rw [halike.phase]; exact hp))

/-- As long as the tickets are not used up, a completion that is awaited is that of the operation in
flight. -/
theorem called_of_awaited (h : Exclusive s) {ticket : Option UInt32} (ht : Tracks ticket s)
    (hx : x ∈ s.account.called) (hk : s.account.issued.length < 2 ^ 32) {op : InFlight}
    (ha : s.controller.awaited? x.ticket = some op) :
    s.controller.inFlight = some op ∧ op.completion ∈ s.account.called := by
  obtain ⟨-, hop, htx⟩ := Controller.awaited?_eq_some_iff.mp ha
  obtain ⟨n, hn⟩ := List.mem_iff_getElem?.mp (h.known x hx)
  refine ⟨hop, ?_⟩
  rwa [(ht.eq_of_ticket hop hn (by omega) htx).1]

theorem outcome {drv : Driver δ} (h : Exclusive s) (ht : Tracks q.ticket? s)
    (hq : ∀ x, q.completion? = some x → x ∈ s.account.called)
    (hk : s.account.issued.length < 2 ^ 32) (hh : Honest t.effects)
    (o : Outcome drv s q t) : Exclusive t := by
  cases o with
  | dropped p n _ => exact h.note n
  | released =>
    have hr := s.release_becomes drv
    have ha : Adds (·.isApart = true) s (s.release drv) :=
      Adds.mono hr.silently fun _ => Effect.isApart_of_isSilent
    refine h.apart (ha.trans (.setPhase (fun _ => rfl) (fun _ => rfl) _ _)) ?_ ?_ ?_
    · intro x r hx
      rwa [requests_setPhase, hr.requests_eq] at hx
    · intro target hl
      simp [hr.controller] at hl
    · intro d _ _
      exact .inr (.inl (by simp [hr.controller]))
  | initialised device hphase _ _ =>
    exact (h.setPhase (by rw [hphase]; rfl) .attached).initialise drv device
  | started p target request length hopen hidle hlive ha =>
    obtain ⟨hissues, -, hissued, -⟩ :=
      Adds.apart (.setPhase (fun _ => rfl) (fun _ => rfl) s p)
    have hnone : (s.setPhase p).account.attachment.pending = [] := by
      rw [Attachment.pending, hissues]
      exact h.pending_eq_nil hidle (by simp [hlive]) hopen
    exact (h.setPhase hopen p).start (ht.setPhase hidle p) hnone drv (by simpa using hlive) request
      length (by rwa [hissued]) hh
  | skipped hopen hidle hlive _ => exact (h.setPhase hopen .readBack).advance _
  | finished hopen hidle hlive =>
    have hf := (s.setPhase .complete).finish_becomes drv
    refine (h.setPhase hopen .complete).apart
      (Adds.mono hf.silently fun _ => Effect.isApart_of_isSilent) ?_ ?_ ?_
    · intro x r hx
      rwa [hf.requests_eq] at hx
    · intro target hl
      simp [hf.controller] at hl
    · intro d _ _
      exact .inr (.inl (by simp [hf.controller]))
  | blocked p cause _ _ _ =>
    exact h.fail (.setPhase (fun _ => rfl) (fun _ => rfl) s p) (fun _ _ => id) (by simp) cause
  | reported hopen _ => exact (h.setPhase hopen .error).note _
  | bound b _ =>
    exact (h.note _).apart (.of_effects_eq rfl) (fun _ _ => id) (fun _ => id) (fun _ _ => id)
  | ignored b _ => exact h.note _
  | stale x r hx => exact h.note _
  | advanced x r op p hx _ =>
    obtain ⟨hop, hcalled⟩ := h.called_of_awaited ht (hq x rfl) hk hx
    exact (h.settled hop hcalled x r).advance p
  | failed x r op cause hx _ =>
    obtain ⟨hop, hcalled⟩ := h.called_of_awaited ht (hq x rfl) hk hx
    exact (h.settled hop hcalled x r).fail .refl (fun _ _ => id) rfl cause

theorem beside (h : Exclusive s) (hb : Beside Request.Steering s t) : Exclusive t := by
  refine h.apart (hb.reports.mono fun e he => ?_) (fun x r hx => ?_) ?_ ?_
  · exact Effect.isApart_of_isSilent (Effect.isSilent_of_isReport he)
  · rcases hb.requests with hr | ⟨q, hq, hr⟩
    · rwa [hr] at hx
    · rw [hr] at hx
      rcases List.mem_append.mp hx with hx | hx
      · exact hx
      · rw [← List.mem_singleton.mp hx] at hq
        simp [Request.Steering, Request.completion?] at hq
  · rw [hb.controller]
    exact fun _ => id
  · rw [hb.controller]
    exact fun _ _ => id

theorem dropOldest (h : Exclusive s) (hr : s.requests = q :: s.dropOldest.requests) :
    Exclusive s.dropOldest := by
  refine h.apart (.of_effects_eq rfl) (fun x r hx => ?_) (fun _ => id) (fun _ _ => id)
  rw [hr]
  exact List.mem_cons_of_mem q hx

theorem noticed (h : Exclusive s) (q : Request) : Exclusive (s.noticed q) := by
  by_cases hb : Bereft s
  · rw [noticed_of_bereft hb]
    have htaken : Adds (·.isApart = true) s (s.record (.taken q)) := .record s rfl
    exact h.fail (t := (s.record (.taken q)).forgetLoss) (htaken.trans (.of_effects_eq rfl))
      (fun _ _ => id) rfl _
  · have hu := (noticed_of_not_bereft hb q).1
    refine h.apart (apart_noticed s q) ?_ ?_ ?_
    · intro x r hx
      rwa [requests, hu.channel] at hx
    · rw [hu.controller]
      exact fun _ => id
    · rw [hu.controller]
      exact fun _ _ => id

theorem handle (h : Exclusive s) (ht : Tracks none s)
    (hr : s.requests = q :: s.dropOldest.requests) (hk : s.account.issued.length < 2 ^ 32)
    (drv : Driver δ) (hh : Honest (effects (Session.handle drv s.dropOldest q).1)) :
    Exclusive (Session.handle drv s.dropOldest q).1 := by
  obtain ⟨-, -, hissued, hcalled⟩ := (apart_noticed s.dropOldest q).apart
  refine ((h.dropOldest hr).noticed q).outcome (ht.dropOldest.noticed q) (fun x hx => ?_) ?_ hh
    (outcome_handle drv s.dropOldest q)
  · cases q with
    | completed y r =>
      obtain rfl := Option.some.inj hx
      rw [hcalled]
      exact h.handed y r (by rw [hr]; exact List.mem_cons_self)
    | _ => simp [Request.completion?] at hx
  · rwa [hissued]

end Exclusive

end Session

namespace Installation

variable {δ κ : Type} {drv : Driver δ} {i : Installation δ κ}

theorem exclusive_new (driver : δ) (image : Bytes) (config : Config) :
    (new driver image config : Installation δ κ).session.Exclusive where
  known := fun _ hx => absurd hx List.not_mem_nil
  handed := fun _ _ hx => absurd hx List.not_mem_nil
  drawn := fun _ hd => absurd hd List.not_mem_nil
  replied := fun _ hd => absurd hd List.not_mem_nil
  pending := fun _ hd => absurd hd List.not_mem_nil
  bound := fun _ ht => by cases ht
  alone := .nil

theorem Shared.exclusive {driver : δ} {image : Bytes} {config : Config}
    (h : Shared drv Request.Steering (new driver image config) i)
    (hk : (issued i.effects).length < 2 ^ 32) : i.session.Exclusive := by
  have hkeep : i.session.Tracks none ∧
      (i.session.account.issued.length < 2 ^ 32 → i.session.Exclusive) := by
    refine h.keeps
      (P := fun s => s.Tracks none ∧ (s.account.issued.length < 2 ^ 32 → s.Exclusive))
      (fun _ => id) ⟨tracks_new driver image config, fun _ => exclusive_new driver image config⟩
      ?_ ?_ ?_
    · intro s t hb hs
      refine ⟨hs.1.beside hb, fun hk => (hs.2 ?_).beside hb⟩
      rwa [hb.silently.account_eq] at hk
    · intro s q hr hs hh
      refine ⟨hs.1.dropOldest.handle drv q, fun hk => ?_⟩
      have hk' : s.account.issued.length < 2 ^ 32 :=
        (length_issued_le (Session.grows_handle drv (s := s.dropOldest) q)).trans_lt hk
      exact (hs.2 hk').handle hs.1 hr hk' drv hh
    · intro s x r hs hx
      refine ⟨hs.1.deliver x r, fun hk => (hs.2 ?_).deliver x r hx⟩
      rwa [Session.account_deliver, Account.add_completed] at hk
  exact hkeep.2 hk

/-- In a run of fewer than `2 ^ 32` operations, in which others may send any requests but reports
of completions, at most one accepted operation on the class handle is pending at any time; and an
operation is issued only when none is, on the handle that was initialised last. -/
theorem pending_at_most_one (drv : Driver δ) (driver : δ) (image : Bytes) (config : Config)
    (h : Shared drv Request.Steering (new driver image config) i)
    (hk : (calls i.effects).length < 2 ^ 32) :
    (∀ n, (Attachment.ofEffects (i.effects.take n)).pending.length ≤ 1) ∧
      ∀ n target request x result,
        i.effects[n]? = some (.exchange (.call target request x result)) →
          (Attachment.ofEffects (i.effects.take n)).pending = [] ∧
            (Attachment.ofEffects (i.effects.take n)).target = some target := by
  rw [length_calls] at hk
  have halone := (h.exclusive hk).alone
  constructor
  · intro n
    exact Attachment.length_pending_le_one (halone.take n)
  · intro n target request x result hn
    exact halone n _ hn

def busy : Installation Nat Unit :=
  (blank 7).moves obliging (enumeration ++ [.work, .work, .work])

/-- Another task asks for the next phase meanwhile. -/
def pressed : Installation Nat Unit :=
  (busy.send (.nextPhase .getStatus) none).1.moves obliging [.work]

theorem pressed_pending :
    (∀ n, (Attachment.ofEffects (pressed.effects.take n)).pending.length ≤ 1) ∧
      (Attachment.ofEffects pressed.effects).pending.length = 1 := by
  have hbusy : Shared obliging Request.Steering (blank 7) busy := .of_plays (by decide +kernel)
  have hrun : Shared obliging Request.Steering (blank 7) pressed :=
    (hbusy.send (.nextPhase .getStatus) none rfl).trans (.of_plays (by decide +kernel))
  exact ⟨(pending_at_most_one obliging 0 #[7] .standard hrun (by decide +kernel)).1,
    by decide +kernel⟩

end Installation

end FirmwareUpgrade
