import FirmwareUpgrade.Proofs.Tickets

/-!
# Status replies that report an error

The status of the device is asked for in three phases. In two of them a reply that is too short or
reports an error ends the upgrade, and nothing more is done on the device until it is gone. Behind
the request for detach the reply is not looked at, and the upgrade goes on to its completion.
-/
namespace FirmwareUpgrade

/-- The failure that a status reply amounts to: it has fewer than six bytes, or its status code is
not zero, or the state of the device is `dfuERROR`. -/
inductive StatusFault (data : Bytes) : UpgradeError → Prop
  | short : data.size < 6 → StatusFault data (.responseTooShort data.size 6)
  | bad (code state : UInt8) : 6 ≤ data.size → data[0]? = some code → data[4]? = some state →
    code ≠ 0 ∨ state = 10 → StatusFault data (.status code state)

/-- Whether something is done on the device or its bus. To give a class handle back does not
count. -/
def Effect.acts : Effect → Bool
  | exchange (.deinit ..) => false
  | exchange _ => true
  | _ => false

theorem StatusFault.ne_queueError {data : Bytes} {cause : UpgradeError}
    (h : StatusFault data cause) (reason : QueueError) : cause ≠ .ofQueueError reason := by
  cases h <;> cases reason <;> simp [UpgradeError.ofQueueError]

/-- What failed stays so, whatever was to come behind it. -/
theorem Verdict.andThen_of_error {v : Verdict} {cause : UpgradeError} (h : v.next = .error cause)
    (f : Controller → Verdict) : (v.andThen f).next = .error cause := by
  obtain ⟨c, notices, next⟩ := v
  obtain rfl : next = .error cause := h
  rfl

namespace Controller

variable {c : Controller} {data : Bytes} {cause : UpgradeError}

theorem checkStatus_of_fault (h : StatusFault data cause) (c : Controller) (next : Phase) :
    (c.checkStatus data next).next = .error cause := by
  cases h with
  | short hs =>
    have hl : ¬Status.length ≤ data.size := Nat.not_le.mpr hs
    simp only [checkStatus, Status.decode, dif_neg hl]
    rfl
  | bad code state hs hcode hstate hbad =>
    obtain ⟨_, rfl⟩ := Array.getElem?_eq_some_iff.mp hcode
    obtain ⟨_, rfl⟩ := Array.getElem?_eq_some_iff.mp hstate
    have hl : Status.length ≤ data.size := hs
    have hnot : ¬(data[0] = Status.okCode ∧ data[4] ≠ Status.dfuError) := by
      rintro ⟨hc, hd⟩
      exact hbad.elim (fun h => h hc) hd
    simp only [checkStatus, Status.decode, dif_pos hl, Status.check, if_neg hnot]
    rfl

theorem operation?_eq_getStatus {p : Phase} (h : p.operation? = some .getStatus) :
    p = .getStatus ∨ p = .getStatusRead ∨ p = .checkStatus := by
  cases p <;> simp_all [Phase.operation?]

theorem conclude_of_fault (h : StatusFault data cause) (op : InFlight) (operation : Operation)
    (hp : c.phase = .getStatus ∨ c.phase = .getStatusRead) :
    (c.conclude op operation (.ok data)).next = .error cause := by
  simp only [conclude, succeed]
  rcases hp with hp | hp
  · simp only [hp]
    exact checkStatus_of_fault h _ _
  · simp only [hp]
    split
    · exact Verdict.andThen_of_error (checkStatus_of_fault h _ _) _
    · exact checkStatus_of_fault h _ _

/-- The check behind the request for detach does not look at the reply. -/
theorem conclude_checkStatus (hp : c.phase = .checkStatus) (op : InFlight) (operation : Operation)
    (data : Bytes) :
    c.conclude op operation (.ok data) = ⟨{ c with inFlight := none }, [], .ok .complete⟩ := by
  simp only [conclude, succeed, hp]

end Controller

namespace Session

variable {δ κ : Type} {s t u : Session δ κ}

/-! ## Sessions in which nothing is done -/

/-- The second session came from the first with nothing done on the device. -/
abbrev Passively (s t : Session δ κ) : Prop := Adds (·.acts = false) s t

namespace Passively

theorem of_reports (h : Adds (·.isReport = true) s t) : Passively s t := by
  refine h.mono fun e he => ?_
  cases e with
  | exchange => simp [Effect.isReport] at he
  | _ => rfl

/-- When the device is gone, only its class handle is given back. -/
theorem release (drv : Driver δ) (s : Session δ κ) : Passively s (s.release drv) := by
  have hreturn : Passively s (s.returnClass drv .deinitAfterDetach) := by
    unfold returnClass
    dsimp only
    split
    · rename_i target device _ _
      have hx : Passively s ((s.modify ({ · with liveClass := none })).exchange
          (drv.deinit · device target) (.deinit device target ·) fun _ => []).1 := by
        rw [exchange_eq]
        exact ⟨[.exchange (.deinit device target (drv.deinit s.state.driver device target).2)],
          by simp, by simp [Effect.acts]⟩
      split
      · rename_i he
        rwa [he] at hx
      · rename_i he
        rw [he] at hx
        exact hx.trans (.record _ rfl)
    · exact .of_effects_eq rfl
  have hnote : Passively (s.returnClass drv .deinitAfterDetach)
      (s.returnClass drv .deinitAfterDetach).noteInFlight := by
    unfold noteInFlight
    split
    · exact .record _ rfl
    · exact .refl
  exact (hreturn.trans hnote).trans (.of_effects_eq rfl)

theorem noticed (h : ¬Bereft s) (q : Request) : Passively s (s.noticed q) := by
  obtain ⟨hu, hs⟩ := noticed_of_not_bereft h q
  obtain ⟨later, he⟩ := (grows_record (.taken q)).trans hs.grows
  have hp := hu.primitives
  rw [← he, List.filterMap_append, List.append_right_eq_self, List.filterMap_eq_nil_iff] at hp
  refine ⟨later, he.symm, fun e hm => ?_⟩
  have hnone := hp e hm
  cases e with
  | exchange => simp [Effect.primitive?] at hnone
  | _ => rfl

end Passively

/-- Since effect number `b` nothing was done on the device before it was gone. If it is not gone,
the upgrade has failed. -/
structure Halted (b : Nat) (s : Session δ κ) : Prop where
  reached : b ≤ s.effects.length
  passive : Throughout (fun before e => e.acts = true → .watch .unattached ∈ before)
    (s.effects.drop b)
  stopped : .watch .unattached ∈ s.effects.drop b ∨
    s.controller.phase = .error ∧ s.controller.inFlight = none

namespace Halted

variable {b : Nat} {q : Request} {drv : Driver δ}

theorem of_passively (hp : Passively s t) (hphase : t.controller.phase = .error)
    (hidle : t.controller.inFlight = none) : Halted s.effects.length t := by
  obtain ⟨later, he, hl⟩ := hp
  refine ⟨by simp [he], ?_, .inr ⟨hphase, hidle⟩⟩
  rw [he, List.drop_left, ← List.nil_append later]
  exact Throughout.nil.append fun e hm before ha => by simp [hl e hm] at ha

/-- Once the device is gone, anything may follow. -/
theorem of_gone (h : Halted b s) (hgone : .watch .unattached ∈ s.effects.drop b)
    (hg : s.effects <+: t.effects) : Halted b t := by
  obtain ⟨later, he⟩ := hg
  have hd : t.effects.drop b = s.effects.drop b ++ later := by
    rw [← he, List.drop_append_of_le_length h.reached]
  refine ⟨?_, ?_, .inl ?_⟩
  · rw [← he, List.length_append]
    exact h.reached.trans (Nat.le_add_right _ _)
  · rw [hd]
    exact h.passive.append_of_prefix fun e _ before hb _ => hb.subset hgone
  · rw [hd]
    exact List.mem_append_left _ hgone

theorem passively (h : Halted b s) (hp : Passively s t)
    (hs : t.controller.phase = .error ∧ t.controller.inFlight = none ∨
      .watch .unattached ∈ t.effects.drop b) : Halted b t := by
  obtain ⟨later, he, hl⟩ := hp
  refine ⟨?_, ?_, hs.symm⟩
  · rw [he, List.length_append]
    exact h.reached.trans (Nat.le_add_right _ _)
  · rw [he, List.drop_append_of_le_length h.reached]
    exact h.passive.append fun e hm before ha => by simp [hl e hm] at ha

theorem aside (h : Halted b s) (hp : Passively s t) (hc : t.controller = s.controller) :
    Halted b t := by
  rcases h.stopped with hgone | herror
  · obtain ⟨later, he, -⟩ := hp
    exact h.of_gone hgone ⟨later, he.symm⟩
  · exact h.passively hp (.inl (by rwa [hc]))

theorem outcome (h : Halted b s) (hphase : s.controller.phase = .error)
    (hidle : s.controller.inFlight = none) (o : Outcome drv s q t) : Halted b t := by
  rcases o.of_failed hphase hidle with ⟨-, n, rfl⟩ | ⟨-, rfl⟩
  · exact h.aside (.record s rfl) rfl
  · refine h.passively ((Passively.release drv s).trans
      (.setPhase (fun _ => rfl) (fun _ => rfl) _ _)) (.inr ?_)
    have hreached : b ≤ (s.release drv).effects.length :=
      h.reached.trans (s.release_becomes drv).silently.grows.length_le
    rw [effects_setPhase, List.drop_append_of_le_length hreached]
    simp

theorem handle (h : Halted b s) (drv : Driver δ) (q : Request) :
    Halted b (Session.handle drv s q).1 := by
  rcases h.stopped with hgone | ⟨hphase, hidle⟩
  · exact h.of_gone hgone (grows_handle drv q)
  · have hb := not_bereft_of_idle hidle
    have hp := Passively.noticed hb q
    have hu := (noticed_of_not_bereft hb q).1
    have hphase' : (s.noticed q).controller.phase = .error := by rw [hu.controller, hphase]
    have hidle' : (s.noticed q).controller.inFlight = none := by rw [hu.controller, hidle]
    exact (h.passively hp (.inl ⟨hphase', hidle'⟩)).outcome hphase' hidle'
      (outcome_handle drv s q)

end Halted

/-! ## The handling of a bad status reply -/

section
variable {op : InFlight} {x : Completion} {data : Bytes} {cause : UpgradeError}

/-- Outside of the check behind the request for detach, the reply ends the upgrade. -/
theorem complete_of_fault (h : Tracks none s) (hop : s.controller.inFlight = some op)
    (hget : op.operation = .getStatus) (hx : x.ticket = op.ticket) (hf : StatusFault data cause)
    (hb : ¬Bereft s) (hp : s.controller.phase ≠ .checkStatus) :
    (s.noticed (.completed x (.ok data))).complete x (.ok data) =
      ((s.noticed (.completed x (.ok data))).settled op x (.ok data)).fail cause := by
  have hc := (noticed_of_not_bereft hb (.completed x (.ok data))).1.controller
  have hphase := Controller.operation?_eq_getStatus (hget ▸ h.purpose op hop)
  refine complete_of_error ?_ (Controller.conclude_of_fault hf op x.operation ?_)
  · rw [hc]
    exact Controller.awaited?_eq_some_iff.mpr ⟨h.live op hop, hop, hx.symm⟩
  · rw [hc]
    exact hphase.imp_right fun h => h.resolve_right hp

/-- A failure noticed before, or a queue that refuses the next phase, has another cause. -/
theorem complete_of_unchecked (h : Tracks none s) (hop : s.controller.inFlight = some op)
    (hx : x.ticket = op.ticket) (hf : StatusFault data cause)
    (hp : s.controller.phase = .checkStatus ∨ Bereft s) :
    ((s.noticed (.completed x (.ok data))).complete x (.ok data)).controller.phase = .error →
      ((s.noticed (.completed x (.ok data))).complete x (.ok data)).controller.lastError ≠
        some cause := by
  intro hphase
  by_cases hb : Bereft s
  · have hstale := Controller.awaited?_of_idle (idle_noticed hb (.completed x (.ok data))) x.ticket
    rw [(untouched_complete hstale).controller, noticed_of_bereft hb, controller_fail,
      Controller.lastError_enter, Controller.lastError_recordFailure]
    exact fun he => hf.ne_queueError .full (Option.some.inj he).symm
  · have hc := (noticed_of_not_bereft hb (.completed x (.ok data))).1.controller
    have hcheck := hp.resolve_right hb
    have hx' : (s.noticed (.completed x (.ok data))).controller.awaited? x.ticket = some op := by
      rw [hc]
      exact Controller.awaited?_eq_some_iff.mpr ⟨h.live op hop, hop, hx.symm⟩
    have hv := Controller.conclude_checkStatus (hc ▸ hcheck) op x.operation data
    rw [complete_of_ok hx' (by rw [hv])] at hphase ⊢
    cases hr : (settled (s.noticed (.completed x (.ok data))) op x (.ok data)).channel.refusal? with
    | none =>
      rw [advance_of_room _ hr, controller_post, controller_settled, hv] at hphase
      simp [hc, hcheck] at hphase
    | some reason =>
      rw [advance_of_refusal _ hr, controller_fail, Controller.lastError_enter,
        Controller.lastError_recordFailure]
      exact fun he => hf.ne_queueError reason (Option.some.inj he).symm

end

end Session

namespace Installation

variable {δ κ : Type} {drv : Driver δ} {allowed : Request → Prop} {i j : Installation δ κ} {b : Nat}

theorem Shared.halted (h : Shared drv allowed i j) (hi : i.session.Halted b) :
    j.session.Halted b := by
  have hall : Shared drv (fun _ => True) i j := h.mono fun _ _ => trivial
  refine hall.keeps (fun _ _ => trivial) hi ?_ ?_ ?_
  · intro s t hbeside hs
    exact hs.aside (.of_reports hbeside.reports) hbeside.controller
  · intro s q _ hs _
    exact (hs.aside (.of_effects_eq rfl) rfl : s.dropOldest.Halted b).handle drv q
  · intro s x r hs _
    exact hs.aside (.deliver (fun _ => rfl) s rfl) (Session.controller_deliver x r)

/-- In a run in which others may send any requests, let a request for the status be in flight and a
reply to it next in the queue that is too short or reports an error. Its handling ends the upgrade
with that cause of failure, and nothing more is done on the device until it is gone, exactly if the
request was not made in the check behind the request for detach and its loss is not recorded. -/
theorem bad_status_ends_iff (drv : Driver δ) (driver : δ) (image : Bytes) (config : Config)
    (h : Shared drv (fun _ => True) (new driver image config) i) {op : InFlight} {x : Completion}
    {data : Bytes} {rest : List Request} {cause : UpgradeError}
    (hop : i.controller.inFlight = some op) (hget : op.operation = .getStatus)
    (hreq : i.session.requests = .completed x (.ok data) :: rest) (hx : x.ticket = op.ticket)
    (hf : StatusFault data cause) :
    ((i.move drv .work).controller.phase = .error ∧
        (i.move drv .work).controller.lastError = some cause ∧
        ∀ j, Shared drv (fun _ => True) (i.move drv .work) j →
          Throughout (fun before e => e.acts = true → .watch .unattached ∈ before)
            (j.effects.drop i.effects.length)) ↔
      i.controller.phase ≠ .checkStatus ∧ ¬i.session.Bereft := by
  have ht : i.session.dropOldest.Tracks none := h.tracks.dropOldest
  have hwork : (i.move drv .work).session =
      (i.session.dropOldest.noticed (.completed x (.ok data))).complete x (.ok data) :=
    (session_work_of_requests drv hreq).1
  have hcontroller : (i.move drv .work).controller =
      ((i.session.dropOldest.noticed (.completed x (.ok data))).complete x (.ok data)).controller :=
    congrArg Session.controller hwork
  constructor
  · rintro ⟨hphase, hcause, -⟩
    by_contra hno
    have hp : i.controller.phase = .checkStatus ∨ i.session.Bereft := by
      by_contra hne
      exact hno ⟨fun hp => hne (.inl hp), fun hb => hne (.inr hb)⟩
    rw [hcontroller] at hphase hcause
    exact Session.complete_of_unchecked ht hop hx hf hp hphase hcause
  · rintro ⟨hp, hb⟩
    rw [Session.complete_of_fault ht hop hget hx hf hb hp] at hwork hcontroller
    have hhalted : (i.move drv .work).session.Halted i.effects.length := by
      rw [hwork]
      have hnoticed := Session.Passively.noticed (s := i.session.dropOldest) hb
        (.completed x (.ok data))
      have hfail := (hnoticed.trans (.settled (fun _ => rfl) _ op x (.ok data))).trans
        (.fail (fun _ => rfl) (fun _ => rfl) _ cause)
      exact .of_passively hfail (by simp) (by simp)
    refine ⟨?_, ?_, fun j hj => (hj.halted hhalted).passive⟩
    · simp [hcontroller]
    · simp [hcontroller]

/-- The first status reply reports that the verification of the image failed. -/
def badReply : Installation Nat Unit :=
  (blank 7).moves obliging <|
    [enumeration, [.work, .work, .work], fulfil 0 .setInterface #[],
      [.complete ⟨1, .getStatus⟩ (.ok #[7, 0, 0, 0, 10, 0])]].flatten

theorem badReply_ends :
    (badReply.move obliging .work).controller.phase = .error ∧
      (badReply.move obliging .work).controller.lastError = some (.status 7 10) := by
  have hreq : badReply.session.requests =
      [.completed ⟨1, .getStatus⟩ (.ok #[7, 0, 0, 0, 10, 0])] := by decide +kernel
  have hop : badReply.controller.inFlight = some ⟨1, .getStatus, 0⟩ := by decide +kernel
  have hend := (bad_status_ends_iff (i := badReply) obliging 0 #[7] .standard
    (.of_plays (by decide +kernel)) hop rfl hreq rfl
    (.bad 7 10 (by decide) rfl rfl (.inl (by decide)))).mpr
      ⟨by decide +kernel, fun ⟨_, _, hlost⟩ => absurd hlost (by
        rw [show badReply.session.state.lost = none by decide +kernel]; simp)⟩
  exact ⟨hend.1, hend.2.1⟩

/-- The check behind the request for detach, with a reply that reports an error. -/
def badReplyAfterDetach : Installation Nat Unit :=
  (new 0 #[7] { Config.standard with checkStatusAfterDetach := true } : Installation Nat Unit).moves
    obliging (ordinary 7 ++ [.complete ⟨8, .getStatus⟩ (.ok #[7, 0, 0, 0, 10, 0])])

/-- The reply is taken for a good one: the bus is reset and the upgrade complete. -/
theorem exists_bad_status_completes :
    Shared obliging (fun _ => True)
        (new 0 #[7] { Config.standard with checkStatusAfterDetach := true }) badReplyAfterDetach ∧
      badReplyAfterDetach.controller.inFlight = some ⟨8, .getStatus, 0⟩ ∧
      badReplyAfterDetach.session.requests =
        [.completed ⟨8, .getStatus⟩ (.ok #[7, 0, 0, 0, 10, 0])] ∧
      StatusFault #[7, 0, 0, 0, 10, 0] (.status 7 10) ∧
      (badReplyAfterDetach.moves obliging [.work, .work]).controller.phase = .complete ∧
      (badReplyAfterDetach.moves obliging [.work, .work]).controller.lastError = none ∧
      .busReset Accelerator.host ∈
        (badReplyAfterDetach.moves obliging [.work, .work]).effects.filterMap Effect.primitive? :=
  ⟨.of_plays (by decide +kernel), by decide +kernel, by decide +kernel,
    .bad 7 10 (by decide) rfl rfl (.inl (by decide)), by decide +kernel, by decide +kernel,
    by decide +kernel⟩

end Installation

end FirmwareUpgrade
