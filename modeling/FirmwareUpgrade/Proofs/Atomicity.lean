import FirmwareUpgrade.Proofs.Interleaving

/-!
# Calls are all or nothing

A call is refused, and then nothing was done, or it is accepted, and then its completion is called once,
with the result of what its job did. `Discharge` lists the ways in which an accepted call can go, from
its first action on the device to its completion. A selection puts its claim in place last of all, so
that it leaves the claim of the link alone wherever it fails.

Whatever the calls of a run, the device and the order of the jobs, what a thread has done so far is the
beginning of such a list (`Stands`). Nothing is assumed but that the actions end.
-/
namespace FirmwareUpgrade

/-- An action that would have succeeded like this failed like that, for this reason. -/
inductive BusEvent.Fails : BusEvent → BusEvent → UsbError → Prop
  | claim (interface : UInt8) : Fails (.claim interface true) (.claim interface false) .io
  | alternate (setting : UInt8) : Fails (.alternate setting true) (.alternate setting false) .io
  | sent (request : UInt8) (value index : UInt16) (data : Bytes) (cause : TransferError) :
    Fails (.sent request value index data (.ok ())) (.sent request value index data (.error cause))
      cause.toUsbError
  | asked (request : UInt8) (value index length : UInt16) (data : Bytes) (cause : TransferError) :
    Fails (.asked request value index length (.ok data))
      (.asked request value index length (.error cause)) cause.toUsbError
  /-- What came back is no status. -/
  | unreadable (interface : UInt8) (data : Bytes) {other : Bytes} {cause : UpgradeError} :
    Status.decode other = .error cause →
    Fails (.reported interface data) (.reported interface other) .io

/-- The interface and the setting that a call selects. -/
def ClassCall.selection? : ClassCall → Option (UInt8 × UInt8)
  | .setInterface handle setting => some (UInt8.ofNat handle.value, setting)
  | _ => none

theorem ClassCall.selection?_of_control? {request : ClassCall} {interface : UInt8}
    {r : ControlRequest × Bytes} (h : request.control? interface = some r) :
    request.selection? = none := by
  cases request with
  | setInterface => cases h
  | _ => rfl

/-- The numbers of the call fit where they go on the wire. -/
def ClassCall.Fits : ClassCall → Prop
  | .setInterface handle _ => handle.value < 256
  | .dnload _ data => data.size < 65536
  | _ => True

/-- The call is on the live handle and, unless it selects an interface, there is one claimed. -/
structure Commission.Admissible {α : Type} (x : Commission) (l : Link α) : Prop where
  live : l.liveClass = some x.target
  fits : x.request.Fits
  claimed : x.request.selection? = none → l.claimed.isSome

/-- A call gets its job if it is admissible. Otherwise it is refused, but not for want of a thread. -/
theorem Commission.work_cases {α : Type} (x : Commission) (l : Link α) :
    (x.Admissible l ∧ ∃ work, l.work x.target x.request = .ok work) ∨
      (¬x.Admissible l ∧ ∃ cause, l.work x.target x.request = .error cause ∧ cause ≠ .busy) := by
  obtain ⟨number, target, request⟩ := x
  by_cases hlive : l.liveClass = some target
  · by_cases hfits : request.Fits
    · cases hclaimed : l.claimed with
      | some c =>
        refine .inl ⟨⟨hlive, hfits, fun _ => by simp [hclaimed]⟩, ?_⟩
        cases request <;> simp_all [Link.work, ClassCall.Fits]
      | none =>
        cases request with
        | setInterface handle setting =>
          refine .inl ⟨⟨hlive, hfits, fun h => ?_⟩, by simp_all [Link.work, ClassCall.Fits]⟩
          cases h
        | _ =>
          refine .inr ⟨fun h => by simpa [hclaimed] using h.claimed rfl, ?_⟩
          simp_all [Link.work, ClassCall.Fits]
    · refine .inr ⟨fun h => hfits h.fits, ?_⟩
      cases request with
      | setInterface handle setting => exact ⟨.invalidHandle, if_neg fun h => hfits h.2, by decide⟩
      | dnload block data => exact ⟨.notSupported, if_neg hfits, by decide⟩
      | _ => exact absurd trivial hfits
  · refine .inr ⟨fun h => hlive h.live, ?_⟩
    cases request with
    | dnload block data =>
      simp only [Link.work, hlive, if_false]
      split <;> exact ⟨_, rfl, by decide⟩
    | _ => simp [Link.work, hlive]

/-- The completion of a call is called. -/
def Happening.completes (x : Commission) : Happening → Bool
  | completed y _ => y == x
  | _ => false

/-- The next action never ends. -/
def Link.Hangs {α : Type} (l : Link α) : JobStage → Prop
  | .claim interface _ => (l.wire.claim interface).2 = .error .hangs
  | .alternate _ setting => (l.wire.alternate setting).2 = .error .hangs
  | _ => False

/-! ## Selections -/

namespace JobStage

/-- The actions with which a selection has come to a stage. -/
inductive Reached (interface setting : UInt8) : List BusEvent → JobStage → Prop
  | claim : Reached interface setting [] (.claim interface setting)
  | alternate {c : Claim} : c.interface = interface →
    Reached interface setting [.claim interface true] (.alternate c setting)
  | status {c : Claim} : c.interface = interface →
    Reached interface setting [.claim interface true, .alternate setting true] (.status c false)
  | clearError {c : Claim} {data : Bytes} {s : Status} : c.interface = interface →
    Status.decode data = .ok s → s.code ≠ 0 →
    Reached interface setting
      [.claim interface true, .alternate setting true, .reported interface data] (.clearError c)
  | again {c : Claim} {data : Bytes} {s : Status} : c.interface = interface →
    Status.decode data = .ok s → s.code ≠ 0 →
    Reached interface setting
      [.claim interface true, .alternate setting true, .reported interface data,
        .sent clearStatusCode 0 interface.toUInt16 #[] (.ok ())] (.status c true)
  | abort {c : Claim} {data : Bytes} {s s' : Status} {clearing : List BusEvent} :
    c.interface = interface → Status.decode data = .ok s → Clears interface s clearing s' →
    s'.state ≠ Status.dfuIdle →
    Reached interface setting
      (.claim interface true :: .alternate setting true :: .reported interface data :: clearing)
      (.abort c)
  | store {c : Claim} {actions : List BusEvent} : c.interface = interface →
    Selects interface setting actions → Reached interface setting actions (.store c)

/-- The status of a device that is idle. -/
def idleReply : Bytes := #[0, 0, 0, 0, Status.dfuIdle, 0]

/-- How the next action comes out if all is well. -/
def wanted? : JobStage → Option BusEvent
  | claim interface _ => some (.claim interface true)
  | alternate _ setting => some (.alternate setting true)
  | status c _ => some (.reported c.interface idleReply)
  | clearError c => some (.sent clearStatusCode 0 c.interface.toUInt16 #[] (.ok ()))
  | abort c => some (.sent abortCode 0 c.interface.toUInt16 #[] (.ok ()))
  | _ => none

theorem decode_idleReply : Status.decode idleReply = .ok (Status.ofCode 0 Status.dfuIdle) := rfl

section
variable {interface setting : UInt8} {actions : List BusEvent} {p q : JobStage} {e w : BusEvent}

/-- Settling may end here, the device being idle. -/
theorem settles_idle {data : Bytes} {s s' : Status} {clearing : List BusEvent}
    (h : Status.decode data = .ok s) (hc : Clears interface s clearing s')
    (hidle : s'.state = Status.dfuIdle) : Settles interface (.reported interface data :: clearing) := by
  have hsettles := Settles.settled h hc
  rwa [if_pos hidle, List.append_nil] at hsettles

theorem settles_abort {data : Bytes} {s s' : Status} {clearing : List BusEvent}
    (h : Status.decode data = .ok s) (hc : Clears interface s clearing s')
    (hidle : s'.state ≠ Status.dfuIdle) :
    Settles interface (.reported interface data :: clearing ++
      [.sent abortCode 0 interface.toUInt16 #[] (.ok ())]) := by
  have hsettles := Settles.settled h hc
  rwa [if_neg hidle] at hsettles

/-- From every stage a selection may still succeed. -/
theorem Reached.extends (h : Reached interface setting actions p) (hw : p.wanted? = some w) :
    ∃ rest, Selects interface setting (actions ++ w :: rest) := by
  have hidle : Settles interface [.reported interface idleReply] :=
    settles_idle decode_idleReply (.good rfl) rfl
  cases h with
  | claim =>
    obtain rfl := Option.some.inj hw
    exact ⟨_, .selected hidle⟩
  | alternate =>
    obtain rfl := Option.some.inj hw
    exact ⟨_, .selected hidle⟩
  | status hc =>
    obtain rfl := Option.some.inj hw
    exact ⟨[], .selected (hc ▸ hidle)⟩
  | clearError hc hdecode hcode =>
    obtain rfl := Option.some.inj hw
    subst hc
    exact ⟨_, .selected (settles_idle hdecode (.bad hcode decode_idleReply) rfl)⟩
  | again hc hdecode hcode =>
    obtain rfl := Option.some.inj hw
    subst hc
    exact ⟨[], .selected (settles_idle hdecode (.bad hcode decode_idleReply) rfl)⟩
  | abort hc hdecode hclears hbusy =>
    obtain rfl := Option.some.inj hw
    subst hc
    exact ⟨[], .selected (settles_abort hdecode hclears hbusy)⟩
  | store => cases hw

/-- Once the error is cleared, or where there is none, the status says how to go on. -/
theorem reached_afterStatus {c : Claim} {cleared : Bool} {data : Bytes} {s s' : Status}
    {clearing : List BusEvent} (h : Status.decode data = .ok s)
    (hc : Clears c.interface s clearing s') (hgood : s'.code = 0 ∨ cleared = true) :
    Reached c.interface setting
      (.claim c.interface true :: .alternate setting true :: .reported c.interface data :: clearing)
      (.afterStatus c cleared s') := by
  rw [afterStatus, if_pos hgood]
  split
  · rename_i hidle
    exact .store rfl (.selected (settles_idle h hc hidle))
  · rename_i hbusy
    exact .abort rfl h hc hbusy

theorem transfers_getStatus {data : Bytes} {reply : Reply}
    (h : (ControlRequest.getStatus interface).Transfers data e reply) :
    (∃ d s, e = .reported interface d ∧ Status.decode d = .ok s ∧
        (reply.bind fun d => (Status.decode d).mapError fun _ => UsbError.io) = .ok s) ∨
      ∃ cause, (BusEvent.reported interface idleReply).Fails e cause ∧
        (reply.bind fun d => (Status.decode d).mapError fun _ => UsbError.io) = .error cause := by
  cases h with
  | sent _ hr => cases hr
  | asked result =>
    cases result with
    | error cause => exact .inr ⟨_, .asked .., rfl⟩
    | ok d =>
      cases hd : Status.decode d with
      | ok s => exact .inl ⟨d, s, rfl, hd, mapError_eq_ok_iff.mpr hd⟩
      | error cause => exact .inr ⟨.io, .unreadable _ _ hd, by simp [Except.mapError, Except.bind, hd]⟩

theorem transfers_out {r : ControlRequest} {data : Bytes} {reply : Reply} (hr : r.direction = .out)
    (h : r.Transfers data e reply) :
    (e = .sent r.request r.value r.index data (.ok ()) ∧ reply = .ok #[]) ∨
      ∃ cause, (BusEvent.sent r.request r.value r.index data (.ok ())).Fails e cause ∧
        reply = .error cause := by
  cases h with
  | sent result _ =>
    cases result with
    | ok => exact .inl ⟨rfl, rfl⟩
    | error cause => exact .inr ⟨_, .sent .., rfl⟩
  | asked _ hin =>
    rw [hr] at hin
    cases hin

/-- An action leads a selection on, or it fails and the selection is given up. -/
theorem Reached.moves (h : Reached interface setting actions p) (hm : p.Moves e q) :
    Reached interface setting (actions ++ [e]) q ∨
      (actions = [] ∧ e = .claim interface false ∧ q = .complete (.error .io)) ∨
      (actions ≠ [] ∧ ∃ w cause c, p.wanted? = some w ∧ w.Fails e cause ∧
        q = .release c (.error cause)) := by
  cases h with
  | claim =>
    cases hm with
    | claimed c => exact .inl (.alternate rfl)
    | unclaimed => exact .inr (.inl ⟨rfl, rfl, rfl⟩)
  | alternate hc =>
    cases hm with
    | selected => exact .inl (.status hc)
    | unselected => exact .inr (.inr ⟨by simp, _, _, _, rfl, .alternate _, rfl⟩)
  | @status c hc =>
    cases hm with
    | status _ htransfers =>
      subst hc
      rcases transfers_getStatus htransfers with ⟨d, s, rfl, hd, hs⟩ | ⟨cause, hfails, hs⟩ <;> rw [hs]
      · left
        by_cases hcode : s.code = 0
        · exact reached_afterStatus hd (.good hcode) (.inl hcode)
        · rw [orRelease, afterStatus, if_neg (by simp [hcode])]
          exact .clearError rfl hd hcode
      · exact .inr (.inr ⟨by simp, _, cause, c, rfl, hfails, rfl⟩)
  | clearError hc hdecode hcode =>
    cases hm with
    | clearError htransfers =>
      subst hc
      rcases transfers_out rfl htransfers with ⟨rfl, rfl⟩ | ⟨cause, hfails, rfl⟩
      · exact .inl (.again rfl hdecode hcode)
      · exact .inr (.inr ⟨by simp, _, cause, _, rfl, hfails, rfl⟩)
  | @again c data _ hc hdecode hcode =>
    cases hm with
    | status _ htransfers =>
      subst hc
      rcases transfers_getStatus htransfers with ⟨d, s, rfl, hd, hs⟩ | ⟨cause, hfails, hs⟩ <;> rw [hs]
      · exact .inl (reached_afterStatus hdecode (.bad hcode hd) (.inr rfl))
      · exact .inr (.inr ⟨by simp, _, cause, c, rfl, hfails, rfl⟩)
  | abort hc hdecode hclears hbusy =>
    cases hm with
    | abort htransfers =>
      subst hc
      rcases transfers_out rfl htransfers with ⟨rfl, rfl⟩ | ⟨cause, hfails, rfl⟩
      · exact .inl (.store rfl (.selected (settles_abort hdecode hclears hbusy)))
      · exact .inr (.inr ⟨by simp, _, cause, _, rfl, hfails, rfl⟩)
  | store => cases hm

end

end JobStage

namespace Threaded

variable {x : Commission} {claim : Option Claim} {es : List Happening} {e : Happening}
  {p : JobStage} {ps ps' : List JobStage} {s s' : Threaded Commission}

/-! ## One call -/

/-- All that happens in the thread of a call that was accepted while the link had this claim. -/
inductive Discharge (x : Commission) (claim : Option Claim) : List Happening → Prop
  /-- The one transfer of the operation, with its result. -/
  | transferred {c : Claim} {r : ControlRequest} {data : Bytes} {e : BusEvent} {reply : Reply} :
    claim = some c → x.request.control? c.interface = some (r, data) → r.Transfers data e reply →
    Discharge x claim [.acted x e, .released x, .completed x reply]
  | selected {c : Claim} {setting : UInt8} {actions : List BusEvent} :
    x.request.selection? = some (c.interface, setting) → Selects c.interface setting actions →
    Discharge x claim (actions.map (.acted x) ++ [.stored x c, .completed x (.ok #[])])
  /-- The interface could not be claimed. -/
  | unclaimed {interface setting : UInt8} :
    x.request.selection? = some (interface, setting) →
    Discharge x claim [.acted x (.claim interface false), .completed x (.error .io)]
  /-- The actions are those of a selection up to one that failed. -/
  | unselected {interface setting : UInt8} {good rest : List BusEvent} {wanted failed : BusEvent}
    {cause : UsbError} :
    x.request.selection? = some (interface, setting) → good ≠ [] →
    Selects interface setting (good ++ wanted :: rest) → wanted.Fails failed cause →
    Discharge x claim
      ((good ++ [failed]).map (.acted x) ++ [.released x, .completed x (.error cause)])

/-- What happened in the thread of a call. -/
def own (x : Commission) (es : List Happening) : List Happening :=
  es.filter (·.worker? == some x)

/-- What is left of one call among all on their way. -/
def leftOf (x : Commission) (ps : List (Commission × JobStage)) : List JobStage :=
  ps.filterMap fun (y, p) => if y = x then some p else none

/-- What is left of a call: one stage while it is on its way, and nothing otherwise. -/
def remaining (x : Commission) (s : Threaded Commission) : List JobStage := leftOf x s.stages

/-- What happened so far in the thread of a call that has come to a stage. -/
inductive Underway (x : Commission) (claim : Option Claim) : List Happening → JobStage → Prop
  | transferring {c : Claim} {r : ControlRequest} {data : Bytes} :
    claim = some c → x.request.control? c.interface = some (r, data) →
    Underway x claim [] (.transfer c r data)
  | selecting {interface setting : UInt8} {actions : List BusEvent} {p : JobStage} :
    x.request.selection? = some (interface, setting) → JobStage.Reached interface setting actions p →
    Underway x claim (actions.map (.acted x)) p
  | releasing {es : List Happening} {c : Claim} {reply : Reply} :
    Discharge x claim (es ++ [.released x, .completed x reply]) → Underway x claim es (.release c reply)
  | completing {es : List Happening} {reply : Reply} :
    Discharge x claim (es ++ [.completed x reply]) → Underway x claim es (.complete reply)

theorem underway_start {work : Work} (h : work.Serves claim x.request) :
    Underway x claim [] (.start work) := by
  obtain ⟨number, target, request⟩ := x
  cases h with
  | @select handle setting =>
    have hreached : JobStage.Reached (UInt8.ofNat handle.value) setting [] _ := .claim
    exact .selecting rfl hreached
  | transfer hclaim hcontrol => exact .transferring hclaim hcontrol

/-- An action on the device takes a call on. -/
theorem Underway.acted {e : BusEvent} {q : JobStage} (h : Underway x claim es p) (hm : p.Moves e q) :
    Underway x claim (es ++ [.acted x e]) q := by
  cases h with
  | transferring hclaim hcontrol =>
    cases hm with
    | transfer htransfers => exact .releasing (.transferred hclaim hcontrol htransfers)
  | @selecting interface setting actions _ hselection hreached =>
    have hlist : actions.map (.acted x) ++ [.acted x e] = (actions ++ [e]).map (Happening.acted x) := by
      simp
    rcases hreached.moves hm with hreached' | ⟨rfl, rfl, rfl⟩ | ⟨hne, w, cause, c, hw, hfails, rfl⟩
    · rw [hlist]
      exact .selecting hselection hreached'
    · exact .completing (.unclaimed hselection)
    · obtain ⟨rest, hselects⟩ := hreached.extends hw
      rw [hlist]
      exact .releasing (.unselected hselection hne hselects hfails)
  | releasing => cases hm
  | completing => cases hm

theorem Underway.stored {c : Claim} (h : Underway x claim es (.store c)) :
    Underway x claim (es ++ [.stored x c]) (.complete (.ok #[])) := by
  cases h with
  | selecting hselection hreached =>
    cases hreached with
    | store hc hselects =>
      subst hc
      refine .completing ?_
      rw [List.append_assoc]
      exact .selected hselection hselects

theorem Underway.released {c : Claim} {reply : Reply} (h : Underway x claim es (.release c reply)) :
    Underway x claim (es ++ [.released x]) (.complete reply) := by
  cases h with
  | selecting _ hreached => cases hreached
  | releasing hdischarge =>
    refine .completing ?_
    rwa [List.append_assoc]

theorem Underway.completed {reply : Reply} (h : Underway x claim es (.complete reply)) :
    Discharge x claim (es ++ [.completed x reply]) := by
  cases h with
  | selecting _ hreached => cases hreached
  | completing hdischarge => exact hdischarge

/-- What is left of a call may go well. -/
theorem Underway.discharge (h : Underway x claim es p) :
    ∃ later, later ≠ [] ∧ Discharge x claim (es ++ later) := by
  cases h with
  | @transferring c r data hclaim hcontrol =>
    have htransfers : ∃ e reply, r.Transfers data e reply := by
      cases hr : r.direction with
      | out => exact ⟨_, _, .sent (.ok ()) hr⟩
      | inward => exact ⟨_, _, .asked (.ok #[]) hr⟩
    obtain ⟨e, reply, htransfers⟩ := htransfers
    exact ⟨[.acted x e, .released x, .completed x reply], nofun,
      .transferred hclaim hcontrol htransfers⟩
  | @selecting interface setting actions _ hselection hreached =>
    have hselects : ∃ rest, Selects interface setting (actions ++ rest) := by
      cases hw : p.wanted? with
      | some w => exact (hreached.extends hw).imp' (w :: ·) fun _ => id
      | none =>
        cases hreached with
        | store _ hselects => exact ⟨[], by simpa using hselects⟩
        | _ => cases hw
    obtain ⟨rest, hselects⟩ := hselects
    have hdischarge : Discharge x claim _ := .selected (c := ⟨0, interface⟩) hselection hselects
    rw [List.map_append, List.append_assoc] at hdischarge
    exact ⟨_, by simp, hdischarge⟩
  | @releasing _ c reply hdischarge => exact ⟨[.released x, .completed x reply], nofun, hdischarge⟩
  | @completing _ reply hdischarge => exact ⟨[.completed x reply], nofun, hdischarge⟩

/-- How an accepted call stands: what happened so far, and what is left of it. -/
inductive Stands (x : Commission) (claim : Option Claim) : List Happening → List JobStage → Prop
  | underway {es : List Happening} {p : JobStage} : Underway x claim es p → Stands x claim es [p]
  | ended {es : List Happening} : Discharge x claim es → Stands x claim es []

theorem Stands.perm (h : Stands x claim es ps) (hp : ps.Perm ps') : Stands x claim es ps' := by
  cases h with
  | underway hunder =>
    obtain rfl := List.singleton_perm.mp hp
    exact .underway hunder
  | ended hdischarge =>
    obtain rfl := List.nil_perm.mp hp
    exact .ended hdischarge

/-- How what is left of a call changes with a step. -/
inductive Shift (l : Link Commission) (x : Commission) :
    List JobStage → Happening → List JobStage → Prop
  | accepted {work : Work} {ps : List JobStage} : l.work x.target x.request = .ok work →
    Shift l x ps (.called x (.ok ())) (.start work :: ps)
  | acted {p q : JobStage} {e : BusEvent} {ps : List JobStage} : p.Moves e q →
    Shift l x (p :: ps) (.acted x e) (q :: ps)
  | stored {c : Claim} {ps : List JobStage} :
    Shift l x (.store c :: ps) (.stored x c) (.complete (.ok #[]) :: ps)
  | released {c : Claim} {reply : Reply} {ps : List JobStage} :
    Shift l x (.release c reply :: ps) (.released x) (.complete reply :: ps)
  | completed {reply : Reply} {ps : List JobStage} :
    Shift l x (.complete reply :: ps) (.completed x reply) ps
  | rest {ps : List JobStage} {e : Happening} : e.worker? ≠ some x → e ≠ .called x (.ok ()) →
    Shift l x ps e ps

@[simp] theorem leftOf_cons_self (ps : List (Commission × JobStage)) :
    leftOf x ((x, p) :: ps) = p :: leftOf x ps := by
  simp [leftOf]

theorem leftOf_cons_of_ne {y : Commission} (h : y ≠ x) (ps : List (Commission × JobStage)) :
    leftOf x ((y, p) :: ps) = leftOf x ps := by
  simp [leftOf, h]

/-- What happens to one call changes nothing of what is left of another. -/
theorem Shifts.leftOf_eq {l : Link Commission} {ps ps' : List (Commission × JobStage)}
    (h : Shifts l ps e ps') (hworker : e.worker? ≠ some x) (hcalled : e ≠ .called x (.ok ())) :
    leftOf x ps = leftOf x ps' := by
  cases h with
  | @accepted y =>
    have hy : y ≠ x := fun h => hcalled (h ▸ rfl)
    exact (leftOf_cons_of_ne hy _).symm
  | rest => rfl
  | completed =>
    have hy := fun h => hworker (congrArg some h)
    exact leftOf_cons_of_ne hy _
  | _ =>
    have hy := fun h => hworker (congrArg some h)
    rw [leftOf_cons_of_ne hy, leftOf_cons_of_ne hy]

theorem Shifts.shift {l : Link Commission} {ps ps' : List (Commission × JobStage)}
    (h : Shifts l ps e ps') (x : Commission) : Shift l x (leftOf x ps) e (leftOf x ps') := by
  by_cases hcalled : e = .called x (.ok ())
  · subst hcalled
    cases h with
    | accepted hwork => simpa using Shift.accepted hwork
    | rest _ hno => exact absurd rfl (hno x)
  · by_cases hworker : e.worker? = some x
    · cases h with
      | accepted => cases hworker
      | rest hno => simp [hno] at hworker
      | acted hm =>
        obtain rfl := Option.some.inj hworker
        simpa using Shift.acted hm
      | stored =>
        obtain rfl := Option.some.inj hworker
        simpa using Shift.stored
      | released =>
        obtain rfl := Option.some.inj hworker
        simpa using Shift.released
      | completed =>
        obtain rfl := Option.some.inj hworker
        simpa using Shift.completed
    · rw [h.leftOf_eq hworker hcalled]
      exact .rest hworker hcalled

theorem Step.shift (h : Step s e s') (x : Commission) :
    ∃ ps ps', (remaining x s).Perm ps ∧ (remaining x s').Perm ps' ∧ Shift s.link x ps e ps' := by
  obtain ⟨ps, ps', hs, hs', hshifts⟩ := h.shifts
  exact ⟨_, _, hs.filterMap _, hs'.filterMap _, hshifts.shift x⟩

theorem Step.shift_of_nil (h : Step s e s') (hx : remaining x s = []) :
    ∃ ps', (remaining x s').Perm ps' ∧ Shift s.link x [] e ps' := by
  obtain ⟨ps, ps', hp, hp', hshift⟩ := h.shift x
  rw [hx, List.nil_perm] at hp
  exact ⟨ps', hp', hp ▸ hshift⟩

/-- How a call stands is kept up by every step but the call itself. -/
theorem Stands.step (h : Stands x claim es (remaining x s)) (hs : Step s e s')
    (hx : e ≠ .called x (.ok ())) : Stands x claim (es ++ own x [e]) (remaining x s') := by
  obtain ⟨ps, ps', hp, hp', hshift⟩ := hs.shift x
  refine Stands.perm ?_ hp'.symm
  have hstands := h.perm hp
  cases hshift with
  | accepted => exact absurd rfl hx
  | acted hm =>
    cases hstands with
    | underway hunder => simpa [own, Happening.worker?] using Stands.underway (hunder.acted hm)
  | stored =>
    cases hstands with
    | underway hunder => simpa [own, Happening.worker?] using Stands.underway hunder.stored
  | released =>
    cases hstands with
    | underway hunder => simpa [own, Happening.worker?] using Stands.underway hunder.released
  | completed =>
    cases hstands with
    | underway hunder => simpa [own, Happening.worker?] using Stands.ended hunder.completed
  | rest hworker => simpa [own, hworker] using hstands

/-! ## What a discharge amounts to -/

theorem length_of_settles {interface : UInt8} {actions : List BusEvent}
    (h : Settles interface actions) : actions.length ≤ 4 := by
  obtain ⟨-, hclears⟩ := h
  cases hclears <;> split <;> simp

theorem length_of_selects {interface setting : UInt8} {actions : List BusEvent}
    (h : Selects interface setting actions) : actions.length ≤ 6 := by
  obtain ⟨hsettles⟩ := h
  have hlength := length_of_settles hsettles
  simp only [List.length_cons]
  omega

/-- A thread takes eight steps at most. -/
theorem Discharge.length_le (h : Discharge x claim es) : es.length ≤ 8 := by
  cases h with
  | transferred => simp
  | selected _ hselects =>
    have hlength := length_of_selects hselects
    simp only [List.length_append, List.length_map, List.length_cons, List.length_nil]
    omega
  | unclaimed => simp
  | unselected _ _ hselects =>
    have hlength := length_of_selects hselects
    simp only [List.length_append, List.length_map, List.length_cons, List.length_nil] at hlength ⊢
    omega

/-- The last step, and only that one, is to call the completion. -/
theorem Discharge.completes_last (h : Discharge x claim es) :
    ∃ earlier reply, es = earlier ++ [.completed x reply] ∧
      earlier.countP (Happening.completes x) = 0 := by
  cases h with
  | @transferred c r data e reply => exact ⟨[.acted x e, .released x], reply, rfl, rfl⟩
  | @selected c setting actions =>
    exact ⟨actions.map (.acted x) ++ [.stored x c], .ok #[], by simp, by
      simp [List.countP_append, List.countP_map, Happening.completes]⟩
  | @unclaimed interface setting =>
    exact ⟨[.acted x (.claim interface false)], .error .io, rfl, rfl⟩
  | @unselected interface setting good rest wanted failed cause =>
    exact ⟨(good ++ [failed]).map (.acted x) ++ [.released x], .error cause, by simp, by
      simp [List.countP_append, List.countP_map, Happening.completes]⟩

/-- A claim is put in place exactly if that was asked for and went well. -/
theorem Discharge.stored_iff {reply : Reply} (h : Discharge x claim es)
    (hreply : .completed x reply ∈ es) :
    (∃ c, .stored x c ∈ es) ↔ x.request.selection?.isSome ∧ reply.isOk := by
  cases h with
  | transferred _ hcontrol => simp [ClassCall.selection?_of_control? hcontrol]
  | selected hselection =>
    obtain rfl : reply = .ok #[] := by simpa using hreply
    simp [hselection, Except.isOk, Except.toBool]
  | unclaimed =>
    obtain rfl : reply = .error .io := by simpa using hreply
    simp [Except.isOk, Except.toBool]
  | @unselected _ _ _ _ _ _ cause =>
    obtain rfl : reply = .error cause := by simpa using hreply
    simp [Except.isOk, Except.toBool]

/-- The claim that is put in place is one of the interface that was asked for. -/
theorem Discharge.selection_of_stored {c : Claim} (h : Discharge x claim es)
    (hstored : .stored x c ∈ es) : ∃ setting, x.request.selection? = some (c.interface, setting) := by
  cases h with
  | @selected c' setting _ hselection =>
    obtain rfl : c = c' := by simpa using hstored
    exact ⟨setting, hselection⟩
  | _ => simp at hstored

/-! ## Runs -/

/-- The thread of the call can take a step, or it waits for an action that never ends. -/
def Awaits (s : Threaded Commission) (x : Commission) : Prop :=
  ∃ p, remaining x s = [p] ∧
    ((∃ e s', Step s e s' ∧ (e = .begun x ∨ e.worker? = some x)) ∨ s.link.Hangs p)

/-- What is wanted of an accepted call, with the claim that the link had when it was made. -/
structure Honoured (h : List Transition) (s : Threaded Commission) (x : Commission)
    (claim : Option Claim) : Prop where
  /-- What happened so far is what should happen, or the beginning of it. -/
  course : ∃ later, Discharge x claim (own x (events h) ++ later)
  /-- The completion is called once: it was, or that is still to come. -/
  once : (Discharge x claim (own x (events h)) ∧ (events h).countP (Happening.completes x) = 1) ∨
    (s.Awaits x ∧ (events h).countP (Happening.completes x) = 0)
  /-- It does not take long. -/
  short : (own x (events h)).length ≤ 8
  /-- A selection that succeeds puts its claim in place, and nothing else does. -/
  committed : ∀ reply, .completed x reply ∈ events h →
    ((∃ c, .stored x c ∈ events h) ↔ x.request.selection?.isSome ∧ reply.isOk)
  placed : ∀ c, .stored x c ∈ events h → ∃ setting, x.request.selection? = some (c.interface, setting)

/-- What is wanted of the calls in a run. -/
structure Atomic (h : List Transition) (s : Threaded Commission) : Prop where
  /-- A refusal changes nothing. -/
  refused : ∀ τ ∈ h, τ.event.isRefusal → τ.after = τ.before
  /-- Nothing is ever done for a call that was refused. -/
  inert : ∀ x cause, .called x (.error cause) ∈ events h →
    own x (events h) = [] ∧ (events h).countP (Happening.completes x) = 0
  /-- A call is refused if it is not admissible, and otherwise for want of a thread. -/
  admitted : ∀ τ ∈ h, ∀ x result, τ.event = .called x result →
    (x.Admissible τ.before.link ↔ result = .ok () ∨ result = .error .busy)
  honoured : ∀ τ ∈ h, ∀ x, τ.event = .called x (.ok ()) → Honoured h s x τ.before.link.claimed
  /-- The claim of the link changes only where one is put in place or the class is given up. -/
  claimed : ∀ τ ∈ h, τ.after.link.claimed = τ.event.claimed τ.before.link.claimed

section
variable {wire : Wire} {h t : List Transition}

@[simp] theorem own_append (es es' : List Happening) : own x (es ++ es') = own x es ++ own x es' :=
  List.filter_append ..

theorem mem_own (hw : e.worker? = some x) : e ∈ own x es ↔ e ∈ es := by
  simp [own, hw]

/-- The completions of a call are called by its own thread. -/
theorem countP_own : (own x es).countP (Happening.completes x) = es.countP (Happening.completes x) := by
  rw [own, List.countP_filter]
  refine List.countP_congr fun e _ => ?_
  cases e <;> simp [Happening.completes, Happening.worker?]

/-- A call is made once. -/
theorem Runs.called_once (hr : Runs wire h s) {result result' : Except UsbError Unit}
    (hx : .called x result ∈ events h) (hx' : .called x result' ∈ events h) : result = result' := by
  induction hr with
  | new => cases hx
  | step _ _ hfresh ih =>
    rw [events_append, List.mem_append] at hx hx'
    rcases hx with hx | hx <;> rcases hx' with hx' | hx'
    · exact ih hx hx'
    · exact absurd hx (hfresh x _ (List.mem_singleton.mp hx').symm _)
    · exact absurd hx' (hfresh x _ (List.mem_singleton.mp hx).symm _)
    · have heq := (List.mem_singleton.mp hx).trans (List.mem_singleton.mp hx').symm
      exact (Happening.called.inj heq).2

/-- Of a call that was not accepted nothing happens and nothing is left. -/
theorem Runs.inert (hr : Runs wire h s) (hx : .called x (.ok ()) ∉ events h) :
    own x (events h) = [] ∧ remaining x s = [] := by
  induction hr with
  | new => exact ⟨rfl, rfl⟩
  | @step h s s' e hr hs _ ih =>
    simp only [events_append, List.mem_append, not_or] at hx
    obtain ⟨hown, hleft⟩ := ih hx.1
    obtain ⟨ps', hp', hshift⟩ := hs.shift_of_nil hleft
    cases hshift with
    | accepted => simp [events] at hx
    | rest hworker =>
      refine ⟨?_, List.perm_nil.mp hp'⟩
      rw [events_append, own_append, hown]
      simp [events, own, hworker]

/-- What happens in the thread of a call happens because the call was accepted. -/
theorem Runs.called_of_worker (hr : Runs wire h s) (he : e ∈ events h) (hw : e.worker? = some x) :
    .called x (.ok ()) ∈ events h := by
  by_contra hcalled
  have hown := (mem_own hw).mpr he
  rw [(hr.inert hcalled).1] at hown
  cases hown

theorem Runs.stands (hr : Runs wire h s) {τ : Transition} (hτ : τ ∈ h)
    (hx : τ.event = .called x (.ok ())) :
    Stands x τ.before.link.claimed (own x (events h)) (remaining x s) := by
  induction hr with
  | new => cases hτ
  | @step h s s' e hr hs hfresh ih =>
    rcases List.mem_append.mp hτ with hτ | hτ
    · have he : e ≠ .called x (.ok ()) := fun he => hfresh x _ he _ (mem_events.mpr ⟨τ, hτ, hx⟩)
      rw [events_append, own_append]
      exact (ih hτ).step hs he
    · obtain rfl := List.mem_singleton.mp hτ
      obtain rfl : e = _ := hx
      obtain ⟨hown, hleft⟩ := hr.inert (hfresh x _ rfl _)
      obtain ⟨ps', hp', hshift⟩ := hs.shift_of_nil hleft
      cases hshift with
      | accepted hwork =>
        rw [events_append, own_append, hown, List.perm_singleton.mp hp']
        exact .underway (underway_start (Link.work_serves hwork))
      | rest _ hno => exact absurd rfl hno

/-- A thread takes its next step whenever the action of that step ends. -/
theorem exists_step_or_hangs (l : Link Commission) (before after : List (Thread Commission)) :
    (∃ e s', Step ⟨l, before ++ ⟨x, p⟩ :: after⟩ e s' ∧ e.worker? = some x) ∨ l.Hangs p := by
  cases hact : l.act p with
  | some r =>
    obtain ⟨l', q⟩ := r
    obtain ⟨wire, serial, e, rfl, htrace, -⟩ := Link.act_moves hact
    exact .inl ⟨_, _, .acts hact htrace, rfl⟩
  | none =>
    cases p with
    | claim interface setting =>
      right
      simp only [Link.act] at hact
      split at hact <;> simp_all [Link.Hangs]
    | alternate c setting =>
      right
      simp only [Link.act] at hact
      split at hact <;> simp_all [Link.Hangs]
    | store => exact .inl ⟨_, _, .stores, rfl⟩
    | release => exact .inl ⟨_, _, .releases, rfl⟩
    | complete => exact .inl ⟨_, _, .completes, rfl⟩
    | _ => cases hact

theorem awaits_of_remaining (h : remaining x s = [p]) : s.Awaits x := by
  refine ⟨p, h, ?_⟩
  have hmem : (x, p) ∈ s.stages := by
    have hp : p ∈ remaining x s := by simp [h]
    obtain ⟨⟨y, q⟩, hq, heq⟩ := List.mem_filterMap.mp hp
    simp only [Option.ite_none_right_eq_some, Option.some.injEq] at heq
    obtain ⟨rfl, rfl⟩ := heq
    exact hq
  rcases List.mem_append.mp hmem with hjob | hthread
  · obtain ⟨job, hjob, heq⟩ := List.mem_map.mp hjob
    obtain ⟨before, after, hsplit⟩ := List.append_of_mem hjob
    exact .inl ⟨_, _, .begins hsplit, .inl (congrArg _ (Prod.mk.inj heq).1)⟩
  · obtain ⟨t, ht, heq⟩ := List.mem_map.mp hthread
    obtain ⟨before, after, hsplit⟩ := List.append_of_mem ht
    obtain ⟨rfl, rfl⟩ := Prod.mk.inj heq
    obtain ⟨l, threads⟩ := s
    obtain rfl : threads = _ := hsplit
    rcases exists_step_or_hangs l before after with ⟨e, s', hs, hw⟩ | hh
    · exact .inl ⟨e, s', hs, .inr hw⟩
    · exact .inr hh

/-- Before its last step a call has not been completed. -/
theorem Discharge.countP_eq_zero {later : List Happening} (h : Discharge x claim (es ++ later))
    (hne : later ≠ []) : es.countP (Happening.completes x) = 0 := by
  obtain ⟨earlier, reply, hsplit, hnone⟩ := h.completes_last
  have hprefix : es <+: earlier := by
    rcases List.append_eq_append_iff.mp hsplit with ⟨between, rfl, -⟩ | ⟨between, hes, hlast⟩
    · exact List.prefix_append ..
    · cases between with
      | nil => simp [hes]
      | cons => simp_all
  exact Nat.le_zero.mp (hnone ▸ hprefix.sublist.countP_le)

theorem Discharge.countP_eq_one (h : Discharge x claim es) :
    es.countP (Happening.completes x) = 1 := by
  obtain ⟨earlier, reply, rfl, hnone⟩ := h.completes_last
  simp [List.countP_append, hnone, Happening.completes]

theorem Stands.once (h : Stands x claim (own x (events t)) (remaining x s)) :
    (Discharge x claim (own x (events t)) ∧ (events t).countP (Happening.completes x) = 1) ∨
      (s.Awaits x ∧ (events t).countP (Happening.completes x) = 0) := by
  rw [← countP_own]
  generalize hleft : remaining x s = ps at h
  cases h with
  | underway hunder =>
    obtain ⟨later, hne, hdischarge⟩ := hunder.discharge
    exact .inr ⟨awaits_of_remaining hleft, hdischarge.countP_eq_zero hne⟩
  | ended hdischarge => exact .inl ⟨hdischarge, hdischarge.countP_eq_one⟩

theorem Stands.course (h : Stands x claim es ps) : ∃ later, Discharge x claim (es ++ later) := by
  cases h with
  | underway hunder =>
    obtain ⟨later, -, hdischarge⟩ := hunder.discharge
    exact ⟨later, hdischarge⟩
  | ended hdischarge => exact ⟨[], by rwa [List.append_nil]⟩

theorem Stands.honoured (hstands : Stands x claim (own x (events h)) (remaining x s)) :
    Honoured h s x claim := by
  obtain ⟨later, hdischarge⟩ := hstands.course
  refine ⟨⟨later, hdischarge⟩, hstands.once, ?_, fun reply hreply => ?_, fun c hstored => ?_⟩
  · have hlength := hdischarge.length_le
    rw [List.length_append] at hlength
    omega
  · rcases hstands.once with ⟨hended, -⟩ | ⟨-, hnone⟩
    · have hiff := hended.stored_iff ((mem_own rfl).mpr hreply)
      simpa only [mem_own (e := .stored x _) rfl] using hiff
    · exact absurd (by simp [Happening.completes]) (List.countP_eq_zero.mp hnone _ hreply)
  · exact hdischarge.selection_of_stored (List.mem_append_left _ ((mem_own rfl).mpr hstored))

/-- A call is admissible exactly if it gets its job or would have got it. -/
theorem Step.admissible_iff {result : Except UsbError Unit} (h : Step s (.called x result) s') :
    x.Admissible s.link ↔ result = .ok () ∨ result = .error .busy := by
  cases h with
  | submit =>
    rcases x.work_cases s.link with ⟨hx, work, hwork⟩ | ⟨hx, cause, hwork, hcause⟩
    · simp [hx, Link.submit, hwork]
    · simp [hx, Link.submit, hwork, Answer.refused, hcause]
  | busy hwork =>
    rcases x.work_cases s.link with ⟨hx, -⟩ | ⟨-, cause, herror, -⟩
    · simp [hx]
    · rw [hwork] at herror
      cases herror

/-- Take any calls, with any handles and data, any device, and any order in which the threads take their
steps. A call that is refused changes nothing, and nothing is ever done for it. Any other call is
completed once, with the result of what its thread did, if only the actions on the device end. It was
made on the live handle, while an interface was claimed unless it selects one itself; and the claim
changes with the selections that succeed, and when the class is given up. -/
theorem Runs.atomic (hr : Runs wire h s) : Atomic h s where
  refused τ hτ hrefused := (hr.transition τ hτ).eq_of_isRefusal hrefused
  inert x cause hx := by
    obtain ⟨hown, -⟩ := hr.inert fun hok => nomatch hr.called_once hx hok
    exact ⟨hown, by rw [← countP_own, hown]; rfl⟩
  admitted τ hτ x result hx := (hx ▸ hr.transition τ hτ).admissible_iff
  honoured τ hτ x hx := (hr.stands hτ hx).honoured
  claimed τ hτ := (hr.transition τ hτ).follows.claimed

/-- The selection of an interface on an idle device is one of the calls. -/
theorem selection_atomic :
    ∃ h s, Runs ⟨idleDevice, #[]⟩ h s ∧ .completed selection (.ok #[]) ∈ events h ∧ Atomic h s := by
  obtain ⟨h, hr, hdone, -⟩ := runs_selected
  exact ⟨h, ⟨selected, []⟩, hr, hdone, hr.atomic⟩

end

end Threaded

end FirmwareUpgrade
