import FirmwareUpgrade.Proofs.Device
import FirmwareUpgrade.Proofs.Flashing

/-!
# The success of the flash command

The command attaches the device and lets the worker and the jobs of the link take turns. Here they may
take turns in any order (`Goes`), and the device may become any other at any time. When the command
reports success the upgrade is complete, and the actions on the bus are those of a flash.
-/
namespace FirmwareUpgrade

namespace Session

variable {κ : Type} {s s' : Session (Link Completion) κ} {t : Task} {interface : UInt8}

/-- A flash is a matter of the controller, the queue, and what the link claims, records and has yet to
do. -/
theorem Aloft.congr (h : Aloft s t interface) (hc : s'.controller = s.controller)
    (hl : s'.state.lost = s.state.lost) (hq : s'.channel = s.channel)
    (hj : s'.state.driver.jobs = s.state.driver.jobs)
    (hclaim : s'.state.driver.claimed = s.state.driver.claimed)
    (htrace : s'.state.driver.wire.trace = s.state.driver.wire.trace) : Aloft s' t interface := by
  have hreq : s'.requests = s.requests := by rw [requests, hq]; rfl
  refine ⟨hl.trans h.lost, hq ▸ h.room, ?_⟩
  cases h.stands with
  | plugged b hb hcontroller hd hjobs hr =>
    exact .plugged b hb (hc.trans hcontroller) (hd.congr hclaim htrace) (hj.trans hjobs) (hreq.trans hr)
  | bound b hb hcontroller hd hjobs hr =>
    exact .bound b hb (hc.trans hcontroller) (hd.congr hclaim htrace) (hj.trans hjobs) (hreq.trans hr)
  | due target done p i hcontroller hd hjobs hr =>
    exact .due target done p i (hc ▸ hcontroller) (hd.congr hclaim htrace) (hj.trans hjobs)
      (hreq.trans hr)
  | issued target done op request work hcontroller hd hs hjobs hr =>
    exact .issued target done op request work (hc ▸ hcontroller) (hd.congr hclaim htrace)
      (hclaim ▸ hs) (hj.trans hjobs) (hreq.trans hr)
  | answered target done op request r hcontroller hd hjobs hr =>
    exact .answered target done op request r (hc ▸ hcontroller)
      (fun data hr x => (hd data hr x).congr hclaim htrace) (hj.trans hjobs) (hreq.trans hr)
  | failed hp hjobs hr => exact .failed (hc ▸ hp) (hj.trans hjobs) (hreq.trans hr)
  | complete selecting body closing hp hrecord hflashed hjobs hr =>
    exact .complete selecting body closing (hc ▸ hp) (htrace ▸ hrecord) hflashed (hj.trans hjobs)
      (hreq.trans hr)

/-- A flash that is complete has flashed the device. -/
theorem Aloft.flashed (h : Aloft s t interface) (hp : s.controller.phase = .complete) :
    ∃ selecting body closing,
      s.state.driver.wire.trace.toList = .openDevice true :: (selecting ++ body ++ closing) ∧
        Flashed t interface selecting body closing := by
  cases h.stands with
  | complete selecting body closing _ hrecord hflashed => exact ⟨_, _, _, hrecord, hflashed⟩
  | plugged b _ hc | bound b _ hc =>
    rw [hc] at hp
    cases hp
  | due target done p i hc =>
    have hterminal := hc.phase.2
    rw [hp] at hterminal
    cases hterminal
  | issued target done op request work hc | answered target done op request r hc =>
    exact absurd hp hc.phase_ne_complete
  | failed hne => exact absurd hp hne

end Session

/-- The link with another device in the place of its own. -/
def Link.onDevice {α : Type} (l : Link α) (device : BusDevice) : Link α :=
  { l with wire := { l.wire with device } }

namespace Flashing

open Session

variable {f g : Flashing} {t : Task} {interface : UInt8} {image : Bytes} {config : Config}

/-- The worker handles requests, jobs are done, and the device changes, in any order. -/
inductive Goes (f : Flashing) : Flashing → Prop
  | start : Goes f f
  | work {g : Flashing} : Goes f g → Goes f (g.move Link.driver .work)
  | finish {g : Flashing} (i : Nat) : Goes f g → Goes f (g.modify (Session.finishJob · i))
  | interfere {g : Flashing} (device : BusDevice) : Goes f g →
    Goes f (g.modify fun s => s.withDriver (s.state.driver.onDevice device))

theorem Goes.aloft (h : Goes f g) (ht : t.config.checkStatusAfterDetach = false)
    (hi : interface = UInt8.ofNat t.interface.value) (hf : Aloft f.session t interface) :
    Aloft g.session t interface := by
  induction h with
  | start => exact hf
  | @work g _ ih =>
    rcases g.session_work Link.driver with ⟨-, hs⟩ | ⟨q, hreq, hs⟩
    · rwa [hs]
    · rw [hs]
      exact ih.handle ht hreq
  | finish i _ ih => exact ih.finishJob hi i
  | interfere device _ ih => exact ih.congr rfl rfl rfl rfl rfl rfl

theorem Goes.served (h : Goes f g) (hf : Served Link.driver image config f.session) :
    Served Link.driver image config g.session := by
  induction h with
  | start => exact hf
  | work _ ih => exact Installation.served_move ih .work
  | @finish g i _ ih =>
    have hdrive := Installation.served_move ih
      (.drive (g.driver.finish i).1 (g.driver.finish i).2.1)
    show Served Link.driver image config (g.session.finishJob i)
    unfold Session.finishJob
    cases (g.session.state.driver.finish i).2.2 with
    | none => exact hdrive
    | some d => exact Installation.served_move hdrive (.complete d.1 d.2)
  | @interfere g device _ ih =>
    exact Installation.served_move ih (.drive (g.driver.onDevice device) [])

/-! ## The loops of the command -/

theorem goes_drain (fuel : Nat) : ∀ (g : Flashing) (count : Nat), Goes f g →
    Goes f { g with worker := (g.worker.drain (Session.handle Link.driver) fuel count).1 } := by
  induction fuel with
  | zero => exact fun g count h => h
  | succ fuel ih =>
    intro g count h
    unfold Worker.drain
    cases hw : g.worker.service.channel.waiting.head? with
    | none => exact h
    | some e =>
      have hwork : g.move Link.driver .work =
          { g with worker := g.worker.dispatch (Session.handle Link.driver) e } := by
        simp [Installation.move, Worker.drain, hw]
      exact ih _ (count + 1) (hwork ▸ h.work)

theorem goes_round {g : Flashing} (h : Goes f g) : Goes f (round g) :=
  goes_drain g.drainBudget g 0 h

theorem goes_settleFrom (fuel : Nat) : ∀ (g : Flashing) (count : Nat), Goes f g →
    Goes f (Installation.settleFrom round Link.backlog fuel g count).1 := by
  induction fuel with
  | zero => exact fun g count h => goes_round h
  | succ fuel ih =>
    intro g count h
    unfold Installation.settleFrom
    dsimp only
    split
    · exact goes_round h
    · exact ih _ (count + 1) ((goes_round h).finish 0)

/-! ## The device attaches -/

/-- An event that was accepted has queued what it amounts to. -/
theorem dispatchEvent_of_ok {event : HostEvent} {q : Request}
    (h : f.dispatchEvent event = (g, .ok ()))
    (hq : event.request Link.host Link.device = .ok q) :
    f.session.channel.refusal? = none ∧ g.session = (f.session.post q).noteAll (event.notices Link.device) := by
  cases hd : f.dispatch dfuVendor dfuProduct Link.host Link.device event with
  | mk g' status =>
    simp only [dispatchEvent, hd, Prod.mk.injEq] at h
    obtain ⟨rfl, hstatus⟩ := h
    obtain rfl : status = .success := by cases status <;> simp_all
    obtain ⟨hl, hr⟩ := Installation.room_of_success hq (congrArg Prod.snd hd)
    have hs := (Installation.dispatch_of_room hl hq hr).2
    rw [hd] at hs
    exact ⟨hr, hs⟩

/-- A device in whose configuration no interface speaks DFU is not accepted. -/
theorem interface_of_attached {c : Configuration}
    (h : f.dispatchEvent (.attach c) = (g, .ok ())) : ∃ i, c.dfuInterface? = some i := by
  cases hi : c.dfuInterface? with
  | some i => exact ⟨i, rfl⟩
  | none =>
    simp only [dispatchEvent, Installation.dispatch, Dispatcher.dispatch, Prod.mk.injEq] at h
    split at h <;> simp_all [Installation.react, HostEvent.post, HostEvent.request]

/-- When the device has attached and is enumerated the flash is up. -/
theorem aloft_attached {wire : Wire} {c : Configuration} (hw : wire.trace.toList = [.openDevice true])
    (hattach : (start wire image config).dispatchEvent (.attach c) = (f, .ok ()))
    (hdone : f.dispatchEvent .enumerationDone = (g, .ok ())) (interface : UInt8) :
    ∃ i, c.dfuInterface? = some i ∧ Aloft g.session ⟨image, config, i.handle⟩ interface := by
  obtain ⟨i, hi⟩ := interface_of_attached hattach
  obtain ⟨hroom, hs⟩ := dispatchEvent_of_ok (q := .bind ⟨Link.host, Link.device, i.handle⟩) hattach
    (by simp [HostEvent.request, hi])
  obtain ⟨hroom', hs'⟩ := dispatchEvent_of_ok (q := .nextPhase .attached) hdone rfl
  have hrequests : g.session.requests =
      [.bind ⟨Link.host, Link.device, i.handle⟩, .nextPhase .attached] := by
    rw [hs', requests_noteAll, requests_post _ hroom', hs, requests_noteAll, requests_post _ hroom]
    rfl
  have hnew : (start wire image config).session.controller = .new image config := rfl
  have hdriver : (start wire image config).session.state.driver = Link.new wire := rfl
  have hlost : (start wire image config).session.state.lost = none := rfl
  have hstart : (start wire image config).session.channel.Roomy := Channel.roomy_bounded _
  refine ⟨i, hi, ?_⟩
  rw [hs', hs] at hrequests ⊢
  refine ⟨by simpa using hlost, by simpa using (hstart.send _).send _,
    .plugged ⟨Link.host, Link.device, i.handle⟩ rfl (by simpa using hnew) ?_ ?_ hrequests⟩
  · simp only [driver_noteAll, driver_post, hdriver]
    exact ⟨fun _ => rfl, fun h => absurd rfl h, [], hw, .nil⟩
  · simp only [driver_noteAll, driver_post, hdriver]
    rfl

theorem served_start (wire : Wire) (image : Bytes) (config : Config) :
    Served Link.driver image config (start wire image config).session := by
  have hnote (s : Session (Link Completion) Empty) (n : Notice) : Elsewhere s (s.note n) :=
    ⟨rfl, .record s rfl⟩
  exact .elsewhere (.elsewhere
    (.start (Link.new wire) (Channel.bounded config.queueCapacity).addSender) (hnote _ _)) (hnote _ _)

theorem served_dispatchEvent {event : HostEvent} {result : Except CommandError Unit}
    (h : f.dispatchEvent event = (g, result)) (hf : Served Link.driver image config f.session) :
    Served Link.driver image config g.session := by
  have hmove := Installation.served_move hf (.event dfuVendor dfuProduct Link.host Link.device event)
  rwa [show f.move Link.driver (.event dfuVendor dfuProduct Link.host Link.device event) = g from
    congrArg Prod.fst h] at hmove

/-! ## Success -/

/-- However the worker, the jobs and the device take turns, an upgrade that is complete in the end has
flashed the device. -/
theorem flashed_of_goes {h : Flashing} {wire : Wire} {c : Configuration}
    (hw : wire.trace.toList = [.openDevice true]) (ht : config.checkStatusAfterDetach = false)
    (hattach : (start wire image config).dispatchEvent (.attach c) = (f, .ok ()))
    (hdone : f.dispatchEvent .enumerationDone = (g, .ok ())) (hgoes : Goes g h)
    (hp : h.controller.phase = .complete) :
    ∃ i selecting body closing, c.dfuInterface? = some i ∧
      h.driver.wire.trace.toList = .openDevice true :: (selecting ++ body ++ closing) ∧
      Flashed ⟨image, config, i.handle⟩ (UInt8.ofNat i.handle.value) selecting body closing := by
  obtain ⟨i, hi⟩ := interface_of_attached hattach
  obtain ⟨i', hi', haloft⟩ := aloft_attached hw hattach hdone (UInt8.ofNat i.handle.value)
  obtain rfl : i = i' := Option.some.inj (hi.symm.trans hi')
  obtain ⟨selecting, body, closing, htrace, hflashed⟩ := (hgoes.aloft ht rfl haloft).flashed hp
  exact ⟨i, selecting, body, closing, hi, htrace, hflashed⟩

/-- A run that is reported as a success has attached the device, and the upgrade is complete. -/
theorem goes_of_run {wire : Wire} {c : Configuration}
    (h : (start wire image config).run c = (g, .ok ())) :
    ∃ f f', (start wire image config).dispatchEvent (.attach c) = (f, .ok ()) ∧
      f.dispatchEvent .enumerationDone = (f', .ok ()) ∧ Goes f' g ∧
      g.controller.phase = .complete := by
  unfold run at h
  split at h
  · cases h
  · rename_i f hattach
    split at h
    · cases h
    · rename_i f' hdone
      rw [Prod.mk.injEq] at h
      obtain ⟨rfl, hresult⟩ := h
      have hgoes : Goes f' (f'.settle round Link.backlog).1 := goes_settleFrom _ f' 0 .start
      refine ⟨f, f', hattach, hdone, hgoes, ?_⟩
      have hserved := hgoes.served (served_dispatchEvent hdone
        (served_dispatchEvent hattach (served_start wire image config)))
      rw [← hserved.consistent.watch]
      unfold waitResult at hresult
      split at hresult
      · assumption
      · cases hresult
      · cases hresult

end Flashing

/-- An interface is handled by its number. -/
theorem BusDevice.number_of_dfuInterface {d : BusDevice} {i : Interface}
    (h : d.configuration.dfuInterface? = some i) : UInt8.ofNat i.handle.value = i.number := by
  obtain ⟨a, -, rfl⟩ := List.mem_map.mp (List.mem_of_find?_eq_some h)
  exact UInt8.ofNat_toNat

theorem Flashing.checkStatusAfterDetach_settings (d : BusDevice) (chunkSize : Option UInt16) :
    (settings d chunkSize).checkStatusAfterDetach = false := by
  cases hd : d.descriptor? <;> simp [settings, hd, Config.withDescriptor?, Config.withChunkSize] <;> rfl

theorem Bus.dfuDevices_of_accelerator {b : Bus} {d : BusDevice × Nat} (h : b.accelerator = .ok d) :
    b.dfuDevices (some dfuVendor) (some dfuProduct) = .ok [d] := by
  unfold accelerator at h
  split at h
  · cases h
  · rename_i devices hdevices
    unfold onlyDevice at h
    split at h
    · cases h
    · rw [hdevices, Except.ok.inj h]
    · cases h

/-- A success stems from a run on the device that was opened. -/
theorem Bus.flash_of_ok {b : Bus} {image : Bytes} {chunkSize : Option UInt16}
    (h : (b.flash image chunkSize).result = .ok ()) :
    ∃ device place wire f, b.accelerator = .ok (device, place) ∧
      (Wire.mk device #[]).openDevice = (wire, .ok ()) ∧
      (Flashing.start wire image (Flashing.settings device chunkSize)).run device.configuration =
        (f, .ok ()) ∧
      b.flash image chunkSize = f.report place (.ok ()) := by
  unfold flash at h ⊢
  cases haccelerator : b.accelerator with
  | error cause =>
    rw [haccelerator] at h
    cases h
  | ok d =>
    obtain ⟨device, place⟩ := d
    cases hopen : (Wire.mk device #[]).openDevice with
    | mk wire opened =>
      simp only [haccelerator, hopen] at h ⊢
      cases opened with
      | error hitch => cases hitch <;> cases h
      | ok =>
        cases hrun : (Flashing.start wire image (Flashing.settings device chunkSize)).run
            device.configuration with
        | mk f result =>
          simp only [hrun] at h ⊢
          obtain rfl : result = .ok () := h
          exact ⟨device, place, wire, f, rfl, hopen, hrun, rfl⟩

/-- If the command reports success there was one accelerator on the bus, and whatever that device did
in the meantime: behind the claim, the setting and the transfers that make the device idle, there was
one control transfer for each operation of the upgrade, in this order and each of them a success, and
none after that. The blocks that were sent make up the image, none of them is empty, and what came
back, cut to the length that was asked for, makes up the image again. Every status on the way was
good. The orders of a device can spoil each of its actions and replace each of its replies, so it is
free to do anything; that it may even change at any time is `Flashing.flashed_of_goes`. -/
theorem Bus.flash_sound (b : Bus) (image : Bytes) (chunkSize : Option UInt16)
    (h : (b.flash image chunkSize).result = .ok ()) :
    ∃ device place i selecting body closing,
      b.dfuDevices (some dfuVendor) (some dfuProduct) = .ok [(device, place)] ∧
      device.configuration.dfuInterface? = some i ∧
      (b.flash image chunkSize).busTrace.toList =
        (.openDevice true :: (selecting ++ body ++ closing)).map (place, ·) ∧
      let t : Task := ⟨image, Flashing.settings device chunkSize, i.handle⟩
      Flashed t i.number selecting body closing ∧ ∀ k < t.blockCount, (t.block k).isEmpty = false := by
  obtain ⟨device, place, wire, f, haccelerator, hopen, hrun, hreport⟩ := flash_of_ok h
  have hw : wire.trace.toList = [.openDevice true] := by
    rw [Wire.trace_act_of_ok _ hopen]
    rfl
  obtain ⟨g, g', hattach, hdone, hgoes, hp⟩ := Flashing.goes_of_run hrun
  obtain ⟨i, selecting, body, closing, hi, htrace, hflashed⟩ := Flashing.flashed_of_goes hw
    (Flashing.checkStatusAfterDetach_settings device chunkSize) hattach hdone hgoes hp
  rw [BusDevice.number_of_dfuInterface hi] at hflashed
  refine ⟨device, place, i, selecting, body, closing, dfuDevices_of_accelerator haccelerator, hi, ?_,
    hflashed, fun k hk => Task.block_ne_empty _ hk⟩
  rw [hreport, Flashing.report, Wire.eventsAt, Array.toList_map, htrace]

/-- An accelerator that earlier use has left in its error state. -/
def BusDevice.neglected : BusDevice where
  vendor := dfuVendor
  product := dfuProduct
  bus := "1"
  address := 5
  listed := [⟨dfuClass, dfuSubclass⟩]
  configurations := [[⟨2, 0, dfuClass, dfuSubclass, 2, []⟩]]
  twists := []
  memory := #[]
  uploadOffset := 0
  status := 3
  state := Status.dfuError
  pollTimeout := 0
  corrupt := none
  counts := .replicate BusAction.all.length 0

/-- Three bytes in blocks of two for an accelerator in its error state. -/
theorem Bus.flash_neglected :
    let b : Bus := ⟨none, [.neglected]⟩
    let t : Task := ⟨#[1, 2, 3], { Config.standard with chunkSize := 2 }, ⟨2⟩⟩
    (b.flash #[1, 2, 3] (some 2)).result = .ok () ∧
      ∃ selecting body closing, (b.flash #[1, 2, 3] (some 2)).busTrace.toList =
        (.openDevice true :: (selecting ++ body ++ closing)).map (0, ·) ∧
        Flashed t 2 selecting body closing := by
  intro b t
  have h : (b.flash #[1, 2, 3] (some 2)).result = .ok () := by decide +kernel
  obtain ⟨device, place, i, selecting, body, closing, hd, hi, htrace, hflashed, -⟩ :=
    flash_sound b #[1, 2, 3] (some 2) h
  have hsingle : b.dfuDevices (some dfuVendor) (some dfuProduct) = .ok [(.neglected, 0)] := rfl
  rw [hsingle, Except.ok.injEq, List.cons.injEq, Prod.mk.injEq] at hd
  obtain ⟨⟨rfl, rfl⟩, -⟩ := hd
  obtain rfl := Option.some.inj hi
  exact ⟨h, selecting, body, closing, htrace, hflashed⟩

end FirmwareUpgrade
