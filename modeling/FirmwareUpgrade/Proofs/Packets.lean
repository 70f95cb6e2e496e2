import FirmwareUpgrade.Proofs.Atomicity

/-!
# The packets of a request

A request is written down twice: the builder makes the bytes of its setup packet, and the transfer of a
link takes its fields one by one, for data to the device with the size of the data as the length. It is
shown here that the two agree for every transfer of every run: the packet that goes over the wire is that
of the builder for the call (`Commission.Builds`), and its length is the size of the data.

A packet is eight bytes with its words little-endian, and it can be read back: `ofPacket?` undoes
`packet`, and nothing else is read.
-/
namespace FirmwareUpgrade

namespace ControlRequest

variable {r r' : ControlRequest} {p : Bytes}

theorem direction?_requestType (r : ControlRequest) : direction? r.requestType = some r.direction := by
  unfold requestType
  cases r.direction <;> rfl

theorem requestType_of_direction? {b : UInt8} (h : direction? b = some r.direction) :
    b = r.requestType := by
  unfold direction? at h
  unfold requestType
  split at h
  · rename_i hb
    rw [← Option.some.inj h, hb]
  · split at h
    · rename_i hb
      rw [← Option.some.inj h, hb]
    · cases h

/-- What is read from a packet is the request that the packet was made for. -/
theorem ofPacket?_eq_some_iff : ofPacket? p = some r ↔ p = r.packet := by
  constructor
  · intro h
    unfold ofPacket? at h
    split at h
    · rename_i hsize
      obtain ⟨d, hd, rfl⟩ := Option.map_eq_some_iff.mp h
      obtain ⟨bytes⟩ := p
      match bytes, hsize with
      | [b0, b1, b2, b3, b4, b5, b6, b7], _ =>
        rw [packet, ← requestType_of_direction? (r := ⟨d, _, _, _, _⟩) hd]
        simp
    · cases h
  · rintro rfl
    simp [ofPacket?, packet, direction?_requestType]

theorem packet_inj : r.packet = r'.packet ↔ r = r' := by
  refine ⟨fun h => ?_, congrArg packet⟩
  have hread := ofPacket?_eq_some_iff.mpr h
  rw [ofPacket?_eq_some_iff.mpr rfl] at hread
  exact Option.some.inj hread

/-- The bytes of a packet, field by field, the words with their low byte first. -/
inductive Spells (r : ControlRequest) : Bytes → Prop
  | bytes {v0 v1 i0 i1 n0 n1 : UInt8} : v0.toNat + 256 * v1.toNat = r.value.toNat →
    i0.toNat + 256 * i1.toNat = r.index.toNat → n0.toNat + 256 * n1.toNat = r.length.toNat →
    Spells r #[match r.direction with | .out => 0x21 | .inward => 0xA1,
      r.request, v0, v1, i0, i1, n0, n1]

theorem toNat_low_add_high (w : UInt16) :
    (LittleEndian.low w).toNat + 256 * (LittleEndian.high w).toNat = w.toNat := by
  rw [LittleEndian.toNat_low, LittleEndian.toNat_high]
  exact Nat.mod_add_div ..

theorem spells_packet (r : ControlRequest) : r.Spells r.packet :=
  .bytes (toNat_low_add_high r.value) (toNat_low_add_high r.index) (toNat_low_add_high r.length)

end ControlRequest

/-- A transfer takes its fields from a request. The length is that of the request, for data to the device
because the data has this size. -/
inductive BusEvent.TakesFrom (r : ControlRequest) : BusEvent → Prop
  | sent {data : Bytes} {result : Except TransferError Unit} : r.direction = .out →
    data.size = r.length.toNat → TakesFrom r (.sent r.request r.value r.index data result)
  | asked {result : Except TransferError Bytes} : r.direction = .inward →
    TakesFrom r (.asked r.request r.value r.index r.length result)

/-- The data that comes back has no part in it. -/
theorem BusEvent.TakesFrom.of_asked {r : ControlRequest} {request : UInt8} {value index length : UInt16}
    {result result' : Except TransferError Bytes}
    (h : (BusEvent.asked request value index length result).TakesFrom r) :
    (BusEvent.asked request value index length result').TakesFrom r := by
  cases h with
  | asked hr => exact .asked hr

theorem BusEvent.TakesFrom.packet? {r : ControlRequest} {e : BusEvent} (h : e.TakesFrom r) :
    e.packet? = some r.packet := by
  cases h with
  | sent hr hsize =>
    have hlow : UInt8.ofNat r.length.toNat = LittleEndian.low r.length := by
      apply UInt8.toNat_inj.mp
      simp [LittleEndian.low]
    simp only [BusEvent.packet?, ControlRequest.packet, ControlRequest.requestType, hr, hsize, hlow]
    rfl
  | asked hr => simp [BusEvent.packet?, ControlRequest.packet, ControlRequest.requestType, hr]

/-- The builders whose requests stand for a call that is accepted while this is claimed. -/
inductive Commission.Builds (x : Commission) (claim : Option Claim) : ControlRequest → Prop
  | getStatus {c : Claim} : claim = some c → x.request = .getStatus →
    Builds x claim (.getStatus c.interface)
  | dnload {c : Claim} {block length : UInt16} {data : Bytes} : claim = some c →
    x.request = .dnload block data → data.size = length.toNat →
    Builds x claim (.dnload c.interface block length)
  | upload {c : Claim} {block length : UInt16} : claim = some c → x.request = .upload block length →
    Builds x claim (.upload c.interface block length)
  | detach {c : Claim} {timeout : UInt16} : claim = some c → x.request = .detach timeout →
    Builds x claim (.detach c.interface timeout)
  /-- To select an interface takes the status, and perhaps what makes the device idle. -/
  | settling {interface setting : UInt8} {r : ControlRequest} :
    x.request.selection? = some (interface, setting) →
    r ∈ [.getStatus interface, .clearStatus interface, .abort interface] → Builds x claim r

namespace Threaded

variable {wire : Wire} {h : List Transition} {s : Threaded Commission} {x : Commission}
  {claim : Option Claim}

/-- The transfer of an operation takes its fields from the request that was built for it. -/
theorem takesFrom_of_transfers {r : ControlRequest} {data : Bytes} {e : BusEvent} {reply : Reply}
    (hdata : r.direction = .out → data.size = r.length.toNat) (h : r.Transfers data e reply) :
    e.TakesFrom r := by
  cases h with
  | sent result hr => exact .sent hr (hdata hr)
  | asked result hr => exact .asked hr

theorem builds_of_control? {c : Claim} {r : ControlRequest} {data : Bytes}
    (hfits : x.request.Fits) (hc : claim = some c)
    (h : x.request.control? c.interface = some (r, data)) :
    x.Builds claim r ∧ (r.direction = .out → data.size = r.length.toNat) := by
  obtain ⟨number, target, request⟩ := x
  cases request with
  | setInterface => cases h
  | getStatus =>
    obtain ⟨rfl, rfl⟩ := Prod.mk.inj (Option.some.inj h)
    exact ⟨.getStatus hc rfl, nofun⟩
  | dnload block data =>
    obtain ⟨rfl, rfl⟩ := Prod.mk.inj (Option.some.inj h)
    have hsize : data.size = (UInt16.ofNat data.size).toNat := (UInt16.toNat_ofNat_of_lt' hfits).symm
    exact ⟨.dnload hc rfl hsize, fun _ => hsize⟩
  | upload block length =>
    obtain ⟨rfl, rfl⟩ := Prod.mk.inj (Option.some.inj h)
    exact ⟨.upload hc rfl, nofun⟩
  | detach timeout =>
    obtain ⟨rfl, rfl⟩ := Prod.mk.inj (Option.some.inj h)
    exact ⟨.detach hc rfl, fun _ => rfl⟩

/-- The action is no transfer, or it takes its fields from a request that was built for the call. -/
def Built (x : Commission) (claim : Option Claim) (e : BusEvent) : Prop :=
  e.packet? = none ∨ ∃ r, x.Builds claim r ∧ e.TakesFrom r

section
variable {interface setting : UInt8} {actions : List BusEvent}

theorem built_reported (h : x.request.selection? = some (interface, setting)) (data : Bytes) :
    Built x claim (.reported interface data) :=
  .inr ⟨.getStatus interface, .settling h (by simp), .asked rfl⟩

theorem built_clearStatus (h : x.request.selection? = some (interface, setting))
    (result : Except TransferError Unit) :
    Built x claim (.sent clearStatusCode 0 interface.toUInt16 #[] result) :=
  .inr ⟨.clearStatus interface, .settling h (by simp), .sent rfl rfl⟩

theorem built_abort (h : x.request.selection? = some (interface, setting))
    (result : Except TransferError Unit) :
    Built x claim (.sent abortCode 0 interface.toUInt16 #[] result) :=
  .inr ⟨.abort interface, .settling h (by simp), .sent rfl rfl⟩

theorem built_of_settles (h : x.request.selection? = some (interface, setting))
    (hs : Settles interface actions) : ∀ e ∈ actions, Built x claim e := by
  obtain ⟨-, hclears⟩ := hs
  intro e he
  rcases List.mem_cons.mp he with rfl | he
  · exact built_reported h _
  · rcases List.mem_append.mp he with hclearing | habort
    · cases hclears with
      | good => cases hclearing
      | bad =>
        simp only [List.mem_cons, List.not_mem_nil, or_false] at hclearing
        rcases hclearing with rfl | rfl
        · exact built_clearStatus h _
        · exact built_reported h _
    · split at habort
      · cases habort
      · obtain rfl := List.mem_singleton.mp habort
        exact built_abort h _

theorem built_of_selects (h : x.request.selection? = some (interface, setting))
    (hs : Selects interface setting actions) : ∀ e ∈ actions, Built x claim e := by
  obtain ⟨hsettles⟩ := hs
  exact List.forall_mem_cons.mpr ⟨.inl rfl, List.forall_mem_cons.mpr
    ⟨.inl rfl, built_of_settles h hsettles⟩⟩

/-- An action that fails has the fields that it would have had otherwise. -/
theorem Built.fails {wanted failed : BusEvent} {cause : UsbError} (h : Built x claim wanted)
    (hf : wanted.Fails failed cause) : Built x claim failed := by
  rcases h with hnone | ⟨r, hr, htakes⟩
  · cases hf with
    | claim | alternate => exact .inl rfl
    | _ => cases hnone
  · refine .inr ⟨r, hr, ?_⟩
    cases hf with
    | claim | alternate => cases htakes
    | sent =>
      cases htakes with
      | sent hout hsize => exact .sent hout hsize
    | asked | unreadable => exact htakes.of_asked

end

/-- All that a thread does to the device is built for its call. -/
theorem Discharge.built {es : List Happening} {e : BusEvent} (h : Discharge x claim es)
    (hfits : x.request.Fits) (he : .acted x e ∈ es) : Built x claim e := by
  cases h with
  | transferred hc hcontrol htransfers =>
    obtain rfl : e = _ := by simpa using he
    obtain ⟨hbuilds, hdata⟩ := builds_of_control? hfits hc hcontrol
    exact .inr ⟨_, hbuilds, takesFrom_of_transfers hdata htransfers⟩
  | @selected _ _ actions hselection hselects =>
    have hmem : e ∈ actions := by simpa using he
    exact built_of_selects hselection hselects e hmem
  | unclaimed =>
    obtain rfl : e = _ := by simpa using he
    exact .inl rfl
  | @unselected _ _ good rest wanted failed _ hselection _ hselects hfails =>
    have hgood : ∀ e ∈ _, Built x claim e := built_of_selects hselection hselects
    have hmem : e ∈ good ∨ e = failed := by simpa using he
    rcases hmem with hmem | rfl
    · exact hgood e (List.mem_append_left _ hmem)
    · exact (hgood wanted (by simp)).fails hfails

/-- What is wanted of the packets that went over the wire. -/
structure Described (wire : Wire) (h : List Transition) (s : Threaded Commission) : Prop where
  /-- They are those of the actions of the threads, in their order. -/
  traffic : s.packets = (Threaded.new wire).packets ++
    (events h).filterMap fun e => e.acted?.bind BusEvent.packet?
  /-- The fields of a transfer, and with them the packet, are those of a request that was built for the
  call. -/
  built : ∀ x e p, .acted x e ∈ events h → e.packet? = some p →
    ∃ τ ∈ h, τ.event = .called x (.ok ()) ∧
      ∃ r, x.Builds τ.before.link.claimed r ∧ e.TakesFrom r ∧ p = r.packet

theorem Runs.traffic (hr : Runs wire h s) :
    s.packets = (Threaded.new wire).packets ++
      (events h).filterMap fun e => e.acted?.bind BusEvent.packet? := by
  induction hr with
  | new => simp [events]
  | @step h s s' e hr hs _ ih =>
    rw [hs.follows.packets, ih, events_append, List.filterMap_append, List.append_assoc]
    cases hp : e.acted?.bind BusEvent.packet? <;> simp [events, hp]

theorem Runs.built (hr : Runs wire h s) {e : BusEvent} (he : .acted x e ∈ events h) :
    ∃ τ ∈ h, τ.event = .called x (.ok ()) ∧ Built x τ.before.link.claimed e := by
  have hown : .acted x e ∈ own x (events h) := (mem_own rfl).mpr he
  obtain ⟨τ, hτ, hx⟩ := mem_events.mp (hr.called_of_worker he rfl)
  obtain ⟨later, hdischarge⟩ := (hr.stands hτ hx).course
  have hadmissible := (hx ▸ hr.transition τ hτ).admissible_iff.mpr (.inl rfl)
  exact ⟨τ, hτ, hx, hdischarge.built hadmissible.fits (List.mem_append_left _ hown)⟩

/-- Take any calls, any device, and any order in which the threads take their steps. Every control
transfer has the fields of a request that was built for its call, the length being the size of the data,
and its setup packet is the packet of that request. A packet says what its request is, field by field,
so that it can be read back and no two requests have the same. -/
theorem Runs.described (hr : Runs wire h s) :
    Described wire h s ∧ ∀ r : ControlRequest, r.Spells r.packet ∧
      (∀ p, ControlRequest.ofPacket? p = some r ↔ p = r.packet) ∧
      ∀ r' : ControlRequest, r'.packet = r.packet → r' = r := by
  refine ⟨⟨hr.traffic, fun x e p he hp => ?_⟩, fun r => ⟨r.spells_packet,
    fun p => ControlRequest.ofPacket?_eq_some_iff, fun r' => ControlRequest.packet_inj.mp⟩⟩
  obtain ⟨τ, hτ, hx, hbuilt⟩ := hr.built he
  rcases hbuilt with hnone | ⟨r, hbuilds, htakes⟩
  · rw [hp] at hnone
    cases hnone
  · rw [htakes.packet?] at hp
    exact ⟨τ, hτ, hx, r, hbuilds, htakes, (Option.some.inj hp).symm⟩

/-- The packets of a selection on an idle device are described. -/
theorem selection_described :
    ∃ h, Runs ⟨idleDevice, #[]⟩ h ⟨selected, []⟩ ∧
      (⟨selected, []⟩ : Threaded Commission).packets = [(ControlRequest.getStatus 2).packet] ∧
      Described ⟨idleDevice, #[]⟩ h ⟨selected, []⟩ := by
  obtain ⟨h, hr, -⟩ := runs_selected
  exact ⟨h, hr, by decide +kernel, hr.described.1⟩

end Threaded

end FirmwareUpgrade
