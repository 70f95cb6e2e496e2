import FirmwareUpgrade.Host.Dispatcher
import Mathlib.Data.List.Induction
import Mathlib.Data.List.Nodup

/-!
# The dispatcher is a finite map

Callbacks are registered for pairs of vendor and product, and events are handed in for such pairs.
The callbacks may be anything: each has a state, and a call changes it and the outside world. What
happens is written down in a log, with the calls as the callbacks themselves note them, and from the
log alone `current?` reads which callback a pair has and in which state. `Routes` says that the
dispatcher calls this callback and no other.

The list that the dispatcher keeps holds no pair twice, so it does not matter which registration of
a pair a search comes upon first.
-/
namespace FirmwareUpgrade

/-- The pair that a registration is for. -/
def Registration.pair {γ : Type} (r : Registration γ) : UInt16 × UInt16 := (r.vendor, r.product)

theorem Registration.isFor_iff {γ : Type} {r : Registration γ} {vendor product : UInt16} :
    r.isFor vendor product = true ↔ r.pair = (vendor, product) := by
  simp [isFor, pair]

namespace Dispatcher

variable {γ ω : Type}

/-! ## What is done and what happens -/

/-- What is done with a dispatcher. -/
inductive Command (γ : Type) where
  | register (vendor product : UInt16) (callback : γ)
  | dispatch (vendor product : UInt16) (host : HostHandle) (device : DeviceHandle)
      (event : HostEvent)

/-- A call of a callback: the state that it was in, what it was given, and the state that it was
left in. -/
structure Call (γ : Type) where
  callback : γ
  host : HostHandle
  device : DeviceHandle
  event : HostEvent
  next : γ

/-- Something that happened to a dispatcher. -/
inductive Entry (γ : Type) where
  | registered (vendor product : UInt16) (callback : γ)
  /-- An event was handed in, with the calls that came of it and the answer. -/
  | dispatched (vendor product : UInt16) (calls : List (Call γ)) (status : EventStatus)

/-- What the callback of a pair is behind an entry that concerns the pair. -/
def Entry.callback? (vendor product : UInt16) : Entry γ → Option γ
  | registered v p callback => if (v, p) = (vendor, product) then some callback else none
  | dispatched v p calls _ =>
    if (v, p) = (vendor, product) then calls.getLast?.map (·.next) else none

/-- The callback that was last registered for a pair, in the state that its last call left it in. -/
def current? (vendor product : UInt16) (log : List (Entry γ)) : Option γ :=
  (log.filterMap (·.callback? vendor product)).getLast?

section
variable (invoke : γ → HostHandle → DeviceHandle → HostEvent → ω → Reaction γ ω)

/-- The same callbacks, each of which also notes that it was called. -/
def noting (callback : γ) (host : HostHandle) (device : DeviceHandle) (event : HostEvent)
    (w : ω × List (Call γ)) : Reaction γ (ω × List (Call γ)) :=
  let r := invoke callback host device event w.1
  { callback := r.callback
    world := (r.world, w.2 ++ [⟨callback, host, device, event, r.callback⟩])
    status := r.status
    notices := r.notices }

/-- The calls that come of an event. -/
def calls (d : Dispatcher γ) (vendor product : UInt16) (host : HostHandle) (device : DeviceHandle)
    (event : HostEvent) (world : ω) : List (Call γ) :=
  (d.dispatch (noting invoke) vendor product host device event (world, [])).2.1.2

/-- A dispatcher in its world, with all that has happened to it, oldest first. -/
structure Chronicle (γ ω : Type) where
  dispatcher : Dispatcher γ
  world : ω
  log : List (Entry γ)

namespace Chronicle

def new (world : ω) : Chronicle γ ω := ⟨.empty, world, []⟩

def next (s : Chronicle γ ω) : Command γ → Chronicle γ ω
  | .register vendor product callback =>
    ⟨s.dispatcher.register vendor product callback, s.world,
      s.log ++ [.registered vendor product callback]⟩
  | .dispatch vendor product host device event =>
    let calls := s.dispatcher.calls invoke vendor product host device event s.world
    let (dispatcher, world, status, _) :=
      s.dispatcher.dispatch invoke vendor product host device event s.world
    ⟨dispatcher, world, s.log ++ [.dispatched vendor product calls status]⟩

def after (s : Chronicle γ ω) (cs : List (Command γ)) : Chronicle γ ω := cs.foldl (next invoke) s

end Chronicle

/-- The dispatcher does as the log tells, and the next event is handled as the log tells. -/
structure Routes (s : Chronicle γ ω) : Prop where
  /-- No pair is stored twice. -/
  distinct : (s.dispatcher.registrations.map Registration.pair).Nodup
  lookup : ∀ vendor product, s.dispatcher.lookup? vendor product = current? vendor product s.log
  /-- An event is given to the callback of its pair, once and with what came with it, and to no
  other. The callback answers, and is found in its new state from then on. -/
  served : ∀ vendor product host device event callback,
    current? vendor product s.log = some callback →
    let r := invoke callback host device event s.world
    s.dispatcher.calls invoke vendor product host device event s.world =
        [⟨callback, host, device, event, r.callback⟩] ∧
      ∃ d, s.dispatcher.dispatch invoke vendor product host device event s.world =
          (d, r.world, r.status, r.notices) ∧
        ∀ v p, d.lookup? v p =
          if (v, p) = (vendor, product) then some r.callback else s.dispatcher.lookup? v p
  /-- Without a callback nothing is called and nothing changes. -/
  unserved : ∀ vendor product host device event, current? vendor product s.log = none →
    s.dispatcher.calls invoke vendor product host device event s.world = [] ∧
      s.dispatcher.dispatch invoke vendor product host device event s.world =
        (s.dispatcher, s.world, .notSupported, [.noDriver vendor product])

end

/-! ## The list is a map -/

section
variable (d : Dispatcher γ) (vendor product v p : UInt16) (callback : γ)

theorem lookup?_nil : (⟨[]⟩ : Dispatcher γ).lookup? v p = none := rfl

theorem lookup?_cons (r : Registration γ) (rs : List (Registration γ)) :
    (⟨r :: rs⟩ : Dispatcher γ).lookup? v p =
      if r.pair = (v, p) then some r.callback else (⟨rs⟩ : Dispatcher γ).lookup? v p := by
  unfold lookup?
  rw [List.find?_cons]
  by_cases h : r.pair = (v, p)
  · simp [h, Registration.isFor_iff.mpr h]
  · simp [h, Bool.eq_false_iff.mpr fun hf => h (Registration.isFor_iff.mp hf)]

theorem lookup?_append (rs ss : List (Registration γ)) :
    (⟨rs ++ ss⟩ : Dispatcher γ).lookup? v p =
      ((⟨rs⟩ : Dispatcher γ).lookup? v p).or ((⟨ss⟩ : Dispatcher γ).lookup? v p) := by
  unfold lookup?
  rw [List.find?_append]
  cases List.find? (·.isFor v p) rs <;> rfl

/-- What is left when the registrations of a pair are taken out. -/
theorem lookup?_filter (rs : List (Registration γ)) :
    (⟨rs.filter fun r => !r.isFor vendor product⟩ : Dispatcher γ).lookup? v p =
      if (v, p) = (vendor, product) then none else (⟨rs⟩ : Dispatcher γ).lookup? v p := by
  induction rs with
  | nil => simp [lookup?_nil]
  | cons r rs ih =>
    rw [List.filter_cons, lookup?_cons]
    by_cases hr : r.pair = (vendor, product)
    · simp only [Registration.isFor_iff.mpr hr, Bool.not_true, Bool.false_eq_true, if_false, ih, hr]
      by_cases hv : (v, p) = (vendor, product)
      · simp [hv]
      · simp [hv, Ne.symm hv]
    · have hnot : r.isFor vendor product = false :=
        Bool.eq_false_iff.mpr fun hf => hr (Registration.isFor_iff.mp hf)
      simp only [hnot, Bool.not_false, if_true, lookup?_cons, ih]
      by_cases hv : (v, p) = (vendor, product)
      · simp [hv, hr]
      · simp [hv]

theorem lookup?_register : (d.register vendor product callback).lookup? v p =
    if (v, p) = (vendor, product) then some callback else d.lookup? v p := by
  unfold register
  rw [lookup?_append, lookup?_filter, lookup?_cons, lookup?_nil]
  by_cases hv : (v, p) = (vendor, product)
  · simp [hv, Registration.pair]
  · simp [hv, Registration.pair, Ne.symm hv]

theorem lookup?_update (rs : List (Registration γ)) :
    (⟨update vendor product callback rs⟩ : Dispatcher γ).lookup? v p =
      if (v, p) = (vendor, product) then
        ((⟨rs⟩ : Dispatcher γ).lookup? vendor product).map fun _ => callback
      else (⟨rs⟩ : Dispatcher γ).lookup? v p := by
  induction rs with
  | nil => simp [update, lookup?_nil]
  | cons r rs ih =>
    unfold update
    split
    · rename_i hr
      have hr := Registration.isFor_iff.mp hr
      have hsame : ({ r with callback } : Registration γ).pair = (vendor, product) := hr
      rw [lookup?_cons, lookup?_cons, lookup?_cons, hsame, hr]
      by_cases hv : (v, p) = (vendor, product)
      · simp [hv]
      · simp [hv, Ne.symm hv]
    · rename_i hr
      have hr : r.pair ≠ (vendor, product) := fun h => hr (Registration.isFor_iff.mpr h)
      rw [lookup?_cons, lookup?_cons, lookup?_cons, ih, if_neg hr]
      by_cases hv : (v, p) = (vendor, product)
      · simp [hv, hr]
      · simp [hv]

theorem pairs_update (rs : List (Registration γ)) :
    (update vendor product callback rs).map Registration.pair = rs.map Registration.pair := by
  induction rs with
  | nil => rfl
  | cons r rs ih =>
    unfold update
    split
    · rfl
    · rw [List.map_cons, List.map_cons, ih]

/-- An event leaves every callback where it is. -/
theorem pairs_dispatch (invoke : γ → HostHandle → DeviceHandle → HostEvent → ω → Reaction γ ω)
    (host : HostHandle) (device : DeviceHandle) (event : HostEvent) (world : ω) :
    (d.dispatch invoke vendor product host device event world).1.registrations.map
      Registration.pair = d.registrations.map Registration.pair := by
  unfold dispatch
  split
  · rfl
  · exact pairs_update ..

/-- An event changes the state of the callback of its pair. -/
theorem lookup?_dispatch (invoke : γ → HostHandle → DeviceHandle → HostEvent → ω → Reaction γ ω)
    (host : HostHandle) (device : DeviceHandle) (event : HostEvent) (world : ω) :
    (d.dispatch invoke vendor product host device event world).1.lookup? v p =
      if (v, p) = (vendor, product) then
        (d.lookup? vendor product).map fun callback =>
          (invoke callback host device event world).callback
      else d.lookup? v p := by
  unfold dispatch
  cases h : d.lookup? vendor product with
  | none =>
    by_cases hv : (v, p) = (vendor, product)
    · obtain ⟨rfl, rfl⟩ := Prod.mk.inj hv
      simpa using h
    · simp [hv]
  | some callback =>
    rw [lookup?_update, h]
    rfl

theorem nodup_register (h : (d.registrations.map Registration.pair).Nodup) :
    ((d.register vendor product callback).registrations.map Registration.pair).Nodup := by
  unfold register
  rw [List.map_append, List.map_singleton, List.nodup_append]
  refine ⟨h.sublist (List.filter_sublist.map _), List.nodup_singleton _, ?_⟩
  -- A registration that was kept is not for the pair of the new one.
  rintro _ hold _ hnew rfl
  obtain ⟨r, hr, hpair⟩ := List.mem_map.mp hold
  have hnot : r.isFor vendor product = false := by simpa using (List.mem_filter.mp hr).2
  have hfor := Registration.isFor_iff.mpr (hpair.trans (List.mem_singleton.mp hnew))
  exact Bool.false_ne_true (hnot.symm.trans hfor)

end

/-! ## The log -/

section
variable (vendor product v p : UInt16) (log : List (Entry γ)) (callback : γ)

theorem current?_append_singleton (e : Entry γ) : current? v p (log ++ [e]) =
    (e.callback? v p).or (current? v p log) := by
  unfold current?
  rw [List.filterMap_append]
  cases h : e.callback? v p with
  | none => simp [h]
  | some callback => simp [h]

theorem current?_registered : current? v p (log ++ [.registered vendor product callback]) =
    if (v, p) = (vendor, product) then some callback else current? v p log := by
  rw [current?_append_singleton]
  by_cases hv : (v, p) = (vendor, product)
  · simp [Entry.callback?, hv]
  · simp [Entry.callback?, hv, Ne.symm hv]

theorem current?_dispatched (call : Call γ) (status : EventStatus) :
    current? v p (log ++ [.dispatched vendor product [call] status]) =
      if (v, p) = (vendor, product) then some call.next else current? v p log := by
  rw [current?_append_singleton]
  by_cases hv : (v, p) = (vendor, product)
  · simp [Entry.callback?, hv]
  · simp [Entry.callback?, hv, Ne.symm hv]

theorem current?_undispatched (status : EventStatus) :
    current? v p (log ++ [.dispatched vendor product [] status]) = current? v p log := by
  rw [current?_append_singleton]
  simp [Entry.callback?]

end

/-! ## The dispatcher does as the log tells -/

section
variable {invoke : γ → HostHandle → DeviceHandle → HostEvent → ω → Reaction γ ω}
  {s : Chronicle γ ω}

/-- What the list has to do with the log is enough to say how an event is handled. -/
theorem routes_of_lookup (hdistinct : (s.dispatcher.registrations.map Registration.pair).Nodup)
    (hlookup : ∀ v p, s.dispatcher.lookup? v p = current? v p s.log) : Routes invoke s where
  distinct := hdistinct
  lookup := hlookup
  served vendor product host device event callback h := by
    have hfound := (hlookup vendor product).trans h
    have hafter v p :=
      s.dispatcher.lookup?_dispatch vendor product v p invoke host device event s.world
    rw [hfound] at hafter
    exact ⟨by simp [calls, dispatch, hfound, noting], _, by simp [dispatch, hfound], hafter⟩
  unserved vendor product host device event h := by
    have hfound := (hlookup vendor product).trans h
    exact ⟨by simp [calls, dispatch, hfound], by simp [dispatch, hfound]⟩

theorem routes_new (world : ω) : Routes invoke (.new world : Chronicle γ ω) :=
  routes_of_lookup List.nodup_nil fun _ _ => rfl

/-- What the log says of a pair once an event was handed in. -/
theorem Routes.current?_next (h : Routes invoke s) (vendor product v p : UInt16)
    (host : HostHandle) (device : DeviceHandle) (event : HostEvent) :
    current? v p (s.next invoke (.dispatch vendor product host device event)).log =
      if (v, p) = (vendor, product) then
        (current? vendor product s.log).map fun callback =>
          (invoke callback host device event s.world).callback
      else current? v p s.log := by
  unfold Chronicle.next
  cases hc : current? vendor product s.log with
  | none =>
    obtain ⟨hcalls, -⟩ := h.unserved vendor product host device event hc
    simp only [hcalls]
    rw [current?_undispatched]
    by_cases hv : (v, p) = (vendor, product)
    · obtain ⟨rfl, rfl⟩ := Prod.mk.inj hv
      simpa using hc
    · simp [hv]
  | some callback =>
    obtain ⟨hcalls, -⟩ := h.served vendor product host device event callback hc
    simp only [hcalls]
    rw [current?_dispatched]
    rfl

/-- Whatever is done next, the dispatcher still does as the log tells. -/
theorem Routes.next (h : Routes invoke s) (c : Command γ) : Routes invoke (s.next invoke c) := by
  cases c with
  | register vendor product callback =>
    refine routes_of_lookup (nodup_register _ _ _ _ h.distinct) fun v p => ?_
    change (s.dispatcher.register vendor product callback).lookup? v p = current? v p (s.log ++ _)
    rw [lookup?_register, current?_registered, h.lookup]
  | dispatch vendor product host device event =>
    have hpairs := s.dispatcher.pairs_dispatch vendor product invoke host device event s.world
    refine routes_of_lookup (hpairs.symm ▸ h.distinct) fun v p => ?_
    rw [h.current?_next, ← h.lookup, ← h.lookup]
    exact lookup?_dispatch ..

/-- A pair has a callback exactly if one was registered for it. -/
theorem Routes.isSome_next (h : Routes invoke s) (c : Command γ) (v p : UInt16) :
    (current? v p (s.next invoke c).log).isSome ↔
      (∃ callback, c = .register v p callback) ∨ (current? v p s.log).isSome := by
  cases c with
  | register vendor product callback =>
    change (current? v p (s.log ++ [.registered vendor product callback])).isSome ↔ _
    rw [current?_registered]
    by_cases hv : (v, p) = (vendor, product)
    · obtain ⟨rfl, rfl⟩ := Prod.mk.inj hv
      simp
    · have hother : ¬∃ other, Command.register vendor product callback = .register v p other := by
        rintro ⟨other, he⟩
        obtain ⟨rfl, rfl, -⟩ := Command.register.inj he
        exact hv rfl
      rw [or_iff_right hother, if_neg hv]
  | dispatch vendor product host device event =>
    have hother : ¬∃ callback, (.dispatch vendor product host device event : Command γ) =
        .register v p callback := by simp
    rw [or_iff_right hother, h.current?_next]
    by_cases hv : (v, p) = (vendor, product)
    · obtain ⟨rfl, rfl⟩ := Prod.mk.inj hv
      simp
    · simp [hv]

/-- Register callbacks for pairs, any number of them and over one another, and hand in events, in
any order. The callbacks have states of any kind, and do with an event and the outside world what
they like. The dispatcher never holds a pair twice, and it has a callback for just those pairs for
which one was registered. An event makes the one call of the callback that was registered last for
its pair, in the state that its last call left it in, and the dispatcher gives its answer. An event
for any other pair is not supported, and calls and changes nothing. -/
theorem routes_to_latest
    (invoke : γ → HostHandle → DeviceHandle → HostEvent → ω → Reaction γ ω) (world : ω)
    (cs : List (Command γ)) :
    let s := (Chronicle.new world).after invoke cs
    Routes invoke s ∧
      ∀ v p, (current? v p s.log).isSome ↔ ∃ callback, .register v p callback ∈ cs := by
  intro s
  induction cs using List.reverseRecOn with
  | nil =>
    exact ⟨routes_new world, fun v p => by simp [s, Chronicle.after, Chronicle.new, current?]⟩
  | append_singleton cs c ih =>
    obtain ⟨hroutes, hknown⟩ := ih
    have hs : s = ((Chronicle.new world).after invoke cs).next invoke c := List.foldl_concat ..
    rw [hs]
    refine ⟨hroutes.next c, fun v p => ?_⟩
    rw [hroutes.isSome_next, hknown]
    constructor
    · rintro (⟨callback, rfl⟩ | ⟨callback, hc⟩)
      · exact ⟨callback, by simp⟩
      · exact ⟨callback, by simp [hc]⟩
    · rintro ⟨callback, hc⟩
      rcases List.mem_append.mp hc with hc | hc
      · exact .inr ⟨callback, hc⟩
      · exact .inl ⟨callback, (List.mem_singleton.mp hc).symm⟩

/-- The first callback of a pair is called once and then replaced by another, which has been called
once when the next event comes. A third one has the vendor in common with them. -/
example :
    let count : Nat × Nat → HostHandle → DeviceHandle → HostEvent → Unit →
        Reaction (Nat × Nat) Unit :=
      fun c _ _ _ w => ⟨(c.1, c.2 + 1), w, .success, []⟩
    let s := (Chronicle.new ()).after count
      [.register 1 2 (0, 0), .register 1 3 (1, 0), .dispatch 1 2 ⟨0⟩ ⟨0⟩ .enumerationDone,
        .register 1 2 (2, 0), .dispatch 1 2 ⟨0⟩ ⟨0⟩ .enumerationDone]
    (s.dispatcher.calls count 1 2 ⟨0⟩ ⟨0⟩ .detach ()).map (·.callback) = [(2, 1)] := by
  decide

end

end Dispatcher

end FirmwareUpgrade
