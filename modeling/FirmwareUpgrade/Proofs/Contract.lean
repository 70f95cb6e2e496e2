import FirmwareUpgrade.Proofs.Quiescence

/-!
# The accelerator keeps the contract of a class driver

A class driver calls the completion of an operation that it accepted exactly once, and that of an
operation that it refused never. What happens between the accelerator and whoever uses it is written
down here as a list of events, from which the live class handle and the operations that are
completed or not are read off. `Contract` says how the accelerator stands to what has happened so
far, and what comes of the next thing that is asked of it.

Anybody may ask for anything in any order, with any handles. `Accords` is what every demand
preserves, whichever `Submission` comes of it.
-/
namespace FirmwareUpgrade

namespace Accelerator

variable {α : Type}

/-! ## What is asked and what happens -/

/-- What is asked of an accelerator. -/
inductive Demand (α : Type) where
  | init (wanted : DeviceHandle)
  | submit (target : ClassHandle) (request : ClassCall) (x : α)
  | deinit (target : ClassHandle)
  | busReset
  | reEnumerate
  /-- The oldest completion that is held back is to be called. -/
  | complete

def Demand.isComplete : Demand α → Bool
  | complete => true
  | _ => false

/-- What happens between an accelerator and those who use it. -/
inductive Event (α : Type) where
  /-- A class handle is given out. -/
  | opened (target : ClassHandle)
  /-- A class handle is taken back. -/
  | closed (target : ClassHandle)
  /-- An operation is accepted. The reply is what the device has for it at that time. -/
  | accepted (x : α) (reply : Reply)
  | called (x : α) (reply : Reply)

namespace Event

def accepted? : Event α → Option (α × Reply)
  | accepted x reply => some (x, reply)
  | _ => none

def called? : Event α → Option (α × Reply)
  | called x reply => some (x, reply)
  | _ => none

def opened? : Event α → Option ClassHandle
  | opened target => some target
  | _ => none

/-- The live handle after an event, from that before it. -/
def live (target : Option ClassHandle) : Event α → Option ClassHandle
  | opened target => some target
  | closed _ => none
  | _ => target

end Event

/-- The accelerator after a demand. -/
def meet (a : Accelerator α) : Demand α → Accelerator α
  | .init wanted => (a.init wanted).1
  | .submit target request x => (a.submit target request x).1
  | .deinit target => (a.deinit target).1
  | .busReset => a.busReset
  | .reEnumerate => a.reEnumerate
  | .complete => a.takeHeld.1

/-- What happens at a demand. -/
def events (a : Accelerator α) : Demand α → List (Event α)
  | .init wanted =>
    match (a.init wanted).2 with
    | .ok target => [.opened target]
    | .error _ => []
  | .submit target request x =>
    let answer := (a.submit target request x).2
    (match answer.result with
      | .ok () => [.accepted x (a.respond request).2.1]
      | .error _ => []) ++ answer.delivered.map fun d => .called d.1 d.2
  | .deinit target =>
    match (a.deinit target).2 with
    | .ok () => [.closed target]
    | .error _ => []
  | .busReset | .reEnumerate => []
  | .complete => a.takeHeld.2.toList.map fun d => .called d.1 d.2

/-- An accelerator with all that has happened to it, oldest first. -/
structure Chronicle (α : Type) where
  accelerator : Accelerator α
  events : List (Event α)

namespace Chronicle

/-- Nothing has happened to a new accelerator. -/
def new (faults : Faults) (deferred : Bool) : Chronicle α := ⟨.new faults deferred, []⟩

def next (c : Chronicle α) (d : Demand α) : Chronicle α :=
  ⟨c.accelerator.meet d, c.events ++ c.accelerator.events d⟩

def after (c : Chronicle α) (ds : List (Demand α)) : Chronicle α := ds.foldl next c

end Chronicle

/-! ## What the events tell -/

/-- The operations that were accepted, in the order of issue, each with its reply. -/
def accepted (es : List (Event α)) : List (α × Reply) := es.filterMap Event.accepted?

/-- The completions that were called, in this order. -/
def called (es : List (Event α)) : List (α × Reply) := es.filterMap Event.called?

/-- The class handles that were given out. -/
def opened (es : List (Event α)) : List ClassHandle := es.filterMap Event.opened?

/-- The handle that was given out last, unless it was taken back since. -/
def live (es : List (Event α)) : Option ClassHandle := es.foldl Event.live none

/-- How many operations were accepted and their completions not called. -/
def undelivered (es : List (Event α)) : Nat := (accepted es).length - (called es).length

/-- How many operations were ever accepted and not completed at a time. -/
def peaks (es : List (Event α)) : Set Nat := {n | ∃ before, before <+: es ∧ undelivered before = n}

section
variable (e : Event α) (es later : List (Event α))

@[simp] theorem accepted_nil : accepted ([] : List (Event α)) = [] := rfl
@[simp] theorem called_nil : called ([] : List (Event α)) = [] := rfl
@[simp] theorem opened_nil : opened ([] : List (Event α)) = [] := rfl

@[simp] theorem accepted_cons : accepted (e :: es) = e.accepted?.toList ++ accepted es := by
  cases h : e.accepted? <;> simp [accepted, h]

@[simp] theorem called_cons : called (e :: es) = e.called?.toList ++ called es := by
  cases h : e.called? <;> simp [called, h]

@[simp] theorem opened_cons : opened (e :: es) = e.opened?.toList ++ opened es := by
  cases h : e.opened? <;> simp [opened, h]

@[simp] theorem accepted_append : accepted (es ++ later) = accepted es ++ accepted later :=
  List.filterMap_append

@[simp] theorem called_append : called (es ++ later) = called es ++ called later :=
  List.filterMap_append

@[simp] theorem opened_append : opened (es ++ later) = opened es ++ opened later :=
  List.filterMap_append

@[simp] theorem live_append : live (es ++ later) = later.foldl Event.live (live es) :=
  List.foldl_append

end

/-- One event more is one moment more. -/
theorem isGreatest_snoc {es : List (Event α)} {n : Nat} (h : IsGreatest (peaks es) n)
    (e : Event α) : IsGreatest (peaks (es ++ [e])) (max n (undelivered (es ++ [e]))) := by
  obtain ⟨⟨before, hb, rfl⟩, hn⟩ := h
  constructor
  · rcases max_choice (undelivered before) (undelivered (es ++ [e])) with hm | hm
    · exact ⟨before, hb.trans (List.prefix_append es [e]), hm.symm⟩
    · exact ⟨es ++ [e], List.prefix_rfl, hm.symm⟩
  · rintro _ ⟨earlier, he, rfl⟩
    rcases List.prefix_concat_iff.mp he with rfl | he
    · exact le_max_right _ _
    · exact (hn ⟨earlier, he, rfl⟩).trans (le_max_left _ _)

/-- With an event that opens no operation there are not more open than before. -/
theorem isGreatest_snoc_of_none {es : List (Event α)} {n : Nat} (h : IsGreatest (peaks es) n)
    {e : Event α} (he : e.accepted? = none) : IsGreatest (peaks (es ++ [e])) n := by
  have hfewer : undelivered (es ++ [e]) ≤ undelivered es := by
    simp only [undelivered, accepted_append, called_append, accepted_cons, accepted_nil, he,
      Option.toList_none, List.append_nil, List.length_append]
    omega
  have hle : undelivered (es ++ [e]) ≤ n := hfewer.trans (h.2 ⟨es, List.prefix_rfl, rfl⟩)
  have hm := isGreatest_snoc h e
  rwa [max_eq_left hle] at hm

/-! ## What every demand preserves -/

/-- The accelerator is as the events tell. -/
structure Accords (faults : Faults) (deferred : Bool) (c : Chronicle α) : Prop where
  faults_eq : c.accelerator.faults = faults
  deferred_eq : c.accelerator.deferred = deferred
  live : c.accelerator.liveClass = live c.events
  fresh : ∀ target ∈ opened c.events, target.value < c.accelerator.nextClass
  distinct : (opened c.events).Nodup
  order : accepted c.events = called c.events ++ c.accelerator.held
  prompt : c.accelerator.Prompt
  counted : c.accelerator.outstanding = c.accelerator.held.length
  peak : IsGreatest (peaks c.events) c.accelerator.maxOutstanding

namespace Accords

variable {faults : Faults} {deferred : Bool} {c : Chronicle α}

theorem new (faults : Faults) (deferred : Bool) :
    Accords faults deferred (.new faults deferred : Chronicle α) where
  faults_eq := rfl
  deferred_eq := rfl
  live := rfl
  fresh := by simp [Chronicle.new, opened]
  distinct := List.nodup_nil
  order := rfl
  prompt _ := rfl
  counted := rfl
  peak := by
    refine ⟨⟨[], List.prefix_rfl, rfl⟩, ?_⟩
    rintro _ ⟨before, hb, rfl⟩
    rw [List.prefix_nil.mp hb]
    exact le_rfl

variable (h : Accords faults deferred c)

include h

/-- That more was recorded changes nothing. -/
theorem calls (calls : Array DeviceCall) :
    Accords faults deferred ⟨{ c.accelerator with calls }, c.events ++ []⟩ := by
  rw [List.append_nil]
  exact ⟨h.faults_eq, h.deferred_eq, h.live, h.fresh, h.distinct, h.order, h.prompt, h.counted,
    h.peak⟩

theorem init (wanted : DeviceHandle) : Accords faults deferred (c.next (.init wanted)) := by
  unfold Chronicle.next meet events
  dsimp only
  rcases c.accelerator.init_cases wanted with ⟨cause, he⟩ | he
  · rw [he]
    exact h.calls _
  · rw [he]
    refine ⟨h.faults_eq, h.deferred_eq, by simp [Event.live], fun target ht => ?_, ?_,
      by simpa [Event.accepted?, Event.called?] using h.order, h.prompt, h.counted,
      isGreatest_snoc_of_none h.peak rfl⟩
    · rw [opened_append, List.mem_append] at ht
      rcases ht with ht | ht
      · exact Nat.lt_succ_of_lt (h.fresh target ht)
      · rw [List.mem_singleton.mp ht]
        exact Nat.lt_succ_self _
    · have hnew : ⟨c.accelerator.nextClass⟩ ∉ opened c.events :=
        fun hm => Nat.lt_irrefl _ (h.fresh _ hm)
      rw [opened_append]
      exact List.concat_eq_append ▸ h.distinct.concat hnew

theorem deinit (target : ClassHandle) : Accords faults deferred (c.next (.deinit target)) := by
  unfold Chronicle.next meet events
  dsimp only
  rcases c.accelerator.deinit_cases target with ⟨-, he⟩ | ⟨-, he⟩
  · rw [he]
    exact h.calls _
  · rw [he]
    exact ⟨h.faults_eq, h.deferred_eq, by simp [Event.live],
      by simpa [Event.opened?] using h.fresh, by simpa [Event.opened?] using h.distinct,
      by simpa [Event.accepted?, Event.called?] using h.order, h.prompt, h.counted,
      isGreatest_snoc_of_none h.peak rfl⟩

theorem submit (target : ClassHandle) (request : ClassCall) (x : α) :
    Accords faults deferred (c.next (.submit target request x)) := by
  have hs := c.accelerator.submission target request x
  have hpeak := isGreatest_snoc h.peak (.accepted x (c.accelerator.respond request).2.1)
  have hmore : undelivered (c.events ++ [.accepted x (c.accelerator.respond request).2.1]) =
      c.accelerator.outstanding + 1 := by
    simp [undelivered, h.order, h.counted, Event.accepted?, Event.called?]
  rw [hmore] at hpeak
  unfold Chronicle.next meet events
  dsimp only
  generalize c.accelerator.submit target request x = answer at hs
  cases hs with
  | refused cause calls => exact h.calls calls
  | held memory uploadOffset state calls notices _ hd =>
    exact ⟨h.faults_eq, h.deferred_eq, by simpa [Event.live] using h.live,
      by simpa [Event.opened?] using h.fresh, by simpa [Event.opened?] using h.distinct,
      by simp [h.order, Event.accepted?, Event.called?], fun hp => by simp [hd] at hp,
      by simp [h.counted], hpeak⟩
  | called memory uploadOffset state calls notices _ hd =>
    -- The operation is open just between the two events.
    have hheld := h.prompt hd
    have hcalled := isGreatest_snoc_of_none hpeak
      (e := .called x (c.accelerator.respond request).2.1) rfl
    rw [List.append_assoc] at hcalled
    exact ⟨h.faults_eq, h.deferred_eq, by simpa [Event.live] using h.live,
      by simpa [Event.opened?] using h.fresh, by simpa [Event.opened?] using h.distinct,
      by simp [h.order, hheld, Event.accepted?, Event.called?], h.prompt, h.counted, hcalled⟩

theorem complete : Accords faults deferred (c.next .complete) := by
  unfold Chronicle.next meet events takeHeld
  dsimp only
  cases hheld : c.accelerator.held with
  | nil => exact h.calls c.accelerator.calls
  | cons oldest rest =>
    have hcounted := h.counted
    have horder := h.order
    rw [hheld] at hcounted horder
    refine ⟨h.faults_eq, h.deferred_eq, by simpa [Event.live] using h.live,
      by simpa [Event.opened?] using h.fresh, by simpa [Event.opened?] using h.distinct,
      by simp [horder, Event.accepted?, Event.called?], fun hp => ?_, by simp [hcounted],
      isGreatest_snoc_of_none h.peak rfl⟩
    simp [h.prompt hp] at hheld

theorem next (d : Demand α) : Accords faults deferred (c.next d) := by
  cases d with
  | init wanted => exact h.init wanted
  | submit target request x => exact h.submit target request x
  | deinit target => exact h.deinit target
  | busReset | reEnumerate => exact h.calls _
  | complete => exact h.complete

theorem after (ds : List (Demand α)) : Accords faults deferred (c.after ds) := by
  induction ds generalizing c with
  | nil => exact h
  | cons d ds ih => exact ih (h.next d)

end Accords

/-! ## The contract -/

theorem Chronicle.events_after (c : Chronicle α) (ds : List (Demand α)) :
    c.events <+: (c.after ds).events := by
  induction ds generalizing c with
  | nil => exact List.prefix_rfl
  | cons d ds ih => exact (List.prefix_append c.events _).trans (ih (c.next d))

/-- How an accelerator stands to what has happened to it, and what comes of the next demand. -/
structure Contract (faults : Faults) (deferred : Bool) (c : Chronicle α) : Prop where
  /-- The completions called are those of the operations that were accepted first, in the order of
  issue, each called once with the reply that the device had at the time of issue. The others are
  held back. -/
  order : accepted c.events = called c.events ++ c.accelerator.held
  prompt : deferred = false → c.accelerator.held = []
  /-- An operation needs the handle that was given out last and is not taken back. -/
  admission : ∀ target request x, (c.accelerator.submit target request x).2.result = .ok () ↔
    isForeign request = false ∧ live c.events = some target ∧
      faults.reject ≠ some request.operation
  /-- The completion of an operation that is accepted is called inside the call, or not yet. -/
  delivery : ∀ target request x, (c.accelerator.submit target request x).2.result = .ok () →
    (c.accelerator.submit target request x).2.delivered =
      if deferred then [] else [(x, (c.accelerator.respond request).2.1)]
  /-- An operation that is refused calls nothing. What comes later does so as if it had never been
  asked for, except that it may be in the record of calls. -/
  refusal : ∀ target request x cause,
    (c.accelerator.submit target request x).2.result = .error cause →
    (c.accelerator.submit target request x).2.delivered = [] ∧
      ∃ calls, c.next (.submit target request x) = ⟨{ c.accelerator with calls }, c.events⟩
  unopened : ∀ wanted cause, (c.accelerator.init wanted).2 = .error cause →
    ∃ calls, c.next (.init wanted) = ⟨{ c.accelerator with calls }, c.events⟩
  unclosed : ∀ target cause, (c.accelerator.deinit target).2 = .error cause →
    ∃ calls, c.next (.deinit target) = ⟨{ c.accelerator with calls }, c.events⟩
  /-- The completion to be called next is that of the oldest operation that has none yet. -/
  completion : c.accelerator.takeHeld.2 = (accepted c.events)[(called c.events).length]?
  /-- No handle is given out twice. -/
  distinct : (opened c.events).Nodup
  counted : c.accelerator.outstanding = c.accelerator.held.length
  /-- The count goes down only from where it can. -/
  lowered : ∀ d, c.accelerator.takeHeld.2 = some d →
    c.accelerator.takeHeld.1.outstanding + 1 = c.accelerator.outstanding
  /-- The highest count ever is that of the most operations that were open at a time. -/
  peak : IsGreatest (peaks c.events) c.accelerator.maxOutstanding

section
variable {faults : Faults} {deferred : Bool} {c : Chronicle α}

theorem Accords.contract (h : Accords faults deferred c) : Contract faults deferred c where
  order := h.order
  prompt hd := h.prompt (h.deferred_eq.trans hd)
  admission target request x := by
    have hs := c.accelerator.submission target request x
    rw [← h.live, ← h.faults_eq]
    generalize c.accelerator.submit target request x = answer at hs
    cases hs with
    | refused cause calls hnot => exact iff_of_false (by simp [Answer.refused]) hnot
    | held _ _ _ _ _ ha | called _ _ _ _ _ ha => exact iff_of_true rfl ha
  delivery target request x := by
    have hs := c.accelerator.submission target request x
    rw [← h.deferred_eq]
    generalize c.accelerator.submit target request x = answer at hs
    cases hs with
    | refused => simp [Answer.refused]
    | held _ _ _ _ _ _ hd | called _ _ _ _ _ _ hd => simp [hd]
  refusal target request x cause := by
    have hs := c.accelerator.submission target request x
    unfold Chronicle.next meet events
    dsimp only
    generalize c.accelerator.submit target request x = answer at hs
    cases hs with
    | refused _ calls => exact fun _ => ⟨rfl, calls, by simp [Answer.refused]⟩
    | held | called => simp
  unopened wanted cause hc := by
    unfold Chronicle.next meet events
    rcases c.accelerator.init_cases wanted with ⟨_, he⟩ | he
    · exact ⟨_, by simp only [he, List.append_nil]; rfl⟩
    · simp [he] at hc
  unclosed target cause hc := by
    unfold Chronicle.next meet events
    rcases c.accelerator.deinit_cases target with ⟨-, he⟩ | ⟨-, he⟩
    · exact ⟨_, by simp only [he, List.append_nil]; rfl⟩
    · simp [he] at hc
  completion := by
    rw [h.order, List.getElem?_append_right le_rfl, Nat.sub_self]
    unfold takeHeld
    split <;> simp [*]
  distinct := h.distinct
  counted := h.counted
  lowered d hd := by
    have hcounted := h.counted
    unfold takeHeld at hd ⊢
    split at hd
    · simp at hd
    · rename_i oldest rest hheld
      simp [hcounted, hheld]
  peak := h.peak

/-- Every time that a completion is asked for one more is called, unless none is left. -/
theorem length_called_next (h : Accords faults deferred c) (d : Demand α) :
    min (accepted c.events).length ((called c.events).length + [d].countP (·.isComplete)) ≤
      (called (c.next d).events).length := by
  cases d with
  | complete =>
    unfold Chronicle.next events takeHeld
    dsimp only
    cases hheld : c.accelerator.held with
    | nil => simp [h.order, hheld]
    | cons oldest rest => simp [Demand.isComplete, Event.called?]
  | _ => simp [Chronicle.next, Demand.isComplete]

theorem length_called_after (ds : List (Demand α)) :
    ∀ {c : Chronicle α}, Accords faults deferred c →
      min (accepted c.events).length ((called c.events).length + ds.countP (·.isComplete)) ≤
        (called (c.after ds).events).length := by
  induction ds with
  | nil =>
    intro c h
    exact min_le_right _ _
  | cons d ds ih =>
    intro c h
    have hstep := length_called_next h d
    have hrest := ih (h.next d)
    have hgrows : (accepted c.events).length ≤ (accepted (c.next d).events).length := by
      simp [Chronicle.next]
    have hcount : (d :: ds).countP (·.isComplete) =
        [d].countP (·.isComplete) + ds.countP (·.isComplete) := by
      rw [← List.countP_append, List.singleton_append]
    change _ ≤ (called ((c.next d).after ds).events).length
    omega

end

/-- Ask a new accelerator for anything, in any order, with any handles, faults and completions, and
whether it holds completions back or not. Then it stands to what has happened as the contract says,
and so does what comes of the next demand. In particular the completion of an operation is called
once or not at all. It is called in the end: whatever else is asked for meanwhile, every time that a
completion is to be called it is that of the oldest operation left. -/
theorem contract_kept (faults : Faults) (deferred : Bool) (ds later : List (Demand α)) :
    let c : Chronicle α := (Chronicle.new faults deferred).after ds
    Contract faults deferred c ∧
      (accepted c.events).take ((called c.events).length + later.countP (·.isComplete)) <+:
        called (c.after later).events := by
  intro c
  have h : Accords faults deferred c := (Accords.new faults deferred).after ds
  refine ⟨h.contract, ?_⟩
  have hlater := h.after later
  -- Both lists are the beginning of all that was accepted in the end.
  have hcalled : called (c.after later).events <+: accepted (c.after later).events :=
    ⟨_, hlater.order.symm⟩
  have haccepted : accepted c.events <+: accepted (c.after later).events :=
    (c.events_after later).filterMap _
  refine List.prefix_of_prefix_length_le ((List.take_prefix _ _).trans haccepted) hcalled ?_
  rw [List.length_take, min_comm]
  exact length_called_after later h

/-- A completion that is held back outlives the handle that its operation was issued on. -/
example :
    let c := (Chronicle.new .none true : Chronicle Nat).after
      [.init device, .submit ⟨1⟩ .getStatus 7, .init device, .submit ⟨1⟩ .getStatus 8, .complete]
    live c.events = some ⟨2⟩ ∧ (called c.events).map (·.1) = [7] := by
  decide +kernel

end Accelerator

end FirmwareUpgrade
