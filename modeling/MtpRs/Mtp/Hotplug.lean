import MtpRs.Lib.Association
import MtpRs.Ptp.Error

set_option autoImplicit false

/- The watch for devices that are plugged in and unplugged: what each enumeration of the bus is
turned into, and what the events say over any history of enumerations. -/
namespace Mtp

open Ptp (PtpError)

inductive UsbSpeed where
  | low
  | full
  | high
  | super
  | superPlus
deriving DecidableEq, Repr

/-- Why a USB device was classified as an MTP candidate. -/
inductive MtpMatchReason where
  | standardClass
  | interfaceString
  | knownVidPid
  | openedDescriptorScan
deriving DecidableEq, Repr

structure MtpDeviceInfo where
  vendorId : UInt16
  productId : UInt16
  manufacturer : Option String
  product : Option String
  serialNumber : Option String
  locationId : UInt64
  speed : Option UsbSpeed
  matchReason : MtpMatchReason
deriving DecidableEq, Repr

inductive HotplugEvent where
  | arrived (info : MtpDeviceInfo)
  | left (info : MtpDeviceInfo)
deriving DecidableEq, Repr

/-- What tells "same device, still there" from "different device now". -/
structure DeviceKey where
  locationId : UInt64
  vendorId : UInt16
  productId : UInt16
  serialNumber : Option String
deriving DecidableEq, Repr

def DeviceKey.of (info : MtpDeviceInfo) : DeviceKey where
  locationId := info.locationId
  vendorId := info.vendorId
  productId := info.productId
  serialNumber := info.serialNumber

/-- The devices of one enumeration under their keys. -/
abbrev KnownDevices := AList fun _ : DeviceKey => MtpDeviceInfo

/-- The order a hash map is gone through in. -/
abbrev MapOrder := Arrangement (Sigma fun _ : DeviceKey => MtpDeviceInfo)

/-- A later device takes the place of an earlier one with its key. -/
def byKey (current : List MtpDeviceInfo) : KnownDevices :=
  current.foldl (fun table info => table.insert (.of info) info) ∅

/-- What is known afterwards, and what changed: departures first. -/
def diff (order : MapOrder) (known : KnownDevices) (current : List MtpDeviceInfo) :
    KnownDevices × List HotplugEvent :=
  let current := byKey current
  (current,
    ((order.arrange known.entries).filter fun entry => entry.1 ∉ current).map (.left ·.2) ++
      ((order.arrange current.entries).filter fun entry => entry.1 ∉ known).map (.arrived ·.2))

structure DeviceWatch where
  known : KnownDevices
  /-- Events produced by an enumeration, not yet handed to the consumer. -/
  pending : List HotplugEvent
  /-- A settle delay is running; an enumeration follows it. -/
  settling : Bool
  started : Bool

namespace DeviceWatch

def new : DeviceWatch := ⟨∅, [], false, false⟩

/-- A failed enumeration does not say that nothing is out there. -/
def enumerate (self : DeviceWatch) (order : MapOrder)
    (answer : Except PtpError (List MtpDeviceInfo)) : DeviceWatch :=
  match answer with
  | .ok devices =>
      let (known, events) := diff order self.known devices
      { self with known := known, pending := self.pending ++ events }
  | .error _ => self

end DeviceWatch

/-- One enumeration: its answer, and the order the maps are gone through in meanwhile. -/
structure Enumeration where
  order : MapOrder
  answer : Except PtpError (List MtpDeviceInfo)

/-- The watch after the enumerations of a history, none of whose events was handed out. -/
def DeviceWatch.enumerateAll (self : DeviceWatch) (history : List Enumeration) : DeviceWatch :=
  history.foldl (fun watch one => watch.enumerate one.order one.answer) self

/-- What polling a stream or a future says at once. -/
inductive Poll (α : Type) where
  | ready (value : α)
  | waiting
deriving DecidableEq, Repr

/-- What one turn of `poll_next` finds, should it look. -/
structure Surroundings where
  settle : Poll Unit
  /-- The next notification of the OS; the stream of them can end. -/
  usb : Poll (Option Unit)
  enumeration : Enumeration

/-- One turn of the loop of `poll_next`: the watch after it, and what is returned unless the loop
goes on. -/
def DeviceWatch.pollTurn (self : DeviceWatch) (found : Surroundings) :
    DeviceWatch × Option (Poll (Option HotplugEvent)) :=
  match self.pending with
  | event :: rest => ({ self with pending := rest }, some (.ready (some event)))
  | [] =>
      if !self.started then
        (({ self with started := true }).enumerate found.enumeration.order
          found.enumeration.answer, none)
      else if self.settling then
        match found.settle with
        | .ready _ =>
            (({ self with settling := false }).enumerate found.enumeration.order
              found.enumeration.answer, none)
        | .waiting => (self, some .waiting)
      else
        match found.usb with
        -- the notification is only a trigger: what changed is what is enumerated later
        | .ready (some _) => ({ self with settling := true }, none)
        | .ready none => (self, some (.ready none))
        | .waiting => (self, some .waiting)

/-- The devices of the last enumeration that did not fail. -/
def lastSuccess (history : List Enumeration) : List MtpDeviceInfo :=
  history.foldl (fun last one => match one.answer with
    | .ok devices => devices
    | .error _ => last) []

/-- The device a list has under a key: the last one, where it has several. -/
def deviceAt (devices : List MtpDeviceInfo) (key : DeviceKey) : Option MtpDeviceInfo :=
  devices.reverse.find? fun info => DeviceKey.of info = key

/-- What one event is to a key: an arrival, a departure, or nothing. -/
def HotplugEvent.concerning (key : DeviceKey) : HotplugEvent → Option Bool
  | .arrived info => if DeviceKey.of info = key then some true else none
  | .left info => if DeviceKey.of info = key then some false else none

/-- The arrivals and departures of a key, in order. -/
def traceOf (key : DeviceKey) (events : List HotplugEvent) : List Bool :=
  events.filterMap (HotplugEvent.concerning key)

/-- Arrivals and departures take turns; the first of them is `next`. -/
def Alternates : (next : Bool) → List Bool → Prop
  | _, [] => True
  | next, event :: rest => event = next ∧ Alternates (!next) rest

/-- `info` is what the last enumeration that had a device of its key saw of it. -/
def LastSeen (history : List Enumeration) (info : MtpDeviceInfo) : Prop :=
  ∃ earlier order devices later, history = earlier ++ ⟨order, .ok devices⟩ :: later ∧
    deviceAt devices (.of info) = some info ∧
    ∀ one ∈ later, ∀ others, one.answer = .ok others → deviceAt others (.of info) = none

section

variable {key : DeviceKey} {info : MtpDeviceInfo}

theorem deviceAt_append_singleton (devices : List MtpDeviceInfo) :
    deviceAt (devices ++ [info]) key =
      if DeviceKey.of info = key then some info else deviceAt devices key := by
  rw [deviceAt, List.reverse_append, List.reverse_singleton, List.singleton_append,
    List.find?_cons]
  by_cases same : DeviceKey.of info = key
  · simp [same]
  · simp [same, deviceAt]

theorem deviceAt_eq_none {devices : List MtpDeviceInfo} :
    deviceAt devices key = none ↔ ∀ info ∈ devices, DeviceKey.of info ≠ key := by
  simp [deviceAt]

theorem of_deviceAt {devices : List MtpDeviceInfo} (found : deviceAt devices key = some info) :
    DeviceKey.of info = key := by
  have meets := List.find?_some found
  simpa using meets

/-- The map of an enumeration finds what its list has. -/
theorem lookup_byKey (devices : List MtpDeviceInfo) (key : DeviceKey) :
    (byKey devices).lookup key = deviceAt devices key := by
  induction devices using List.reverseRecOn with
  | nil => rfl
  | append_singleton before info ih =>
      have inserted : byKey (before ++ [info]) = (byKey before).insert (.of info) info := by
        simp [byKey, List.foldl_append]
      rw [inserted, deviceAt_append_singleton]
      by_cases same : DeviceKey.of info = key
      · rw [if_pos same, ← same, AList.lookup_insert]
      · rw [if_neg same, AList.lookup_insert_ne fun other => same other.symm, ih]

theorem mem_byKey {devices : List MtpDeviceInfo} :
    key ∈ byKey devices ↔ ∃ info ∈ devices, DeviceKey.of info = key := by
  rw [← AList.lookup_isSome, lookup_byKey, Option.isSome_iff_ne_none, ne_eq, deviceAt_eq_none]
  simp

theorem mem_entries_byKey {devices : List MtpDeviceInfo}
    {entry : Sigma fun _ : DeviceKey => MtpDeviceInfo} :
    entry ∈ (byKey devices).entries ↔ deviceAt devices entry.1 = some entry.2 := by
  rw [← lookup_byKey, ← AList.mem_lookup_iff]
  rfl

/-- The history's last success, with what came after it, where there was one. -/
theorem lastSuccess_cases (history : List Enumeration) :
    (lastSuccess history = [] ∧ ∀ one ∈ history, ∃ e, one.answer = .error e) ∨
      ∃ earlier order later, history = earlier ++ ⟨order, .ok (lastSuccess history)⟩ :: later ∧
        ∀ one ∈ later, ∃ e, one.answer = .error e := by
  induction history using List.reverseRecOn with
  | nil => exact Or.inl ⟨rfl, fun one mem => absurd mem List.not_mem_nil⟩
  | append_singleton before one ih =>
      have last : lastSuccess (before ++ [one]) =
          match one.answer with
          | .ok devices => devices
          | .error _ => lastSuccess before := by
        simp [lastSuccess, List.foldl_append]
      cases one with
      | mk order answer =>
          cases answer with
          | ok devices =>
              exact Or.inr ⟨before, order, [], by rw [last],
                fun one mem => absurd mem List.not_mem_nil⟩
          | error e =>
              have failed : ∀ one ∈ [(⟨order, .error e⟩ : Enumeration)],
                  ∃ e, one.answer = .error e := by
                intro one mem
                rw [List.mem_singleton.mp mem]
                exact ⟨e, rfl⟩
              rw [last]
              rcases ih with ⟨empty, all⟩ | ⟨earlier, order', later, split, all⟩
              · exact Or.inl ⟨empty, List.forall_mem_append.mpr ⟨all, failed⟩⟩
              · refine Or.inr ⟨earlier, order', later ++ [⟨order, .error e⟩], ?_,
                  List.forall_mem_append.mpr ⟨all, failed⟩⟩
                rw [← List.cons_append, ← List.append_assoc, ← split]

theorem lastSeen_of_lastSuccess {history : List Enumeration}
    (seen : deviceAt (lastSuccess history) key = some info) : LastSeen history info := by
  rcases lastSuccess_cases history with ⟨empty, -⟩ | ⟨earlier, order, later, split, failed⟩
  · rw [empty] at seen
    simp [deviceAt] at seen
  · refine ⟨earlier, order, _, later, split, ?_, ?_⟩
    · rw [of_deviceAt seen]
      exact seen
    · intro one mem others succeeded
      obtain ⟨e, error⟩ := failed one mem
      rw [error] at succeeded
      cases succeeded

/-- Events of one kind, as their keys see them. -/
theorem traceOf_map {event : MtpDeviceInfo → HotplugEvent} {said : Bool}
    (concerns : ∀ info, (event info).concerning key =
      if DeviceKey.of info = key then some said else none)
    {entries : List (Sigma fun _ : DeviceKey => MtpDeviceInfo)}
    (keyed : ∀ entry ∈ entries, DeviceKey.of entry.2 = entry.1) :
    traceOf key (entries.map fun entry => event entry.2) =
      List.replicate ((entries.map (·.1)).count key) said := by
  induction entries with
  | nil => rfl
  | cons entry rest ih =>
      have first : DeviceKey.of entry.2 = entry.1 := keyed entry List.mem_cons_self
      have later := ih fun other mem => keyed other (List.mem_cons_of_mem _ mem)
      rw [traceOf] at later ⊢
      rw [List.map_cons, List.filterMap_cons, later, concerns, first, List.map_cons,
        List.count_cons]
      by_cases same : entry.1 = key
      · simp [same, List.replicate_succ]
      · simp [same]

/-- A key is met once where the map has it and it passes, and not at all otherwise. -/
theorem count_arranged (order : MapOrder) (table : KnownDevices) (passes : DeviceKey → Bool) :
    (((order.arrange table.entries).filter fun entry => passes entry.1).map (·.1)).count key =
      if key ∈ table ∧ passes key = true then 1 else 0 := by
  have keysOnly : ((order.arrange table.entries).filter fun entry => passes entry.1).map (·.1) =
      ((order.arrange table.entries).map (·.1)).filter passes := by
    rw [List.filter_map]
    rfl
  have arranged : ((order.arrange table.entries).map (·.1)).Perm table.keys :=
    (order.perm _).map _
  rw [keysOnly]
  by_cases passed : passes key = true
  · rw [List.count_filter passed, arranged.count_eq]
    by_cases mem : key ∈ table
    · rw [if_pos ⟨mem, passed⟩]
      exact List.count_eq_one_of_mem table.keys_nodup mem
    · rw [if_neg fun both => mem both.1]
      exact List.count_eq_zero.mpr mem
  · rw [if_neg fun both => passed both.2]
    exact List.count_eq_zero.mpr fun mem => passed (List.mem_filter.mp mem).2

/-- What the changes between two enumerations are to one key. -/
theorem traceOf_diff (order : MapOrder) (before now : List MtpDeviceInfo) :
    traceOf key (diff order (byKey before) now).2 =
      List.replicate (if key ∈ byKey before ∧ key ∉ byKey now then 1 else 0) false ++
        List.replicate (if key ∈ byKey now ∧ key ∉ byKey before then 1 else 0) true := by
  have keyed : ∀ (devices : List MtpDeviceInfo) (passes : DeviceKey → Bool),
      ∀ entry ∈ (order.arrange (byKey devices).entries).filter fun entry => passes entry.1,
        DeviceKey.of entry.2 = entry.1 := by
    intro devices passes entry mem
    have listed := Arrangement.mem_arrange.mp (List.mem_of_mem_filter mem)
    exact of_deviceAt (mem_entries_byKey.mp listed)
  rw [diff, traceOf, List.filterMap_append, ← traceOf, ← traceOf,
    traceOf_map (fun _ => rfl) (keyed before fun key => key ∉ byKey now),
    traceOf_map (fun _ => rfl) (keyed now fun key => key ∉ byKey before),
    count_arranged order _ (fun key => key ∉ byKey now),
    count_arranged order _ (fun key => key ∉ byKey before)]
  simp only [decide_eq_true_eq]

theorem alternates_append_singleton {next event : Bool} {trace : List Bool} :
    Alternates next (trace ++ [event]) ↔
      Alternates next trace ∧ event = (trace.getLast?.elim next fun last => !last) := by
  induction trace generalizing next with
  | nil => simp [Alternates]
  | cons first rest ih =>
      rw [List.cons_append, Alternates, Alternates, ih]
      cases rest with
      | nil => cases first <;> cases next <;> simp
      | cons second others =>
          rw [List.getLast?_cons_cons, List.getLast?_cons]
          simp [and_assoc]

/-- What the events said of a key, and what is known. -/
structure DeviceWatch.Told (watch : DeviceWatch) (key : DeviceKey) : Prop where
  alternates : Alternates true (traceOf key watch.pending)
  present : (traceOf key watch.pending).getLast? = some true ↔ key ∈ watch.known

theorem DeviceWatch.told_enumerate {watch : DeviceWatch} {before : List MtpDeviceInfo}
    (known : watch.known = byKey before) (told : watch.Told key) (order : MapOrder)
    (answer : Except PtpError (List MtpDeviceInfo)) : (watch.enumerate order answer).Told key := by
  cases answer with
  | error e => exact told
  | ok now =>
      have trace : traceOf key (watch.enumerate order (.ok now)).pending =
          traceOf key watch.pending ++
            (List.replicate (if key ∈ byKey before ∧ key ∉ byKey now then 1 else 0) false ++
              List.replicate (if key ∈ byKey now ∧ key ∉ byKey before then 1 else 0) true) := by
        rw [← traceOf_diff order, ← known, traceOf, traceOf, traceOf, ← List.filterMap_append]
        rfl
      have after : (watch.enumerate order (.ok now)).known = byKey now := rfl
      have alternated := told.alternates
      have present := told.present
      rw [known] at present
      constructor
      · rw [trace]
        by_cases was : key ∈ byKey before
        · by_cases stays : key ∈ byKey now
          · simpa [was, stays] using alternated
          · have last := present.mpr was
            simp only [was, stays, not_false_eq_true, and_self, if_true, not_true_eq_false,
              if_false, List.replicate_one, List.replicate_zero, List.append_nil]
            rw [alternates_append_singleton, last]
            exact ⟨alternated, rfl⟩
        · by_cases comes : key ∈ byKey now
          · have last : (traceOf key watch.pending).getLast? ≠ some true :=
              fun arrived => was (present.mp arrived)
            simp only [was, comes, not_false_eq_true, and_self, if_true, false_and, if_false,
              List.replicate_one, List.replicate_zero, List.nil_append]
            rw [alternates_append_singleton]
            refine ⟨alternated, ?_⟩
            cases ends : (traceOf key watch.pending).getLast? with
            | none => rfl
            | some event =>
                cases event with
                | true => exact absurd ends last
                | false => rfl
          · simpa [was, comes] using alternated
      · rw [trace, after]
        by_cases was : key ∈ byKey before
        · by_cases stays : key ∈ byKey now
          · simpa [was, stays] using present.mpr was
          · simp [was, stays]
        · by_cases comes : key ∈ byKey now
          · simp [was, comes]
          · simpa [was, comes] using fun arrived => was (present.mp arrived)

theorem DeviceWatch.enumerateAll_append (watch : DeviceWatch) (before after : List Enumeration) :
    watch.enumerateAll (before ++ after) = (watch.enumerateAll before).enumerateAll after :=
  List.foldl_append

/-- What is known is what the last success found. -/
theorem DeviceWatch.known_enumerateAll (history : List Enumeration) :
    (new.enumerateAll history).known = byKey (lastSuccess history) := by
  induction history using List.reverseRecOn with
  | nil => rfl
  | append_singleton before one ih =>
      rw [enumerateAll_append, lastSuccess, List.foldl_append]
      cases one with
      | mk order answer =>
          cases answer with
          | error e => exact ih
          | ok devices => rfl

theorem DeviceWatch.told_enumerateAll (history : List Enumeration) (key : DeviceKey) :
    (new.enumerateAll history).Told key := by
  induction history using List.reverseRecOn with
  | nil => exact ⟨trivial, by simp [enumerateAll, new, traceOf]⟩
  | append_singleton before one ih =>
      rw [enumerateAll_append]
      exact told_enumerate (known_enumerateAll before) ih one.order one.answer

/-- The events of one call of `enumerate`, after a history. -/
theorem DeviceWatch.enumerate_events (before : List Enumeration) (order : MapOrder)
    (answer : Except PtpError (List MtpDeviceInfo)) :
    ∃ departed came : List MtpDeviceInfo,
      ((new.enumerateAll before).enumerate order answer).pending =
        (new.enumerateAll before).pending ++ (departed.map .left ++ came.map .arrived) ∧
      ∀ info ∈ departed, LastSeen before info := by
  cases answer with
  | error e => exact ⟨[], [], by simp [enumerate], fun info mem => absurd mem List.not_mem_nil⟩
  | ok now =>
      let known := (new.enumerateAll before).known
      refine ⟨((order.arrange known.entries).filter fun entry => entry.1 ∉ byKey now).map (·.2),
        ((order.arrange (byKey now).entries).filter fun entry => entry.1 ∉ known).map (·.2),
        ?_, ?_⟩
      · rw [List.map_map, List.map_map]
        rfl
      · intro info mem
        obtain ⟨entry, kept, same⟩ := List.mem_map.mp mem
        have listed := Arrangement.mem_arrange.mp (List.mem_of_mem_filter kept)
        have seen : deviceAt (lastSuccess before) entry.1 = some info := by
          rw [← same, ← mem_entries_byKey, ← known_enumerateAll before]
          exact listed
        exact lastSeen_of_lastSuccess seen

/-- The watch's turns, in order: the watch after them and the events handed out. -/
def DeviceWatch.pollTurns (self : DeviceWatch) :
    List Surroundings → DeviceWatch × List HotplugEvent
  | [] => (self, [])
  | found :: rest =>
      let (watch, answer) := self.pollTurn found
      let (last, events) := watch.pollTurns rest
      match answer with
      | some (.ready (some event)) => (last, event :: events)
      | _ => (last, events)

/-- `watch` is `other` with `front` still pending before everything else. -/
def DeviceWatch.Behind (front : List HotplugEvent) (watch other : DeviceWatch) : Prop :=
  watch.known = other.known ∧ watch.pending = front ++ other.pending

theorem DeviceWatch.Behind.enumerateAll {front : List HotplugEvent} {watch other : DeviceWatch}
    (behind : Behind front watch other) (history : List Enumeration) :
    Behind front (watch.enumerateAll history) (other.enumerateAll history) := by
  induction history generalizing watch other with
  | nil => exact behind
  | cons one rest ih =>
      apply ih
      cases one with
      | mk order answer =>
          cases answer with
          | error e => exact behind
          | ok devices =>
              obtain ⟨known, pending⟩ := behind
              refine ⟨rfl, ?_⟩
              simp only [enumerate, known, pending, List.append_assoc]

/-- One turn hands out what is pending, or enumerates, or neither. -/
theorem DeviceWatch.pollTurn_cases (watch : DeviceWatch) (found : Surroundings) :
    (∃ event after, watch.pollTurn found = (after, some (.ready (some event))) ∧
      Behind [event] watch after) ∨
    (∃ after, watch.pollTurn found = (after, none) ∧
      Behind [] after (watch.enumerateAll [found.enumeration])) ∨
    ∃ after answer, watch.pollTurn found = (after, answer) ∧
      (∀ event, answer ≠ some (.ready (some event))) ∧ Behind [] after watch := by
  unfold pollTurn
  cases queued : watch.pending with
  | cons event rest => exact Or.inl ⟨event, _, rfl, rfl, queued⟩
  | nil =>
      apply Or.inr
      by_cases started : watch.started
      · by_cases settling : watch.settling
        · cases settled : found.settle with
          | ready _ =>
              have aside : Behind [] { watch with settling := false } watch := ⟨rfl, rfl⟩
              rw [started, queued] at aside
              simp only [started, settling]
              exact Or.inl ⟨_, rfl, aside.enumerateAll [found.enumeration]⟩
          | waiting =>
              simp only [started, settling]
              exact Or.inr ⟨_, _, rfl, by simp, rfl, rfl⟩
        · simp only [started, settling]
          cases found.usb with
          | waiting => exact Or.inr ⟨_, _, rfl, by simp, rfl, rfl⟩
          | ready notified =>
              cases notified with
              | none => exact Or.inr ⟨_, _, rfl, by simp, rfl, rfl⟩
              | some _ => exact Or.inr ⟨_, _, rfl, by simp, rfl, queued.symm⟩
      · have aside : Behind [] { watch with started := true } watch := ⟨rfl, rfl⟩
        rw [queued] at aside
        simp only [started]
        exact Or.inl ⟨_, rfl, aside.enumerateAll [found.enumeration]⟩

/-- A consumer is handed the events of the enumerations made, in order and none twice: what it
got, with what is pending, is what they produced. -/
theorem DeviceWatch.pollTurns_events (watch : DeviceWatch) (found : List Surroundings) :
    ∃ made : List Enumeration, made.Sublist (found.map (·.enumeration)) ∧
      Behind (watch.pollTurns found).2 (watch.enumerateAll made) (watch.pollTurns found).1 := by
  induction found generalizing watch with
  | nil => exact ⟨[], .slnil, rfl, rfl⟩
  | cons first rest ih =>
      rcases watch.pollTurn_cases first with
        ⟨event, after, turned, handed⟩ | ⟨after, turned, enumerated⟩ |
          ⟨after, answer, turned, nothing, same⟩
      · obtain ⟨made, among, known, pending⟩ := ih after
        obtain ⟨known', pending'⟩ := handed.enumerateAll made
        refine ⟨made, among.cons _, ?_, ?_⟩
        · simp only [pollTurns, turned]
          rw [known', known]
        · simp only [pollTurns, turned]
          rw [pending', pending]
          rfl
      · obtain ⟨made, among, known, pending⟩ := ih after
        obtain ⟨known', pending'⟩ := enumerated.enumerateAll made
        refine ⟨first.enumeration :: made, among.cons_cons _, ?_, ?_⟩
        · simp only [pollTurns, turned]
          rw [← known, known']
          rfl
        · simp only [pollTurns, turned]
          rw [← pending, pending']
          rfl
      · obtain ⟨made, among, known, pending⟩ := ih after
        obtain ⟨known', pending'⟩ := same.enumerateAll made
        have handed : (watch.pollTurns (first :: rest)) = after.pollTurns rest := by
          rw [pollTurns, turned]
          cases answer with
          | none => rfl
          | some answer =>
              cases answer with
              | waiting => rfl
              | ready event =>
                  cases event with
                  | none => rfl
                  | some event => exact absurd rfl (nothing event)
        rw [handed]
        exact ⟨made, among.cons _, known'.symm.trans known, pending'.symm.trans pending⟩

/-- Hotplug events tell the truth, over any history of enumerations. Of each key they say arrived,
left, arrived, and so on; a key is there, by its last event, when the last enumeration that did
not fail had it. Each call's events are its departures, each with what was last seen of the
device, and then its arrivals; a call that fails changes nothing. Whoever polls the watch is handed
the events of such a history. -/
theorem hotplug_truthful (history : List Enumeration) :
    (∀ key, Alternates true (traceOf key (DeviceWatch.new.enumerateAll history).pending) ∧
      ((traceOf key (DeviceWatch.new.enumerateAll history).pending).getLast? = some true ↔
        ∃ info ∈ lastSuccess history, DeviceKey.of info = key)) ∧
    (∀ before order answer after, history = before ++ ⟨order, answer⟩ :: after →
      (∃ departed came : List MtpDeviceInfo,
        ((DeviceWatch.new.enumerateAll before).enumerate order answer).pending =
            (DeviceWatch.new.enumerateAll before).pending ++
              (departed.map .left ++ came.map .arrived) ∧
          ∀ info ∈ departed, LastSeen before info) ∧
      ∀ e, answer = .error e → (DeviceWatch.new.enumerateAll before).enumerate order answer =
        DeviceWatch.new.enumerateAll before) ∧
    ∀ found : List Surroundings, ∃ made : List Enumeration,
      made.Sublist (found.map Surroundings.enumeration) ∧
        DeviceWatch.Behind (DeviceWatch.new.pollTurns found).2 (DeviceWatch.new.enumerateAll made)
          (DeviceWatch.new.pollTurns found).1 := by
  refine ⟨?_, ?_, DeviceWatch.new.pollTurns_events⟩
  · intro key
    have told := DeviceWatch.told_enumerateAll history key
    refine ⟨told.alternates, told.present.trans ?_⟩
    rw [DeviceWatch.known_enumerateAll]
    exact mem_byKey
  · intro before order answer after split
    refine ⟨DeviceWatch.enumerate_events before order answer, ?_⟩
    intro e failed
    rw [failed]
    rfl

end

end Mtp
