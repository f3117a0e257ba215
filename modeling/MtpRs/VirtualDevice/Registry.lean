import MtpRs.VirtualDevice.PropList

set_option autoImplicit false

/- The registry of the states of open devices, and the test hooks that find a device in it by its
serial number. -/
namespace VirtualDevice

open Files (Disk Path)

/-- `VirtualTransport`: its shared state, by its place among all that were made, and its serial. -/
structure VirtualTransport where
  state : Nat
  serial : String
deriving DecidableEq, Repr

/-- The states made so far, the registry of active ones, and the transports that are not dropped
yet, the oldest first. -/
structure OpenDevices where
  states : List VirtualDeviceState
  active : List (String × Nat)
  alive : List VirtualTransport

namespace OpenDevices

def initial : OpenDevices := ⟨[], [], []⟩

def registerActiveState (self : OpenDevices) (serial : String) (state : Nat) : OpenDevices :=
  { self with active := self.active ++ [(serial, state)] }

/-- The first entry of a serial is removed. -/
def unregisterActiveState (self : OpenDevices) (serial : String) : OpenDevices :=
  { self with active := self.active.eraseP fun entry => entry.1 == serial }

def activeState (self : OpenDevices) (serial : String) : Option Nat :=
  (self.active.find? fun entry => entry.1 == serial).map Prod.snd

/-- What is done to a state behind its lock. -/
def update {α : Type} (self : OpenDevices) (state : Nat)
    (work : VirtualDeviceState → α × VirtualDeviceState) : Option α × OpenDevices :=
  match self.states[state]? with
  | none => (none, self)
  | some device =>
      let (result, device) := work device
      (some result, { self with states := self.states.set state device })

/-- A hook works on the state it finds by the serial, if any. -/
def withActive {α : Type} (self : OpenDevices) (serial : String)
    (work : VirtualDeviceState → α × VirtualDeviceState) : Option α × OpenDevices :=
  match self.activeState serial with
  | none => (none, self)
  | some state => self.update state work

/-- `VirtualTransport::new`. -/
def create (self : OpenDevices) (config : VirtualDeviceConfig) (disk : Disk) : OpenDevices :=
  let state := self.states.length
  let made := { self with states := self.states ++ [VirtualDeviceState.new config disk] }
  let registered := made.registerActiveState config.serial state
  { registered with alive := registered.alive ++ [⟨state, config.serial⟩] }

/-- `Drop` of the transport with this state, where it is not dropped yet. -/
def drop (self : OpenDevices) (state : Nat) : OpenDevices :=
  match self.alive.find? fun transport => transport.state == state with
  | none => self
  | some transport =>
      { self.unregisterActiveState transport.serial with alive := self.alive.erase transport }

end OpenDevices

/-- What happens to the devices of a process: a transport is made or dropped, a hook is called, or a
state is used by whoever holds it (a request, the watcher, a guard). -/
inductive RegistryStep where
  | create (config : VirtualDeviceConfig) (disk : Disk)
  | drop (state : Nat)
  | hook (serial : String) (work : VirtualDeviceState → VirtualDeviceState)
  | use (state : Nat) (work : VirtualDeviceState → VirtualDeviceState)

namespace OpenDevices

def take (self : OpenDevices) : RegistryStep → OpenDevices
  | .create config disk => self.create config disk
  | .drop state => self.drop state
  | .hook serial work => (self.withActive serial fun device => ((), work device)).2
  | .use state work => (self.update state fun device => ((), work device)).2

def run (steps : List RegistryStep) : OpenDevices := steps.foldl take initial

/-- The states that are registered are those of the transports that are alive. -/
def Tracked (self : OpenDevices) : Prop :=
  (self.active.map Prod.snd).Perm (self.alive.map VirtualTransport.state)

/-- No other transport of the same serial that is still alive is older than the one that is
dropped. -/
def DropsOldest (self : OpenDevices) : RegistryStep → Prop
  | .drop state => ∀ transport, self.alive.find? (fun t => t.state == state) = some transport →
      self.alive.find? (fun t => t.serial == transport.serial) = some transport
  | _ => True

/-- What a hook does of a device: it works on the state of a transport that is alive and has the
serial, and reports nothing where there is none. -/
structure Finds (self : OpenDevices) (serial : String) : Prop where
  live : (∃ transport ∈ self.alive, transport.serial = serial) →
    ∃ transport ∈ self.alive, transport.serial = serial ∧
      ∃ device, self.states[transport.state]? = some device ∧
        ∀ {α : Type} (work : VirtualDeviceState → α × VirtualDeviceState),
          self.withActive serial work = (some (work device).1,
            { self with states := self.states.set transport.state (work device).2 })
  absent : (¬ ∃ transport ∈ self.alive, transport.serial = serial) →
    ∀ {α : Type} (work : VirtualDeviceState → α × VirtualDeviceState),
      self.withActive serial work = (none, self)

/-- The registry lists the transports that are alive, in their order. -/
structure Registered (devices : OpenDevices) : Prop where
  active : devices.active = devices.alive.map fun transport => (transport.serial, transport.state)
  made : ∀ transport ∈ devices.alive, transport.state < devices.states.length
  distinct : (devices.alive.map VirtualTransport.state).Nodup

variable {self : OpenDevices} {step : RegistryStep} {steps : List RegistryStep}

theorem registered_initial : initial.Registered := ⟨rfl, nofun, List.nodup_nil⟩

theorem Registered.tracked (registered : self.Registered) : self.Tracked := by
  unfold Tracked
  rw [registered.active, List.map_map]
  exact List.Perm.refl _

theorem Registered.activeState_eq (registered : self.Registered) (serial : String) :
    self.activeState serial =
      (self.alive.find? fun transport => transport.serial == serial).map
        VirtualTransport.state := by
  rw [activeState, registered.active, List.find?_map, Option.map_map]
  rfl

theorem Registered.congr {other : OpenDevices} (registered : self.Registered)
    (active : other.active = self.active) (alive : other.alive = self.alive)
    (states : other.states.length = self.states.length) : other.Registered where
  active := by rw [active, alive, registered.active]
  made := by rw [alive, states]; exact registered.made
  distinct := by rw [alive]; exact registered.distinct

/-- Work on a state changes no entry. -/
theorem update_keeps {α : Type} (self : OpenDevices) (state : Nat)
    (work : VirtualDeviceState → α × VirtualDeviceState) :
    (self.update state work).2.active = self.active ∧
      (self.update state work).2.alive = self.alive ∧
      (self.update state work).2.states.length = self.states.length := by
  unfold update
  cases self.states[state]? with
  | none => exact ⟨rfl, rfl, rfl⟩
  | some device => exact ⟨rfl, rfl, List.length_set⟩

theorem Registered.update {α : Type} (registered : self.Registered) (state : Nat)
    (work : VirtualDeviceState → α × VirtualDeviceState) :
    (self.update state work).2.Registered := by
  obtain ⟨active, alive, states⟩ := update_keeps self state work
  exact registered.congr active alive states

theorem Registered.create (registered : self.Registered) (config : VirtualDeviceConfig)
    (disk : Disk) : (self.create config disk).Registered where
  active := by
    rw [OpenDevices.create, registerActiveState, registered.active, List.map_append]
    rfl
  made transport mem := by
    simp only [OpenDevices.create, registerActiveState, List.length_append,
      List.length_singleton] at mem ⊢
    rw [List.mem_append, List.mem_singleton] at mem
    cases mem with
    | inl before =>
        have made := registered.made transport before
        omega
    | inr new =>
        rw [new]
        exact Nat.lt_succ_self _
  distinct := by
    simp only [OpenDevices.create, registerActiveState]
    rw [List.map_append, List.nodup_append]
    refine ⟨registered.distinct, List.nodup_singleton _, ?_⟩
    intro state mem other new same
    obtain ⟨transport, before, rfl⟩ := List.mem_map.mp mem
    have made := registered.made transport before
    rw [List.map_singleton, List.mem_singleton] at new
    rw [same, new] at made
    exact Nat.lt_irrefl _ made

/-- The first that a search finds is the one that is erased. -/
theorem eraseP_eq_erase {α : Type} [DecidableEq α] {p : α → Bool} {list : List α} {x : α}
    (found : list.find? p = some x) : list.eraseP p = list.erase x := by
  induction list with
  | nil => cases found
  | cons y rest ih =>
      by_cases first : p y = true
      · rw [List.find?_cons_of_pos first, Option.some.injEq] at found
        rw [found, List.eraseP_cons_of_pos (by rw [← found]; exact first), List.erase_cons_head]
      · rw [List.find?_cons_of_neg first] at found
        have apart : ¬ (y == x) = true := by
          intro same
          rw [beq_iff_eq] at same
          rw [same] at first
          exact first (List.find?_some found)
        rw [List.eraseP_cons_of_neg first, List.erase_cons_tail apart, ih found]

theorem Registered.drop_active (registered : self.Registered) {transport first : VirtualTransport}
    (found : self.alive.find? (fun t => t.state == transport.state) = some transport)
    (oldest : self.alive.find? (fun t => t.serial == transport.serial) = some first) :
    (self.drop transport.state).active =
      (self.alive.erase first).map fun transport => (transport.serial, transport.state) := by
  rw [drop, found]
  dsimp only [unregisterActiveState]
  rw [registered.active, List.eraseP_map, ← eraseP_eq_erase oldest]
  rfl

theorem Registered.drop (registered : self.Registered) {state : Nat}
    (oldest : self.DropsOldest (.drop state)) : (self.drop state).Registered := by
  cases found : self.alive.find? fun transport => transport.state == state with
  | none =>
      rw [OpenDevices.drop, found]
      exact registered
  | some transport =>
      have same : transport.state = state := by
        have holds := List.find?_some found
        rwa [beq_iff_eq] at holds
      subst same
      have alive : (self.drop transport.state).alive = self.alive.erase transport := by
        rw [OpenDevices.drop, found]
      have states : (self.drop transport.state).states = self.states := by
        rw [OpenDevices.drop, found]
        rfl
      constructor
      · rw [registered.drop_active found (oldest transport found), alive]
      · intro other mem
        rw [alive] at mem
        rw [states]
        exact registered.made other (List.mem_of_mem_erase mem)
      · rw [alive]
        exact registered.distinct.sublist (List.erase_sublist.map _)

theorem Registered.take (registered : self.Registered) (oldest : self.DropsOldest step) :
    (self.take step).Registered := by
  cases step with
  | create config disk => exact registered.create config disk
  | drop state => exact registered.drop oldest
  | hook serial work =>
      rw [OpenDevices.take, withActive]
      cases self.activeState serial with
      | none => exact registered
      | some state => exact registered.update state _
  | use state work => exact registered.update state _

/-- Where an older transport of the serial is alive, its entry goes instead. -/
theorem Registered.oldest_of_tracked (registered : self.Registered)
    (tracked : (self.take step).Tracked) : self.DropsOldest step := by
  cases step with
  | create config disk => trivial
  | hook serial work => trivial
  | use state work => trivial
  | drop state =>
      intro transport found
      have same : transport.state = state := by
        have holds := List.find?_some found
        rwa [beq_iff_eq] at holds
      subst same
      have there := List.mem_of_find?_eq_some found
      cases oldest : self.alive.find? fun t => t.serial == transport.serial with
      | none => exact absurd (List.find?_eq_none.mp oldest transport there) (by simp)
      | some first =>
          by_cases own : first = transport
          · rw [own]
          · have kept : transport ∈ self.alive.erase first :=
              (List.mem_erase_of_ne fun same => own same.symm).mpr there
            have alive : (self.drop transport.state).alive = self.alive.erase transport := by
              rw [OpenDevices.drop, found]
            unfold Tracked OpenDevices.take at tracked
            dsimp only at tracked
            rw [registered.drop_active found oldest, alive, List.map_map] at tracked
            have listed := tracked.mem_iff.mp (List.mem_map.mpr ⟨transport, kept, rfl⟩)
            obtain ⟨other, mem, same⟩ := List.mem_map.mp listed
            have own := List.inj_on_of_nodup_map registered.distinct (List.mem_of_mem_erase mem)
              there same
            rw [own] at mem
            exact absurd mem (registered.distinct.of_map _).not_mem_erase

theorem run_concat (steps : List RegistryStep) (step : RegistryStep) :
    run (steps ++ [step]) = (run steps).take step := List.foldl_concat ..

theorem registered_run
    (oldest : ∀ front step, front ++ [step] <+: steps → (run front).DropsOldest step) :
    (run steps).Registered := by
  induction steps using List.reverseRecOn with
  | nil => exact registered_initial
  | append_singleton steps step ih =>
      rw [run_concat]
      exact (ih fun front other prior =>
        oldest front other (prior.trans (List.prefix_append _ _))).take
          (oldest steps step (List.prefix_refl _))

theorem registered_of_tracked (tracked : ∀ front, front <+: steps → (run front).Tracked) :
    (run steps).Registered := by
  induction steps using List.reverseRecOn with
  | nil => exact registered_initial
  | append_singleton steps step ih =>
      have whole := tracked _ (List.prefix_refl _)
      have before := ih fun front prior => tracked front (prior.trans (List.prefix_append _ _))
      rw [run_concat] at whole ⊢
      exact before.take (before.oldest_of_tracked whole)

theorem Registered.finds (registered : self.Registered) (serial : String) : self.Finds serial where
  live := by
    intro ⟨transport, mem, same⟩
    cases found : self.alive.find? fun t => t.serial == serial with
    | none =>
        have none := List.find?_eq_none.mp found transport mem
        rw [beq_iff_eq] at none
        exact absurd same none
    | some first =>
        have there := List.mem_of_find?_eq_some found
        have holds := List.find?_some found
        rw [beq_iff_eq] at holds
        have made := registered.made first there
        refine ⟨first, there, holds, self.states[first.state], List.getElem?_eq_getElem made, ?_⟩
        intro α work
        rw [withActive, registered.activeState_eq, found]
        dsimp only [Option.map_some]
        rw [OpenDevices.update, List.getElem?_eq_getElem made]
  absent := by
    intro absent α work
    have missing : self.alive.find? (fun t => t.serial == serial) = none := by
      apply List.find?_eq_none.mpr
      intro transport mem holds
      rw [beq_iff_eq] at holds
      exact absent ⟨transport, mem, holds⟩
    rw [withActive, registered.activeState_eq, missing]
    rfl

end OpenDevices

/-- The registry tracks the transports that are alive through a whole run if and only if each one
that is dropped is the oldest of its serial. Then every hook finds a device that is alive. -/
theorem registry_tracks (steps : List RegistryStep) :
    ((∀ front, front <+: steps → (OpenDevices.run front).Tracked) ↔
      ∀ front step, front ++ [step] <+: steps → (OpenDevices.run front).DropsOldest step) ∧
    ((∀ front step, front ++ [step] <+: steps → (OpenDevices.run front).DropsOldest step) →
      ∀ front, front <+: steps → ∀ serial, (OpenDevices.run front).Finds serial) := by
  have registered : (∀ front step, front ++ [step] <+: steps →
      (OpenDevices.run front).DropsOldest step) →
        ∀ front, front <+: steps → (OpenDevices.run front).Registered := by
    intro oldest front prior
    exact OpenDevices.registered_run fun early step before => oldest early step (before.trans prior)
  refine ⟨⟨?_, ?_⟩, ?_⟩
  · intro tracked front step prior
    have before := (List.prefix_append front [step]).trans prior
    have earlier := OpenDevices.registered_of_tracked fun early first =>
      tracked early (first.trans before)
    have after := tracked _ prior
    rw [OpenDevices.run_concat] at after
    exact earlier.oldest_of_tracked after
  · intro oldest front prior
    exact (registered oldest front prior).tracked
  · intro oldest front prior serial
    exact (registered oldest front prior).finds serial

def unnamedDevice : VirtualDeviceConfig :=
  ⟨"", "", "", [], false, false, false, false, [], [], .utc, false⟩

/-- Two transports of one serial, of which the second is dropped first. -/
def twins : List RegistryStep :=
  [.create unnamedDevice .bare, .create unnamedDevice .bare, .drop 1]

/-- The state that stays registered is the one that was dropped. -/
theorem twins_dropped_second : ¬ (OpenDevices.run twins).Tracked ∧
    (OpenDevices.run twins).activeState "" = some 1 ∧
    (OpenDevices.run twins).alive = [⟨0, ""⟩] := by
  refine ⟨?_, rfl, rfl⟩
  intro tracked
  have state := tracked.mem_iff (a := 1) |>.mp (List.mem_singleton.mpr rfl)
  exact absurd (List.mem_singleton.mp state) (by decide)

end VirtualDevice
