import MtpRs.Lib.Places
import MtpRs.VirtualDevice.Additions

set_option autoImplicit false

/- A rescan: objects whose files are gone are dropped, and the backing directories are walked for
what has no handle yet. -/
namespace VirtualDevice

open Files (Component Disk Location Name Path)

/-- The path of a node relative to the backing directory it lies below. -/
def relativePath (names : List Name) : Path := ⟨names.map .normal⟩

namespace VirtualDeviceState

section

variable (self : VirtualDeviceState)

/-- A file or folder below the backing directory of a storage. -/
def OnDisk (storageId : UInt32) (relPath : Path) : Prop :=
  ∃ storage, self.findStorage storageId = some storage ∧
    ∃ root, self.disk.locate storage.config.backingDir = some root ∧
      ∃ names, names ≠ [] ∧ relPath = relativePath names ∧
        (self.disk.node (root ++ names)).isSome = true

/-- The parent of what lies in the folder under these names of a storage. -/
def Holds (storageId : UInt32) (folder : List Name) (parent : UInt32) : Prop :=
  folder = [] ∧ parent = handleRoot ∨
    folder ≠ [] ∧ ∃ obj, self.objects.lookup parent = some obj ∧ obj.storageId = storageId ∧
      obj.relPath = relativePath folder

/-- An object whose parent is the handle of the folder it lies in. -/
def Placed (obj : VirtualObject) : Prop :=
  ∃ folder name, obj.relPath = relativePath (folder ++ [name]) ∧
    self.Holds obj.storageId folder obj.parent

end

/-- Some of what lies in one storage. -/
def inStorage (storageId : UInt32) (within : List Name → Prop) (id : UInt32) (names : List Name) :
    Prop :=
  id = storageId ∧ within names

/-- What a scan of part of the storages adds: what lies there and had no handle. -/
structure Lists (state : VirtualDeviceState) (within : UInt32 → List Name → Prop)
    (storageId : UInt32) (folder : List Name) (parent : UInt32) (added : List VirtualObject) :
    Prop where
  fits : state.Fits added
  found : ∀ obj ∈ added, ∃ names, within obj.storageId names ∧ obj.relPath = relativePath names
  covers : state.Room added.length → ∀ id names, within id names →
    (state.addAll added).Tracks id (relativePath names)
  placed : state.Room added.length → state.Holds storageId folder parent →
    ∀ obj ∈ added, (state.addAll added).Placed obj

section

variable {self : VirtualDeviceState} {host : Host} {storageId parent : UInt32} {relPath : Path}
  {folder : List Name} {within others : UInt32 → List Name → Prop}
    {added later : List VirtualObject}

theorem handleAt_some {handle : UInt32}
    (known : self.handleAt host storageId relPath = some handle) :
    ∃ obj, self.objects.lookup handle = some obj ∧ obj.storageId = storageId ∧
      obj.relPath = relPath := by
  rw [handleAt, Option.map_eq_some_iff] at known
  obtain ⟨⟨key, obj⟩, search, rfl⟩ := known
  obtain ⟨mem, test⟩ := Arrangement.find?_eq_some search
  simp only [Bool.and_eq_true, beq_iff_eq] at test
  exact ⟨obj, AList.mem_lookup_iff.mpr mem, test⟩

theorem handleAt_none (unknown : self.handleAt host storageId relPath = none) :
    ¬ self.Tracks storageId relPath := by
  rw [handleAt, Option.map_eq_none_iff, Arrangement.find?_eq_none] at unknown
  rintro ⟨handle, obj, found, sameStorage, samePath⟩
  have test := unknown ⟨handle, obj⟩ (AList.mem_lookup_iff.mp found)
  simp [sameStorage, samePath] at test

theorem Holds.addAll (room : self.Room added.length) (holds : self.Holds storageId folder parent) :
    (self.addAll added).Holds storageId folder parent := by
  rcases holds with atRoot | ⟨inside, obj, found, same⟩
  · exact Or.inl atRoot
  · exact Or.inr ⟨inside, obj, lookup_addAll_of_lookup room found, same⟩

theorem Placed.addAll {obj : VirtualObject} (room : self.Room added.length)
    (placed : self.Placed obj) : (self.addAll added).Placed obj := by
  obtain ⟨folder, name, same, holds⟩ := placed
  exact ⟨folder, name, same, holds.addAll room⟩

/-- One part after another. -/
theorem Lists.append (first : self.Lists within storageId folder parent added)
    (second : (self.addAll added).Lists others storageId folder parent later) :
    self.Lists (fun id names => within id names ∨ others id names) storageId folder parent
      (added ++ later) where
  fits := fits_append.mpr ⟨first.fits, second.fits⟩
  found obj mem := by
    rcases List.mem_append.mp mem with earlier | now
    · obtain ⟨names, inside, path⟩ := first.found obj earlier
      exact ⟨names, Or.inl inside, path⟩
    · obtain ⟨names, inside, path⟩ := second.found obj now
      exact ⟨names, Or.inr inside, path⟩
  covers room id names inside := by
    rw [List.length_append] at room
    rw [addAll_append]
    rcases inside with earlier | now
    · exact (first.covers (room.mono (Nat.le_add_right ..)) id names earlier).addAll room.left
    · exact second.covers room.left id names now
  placed room holds obj mem := by
    rw [List.length_append] at room
    have before := room.mono (Nat.le_add_right ..)
    rw [addAll_append]
    rcases List.mem_append.mp mem with earlier | now
    · exact (first.placed before holds obj earlier).addAll room.left
    · exact second.placed room.left (holds.addAll before) obj now

theorem Lists.nothing : self.Lists (fun _ _ => False) storageId folder parent [] where
  fits := trivial
  found := List.forall_mem_nil _
  covers _ _ _ inside := inside.elim
  placed _ _ := List.forall_mem_nil _

theorem Lists.congr (lists : self.Lists within storageId folder parent added)
    (same : ∀ id names, within id names ↔ others id names) :
    self.Lists others storageId folder parent added := by
  rwa [show others = within from funext fun id => funext fun names => propext (same id names).symm]

/-- What a scan of a folder adds does not depend on the folder around it. -/
theorem Lists.inside {outerId outerParent : UInt32} {outer : List Name}
    (lists : self.Lists within storageId folder parent added)
    (holds : self.Holds storageId folder parent) :
    self.Lists within outerId outer outerParent added :=
  ⟨lists.fits, lists.found, lists.covers, fun room _ => lists.placed room holds⟩

/-- One entry by itself: known, or added. -/
theorem Lists.known {names : List Name} (tracks : self.Tracks storageId (relativePath names)) :
    self.Lists (inStorage storageId (· = names)) storageId folder parent [] where
  fits := trivial
  found := List.forall_mem_nil _
  covers _ _ _ same := by
    obtain ⟨rfl, rfl⟩ := same
    exact tracks
  placed _ _ := List.forall_mem_nil _

theorem Lists.new {name : Name}
    (unknown : ¬ self.Tracks storageId (relativePath (folder ++ [name]))) :
    self.Lists (inStorage storageId (· = folder ++ [name])) storageId folder parent
      [⟨relativePath (folder ++ [name]), storageId, parent⟩] where
  fits := ⟨unknown, trivial⟩
  found := List.forall_mem_singleton.mpr ⟨_, ⟨rfl, rfl⟩, rfl⟩
  covers _ _ _ same := by
    obtain ⟨rfl, rfl⟩ := same
    exact ⟨self.handleAfter 0, _, lookup_add.mpr (Or.inl ⟨rfl, rfl⟩), rfl, rfl⟩
  placed room holds := List.forall_mem_singleton.mpr ⟨folder, name, rfl, holds.addAll room⟩

/-- The entries of a folder one after the other. -/
theorem foldl_lists {disk : Disk} {step : Nat × VirtualDeviceState → Name →
    Nat × VirtualDeviceState}
    {each : Name → UInt32 → List Name → Prop} (folder : List Name) (parent : UInt32)
    (entries : List Name)
    (steps : ∀ entry ∈ entries, ∀ count state, state.disk = disk →
      ∃ added, step (count, state) entry = (count + added.length, state.addAll added) ∧
        state.Lists (each entry) storageId folder parent added)
    (count : Nat) (state : VirtualDeviceState) (same : state.disk = disk) :
    ∃ added, entries.foldl step (count, state) = (count + added.length, state.addAll added) ∧
      state.Lists (fun id names => ∃ entry ∈ entries, each entry id names) storageId folder parent
        added := by
  induction entries generalizing count state with
  | nil => exact ⟨[], rfl, Lists.nothing.congr (by simp)⟩
  | cons entry rest ih =>
      obtain ⟨first, stepped, lists⟩ := steps entry (List.mem_cons_self ..) count state same
      obtain ⟨others, folded, after⟩ :=
        ih (fun other mem => steps other (List.mem_cons_of_mem _ mem)) (count + first.length)
          (state.addAll first) (addAll_disk.trans same)
      refine ⟨first ++ others, ?_, (lists.append after).congr fun id names => ?_⟩
      · rw [List.foldl_cons, stepped, folded, addAll_append, List.length_append, Nat.add_assoc]
      · rw [List.exists_mem_cons_iff]

/-- The nodes below a folder, by their names from the backing directory on. -/
def below (disk : Disk) (root : Location) (folder names : List Name) : Prop :=
  ∃ inner, inner ≠ [] ∧ names = folder ++ inner ∧ (disk.node (root ++ names)).isSome = true

/-- What lies below a folder lies at one of its entries or below that. -/
theorem below_iff {disk : Disk} {root : Location} {entries : List Name}
    (all : ∀ name, name ∈ entries ↔ (disk.node (root ++ folder ++ [name])).isSome = true)
    (id : UInt32) (names : List Name) :
    (∃ entry ∈ entries, inStorage storageId
        (fun names => names = folder ++ [entry] ∨ below disk root (folder ++ [entry]) names) id
          names) ↔
      inStorage storageId (below disk root folder) id names := by
  constructor
  · rintro ⟨entry, mem, same, inside⟩
    refine ⟨same, ?_⟩
    rcases inside with rfl | ⟨inner, -, rfl, there⟩
    · have there := (all entry).mp mem
      rw [List.append_assoc] at there
      exact ⟨[entry], List.cons_ne_nil _ _, rfl, there⟩
    · exact ⟨entry :: inner, List.cons_ne_nil _ _, List.append_assoc .., there⟩
  · rintro ⟨same, inner, some, rfl, there⟩
    cases inner with
    | nil => exact absurd rfl some
    | cons entry deeper =>
        have split : root ++ (folder ++ entry :: deeper) = root ++ folder ++ [entry] ++ deeper := by
          simp
        cases deeper with
        | nil =>
            rw [split, List.append_nil] at there
            exact ⟨entry, (all entry).mpr there, same, Or.inl rfl⟩
        | cons next deeper =>
            have directory := Disk.directoryAt_of_below (List.cons_ne_nil _ _) (split ▸ there)
            refine ⟨entry, (all entry).mpr (Disk.present_of_directoryAt directory), same,
              Or.inr ?_⟩
            exact ⟨next :: deeper, List.cons_ne_nil _ _, by simp, there⟩

/-- Every directory below a place can be read in full. -/
def readableBelow (host : Host) (disk : Disk) (root : Location) : Prop :=
  ∀ location, root <+: location → host.files.refuses disk (.readDir location) = none

theorem readDir_descend {disk : Disk} {root : Location} {backingDir : Path}
    (start : backingDir.components ≠ []) (located : disk.locate backingDir = some root)
    (readable : readableBelow host disk root)
    (directory : disk.directoryAt (root ++ folder) = true) :
    host.files.readDir disk (backingDir.descend folder) =
      some (host.files.entryOrder.arrange (disk.names (root ++ folder)), true) := by
  have there := Disk.walk_present (Disk.present_of_directoryAt directory)
  rw [Files.Host.readDir, Disk.locate_descend start, located, Option.bind_some, there,
    Option.bind_some, Files.Host.readDirAt, if_pos directory,
    readable _ (List.prefix_append ..)]

/-- What the loop of `rescan_dir` does with one entry, given the scan of what is below it. -/
def rescanEntry (host : Host) (storageId : UInt32) (backingDir : Path)
    (scanBelow : VirtualDeviceState → Path → UInt32 → Nat × VirtualDeviceState) (dirPath : Path)
    (parent : UInt32) (counted : Nat × VirtualDeviceState) (entry : Name) :
    Nat × VirtualDeviceState :=
  match (dirPath.child entry).stripPrefix backingDir with
  | none => counted
  | some relPath =>
      let (handle, new, state) :=
        match counted.2.handleAt host storageId relPath with
        | some known => (known, 0, counted.2)
        | none => (counted.2.handleAfter 0, 1, counted.2.add ⟨relPath, storageId, parent⟩)
      if state.disk.isDirectory (dirPath.child entry) then
        let (below, state) := scanBelow state (dirPath.child entry) handle
        (counted.1 + new + below, state)
      else (counted.1 + new, state)

theorem rescanDir_succ (backingDir : Path) (fuel : Nat) (state : VirtualDeviceState)
    (dirPath : Path) :
    rescanDir host storageId backingDir (fuel + 1) state dirPath parent =
      match host.files.readDir state.disk dirPath with
      | none => (0, state)
      | some (entries, _) =>
          entries.foldl (rescanEntry host storageId backingDir
            (rescanDir host storageId backingDir fuel) dirPath parent) (0, state) := rfl

/-- One entry adds itself where it is not known, and what lies below it. -/
theorem rescanEntry_lists {disk : Disk} {root : Location} {backingDir : Path}
    (start : backingDir.components ≠ []) (located : disk.locate backingDir = some root)
    {scanBelow : VirtualDeviceState → Path → UInt32 → Nat × VirtualDeviceState}
    {entry : Name} (there : (disk.node (root ++ folder ++ [entry])).isSome = true)
    (scans : disk.directoryAt (root ++ (folder ++ [entry])) = true → ∀ state handle,
      state.disk = disk → ∃ added,
        scanBelow state (backingDir.descend (folder ++ [entry])) handle =
            (added.length, state.addAll added) ∧
          state.Lists (inStorage storageId (below disk root (folder ++ [entry]))) storageId
            (folder ++ [entry]) handle added)
    (count : Nat) (state : VirtualDeviceState) (same : state.disk = disk) :
    ∃ added, rescanEntry host storageId backingDir scanBelow (backingDir.descend folder) parent
        (count, state) entry = (count + added.length, state.addAll added) ∧
      state.Lists (inStorage storageId fun names => names = folder ++ [entry] ∨
        below disk root (folder ++ [entry]) names) storageId folder parent added := by
  rw [List.append_assoc] at there
  have directory := Disk.isDirectory_descend start located there
  -- A known entry adds nothing itself; a new one is added under the next handle.
  obtain ⟨first, handle, known, listed, holds⟩ : ∃ first handle,
      (match state.handleAt host storageId (relativePath (folder ++ [entry])) with
        | some known => (known, 0, state)
        | none => (state.handleAfter 0, 1,
            state.add ⟨relativePath (folder ++ [entry]), storageId, parent⟩)) =
          (handle, first.length, state.addAll first) ∧
        state.Lists (inStorage storageId (· = folder ++ [entry])) storageId folder parent first ∧
        (state.addAll first).Holds storageId (folder ++ [entry]) handle := by
    cases found : state.handleAt host storageId (relativePath (folder ++ [entry])) with
    | some handle =>
        obtain ⟨obj, lookup, sameStorage, samePath⟩ := handleAt_some found
        exact ⟨[], handle, rfl, .known ⟨handle, obj, lookup, sameStorage, samePath⟩,
          Or.inr ⟨by simp, obj, lookup, sameStorage, samePath⟩⟩
    | none =>
        exact ⟨[⟨relativePath (folder ++ [entry]), storageId, parent⟩], state.handleAfter 0, rfl,
          .new (handleAt_none found),
          Or.inr ⟨by simp, _, lookup_add.mpr (Or.inl ⟨rfl, rfl⟩), rfl, rfl⟩⟩
  have stays : (state.addAll first).disk = disk := addAll_disk.trans same
  rw [rescanEntry, ← Path.descend_concat, Path.stripPrefix_descend]
  dsimp only
  rw [show (⟨(folder ++ [entry]).map Component.normal⟩ : Path) = relativePath (folder ++ [entry])
    from rfl, known]
  dsimp only
  rw [stays, directory]
  by_cases isDirectory : disk.directoryAt (root ++ (folder ++ [entry])) = true
  · rw [if_pos isDirectory]
    obtain ⟨later, scanned, lists⟩ := scans isDirectory (state.addAll first) handle stays
    refine ⟨first ++ later, ?_, (listed.append (lists.inside holds)).congr fun id names => ?_⟩
    · rw [scanned, addAll_append, List.length_append, Nat.add_assoc]
    · exact and_or_left.symm
  · rw [if_neg isDirectory]
    refine ⟨first, rfl, listed.congr fun id names => and_congr_right fun _ => ?_⟩
    constructor
    · exact Or.inl
    · rintro (same | ⟨inner, some, rfl, deeper⟩)
      · exact same
      · rw [← List.append_assoc] at deeper
        exact absurd (Disk.directoryAt_of_below some deeper) isDirectory

/-- The scan of one directory adds what lies below it and had no handle. -/
theorem rescanDir_lists {disk : Disk} {root : Location} {backingDir : Path}
    (start : backingDir.components ≠ []) (located : disk.locate backingDir = some root)
    (readable : readableBelow host disk root) (fuel : Nat) (state : VirtualDeviceState)
    (same : state.disk = disk) (folder : List Name) (parent : UInt32)
    (directory : disk.directoryAt (root ++ folder) = true)
    (enough : disk.below (root ++ folder) < fuel) :
    ∃ added, rescanDir host storageId backingDir fuel state (backingDir.descend folder) parent =
        (added.length, state.addAll added) ∧
      state.Lists (inStorage storageId (below disk root folder)) storageId folder parent added := by
  induction fuel generalizing state folder parent with
  | zero => exact absurd enough (Nat.not_lt_zero _)
  | succ fuel ih =>
      have entry_mem : ∀ name, name ∈ host.files.entryOrder.arrange (disk.names (root ++ folder)) ↔
          (disk.node (root ++ folder ++ [name])).isSome = true := fun name =>
        Arrangement.mem_arrange.trans Disk.mem_names
      obtain ⟨added, folded, lists⟩ := foldl_lists folder parent
        (host.files.entryOrder.arrange (disk.names (root ++ folder)))
        (fun entry mem count state same => rescanEntry_lists start located
          ((entry_mem entry).mp mem)
          (fun isDirectory state handle same => ih state same (folder ++ [entry]) handle isDirectory
            (by
              have less := Disk.below_lt ((entry_mem entry).mp mem)
              rw [List.append_assoc] at less
              omega)) count state same) 0 state same
      refine ⟨added, ?_, lists.congr (below_iff entry_mem)⟩
      rw [rescanDir_succ, same, readDir_descend start located readable directory]
      rw [Nat.zero_add] at folded
      exact folded

end

end VirtualDeviceState

end VirtualDevice
