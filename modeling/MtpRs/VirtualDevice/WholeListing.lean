import MtpRs.Lib.Confined
import MtpRs.Lib.DiskTree
import MtpRs.VirtualDevice.Discovery

set_option autoImplicit false

/- A listing of a whole storage: it ends, and names every file and folder once. -/
namespace VirtualDevice

open Files (Disk Location Name Path)
open Walk (Frontier)

/-- The entries of a directory, as far as they are read. -/
theorem readDir_entries {host : Host} {disk : Disk} {path : Path} {there : Location}
    {entries : List Name} {complete : Bool}
    (read : host.files.readDir disk path = some (entries, complete))
    (located : disk.locate path = some there) :
    entries.Nodup ∧ entries.length ≤ (disk.names there).length ∧
      (complete = true → ∀ name, name ∈ entries ↔ (disk.node (there ++ [name])).isSome = true) := by
  rw [Files.Host.readDir, located, Option.bind_some, Files.Host.readDirAt] at read
  have order := host.files.entryOrder.perm (disk.names there)
  have distinct : (host.files.entryOrder.arrange (disk.names there)).Nodup :=
    order.nodup_iff.mpr (List.nodup_dedup _)
  split at read
  · dsimp only at read
    split at read
    · cases read
      refine ⟨distinct, Nat.le_of_eq order.length_eq, fun _ name => ?_⟩
      rw [order.mem_iff, Disk.mem_names]
    · cases read
    · cases read
      refine ⟨distinct.sublist (List.take_sublist ..), ?_, fun all => by cases all⟩
      exact (List.take_sublist ..).length_le.trans (Nat.le_of_eq order.length_eq)
  · cases read

theorem exists_related {α β : Type} {related : α → β → Prop} {list : List α} {others : List β}
    (each : List.Forall₂ related list others) {element : α} (mem : element ∈ list) :
    ∃ other ∈ others, related element other := by
  induction each with
  | nil => cases mem
  | cons here _ ih =>
      rcases List.mem_cons.mp mem with rfl | later
      · exact ⟨_, List.mem_cons_self .., here⟩
      · obtain ⟨other, there, is⟩ := ih later
        exact ⟨other, List.mem_cons_of_mem _ there, is⟩

namespace VirtualDeviceState

/-- A handle of the file or folder under these names of a storage. -/
def Denotes (state : VirtualDeviceState) (storageId handle : UInt32) (names : List Name) : Prop :=
  ∃ obj, state.objects.lookup handle = some obj ∧ obj.storageId = storageId ∧
    obj.relPath = relativePath names

section

variable {host : Host} {state after : VirtualDeviceState} {handle storageId parent : UInt32}
  {storage : VirtualStorageState} {root : Location} {folder names : List Name} {name : Name}

theorem Discovers.denotes (found : Discovers state after) (counted : state.Counted)
    (bound : after.nextHandle ≤ 2 ^ 32) (denotes : state.Denotes storageId handle names) :
    after.Denotes storageId handle names := by
  obtain ⟨obj, known, same⟩ := denotes
  exact ⟨obj, found.lookup counted bound known, same⟩

theorem Holds.entryPath (holds : state.Holds storageId folder parent) (counted : state.Counted)
    (name : Name) : state.entryPath parent name = relativePath (folder ++ [name]) := by
  rcases holds with ⟨rfl, rfl⟩ | ⟨-, obj, known, -, path⟩
  · rfl
  · have notRoot := (counted.live parent obj known).1
    rw [VirtualDeviceState.entryPath, if_neg notRoot, known]
    dsimp only
    rw [path]
    simp [relativePath, Path.child]

theorem Holds.folderIn (holds : state.Holds storageId folder parent) :
    state.FolderIn storageId parent := by
  intro notRoot
  rcases holds with ⟨-, root⟩ | ⟨-, obj, known, same, -⟩
  · exact absurd root notRoot
  · exact ⟨obj, known, same⟩

/-- A folder stays one when something in it is tracked. -/
theorem IsFolder.entry {obj : VirtualObject} (folderIs : state.IsFolder parent)
    (inside : state.FolderIn storageId parent) (counted : state.Counted)
    (bound : state.nextHandle < 2 ^ 32) :
    (state.allocHandle.2.track state.allocHandle.1 obj).IsFolder parent := by
  intro notRoot
  obtain ⟨folder, known, -⟩ := inside notRoot
  have kept := counted.lookup_entry bound obj known
  exact folderIs.congr rfl rfl (kept.trans known.symm) notRoot

/-- The loop of a listing gives every entry a handle of it. -/
theorem scanEntries_denotes (entries : List Name) (counted : state.Counted)
    (owned : state.Owns storageId) (bound : state.nextHandle + entries.length ≤ 2 ^ 32)
    (holds : state.Holds storageId folder parent) (folderIs : state.IsFolder parent)
    {handles : List UInt32}
    (scanned : scanEntries host storageId parent entries state = (handles, after)) :
    Discovers state after ∧ after.nextHandle ≤ state.nextHandle + entries.length ∧
      List.Forall₂ (fun handle name => after.Denotes storageId handle (folder ++ [name])) handles
        entries := by
  induction entries generalizing state handles with
  | nil =>
      cases scanned
      exact ⟨.refl, Nat.le_refl _, .nil⟩
  | cons name rest ih =>
      rw [List.length_cons] at bound ⊢
      rw [scanEntries] at scanned
      dsimp only at scanned
      have path := holds.entryPath counted name
      split at scanned
      · next handle known =>
          rw [path] at known
          obtain ⟨obj, tracked, same⟩ := handleAt_some known
          cases later : scanEntries host storageId parent rest state with
          | mk others last =>
              rw [later] at scanned
              cases scanned
              obtain ⟨found, less, denote⟩ := ih counted owned (by omega) holds folderIs later
              exact ⟨found, by omega,
                .cons (found.denotes counted (by omega) ⟨obj, tracked, same⟩) denote⟩
      · next unknown =>
          have room : state.nextHandle < 2 ^ 32 := by omega
          rw [path] at scanned unknown
          have first : Discovers state (state.allocHandle.2.track state.allocHandle.1
              ⟨relativePath (folder ++ [name]), storageId, parent⟩) :=
            .entry .refl owned (handleAt_none unknown) (Or.inl (holds.entryOf counted name))
              fun _ _ _ => ⟨holds.entryOf counted name, folderIs⟩
          cases later : scanEntries host storageId parent rest (state.allocHandle.2.track
              state.allocHandle.1 ⟨relativePath (folder ++ [name]), storageId, parent⟩) with
          | mk others last =>
              rw [later] at scanned
              cases scanned
              have counted' := counted.entry room
                ⟨relativePath (folder ++ [name]), storageId, parent⟩
              have next : (state.allocHandle.2.track state.allocHandle.1
                  ⟨relativePath (folder ++ [name]), storageId, parent⟩).nextHandle =
                    state.nextHandle + 1 := rfl
              obtain ⟨found, less, denote⟩ := ih counted' owned (by omega)
                (first.holds counted (by omega) holds)
                (folderIs.entry holds.folderIn counted room) later
              refine ⟨first.trans found, by omega, .cons ?_ denote⟩
              exact found.denotes counted' (by omega) ⟨_, AList.lookup_insert _, rfl, rfl⟩

/-- A folder of a storage whose backing directory is at a place. -/
structure Located (state : VirtualDeviceState) (storage : VirtualStorageState) (root : Location) :
    Prop where
  owner : state.findStorage storage.storageId = some storage
  located : state.disk.locate storage.config.backingDir = some root

theorem Located.congr (located : state.Located storage root)
    (found : Discovers state after) : after.Located storage root where
  owner := (findStorage_congr found.storages_eq _).trans located.owner
  located := by
    rw [found.disk_eq]
    exact located.located

theorem Holds.scannedDir (holds : state.Holds storage.storageId folder parent)
    (counted : state.Counted) :
    state.scannedDir storage parent = some (storage.config.backingDir.descend folder) := by
  rcases holds with ⟨rfl, rfl⟩ | ⟨-, obj, known, same, path⟩
  · rw [VirtualDeviceState.scannedDir, if_pos rfl, Path.descend_nil]
  · have notRoot := (counted.live parent obj known).1
    rw [VirtualDeviceState.scannedDir, if_neg notRoot, known]
    dsimp only
    rw [if_pos same, path, relativePath, Path.join_normals]

theorem isDirectory_folder (located : state.Located storage root) (folder : List Name) :
    state.disk.isDirectory (storage.config.backingDir.descend folder) =
      state.disk.directoryAt (root ++ folder) := by
  have start := Disk.components_ne_nil located.located
  rw [Bool.eq_iff_iff]
  constructor
  · intro directory
    obtain ⟨there, same, node⟩ :=
      (Disk.present_descend_iff start).mp (Disk.present_of_isDirectory directory)
    rw [located.located] at same
    cases same
    rwa [Disk.isDirectory_descend start located.located node] at directory
  · intro directory
    rwa [Disk.isDirectory_descend start located.located (Disk.present_of_directoryAt directory)]

theorem isFolder_of_holds (located : state.Located storage root)
    (holds : state.Holds storage.storageId folder parent)
    (directory : state.disk.directoryAt (root ++ folder) = true) : state.IsFolder parent := by
  intro notRoot obj other known owner
  rcases holds with ⟨-, top⟩ | ⟨-, same, known', id, path⟩
  · exact absurd top notRoot
  · rw [known] at known'
    cases known'
    rw [id, located.owner] at owner
    cases owner
    rw [path, relativePath, Path.join_normals, isDirectory_folder located, directory]

theorem locate_folder (located : state.Located storage root)
    (directory : state.disk.directoryAt (root ++ folder) = true) :
    state.disk.locate (storage.config.backingDir.descend folder) = some (root ++ folder) := by
  rw [Disk.locate_descend (Disk.components_ne_nil located.located), located.located,
    Option.bind_some, Disk.walk_present (Disk.present_of_directoryAt directory)]

/-- A listing of a folder, where it is read in full: each entry has a handle. -/
theorem scanDir_denotes (located : state.Located storage root) (counted : state.Counted)
    (holds : state.Holds storage.storageId folder parent)
    (bound : state.nextHandle + (state.disk.names (root ++ folder)).length ≤ 2 ^ 32)
    {result : Option (List UInt32)}
    (scanned : state.scanDir host storage.storageId parent = (result, after)) :
    Discovers state after ∧
      after.nextHandle ≤ state.nextHandle + (state.disk.names (root ++ folder)).length ∧
      (readableBelow host state.disk root → result ≠ none) ∧
      ∀ handles, result = some handles → ∃ entries : List Name, entries.Nodup ∧
        (∀ name, name ∈ entries ↔
          (state.disk.node (root ++ folder ++ [name])).isSome = true) ∧
        after.nextHandle ≤ state.nextHandle + entries.length ∧
        List.Forall₂ (fun handle name => after.Denotes storage.storageId handle (folder ++ [name]))
          handles entries := by
  rw [scanDir, located.owner] at scanned
  dsimp only at scanned
  rw [holds.scannedDir counted] at scanned
  dsimp only at scanned
  rw [isDirectory_folder located] at scanned
  split at scanned
  · next directory =>
      split at scanned
      · next unread =>
          cases scanned
          refine ⟨.refl, Nat.le_add_right .., fun readable => ?_, fun _ none => by cases none⟩
          rw [readDir_descend (Disk.components_ne_nil located.located) located.located readable
            directory] at unread
          cases unread
      · next entries complete read =>
          obtain ⟨distinct, few, whole⟩ := readDir_entries read (locate_folder located directory)
          cases listed : scanEntries host storage.storageId parent entries state with
          | mk handles last =>
              rw [listed] at scanned
              dsimp only at scanned
              cases scanned
              obtain ⟨found, less, denote⟩ := scanEntries_denotes entries counted
                ⟨storage, located.owner⟩ (by omega) holds
                (isFolder_of_holds located holds directory) listed
              refine ⟨found, by omega, fun readable => ?_, fun own same => ?_⟩
              · rw [readDir_descend (Disk.components_ne_nil located.located) located.located
                  readable directory] at read
                cases read
                simp
              split at same
              · next all =>
                  cases same
                  exact ⟨entries, distinct, whole all, less, denote⟩
              · cases same
  · next file =>
      cases scanned
      refine ⟨.refl, Nat.le_add_right .., fun _ => by simp, fun handles same => ?_⟩
      cases same
      refine ⟨[], List.nodup_nil, fun name => ?_, Nat.le_refl _, .nil⟩
      rw [Disk.names_of_file (Bool.not_eq_true _ ▸ file)]
      simp

/-- Halfway through a listing of everything: the handles waiting to be looked into and those found,
each of its node. -/
structure Halfway (first state : VirtualDeviceState) (storage : VirtualStorageState)
    (root : Location) (queue all : List UInt32) (places found : List (List Name)) : Prop where
  discovers : Discovers first state
  frontier : Frontier (first.disk.forest root) (places.map some) found
  waiting : List.Forall₂ (state.Denotes storage.storageId) queue places
  known : List.Forall₂ (state.Denotes storage.storageId) all found
  given : state.nextHandle ≤ first.nextHandle + found.length
  ordered : (first.disk.forest root).Ordered found

namespace Halfway

variable {first reached : VirtualDeviceState} {queue rest all children : List UInt32}
  {places others found : List (List Name)} {entries : List Name}

/-- There is a node left for every entry of the next folder. -/
theorem room (halfway : Halfway first state storage root queue all (folder :: others) found)
    (place : Disk.placeOf folder = some folder) (distinct : entries.Nodup)
    (whole : ∀ name, name ∈ entries ↔
      (first.disk.node (root ++ folder ++ [name])).isSome = true) :
    found.length + entries.length ≤ (first.disk.forest root).nodes.length := by
  have lists := Disk.forest_listed distinct whole
  rw [place] at lists
  have frontier := halfway.frontier.visit lists (lists.distinct.map fun _ _ => Option.some.inj)
    (by simp) (fun _ _ container mem _ => List.mem_map_of_mem mem)
  have few := frontier.found_length_le
  rwa [List.length_append, List.length_map] at few

/-- The next folder is listed. -/
theorem visit
    (halfway : Halfway first state storage root (handle :: rest) all (folder :: others) found)
    (counted : first.Counted)
    (bound : first.nextHandle + (first.disk.forest root).nodes.length ≤ 2 ^ 32)
    (place : Disk.placeOf folder = some folder) (distinct : entries.Nodup)
    (whole : ∀ name, name ∈ entries ↔
      (first.disk.node (root ++ folder ++ [name])).isSome = true)
    (onward : Discovers state reached)
    (less : reached.nextHandle ≤ state.nextHandle + entries.length)
    (denote : List.Forall₂ (fun handle name =>
      reached.Denotes storage.storageId handle (folder ++ [name])) children entries) :
    Halfway first reached storage root (children.reverse ++ rest) (all ++ children)
      ((entries.map fun name => folder ++ [name]).reverse ++ others)
      (found ++ entries.map fun name => folder ++ [name]) := by
  have room := halfway.room place distinct whole
  have given := halfway.given
  have lists := Disk.forest_listed distinct whole
  rw [place] at lists
  have counted' := halfway.discovers.counted counted (by omega)
  have kept : ∀ {handles : List UInt32} {nodes : List (List Name)},
      List.Forall₂ (state.Denotes storage.storageId) handles nodes →
        List.Forall₂ (reached.Denotes storage.storageId) handles nodes := fun each =>
    each.imp fun _ _ => onward.denotes counted' (by omega)
  have new : List.Forall₂ (reached.Denotes storage.storageId) children
      (entries.map fun name => folder ++ [name]) := List.forall₂_map_right_iff.mpr denote
  cases halfway.waiting with
  | cons _ waiting =>
      refine ⟨halfway.discovers.trans onward, ?_, ?_, ?_, ?_, ?_⟩
      · rw [List.map_append]
        refine halfway.frontier.visit lists ?_ ?_ ?_
        · rw [List.map_reverse, List.nodup_reverse]
          exact lists.distinct.map fun _ _ => Option.some.inj
        · intro next mem
          obtain ⟨node, there, rfl⟩ := List.mem_map.mp mem
          exact ⟨node, List.mem_reverse.mp there, rfl⟩
        · intro _ _ container mem _
          exact List.mem_map_of_mem (List.mem_reverse.mpr mem)
      · exact List.rel_append (List.forall₂_reverse_iff.mpr new) (kept waiting)
      · exact List.rel_append (kept halfway.known) new
      · rw [List.length_append, List.length_map]
        omega
      · refine halfway.ordered.append fun node mem container home => ?_
        rw [((lists.mem node).mp mem).2] at home
        rw [← Option.some.inj home]
        exact halfway.frontier.waiting folder (List.mem_cons_self ..)

end Halfway

variable (host) in
theorem scanFolders_halfway {first : VirtualDeviceState} {queue all : List UInt32}
    {places found : List (List Name)} (fuel : Nat) (located : first.Located storage root)
    (counted : first.Counted)
    (bound : first.nextHandle + (first.disk.forest root).nodes.length ≤ 2 ^ 32)
    (halfway : Halfway first state storage root queue all places found)
    (enough : (first.disk.forest root).nodes.length + places.length ≤ fuel + found.length) :
    ∃ result after, state.scanFolders host storage.storageId fuel queue all = some (result, after) ∧
      after.nextHandle ≤ first.nextHandle + (first.disk.forest root).nodes.length ∧
      (readableBelow host first.disk root → result ≠ none) ∧
      ∀ handles, result = some handles →
        ∃ nodes, Halfway first after storage root [] handles [] nodes := by
  have few := halfway.frontier.found_length_le
  have given := halfway.given
  induction fuel generalizing state queue all places found with
  | zero =>
      have none : places = [] := List.eq_nil_of_length_eq_zero (by omega)
      subst none
      cases halfway.waiting
      exact ⟨_, _, rfl, by omega, fun _ => by simp,
        fun handles same => ⟨found, by cases same; exact halfway⟩⟩
  | succ fuel ih =>
      cases halfway.waiting with
      | nil => exact ⟨_, _, rfl, by omega, fun _ => by simp,
        fun handles same => ⟨found, by cases same; exact halfway⟩⟩
      | @cons handle folder rest others denotes waiting =>
          have inPlace := halfway.frontier.waiting folder (List.mem_cons_self ..)
          obtain ⟨named, -⟩ := Disk.mem_forest.mp (halfway.frontier.reached folder inPlace).mem
          have place : Disk.placeOf folder = some folder := if_neg named
          have here := located.congr halfway.discovers
          have sameDisk := halfway.discovers.disk_eq
          obtain ⟨obj, tracked, same, path⟩ := denotes
          rw [scanFolders, tracked, here.owner]
          dsimp only
          rw [path, relativePath, Path.join_normals, isDirectory_folder here, sameDisk]
          split
          · next directory =>
              have distinctNames : (first.disk.names (root ++ folder)).Nodup := List.nodup_dedup _
              have room := halfway.room place distinctNames fun name => Disk.mem_names
              cases scanned : state.scanDir host storage.storageId handle with
              | mk listing reached =>
                  obtain ⟨onward, fewer, read, lists⟩ := scanDir_denotes here
                    (halfway.discovers.counted counted (by omega))
                    (Or.inr ⟨named, obj, tracked, same, path⟩)
                    (by rw [sameDisk]; omega) scanned
                  rw [sameDisk] at fewer read
                  cases listing with
                  | none => exact ⟨_, _, rfl, by omega, read, fun _ none => by cases none⟩
                  | some children =>
                      obtain ⟨entries, distinct, whole, less, denote⟩ := lists children rfl
                      rw [sameDisk] at whole
                      dsimp only
                      have next :=
                        halfway.visit counted bound place distinct whole onward less denote
                      refine ih next ?_ next.frontier.found_length_le next.given
                      rw [List.length_cons] at enough
                      rw [List.length_append, List.length_append, List.length_reverse,
                        List.length_map]
                      omega
          · next file =>
              have lists : (first.disk.forest root).Listed (Disk.placeOf folder) [] :=
                Disk.forest_listed List.nodup_nil fun name => by
                  rw [Disk.names_of_file (Bool.not_eq_true _ ▸ file)]
                  simp
              rw [place] at lists
              have frontier := halfway.frontier.visit lists List.nodup_nil
                (by simp) (by simp)
              rw [List.append_nil, List.nil_append] at frontier
              refine ih ⟨halfway.discovers, frontier, waiting, halfway.known, given,
                halfway.ordered⟩ ?_ few given
              rw [List.length_cons] at enough
              omega

theorem Denotes.names_inj {other : List Name} (denotes : state.Denotes storageId handle names)
    (again : state.Denotes storageId handle other) : names = other := by
  obtain ⟨obj, known, -, path⟩ := denotes
  obtain ⟨obj', known', -, path'⟩ := again
  rw [known] at known'
  cases known'
  exact relativePath_inj.mp (path.symm.trans path')

theorem nodup_of_denotes {handles : List UInt32} {nodes : List (List Name)}
    (denote : List.Forall₂ (state.Denotes storageId) handles nodes) (distinct : nodes.Nodup) :
    handles.Nodup := by
  induction denote with
  | nil => exact List.nodup_nil
  | @cons handle node handles nodes here later ih =>
      obtain ⟨apart, rest⟩ := List.nodup_cons.mp distinct
      refine List.nodup_cons.mpr ⟨fun mem => apart ?_, ih rest⟩
      obtain ⟨other, there, denotes⟩ := exists_related later mem
      rw [here.names_inj denotes]
      exact there

/-- What a listing of everything holds: a handle of each node below the backing directory, a folder
before what lies in it. -/
structure Whole (disk : Disk) (state : VirtualDeviceState) (storageId : UInt32) (root : Location)
    (handles : List UInt32) (nodes : List (List Name)) : Prop where
  distinct : handles.Nodup
  denote : List.Forall₂ (state.Denotes storageId) handles nodes
  nodup : nodes.Nodup
  mem : ∀ names, names ∈ nodes ↔ names ≠ [] ∧ (disk.node (root ++ names)).isSome = true
  ordered : (disk.forest root).Ordered nodes

/-- While handles last a listing of everything ends, and one that succeeds is whole. -/
theorem scanAll_whole (host : Host) (located : state.Located storage root) (counted : state.Counted)
    (bound : state.nextHandle + (state.disk.forest root).nodes.length ≤ 2 ^ 32) :
    ∃ result after, state.scanAll host storage.storageId = some (result, after) ∧
      after.nextHandle ≤ state.nextHandle + (state.disk.forest root).nodes.length ∧
      (readableBelow host state.disk root → result ≠ none) ∧
      ∀ handles, result = some handles →
        ∃ nodes, Whole state.disk after storage.storageId root handles nodes := by
  have start := Frontier.start (state.disk.forest root)
  have visit : ∀ entries : List Name, entries.Nodup → (∀ name, name ∈ entries ↔
      (state.disk.node (root ++ [name])).isSome = true) →
      Frontier (state.disk.forest root) ((entries.map fun name => [name]).reverse.map some)
        (entries.map fun name => [name]) := by
    intro entries distinct whole
    have lists : (state.disk.forest root).Listed (Disk.placeOf []) (entries.map ([] ++ [·])) :=
      Disk.forest_listed distinct fun name => by rw [List.append_nil, whole]
    rw [← List.append_nil (List.map some _), ← List.nil_append (List.map _ entries)]
    refine start.visit lists ?_ ?_ ?_
    · rw [List.map_reverse, List.nodup_reverse]
      exact lists.distinct.map fun _ _ => Option.some.inj
    · intro next mem
      obtain ⟨node, there, rfl⟩ := List.mem_map.mp mem
      exact ⟨node, List.mem_reverse.mp there, rfl⟩
    · intro _ _ container mem _
      exact List.mem_map_of_mem (List.mem_reverse.mpr mem)
  have room := (visit (state.disk.names root) (List.nodup_dedup _)
    fun name => Disk.mem_names).found_length_le
  rw [List.length_map] at room
  cases scanned : state.scanDir host storage.storageId handleRoot with
  | mk listing reached =>
      rw [scanAll, scanned]
      have holds : state.Holds storage.storageId [] handleRoot := Or.inl ⟨rfl, rfl⟩
      obtain ⟨onward, fewer, read, lists⟩ := scanDir_denotes located counted holds
        (by rw [List.append_nil]; omega) scanned
      rw [List.append_nil] at fewer
      cases listing with
      | none => exact ⟨_, _, rfl, by omega, read, fun _ none => by cases none⟩
      | some children =>
          obtain ⟨entries, distinct, whole, less, denote⟩ := lists children rfl
          rw [List.append_nil] at whole
          have frontier := visit entries distinct whole
          have new : List.Forall₂ (reached.Denotes storage.storageId) children
            (entries.map fun name => [name]) := List.forall₂_map_right_iff.mpr denote
          have halfway : Halfway state reached storage root children.reverse children
              (entries.map fun name => [name]).reverse (entries.map fun name => [name]) := by
            refine ⟨onward, frontier, List.forall₂_reverse_iff.mpr new, new, ?_, ?_⟩
            · rw [List.length_map]
              exact less
            · rw [← List.nil_append (List.map _ entries)]
              exact (Walk.Forest.ordered_nil _).append (by simp [Disk.forest, Disk.placeOf])
          obtain ⟨result, after, ran, bounded, readAll, ends⟩ := scanFolders_halfway host
            state.disk.domain.length located counted bound halfway (by
              have few := Disk.forest_length_le state.disk root
              rw [List.length_reverse]
              omega)
          refine ⟨result, after, ran, bounded, readAll, fun handles same => ?_⟩
          obtain ⟨nodes, whole⟩ := ends handles same
          refine ⟨nodes, nodup_of_denotes whole.known whole.frontier.found_nodup, whole.known,
            whole.frontier.found_nodup, fun names => ?_, whole.ordered⟩
          rw [whole.frontier.done, Disk.forest_reached, Disk.mem_forest]

end

end VirtualDeviceState

end VirtualDevice
