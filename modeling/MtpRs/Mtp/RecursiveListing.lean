import MtpRs.Lib.Frontier
import MtpRs.Mtp.PropListAgreement
import MtpRs.Mtp.RootListing

set_option autoImplicit false

/- The walk over a whole storage, folder by folder. -/
namespace Mtp

open Ptp (ObjectDataset PtpError)

def Responder.withoutToken (device : Responder) : Responder :=
  { device with cancelled := fun _ => false }

/-- The folders of a listing, the last one on top of the stack. -/
def pushFolders (stack : List (Option UInt32)) (objects : List ListedObject) :
    List (Option UInt32) :=
  objects.foldl (fun stack obj => if obj.isFolder then some obj.handle :: stack else stack) stack

namespace ListingBackend

/-- The loop of `collect_objects_recursive`, one folder at a time: `devices k` answers the
`k`-th listing. It gives up when the fuel ends with folders left. -/
def visitFolders (devices : Nat → Responder) (storage : UInt32) :
    (fuel k : Nat) → ListingBackend → (foldersToVisit : List (Option UInt32)) →
    List ListedObject → List SkippedObject →
    Option (Except Error ObjectCollection × ListingBackend)
  | _, _, self, [], objects, skipped => some (.ok ⟨objects, skipped⟩, self)
  | 0, _, _, _ :: _, _, _ => none
  | fuel + 1, k, self, currentParent :: foldersToVisit, objects, skipped =>
      let (listing, after) := self.list (devices k).withoutToken storage currentParent
      match collectIn listing with
      | .error e => some (.error e, after)
      | .ok collection =>
          visitFolders devices storage fuel (k + 1) after
            (pushFolders foldersToVisit collection.objects)
            (objects ++ collection.objects) (skipped ++ collection.skipped)

def collectObjectsRecursive (self : ListingBackend) (devices : Nat → Responder)
    (storage : UInt32) (parent : Option UInt32) (fuel : Nat) :
    Option (Except Error ObjectCollection × ListingBackend) :=
  self.visitFolders devices storage fuel 0 [parent] [] []

end ListingBackend

/-- The objects of a storage as a tree: an object lies in the object it reports as its parent,
or at the root if it reports a spelling of it. -/
structure ObjectTree (storage : UInt32) extends ObjectStore where
  nonZero : handleRoot ∉ handles
  notAll : handleAll ∉ handles
  placed : ∀ handle ∈ handles,
    (info handle).parent ∈ handles ∨ rootSpelling storage (info handle).parent = true

namespace ObjectTree

variable {storage : UInt32}

/-- The folder an object lies in, or none at the root. -/
def home (tree : ObjectTree storage) (handle : UInt32) : Option UInt32 :=
  if tree.parent handle ∈ tree.handles then some (tree.parent handle) else none

def forest (tree : ObjectTree storage) : Walk.Forest UInt32 := ⟨tree.handles, tree.home⟩

def rootHandles (tree : ObjectTree storage) : List UInt32 :=
  tree.handles.filter fun handle => tree.home handle = none

/-- A device that answers every listing of the tree. -/
structure Serves (tree : ObjectTree storage) (device : Responder) : Prop where
  describes : tree.Describes device
  /-- A request for the root's handles that is accepted gets the root's or all, in any order. -/
  root : ∀ attempt parent answered, parent = handleRoot ∨ parent = handleAll →
    device.objectHandles attempt storage parent = .ok answered →
      answered.Perm tree.rootHandles ∨ answered.Perm tree.handles
  rootAccepted : ∃ resolved, resolveListing device.withoutToken storage none = .ok resolved
  parentZero : TookParentZero device storage →
    ∀ handle ∈ tree.rootHandles, tree.parent handle = handleRoot
  folder : ∀ handle ∈ tree.handles, (tree.info handle).isFolder = true →
    tree.Consistent storage handle device ∧
      ∃ answered, device.objectHandles 1 storage handle = .ok answered
  /-- A property request is answered or refused. -/
  refusals : ∀ parent property e, device.objectPropList parent property = .error e →
    isAllHandleRejection e = true

/-- What lies in an object makes it a folder, by its format where folders are listed by
properties. -/
def FoldersMarked (tree : ObjectTree storage) (byPropList : Bool) : Prop :=
  ∀ handle ∈ tree.handles, tree.parent handle ∈ tree.handles →
    (tree.info (tree.parent handle)).isFolder = true ∧
      (byPropList = true → (tree.info (tree.parent handle)).format = .association)

section

variable {tree : ObjectTree storage} {device : Responder} {answered : List UInt32}

theorem home_eq_none {handle : UInt32} :
    tree.home handle = none ↔ tree.parent handle ∉ tree.handles := by
  unfold home
  split
  · next inTree =>
    exact ⟨fun same => absurd same (Option.some_ne_none _), fun out => absurd inTree out⟩
  · next out => exact ⟨fun _ => out, fun _ => rfl⟩

theorem home_eq_some {handle folder : UInt32} :
    tree.home handle = some folder ↔ folder ∈ tree.handles ∧ tree.parent handle = folder := by
  unfold home
  split
  · next inTree =>
      constructor
      · intro same
        cases same
        exact ⟨inTree, rfl⟩
      · rintro ⟨-, rfl⟩
        rfl
  · next out =>
      constructor
      · intro same
        cases same
      · rintro ⟨inTree, rfl⟩
        exact absurd inTree out

theorem rootFilter_accepts {parent : UInt32} :
    (rootFilter storage answered).accepts parent = true ↔
      parent = handleRoot ∨ parent = handleAll ∨ parent = storage ∧ storage ∉ answered := by
  have collides : answered.any (· == storage) = true ↔ storage ∈ answered := by
    simp only [List.any_eq_true, beq_iff_eq, exists_eq_right]
  by_cases there : storage ∈ answered
  · simp [rootFilter, collides.mpr there, there, ParentFilter.accepts, handleRoot, handleAll]
  · have apart := Bool.not_eq_true _ ▸ mt collides.mp there
    simp [rootFilter, apart, there, ParentFilter.accepts, handleRoot, handleAll, or_assoc]

/-- The handles of an accepted root request are objects of the tree, once each. -/
theorem root_answered (lists : answered.Perm tree.rootHandles ∨ answered.Perm tree.handles) :
    answered.Nodup ∧ (∀ handle ∈ answered, handle ∈ tree.handles) ∧
      ∀ handle ∈ tree.rootHandles, handle ∈ answered := by
  rcases lists with perm | perm
  · refine ⟨perm.nodup_iff.mpr (tree.distinct.filter _), ?_, ?_⟩
    · intro handle mem
      exact (List.mem_filter.mp (perm.mem_iff.mp mem)).1
    · intro handle mem
      exact perm.mem_iff.mpr mem
  · refine ⟨perm.nodup_iff.mpr tree.distinct, ?_, ?_⟩
    · intro handle mem
      exact perm.mem_iff.mp mem
    · intro handle mem
      exact perm.mem_iff.mpr (List.mem_filter.mp mem).1

/-- The root filter lets through the objects at the root. -/
theorem rootFilter_home (lists : answered.Perm tree.rootHandles ∨ answered.Perm tree.handles)
    {handle : UInt32} (mem : handle ∈ answered) :
    (rootFilter storage answered).accepts (tree.parent handle) = true ↔
      tree.home handle = none := by
  obtain ⟨-, inTree, -⟩ := root_answered lists
  rw [rootFilter_accepts, home_eq_none]
  constructor
  · rintro (zero | all | ⟨marker, free⟩)
    · rw [zero]
      exact tree.nonZero
    · rw [all]
      exact tree.notAll
    · rcases lists with perm | perm
      · have atRoot := (List.mem_filter.mp (perm.mem_iff.mp mem)).2
        exact home_eq_none.mp (of_decide_eq_true atRoot)
      · rw [marker]
        exact mt perm.mem_iff.mpr free
  · intro out
    have spelled := (tree.placed handle (inTree handle mem)).resolve_left out
    simp only [rootSpelling, Bool.or_eq_true, beq_iff_eq] at spelled
    rcases spelled with (zero | all) | marker
    · exact Or.inl zero
    · exact Or.inr (Or.inl all)
    · refine Or.inr (Or.inr ⟨marker, ?_⟩)
      intro there
      apply out
      rw [show tree.parent handle = storage from marker]
      exact inTree storage there

/-- Every way a root listing gets its handles leaves the objects at the root. -/
theorem Serves.root_listed (serves : tree.Serves device) {filter : ParentFilter}
    (resolved : resolveListing device.withoutToken storage none = .ok (answered, filter)) :
    (∀ handle ∈ answered, handle ∈ tree.handles) ∧
      tree.forest.Listed none
        (answered.filter fun handle => filter.accepts (tree.parent handle)) := by
  have lists : answered.Perm tree.rootHandles ∨ answered.Perm tree.handles := by
    rcases resolveListing_root resolved with ⟨-, accepted, -⟩ | ⟨-, ⟨attempt, accepted⟩, -⟩
    · exact serves.root 1 handleRoot answered (Or.inl rfl) accepted
    · exact serves.root attempt handleAll answered (Or.inr rfl) accepted
  obtain ⟨distinct, inTree, all⟩ := root_answered lists
  have accepts : ∀ handle ∈ answered,
      (filter.accepts (tree.parent handle) = true ↔ tree.home handle = none) := by
    intro handle mem
    rcases resolveListing_root resolved with ⟨took, -, rfl⟩ | ⟨-, -, rfl⟩
    · rw [ParentFilter.accepts, beq_iff_eq]
      constructor
      · intro zero
        rw [home_eq_none, zero]
        exact tree.nonZero
      · intro atRoot
        apply serves.parentZero took handle
        exact List.mem_filter.mpr ⟨inTree handle mem, decide_eq_true atRoot⟩
    · exact rootFilter_home lists mem
  refine ⟨inTree, distinct.filter _, ?_⟩
  intro handle
  rw [List.mem_filter]
  constructor
  · rintro ⟨mem, accepted⟩
    exact ⟨inTree handle mem, (accepts handle mem).mp accepted⟩
  · rintro ⟨mem, atRoot⟩
    have there := all handle (List.mem_filter.mpr ⟨mem, decide_eq_true atRoot⟩)
    exact ⟨there, (accepts handle there).mpr atRoot⟩

/-- The per-handle path of a device that describes the tree fails no object. -/
theorem Serves.listPerHandle_ok (serves : tree.Serves device) {parent : Option UInt32}
    {filter : ParentFilter} (inTree : ∀ handle ∈ answered, handle ∈ tree.handles)
    (resolved : resolveListing device.withoutToken storage parent = .ok (answered, filter)) :
    listPerHandle device.withoutToken storage parent = .ok ⟨answered.length,
      ((answered.filter fun handle => filter.accepts (tree.parent handle)).map
        tree.object).map .ok⟩ := by
  have described : tree.Describes device.withoutToken :=
    ⟨serves.describes.info, serves.describes.size⟩
  rw [listPerHandle, resolved]
  simp only []
  rw [described.listingItems_eq (fun _ => rfl) inTree 0]

/-- The folder flags of a listing: every object that holds others is flagged, and only what the
device calls a folder is. -/
structure Flags (tree : ObjectTree storage) (objects : List ListedObject) : Prop where
  holding : ∀ handle ∈ tree.handles, ∀ o ∈ objects, tree.home handle = some o.handle →
    o.isFolder = true
  folders : ∀ o ∈ objects, o.isFolder = true → (tree.info o.handle).isFolder = true

theorem flags_object {byPropList : Bool} (marked : tree.FoldersMarked byPropList)
    (handles : List UInt32) : tree.Flags (handles.map tree.object) where
  holding handle mem o listed inside := by
    obtain ⟨folder, -, rfl⟩ := List.mem_map.mp listed
    obtain ⟨inTree, same⟩ := home_eq_some.mp inside
    rw [tree.object_handle] at inTree same
    have folders := (marked handle mem (same ▸ inTree)).1
    rw [same] at folders
    rw [ListedObject.isFolder, ObjectStore.object, ListedObject.fromPtp, tree.dataset_isFolder]
    exact folders
  folders o listed isFolder := by
    obtain ⟨folder, -, rfl⟩ := List.mem_map.mp listed
    rw [tree.object_handle]
    rwa [ListedObject.isFolder, ObjectStore.object, ListedObject.fromPtp, tree.dataset_isFolder]
      at isFolder

theorem flags_flagged {objects : List ListedObject} (marked : tree.FoldersMarked true)
    (flagged : tree.Flagged objects) : tree.Flags objects where
  holding handle mem o listed inside := by
    obtain ⟨inTree, same⟩ := home_eq_some.mp inside
    have association := (marked handle mem (same ▸ inTree)).2 rfl
    rw [same] at association
    exact (flagged o listed).1 association
  folders o listed := (flagged o listed).2

/-- A folder's listing, put in the tree's terms. -/
theorem listed_of_lists {folder : UInt32} (inTree : folder ∈ tree.handles)
    {objects : List ListedObject} (lists : tree.Lists folder objects) :
    tree.forest.Listed (some folder) (objects.map fun o => o.handle) := by
  have handles : (objects.map fun o => o.handle).Perm (tree.children folder) := by
    have firsts := List.Perm.map (fun key => key.1) lists
    have own : (((tree.children folder).map tree.object).map tree.key).map (fun key => key.1) =
        tree.children folder := by
      rw [List.map_map, List.map_map]
      exact (List.map_congr_left fun handle _ => tree.object_handle handle).trans (List.map_id _)
    rw [own, List.map_map] at firsts
    exact firsts
  refine ⟨handles.nodup_iff.mpr (tree.distinct.filter _), ?_⟩
  intro handle
  rw [handles.mem_iff, ObjectStore.mem_children, show tree.forest.home handle = tree.home handle
    from rfl, home_eq_some]
  exact ⟨fun child => ⟨child.1, inTree, child.2⟩, fun child => ⟨child.1, child.2.2⟩⟩

/-- A place of the walk: the root, or a folder of the tree. -/
def Place (tree : ObjectTree storage) (place : Option UInt32) : Prop :=
  ∀ folder, place = some folder → folder ∈ tree.handles ∧ (tree.info folder).isFolder = true

/-- One visit: the objects in that place, flagged, and no more forgotten of the device. -/
theorem Serves.visit (serves : tree.Serves device) (self : ListingBackend)
    (marked : tree.FoldersMarked self.hasObjectPropList) {place : Option UInt32}
    (visits : tree.Place place) :
    ∃ total objects, (self.list device.withoutToken storage place).1 =
        .ok ⟨total, objects.map .ok⟩ ∧
      (self.list device.withoutToken storage place).2.hasObjectPropList =
        self.hasObjectPropList ∧
      tree.forest.Listed place (objects.map fun o => o.handle) ∧ tree.Flags objects := by
  have handles : ∀ list : List UInt32,
      (list.map tree.object).map (fun o => o.handle) = list := by
    intro list
    simp only [List.map_map, Function.comp_def, tree.object_handle, List.map_id']
  cases place with
  | none =>
      obtain ⟨⟨answered, filter⟩, resolved⟩ := serves.rootAccepted
      obtain ⟨inTree, listed⟩ := serves.root_listed resolved
      have rootPath : self.list device.withoutToken storage none =
          (listPerHandle device.withoutToken storage none, self) := by
        cases fast : self.hasObjectPropList <;> simp only [ListingBackend.list, fast] <;> rfl
      rw [rootPath, serves.listPerHandle_ok inTree resolved]
      refine ⟨_, _, rfl, rfl, ?_, flags_object marked _⟩
      rw [handles]
      exact listed
  | some folder =>
      obtain ⟨inTree, isFolder⟩ := visits folder rfl
      obtain ⟨consistent, answered, accepted⟩ := serves.folder folder inTree isFolder
      have without : tree.Consistent storage folder device.withoutToken :=
        ⟨⟨consistent.describes.info, consistent.describes.size⟩, consistent.apart,
          consistent.handles, consistent.truthful, consistent.complete⟩
      obtain ⟨remembers, paths⟩ := ListingBackend.list_paths without self
      rcases paths with perHandle | ⟨objects, -, listed, lists, fast, flagged⟩ | ⟨e, -, failure⟩
      · have resolved : resolveListing device.withoutToken storage (some folder) =
            .ok (answered, .exact folder) := by
          have first : device.withoutToken.objectHandles 1 storage folder = .ok answered := accepted
          simp only [resolveListing, resolveOwn, Option.isNone_some, Bool.false_eq_true,
            ↓reduceIte, Option.getD_some, first]
          rfl
        have all := serves.listPerHandle_ok (consistent.handles answered accepted).2.1 resolved
        have lists := without.lists_perHandle all
        exact ⟨_, _, perHandle.trans all, remembers.device, listed_of_lists inTree lists,
          flags_object marked _⟩
      · refine ⟨_, objects, listed, remembers.device, listed_of_lists inTree lists, ?_⟩
        rw [fast] at marked
        exact flags_flagged marked flagged
      · rcases failure with ⟨-, here, set⟩ | ⟨property, failed, sick⟩
        · cases set
        · rw [serves.refusals folder property e failed] at sick
          cases sick

end

end ObjectTree

theorem collectItems_ok (objects before : List ListedObject) (skipped : List BackendListingError) :
    collectItems (objects.map .ok) before skipped = .ok (before ++ objects, skipped) := by
  induction objects generalizing before with
  | nil => rw [List.append_nil]; rfl
  | cons object rest ih =>
      rw [List.map_cons, collectItems, ih, List.append_assoc]
      rfl

/-- A listing whose items are all objects is collected whole. -/
theorem collectIn_ok (total : Nat) (objects : List ListedObject) :
    collectIn (.ok ⟨total, objects.map .ok⟩) = .ok ⟨objects, []⟩ := by
  simp only [collectIn, bind, Except.bind, collectItems_ok, List.nil_append]
  cases objects <;> rfl

theorem pushFolders_eq (stack : List (Option UInt32)) (objects : List ListedObject) :
    pushFolders stack objects =
      ((objects.filter fun o => o.isFolder).map fun o => some o.handle).reverse ++ stack := by
  induction objects generalizing stack with
  | nil => rfl
  | cons object rest ih =>
      rw [pushFolders, List.foldl_cons, ← pushFolders, ih, List.filter_cons]
      by_cases isFolder : object.isFolder
      · rw [if_pos isFolder, if_pos isFolder, List.map_cons, List.reverse_cons, List.append_assoc]
        rfl
      · rw [if_neg isFolder, if_neg isFolder]

namespace ObjectTree

variable {storage : UInt32} {tree : ObjectTree storage} {devices : Nat → Responder}

/-- The loop ends within the fuel its frontier leaves it, with everything that can be reached. -/
theorem visitFolders_complete (serves : ∀ k, tree.Serves (devices k)) (fuel k : Nat)
    (self : ListingBackend) (marked : tree.FoldersMarked self.hasObjectPropList)
    {stack : List (Option UInt32)} {objects : List ListedObject}
    (frontier : Walk.Frontier tree.forest stack (objects.map fun o => o.handle))
    (places : ∀ place ∈ stack, tree.Place place)
    (enough : tree.handles.length - objects.length + stack.length ≤ fuel) :
    ∃ found after, self.visitFolders devices storage fuel k stack objects [] =
        some (.ok ⟨found, []⟩, after) ∧
      Walk.Frontier tree.forest [] (found.map fun o => o.handle) := by
  induction fuel generalizing k self stack objects with
  | zero =>
      cases stack with
      | nil => exact ⟨objects, self, rfl, frontier⟩
      | cons place rest =>
          rw [List.length_cons] at enough
          omega
  | succ fuel ih =>
      cases stack with
      | nil => exact ⟨objects, self, rfl, frontier⟩
      | cons place rest =>
          obtain ⟨total, listed, list, device, lists, flags⟩ :=
            (serves k).visit self marked (places place (List.mem_cons_self ..))
          have pushed := pushFolders_eq rest listed
          have entered : ∀ next ∈ ((listed.filter fun o => o.isFolder).map
              fun o => some o.handle).reverse, ∃ o ∈ listed, o.isFolder = true ∧
                next = some o.handle := by
            intro next mem
            obtain ⟨o, inFolders, rfl⟩ := List.mem_map.mp (List.mem_reverse.mp mem)
            obtain ⟨mem, isFolder⟩ := List.mem_filter.mp inFolders
            exact ⟨o, mem, isFolder, rfl⟩
          have next : Walk.Frontier tree.forest (pushFolders rest listed)
              ((objects ++ listed).map fun o => o.handle) := by
            rw [pushed, List.map_append]
            apply frontier.visit lists
            · rw [(List.reverse_perm _).nodup_iff]
              have sub := ((List.filter_sublist (p := fun o : ListedObject => o.isFolder)
                (l := listed)).map fun o => o.handle)
              have distinct := lists.distinct.sublist sub
              have apart : (((listed.filter fun o => o.isFolder).map fun o => o.handle).map
                  some).Nodup :=
                List.Pairwise.map some (fun _ _ apart same => apart (Option.some.inj same)) distinct
              rw [List.map_map] at apart
              exact apart
            · intro next mem
              obtain ⟨o, inListed, -, rfl⟩ := entered next mem
              exact ⟨o.handle, List.mem_map_of_mem inListed, rfl⟩
            · intro node inForest container inListed inside
              obtain ⟨o, mem, rfl⟩ := List.mem_map.mp inListed
              have isFolder := flags.holding node inForest o mem inside
              exact List.mem_reverse.mpr
                (List.mem_map.mpr ⟨o, List.mem_filter.mpr ⟨mem, isFolder⟩, rfl⟩)
          have known : ∀ place ∈ pushFolders rest listed, tree.Place place := by
            intro place mem
            rw [pushed] at mem
            rcases List.mem_append.mp mem with added | waiting
            · obtain ⟨o, inListed, isFolder, rfl⟩ := entered place added
              rintro folder same
              cases same
              have inTree := (lists.mem o.handle).mp (List.mem_map_of_mem inListed)
              exact ⟨inTree.1, flags.folders o inListed isFolder⟩
            · exact places place (List.mem_cons_of_mem _ waiting)
          have lengths := next.found_length_le
          have folders : (pushFolders rest listed).length ≤ listed.length + rest.length := by
            rw [pushed, List.length_append, List.length_reverse, List.length_map]
            have few := List.length_filter_le (fun o : ListedObject => o.isFolder) listed
            omega
          rw [List.length_map, List.length_append,
            show tree.forest.nodes.length = tree.handles.length from rfl] at lengths
          rw [List.length_cons] at enough
          have fuelLeft : tree.handles.length - (objects ++ listed).length +
              (pushFolders rest listed).length ≤ fuel := by
            rw [List.length_append]
            omega
          obtain ⟨found, after, visited, done⟩ := ih (k + 1)
            (self.list (devices k).withoutToken storage place).2 (device ▸ marked) next known
            fuelLeft
          refine ⟨found, after, ?_, done⟩
          rw [ListingBackend.visitFolders]
          simp only [list, collectIn_ok]
          exact visited

/-- The walk from the root ends and returns every object that can be reached, once. -/
theorem collectObjectsRecursive_complete (tree : ObjectTree storage) (devices : Nat → Responder)
    (serves : ∀ k, tree.Serves (devices k)) (backend : ListingBackend)
    (marked : tree.FoldersMarked backend.hasObjectPropList) (fuel : Nat)
    (enough : tree.handles.length + 1 ≤ fuel) :
    ∃ objects after,
      backend.collectObjectsRecursive devices storage none fuel = some (.ok ⟨objects, []⟩, after) ∧
      (objects.map fun o => o.handle).Nodup ∧
      ∀ handle, handle ∈ objects.map (fun o => o.handle) ↔ tree.forest.Reached handle := by
  have root : ∀ place ∈ [none], tree.Place place := by
    intro place mem
    rw [List.mem_singleton.mp mem]
    intro folder same
    cases same
  have start : Walk.Frontier tree.forest [none] (([] : List ListedObject).map fun o => o.handle) :=
    Walk.Frontier.start tree.forest
  obtain ⟨found, after, visited, done⟩ :=
    visitFolders_complete serves fuel 0 backend marked start root enough
  exact ⟨found, after, visited, done.found_nodup, done.done⟩

/-- The handles a whole walk returned, where it ended. -/
def returned (walk : Option (Except Error ObjectCollection × ListingBackend)) :
    Option (List UInt32) :=
  match walk with
  | some (.ok collection, _) => some (collection.objects.map fun o => o.handle)
  | _ => none

/-- A device that answers every metadata request from a store, and requests for handles as
given. -/
def answering (store : ObjectStore) (handles : UInt32 → Except PtpError (List UInt32))
    (propList : UInt32 → Ptp.ObjectPropertyCode → Option Ptp.PropertyValue) : Responder where
  cancelled _ := false
  objectHandles _ _ parent := handles parent
  objectInfo _ handle := .ok (store.info handle)
  objectSize _ handle := store.objectSize handle
  objectPropList parent property :=
    match handles parent with
    | .ok [child] => .ok (.ok [⟨child, property, propList child property⟩])
    | _ => .error (.protocol .invalidObjectHandle .getObjectPropList)

/-- A folder under the reserved handle, with a file inside it. -/
def reservedFolder : ObjectStore where
  handles := [0xFFFFFFFF, 7]
  distinct := by decide
  info handle :=
    if handle = 0xFFFFFFFF then { ObjectDataset.empty with format := .association }
    else { ObjectDataset.empty with parent := 0xFFFFFFFF }
  objectSize _ := .error .timeout

/-- A folder within a folder, both marked by their association type alone, and a file. -/
def unmarkedFolder : ObjectStore where
  handles := [3, 5, 7]
  distinct := by decide
  info handle :=
    if handle = 3 then { ObjectDataset.empty with associationType := .genericFolder }
    else if handle = 5 then
      { ObjectDataset.empty with associationType := .genericFolder, parent := 3 }
    else { ObjectDataset.empty with parent := 5 }
  objectSize _ := .error .timeout

/-- What a property list says of a folder's only child. -/
def unmarkedProperty (child : UInt32) : Ptp.ObjectPropertyCode → Option Ptp.PropertyValue
  | .parentObject => some (.uint32 (unmarkedFolder.info child).parent)
  | .objectFileName => some (.string "")
  | .objectFormat => some (.uint16 0x3000)
  | .objectSize => some (.uint64 0)
  | _ => none

/-- A file under the reserved handle is returned twice; a root object that reports `0xFFFFFFFF`
is lost to a device that declines that request; and what lies in a folder not marked by its
format is lost to the property lists. -/
theorem collectObjectsRecursive_incomplete :
    returned ((⟨false, false, 0⟩ : ListingBackend).collectObjectsRecursive
        (fun _ => answering reservedFolder (fun _ => .ok [0xFFFFFFFF, 7]) fun _ _ => none)
        0x00010001 none 3) = some [0xFFFFFFFF, 7, 7] ∧
      returned ((⟨false, false, 0⟩ : ListingBackend).collectObjectsRecursive
        (fun _ => RootStore.decliningAll) 0x00010001 none 3) = some [] ∧
      returned ((⟨true, false, 0⟩ : ListingBackend).collectObjectsRecursive
        (fun _ => answering unmarkedFolder
          (fun parent => .ok [if parent = 5 then 7 else if parent = 3 then 5 else 3])
          unmarkedProperty) 0x00010001 none 4) = some [3, 5] :=
  ⟨by decide, by decide, by decide⟩

/-- The picture's storage as a tree. -/
def pictureTree : ObjectTree 0x00010001 where
  toObjectStore := ListingBackend.onePicture
  nonZero := by decide
  notAll := by decide
  placed := by
    rw [show ListingBackend.onePicture.handles = [3, 7] from rfl]
    exact List.forall_mem_cons.mpr ⟨by decide, List.forall_mem_singleton.mpr (by decide)⟩

/-- It answers the root with all handles, and the folder by property lists. -/
def servingTree : Responder :=
  { ListingBackend.servingLists with
    objectHandles := fun _ _ parent => .ok (if parent = 3 then [7] else [3, 7]) }

theorem servingTree_serves : pictureTree.Serves servingTree where
  describes := ⟨fun _ _ _ => rfl, fun _ _ _ => rfl⟩
  root attempt parent answered asked accepted := by
    right
    have all : answered = [3, 7] := by
      rcases asked with rfl | rfl <;> exact (Except.ok.inj accepted).symm
    rw [all]
    exact .refl _
  rootAccepted := ⟨_, rfl⟩
  parentZero _ := by
    rw [show pictureTree.rootHandles = [3] from by decide]
    exact List.forall_mem_singleton.mpr rfl
  folder handle mem isFolder := by
    have only : handle = 3 := by
      have either : handle = 3 ∨ handle = 7 := by
        simpa [pictureTree, ListingBackend.onePicture] using mem
      rcases either with rfl | rfl
      · rfl
      · exact absurd isFolder (by decide)
    subst only
    have served := ListingBackend.servingLists_consistent
    refine ⟨⟨⟨fun _ _ _ => rfl, fun _ _ _ => rfl⟩, served.apart, ?_, served.truthful,
      served.complete⟩, [7], rfl⟩
    intro answered accepted
    cases accepted
    refine ⟨by decide, List.forall_mem_singleton.mpr (by decide), ?_⟩
    intro handle mem
    rwa [show pictureTree.children 3 = [7] from by decide] at mem
  refusals parent property e failed := by
    cases property <;> cases failed <;> rfl

theorem pictureTree_marked : pictureTree.FoldersMarked true := by
  intro handle mem inside
  rw [show pictureTree.handles = [3, 7] from rfl] at mem
  rcases List.mem_cons.mp mem with rfl | last
  · exact absurd inside (by decide)
  · rw [List.mem_singleton.mp last]
    exact ⟨by decide, fun _ => by decide⟩

theorem collectObjectsRecursive_pictureTree :
    ∃ objects after,
      (⟨true, false, 0⟩ : ListingBackend).collectObjectsRecursive (fun _ => servingTree)
        0x00010001 none 3 = some (.ok ⟨objects, []⟩, after) ∧
      (objects.map fun o => o.handle).Nodup ∧
      ∀ handle, handle ∈ objects.map (fun o => o.handle) ↔ pictureTree.forest.Reached handle :=
  collectObjectsRecursive_complete pictureTree (fun _ => servingTree)
    (fun _ => servingTree_serves) ⟨true, false, 0⟩ pictureTree_marked 3 (by decide)

end ObjectTree

end Mtp
