import MtpRs.Cli.Get
import MtpRs.Lib.Frontier

set_option autoImplicit false

/- The remote tree a folder download walks, and what a walk that ends makes of it. -/
namespace Cli

open Attempts (Attempt)
open Files (Name Path)
open Mtp (EntryCollection Error ObjectEntry ObjectHandle)

/-- What lies below a folder of a device, and what the device says of each object: of some, that
it cannot be described. -/
structure RemoteTree where
  root : Option ObjectHandle
  forest : Walk.Forest ObjectHandle
  info : ObjectHandle → Except Error ObjectEntry
  grounded : ∀ node ∈ forest.nodes, forest.Reached node
  named : ∀ node ∈ forest.nodes, ∀ entry, info node = .ok entry → entry.handle = node
  holding : ∀ node ∈ forest.nodes, ∀ container, forest.home node = some container →
    ∀ entry, info container = .ok entry → entry.isFolder = true

namespace RemoteTree

variable (tree : RemoteTree)

/-- Whether the device describes an object. -/
def readable (node : ObjectHandle) : Bool := (tree.info node).isOk

/-- A folder the device describes. -/
def IsFolder (node : ObjectHandle) : Prop :=
  ∃ entry, tree.info node = .ok entry ∧ entry.isFolder = true

/-- An object the device describes that is no folder. -/
def IsFile (node : ObjectHandle) : Prop :=
  ∃ entry, tree.info node = .ok entry ∧ entry.isFolder = false

/-- An object all of whose enclosing folders the device describes. -/
def Visible (node : ObjectHandle) : Prop :=
  node ∈ tree.forest.nodes ∧ ∀ folder, tree.forest.Encloses folder node → tree.readable folder =
    true

def requested (place : Option ObjectHandle) : Option ObjectHandle := place.or tree.root

/-- A folder of the tree, none for its top. -/
def IsPlace (place : Option ObjectHandle) : Prop :=
  ∀ node, place = some node → node ∈ tree.forest.nodes ∧ tree.IsFolder node

/-- A collection of one folder: what the device describes, and what it refuses to, each once. -/
structure Answers (place : Option ObjectHandle) (collection : EntryCollection) : Prop where
  objects_once : (collection.objects.map fun object => object.handle).Nodup
  objects : ∀ entry, entry ∈ collection.objects ↔
    ∃ node ∈ tree.forest.nodes, tree.forest.home node = place ∧ tree.info node = .ok entry
  skipped_once : (collection.skipped.map fun skipped => skipped.handle).Nodup
  skipped : ∀ node, node ∈ collection.skipped.map (fun skipped => skipped.handle) ↔
    node ∈ tree.forest.nodes ∧ tree.forest.home node = place ∧ tree.readable node = false

/-- Every collection of a folder that succeeds is answered from the tree. -/
def ShownBy {σ : Type} (collectObjects : Option ObjectHandle → Attempt σ Error EntryCollection) :
    Prop :=
  ∀ place, tree.IsPlace place → ∀ state collection after,
    collectObjects (tree.requested place) state = (.ok collection, after) →
    tree.Answers place collection

/-- The objects whose folder is described, where it is one of the tree's. -/
def visible : Walk.Forest ObjectHandle where
  nodes := tree.forest.nodes.filter fun node => (tree.forest.home node).all tree.readable
  home := tree.forest.home

/-- The names that lead down to a place, all of them usable. -/
inductive Spelled (windows : Bool) : Option ObjectHandle → List Name → Prop where
  | root : Spelled windows none []
  | inside {node : ObjectHandle} {entry : ObjectEntry} {names : List Name} {name : Name} :
      Spelled windows (tree.forest.home node) names → tree.info node = .ok entry →
      localNameProblem entry.filename windows = none → name.text = entry.filename →
      Spelled windows (some node) (names ++ [name])

/-- Where an object is saved: under the root, along the names that lead down to it. -/
def Lands (windows : Bool) (localRoot : Path) (node : ObjectHandle) (localPath : Path) : Prop :=
  ∃ names, tree.Spelled windows (some node) names ∧ localPath = localRoot.descend names

end RemoteTree

/-- A path below the root, along plain names without a backslash or a null byte. -/
def StaysBelow (localRoot localPath : Path) : Prop :=
  ∃ names : List Name, names ≠ [] ∧ localPath = localRoot.descend names ∧
    ∀ name ∈ names, holdsChar name.text '\\' = false ∧ holdsChar name.text '\x00' = false

/-- A plan that holds everything visible of a tree once, the folders by their handles. -/
structure FolderPlan.Covers (plan : FolderPlan) (tree : RemoteTree) (windows : Bool)
    (localRoot : Path) (folders : List ObjectHandle) : Prop where
  folder_rows : List.Forall₂ (fun row node => tree.Lands windows localRoot node row.localPath)
    plan.folders folders
  file_rows : ∀ row ∈ plan.files, tree.Lands windows localRoot row.handle row.localPath
  once : (folders ++ plan.files.map fun row => row.handle).Nodup
  folders_mem : ∀ node, node ∈ folders ↔ tree.Visible node ∧ tree.IsFolder node
  files_mem : ∀ node, node ∈ plan.files.map (fun row => row.handle) ↔
    tree.Visible node ∧ tree.IsFile node
  skipped_once : (plan.skipped.map fun row => row.handle).Nodup
  skipped_mem : ∀ node, node ∈ plan.skipped.map (fun row => row.handle) ↔
    tree.Visible node ∧ tree.readable node = false
  /-- A folder is planned before anything inside it. -/
  ordered : ∀ before node after, folders ++ plan.files.map (fun row => row.handle) =
    before ++ node :: after → ∀ folder, tree.forest.Encloses folder node → folder ∈ before

section

variable {tree : RemoteTree} {windows : Bool} {localRoot : Path}

theorem RemoteTree.readable_iff {node : ObjectHandle} :
    tree.readable node = true ↔ ∃ entry, tree.info node = .ok entry := by
  unfold RemoteTree.readable
  cases tree.info node <;> simp [Except.isOk, Except.toBool]

theorem RemoteTree.IsFolder.readable {node : ObjectHandle} (folder : tree.IsFolder node) :
    tree.readable node = true := by
  obtain ⟨entry, described, -⟩ := folder
  exact readable_iff.mpr ⟨entry, described⟩

theorem RemoteTree.IsFile.readable {node : ObjectHandle} (file : tree.IsFile node) :
    tree.readable node = true := by
  obtain ⟨entry, described, -⟩ := file
  exact readable_iff.mpr ⟨entry, described⟩

theorem RemoteTree.IsFolder.not_file {node : ObjectHandle} (folder : tree.IsFolder node) :
    ¬ tree.IsFile node := by
  rintro ⟨other, again, notFolder⟩
  obtain ⟨entry, described, isFolder⟩ := folder
  cases described.symm.trans again
  rw [isFolder] at notFolder
  cases notFolder

theorem RemoteTree.visible_mem {node : ObjectHandle} : node ∈ tree.visible.nodes ↔
    node ∈ tree.forest.nodes ∧
      ∀ container, tree.forest.home node = some container → tree.readable container = true := by
  simp only [visible, List.mem_filter, Option.all_eq_true]

theorem RemoteTree.visible_reached {node : ObjectHandle} :
    tree.visible.Reached node ↔ tree.Visible node := by
  constructor
  · intro reached
    induction reached with
    | @top node mem home =>
        refine ⟨(visible_mem.mp mem).1, fun folder encloses => ?_⟩
        cases encloses with
        | single same => cases home.symm.trans same
        | tail _ same => cases home.symm.trans same
    | @inside node container _ mem home ih =>
        refine ⟨(visible_mem.mp mem).1, fun folder encloses => ?_⟩
        cases encloses with
        | single same => exact (visible_mem.mp mem).2 folder same
        | tail outer same =>
            cases home.symm.trans same
            exact ih.2 folder outer
  · rintro ⟨mem, readable⟩
    have reached := tree.grounded node mem
    induction reached with
    | @top node _ home =>
        apply Walk.Forest.Reached.top (visible_mem.mpr ⟨mem, ?_⟩) home
        intro container same
        cases home.symm.trans same
    | @inside node container outer _ home ih =>
        have inner := ih outer.mem fun folder encloses => readable folder (encloses.tail home)
        apply Walk.Forest.Reached.inside inner (visible_mem.mpr ⟨mem, ?_⟩) home
        intro other same
        exact readable other (.single same)

theorem RemoteTree.Spelled.unique {place : Option ObjectHandle} {first second : List Name}
    (spelled : tree.Spelled windows place first) (other : tree.Spelled windows place second) :
    first = second := by
  induction spelled generalizing second with
  | root =>
      cases other
      rfl
  | inside _ described _ text ih =>
      cases other with
      | inside outer again _ same =>
          cases described.symm.trans again
          rw [ih outer, Name.eq_of_text (text.trans same.symm)]

theorem plain_of_usable {name : String} (usable : localNameProblem name windows = none) :
    Files.isPlain name = true ∧ holdsChar name '\\' = false ∧ holdsChar name '\x00' = false := by
  unfold localNameProblem at usable
  by_cases empty : name = ""
  · simp [empty] at usable
  · by_cases dots : name = "." ∨ name = ".."
    · simp [empty, dots] at usable
    · by_cases separator : holdsChar name '/' || holdsChar name '\\'
      · simp [empty, dots, separator] at usable
      · by_cases null : holdsChar name '\x00'
        · simp [empty, dots, separator, null] at usable
        · rw [not_or] at dots
          rw [Bool.or_eq_true, not_or, Bool.not_eq_true, Bool.not_eq_true] at separator
          refine ⟨?_, separator.2, Bool.not_eq_true _ ▸ null⟩
          have slash := separator.1
          unfold holdsChar at slash
          simp only [Files.isPlain, slash, Bool.not_false, Bool.and_true, Bool.and_eq_true,
            bne_iff_ne, ne_eq]
          exact ⟨⟨empty, dots.1⟩, dots.2⟩

def Visit.inside (self : Visit) (object : ObjectEntry) : Visit :=
  ⟨some object.handle, self.remotePath object.filename, self.localPath object.filename⟩

def Visit.plannedFolder (self : Visit) (object : ObjectEntry) : PlannedFolder :=
  ⟨self.remotePath object.filename, self.localPath object.filename⟩

def Visit.plannedFile (self : Visit) (object : ObjectEntry) : PlannedFile :=
  ⟨object.handle, self.remotePath object.filename, self.localPath object.filename⟩

/-- What the objects of one folder add to the plan where all of their names are usable. -/
theorem planObjects_ok {debug : String → String} {visit : Visit} {objects : List ObjectEntry}
    {plan : FolderPlan} {toVisit : List Visit} {after : FolderPlan × List Visit}
    (planned : planObjects windows debug visit objects plan toVisit = .ok after) :
    (∀ object ∈ objects, localNameProblem object.filename windows = none) ∧
      after = (⟨plan.folders ++ (objects.filter ObjectEntry.isFolder).map visit.plannedFolder,
          plan.files ++ (objects.filter (!ObjectEntry.isFolder ·)).map visit.plannedFile,
          plan.skipped⟩,
        ((objects.filter ObjectEntry.isFolder).map visit.inside).reverse ++ toVisit) := by
  induction objects generalizing plan toVisit with
  | nil =>
      cases planned
      simp
  | cons object rest ih =>
      rw [planObjects] at planned
      cases usable : localNameProblem object.filename windows with
      | some problem =>
          rw [usable] at planned
          cases planned
      | none =>
          rw [usable] at planned
          dsimp only at planned
          by_cases isFolder : object.isFolder = true
          · rw [if_pos isFolder] at planned
            have further := ih planned
            refine ⟨List.forall_mem_cons.mpr ⟨usable, further.1⟩, ?_⟩
            rw [further.2]
            simp [isFolder, Visit.plannedFolder, Visit.inside]
          · rw [if_neg isFolder] at planned
            have further := ih planned
            refine ⟨List.forall_mem_cons.mpr ⟨usable, further.1⟩, ?_⟩
            rw [further.2]
            simp [isFolder, Visit.plannedFile]

/-- A visit of one of the tree's places, under the names that lead down to it. -/
def RemoteTree.Visits (tree : RemoteTree) (windows : Bool) (localRoot : Path) (visit : Visit)
    (place : Option ObjectHandle) : Prop :=
  visit.parent = tree.requested place ∧
    ∃ names, tree.Spelled windows place names ∧ visit.localFolder = localRoot.descend names

/-- What lies in a visited place is saved inside its folder. -/
theorem RemoteTree.Visits.inside {visit : Visit} {place : Option ObjectHandle}
    (visits : tree.Visits windows localRoot visit place) {node : ObjectHandle} {entry : ObjectEntry}
    (home : tree.forest.home node = place) (described : tree.info node = .ok entry)
    (handle : entry.handle = node) (usable : localNameProblem entry.filename windows = none) :
    tree.Lands windows localRoot node (visit.localPath entry.filename) ∧
      tree.Visits windows localRoot (visit.inside entry) (some node) := by
  obtain ⟨-, names, spelled, localFolder⟩ := visits
  let name : Name := ⟨entry.filename, (plain_of_usable usable).1⟩
  have spelledInside : tree.Spelled windows (some node) (names ++ [name]) :=
    .inside (home ▸ spelled) described usable rfl
  have localPath : visit.localPath entry.filename = localRoot.descend (names ++ [name]) := by
    rw [Visit.localPath, localFolder, show entry.filename = name.text from rfl, Path.ofString_text,
      Path.join_normal, Path.descend_concat]
  refine ⟨⟨_, spelledInside, localPath⟩, ?_, _, spelledInside, localPath⟩
  rw [Visit.inside, handle]
  rfl

def collected (collection : EntryCollection) : List ObjectHandle :=
  collection.objects.map (fun object => object.handle) ++
    collection.skipped.map fun skipped => skipped.handle

/-- A collected object is one of the tree's, in the place asked for. -/
theorem RemoteTree.Answers.object {place : Option ObjectHandle} {collection : EntryCollection}
    (answers : tree.Answers place collection) {entry : ObjectEntry}
    (mem : entry ∈ collection.objects) :
    entry.handle ∈ tree.forest.nodes ∧ tree.forest.home entry.handle = place ∧
      tree.info entry.handle = .ok entry := by
  obtain ⟨node, inTree, home, described⟩ := (answers.objects entry).mp mem
  rw [tree.named node inTree entry described]
  exact ⟨inTree, home, described⟩

theorem RemoteTree.Answers.listed {place : Option ObjectHandle} {collection : EntryCollection}
    (answers : tree.Answers place collection) (isPlace : tree.IsPlace place) :
    tree.visible.Listed place (collected collection) where
  distinct := by
    apply List.nodup_append.mpr ⟨answers.objects_once, answers.skipped_once, ?_⟩
    rintro node described _ refused rfl
    obtain ⟨entry, mem, rfl⟩ := List.mem_map.mp described
    have readable := RemoteTree.readable_iff.mpr ⟨entry, (answers.object mem).2.2⟩
    rw [((answers.skipped _).mp refused).2.2] at readable
    cases readable
  mem node := by
    have shown : ∀ {other}, tree.forest.home other = place → ∀ container,
        tree.forest.home other = some container → tree.readable container = true := by
      intro other home container same
      exact (isPlace container (home.symm.trans same)).2.readable
    rw [RemoteTree.visible_mem, collected, List.mem_append]
    constructor
    · intro mem
      rcases mem with described | refused
      · obtain ⟨entry, inObjects, rfl⟩ := List.mem_map.mp described
        obtain ⟨inTree, home, -⟩ := answers.object inObjects
        exact ⟨⟨inTree, shown home⟩, home⟩
      · obtain ⟨inTree, home, -⟩ := (answers.skipped node).mp refused
        exact ⟨⟨inTree, shown home⟩, home⟩
    · rintro ⟨⟨inTree, -⟩, home⟩
      by_cases readable : tree.readable node = true
      · obtain ⟨entry, described⟩ := RemoteTree.readable_iff.mp readable
        apply Or.inl
        rw [← tree.named node inTree entry described]
        exact List.mem_map_of_mem ((answers.objects entry).mpr ⟨node, inTree, home, described⟩)
      · exact Or.inr ((answers.skipped node).mpr ⟨inTree, home, Bool.not_eq_true _ ▸ readable⟩)

/-- Halfway through the walk: the folders to visit are places of the tree under their names, and
the plan holds what was found, the folders by their handles. -/
structure Walking (tree : RemoteTree) (windows : Bool) (localRoot : Path) (toVisit : List Visit)
    (plan : FolderPlan) (places : List (Option ObjectHandle)) (found folders : List ObjectHandle) :
    Prop where
  frontier : Walk.Frontier tree.visible places found
  kept : found.Perm (folders ++ plan.files.map (fun row => row.handle) ++
    plan.skipped.map fun row => row.handle)
  visits : List.Forall₂ (tree.Visits windows localRoot) toVisit places
  isPlace : ∀ place ∈ places, tree.IsPlace place
  folder_rows : List.Forall₂ (fun row node => tree.Lands windows localRoot node row.localPath)
    plan.folders folders
  file_rows : ∀ row ∈ plan.files, tree.Lands windows localRoot row.handle row.localPath
  folders_kind : ∀ node ∈ folders, tree.IsFolder node
  files_kind : ∀ node ∈ plan.files.map (fun row => row.handle), tree.IsFile node
  skipped_kind : ∀ node ∈ plan.skipped.map (fun row => row.handle), tree.readable node = false
  ordered : tree.forest.Ordered folders

theorem walking_start (remoteRoot : String) : Walking tree windows localRoot
    [⟨tree.root, remoteRoot, localRoot⟩] .empty [none] [] [] where
  frontier := Walk.Frontier.start _
  kept := .refl _
  visits := .cons ⟨rfl, [], .root, (Path.descend_nil _).symm⟩ .nil
  isPlace := List.forall_mem_singleton.mpr fun _ same => by cases same
  folder_rows := .nil
  file_rows := List.forall_mem_nil _
  folders_kind := List.forall_mem_nil _
  files_kind := List.forall_mem_nil _
  skipped_kind := List.forall_mem_nil _
  ordered := tree.forest.ordered_nil

/-- The folder that holds a visible object is among the planned ones where it was found. -/
theorem Walking.container {toVisit : List Visit} {plan : FolderPlan}
    {places : List (Option ObjectHandle)} {found folders : List ObjectHandle}
    (walking : Walking tree windows localRoot toVisit plan places found folders)
    {node container : ObjectHandle} (mem : node ∈ tree.visible.nodes)
    (home : tree.forest.home node = some container) (there : container ∈ found) :
    container ∈ folders := by
  obtain ⟨inTree, shown⟩ := RemoteTree.visible_mem.mp mem
  obtain ⟨entry, described⟩ := RemoteTree.readable_iff.mp (shown container home)
  have holds := tree.holding node inTree container home entry described
  have placed := walking.kept.mem_iff.mp there
  rw [List.mem_append, List.mem_append] at placed
  rcases placed with (folder | file) | skipped
  · exact folder
  · exact absurd (walking.files_kind container file)
      (RemoteTree.IsFolder.not_file ⟨entry, described, holds⟩)
  · have refused := walking.skipped_kind container skipped
    rw [shown container home] at refused
    cases refused

/-- A folder among the collected objects is one of the tree's. -/
theorem RemoteTree.Answers.opened {place : Option ObjectHandle} {collection : EntryCollection}
    (answers : tree.Answers place collection) {object : ObjectEntry}
    (mem : object ∈ collection.objects.filter ObjectEntry.isFolder) :
    object ∈ collection.objects ∧ tree.IsFolder object.handle := by
  obtain ⟨inObjects, isFolder⟩ := List.mem_filter.mp mem
  exact ⟨inObjects, object, (answers.object inObjects).2.2, isFolder⟩

theorem RemoteTree.Answers.saved {place : Option ObjectHandle} {collection : EntryCollection}
    (answers : tree.Answers place collection) {object : ObjectEntry}
    (mem : object ∈ collection.objects.filter (!ObjectEntry.isFolder ·)) :
    object ∈ collection.objects ∧ tree.IsFile object.handle := by
  obtain ⟨inObjects, notFolder⟩ := List.mem_filter.mp mem
  exact ⟨inObjects, object, (answers.object inObjects).2.2, Bool.not_eq_true' _ ▸ notFolder⟩

/-- A collected folder that holds visible objects is visited. -/
theorem RemoteTree.Answers.holding {place : Option ObjectHandle} {collection : EntryCollection}
    (answers : tree.Answers place collection) {node container : ObjectHandle}
    (mem : node ∈ tree.visible.nodes) (inListed : container ∈ collected collection)
    (home : tree.forest.home node = some container) :
    some container ∈ ((collection.objects.filter ObjectEntry.isFolder).map fun object =>
      some object.handle).reverse := by
  obtain ⟨inTree, shown⟩ := RemoteTree.visible_mem.mp mem
  rcases List.mem_append.mp inListed with described | refused
  · obtain ⟨object, inObjects, rfl⟩ := List.mem_map.mp described
    have holds := tree.holding node inTree object.handle home object
      (answers.object inObjects).2.2
    exact List.mem_reverse.mpr
      (List.mem_map.mpr ⟨object, List.mem_filter.mpr ⟨inObjects, holds⟩, rfl⟩)
  · have unreadable := ((answers.skipped container).mp refused).2.2
    rw [shown container home] at unreadable
    cases unreadable

/-- The places left to visit, once the folders of a visited one stand before them. -/
theorem RemoteTree.Answers.frontier {place : Option ObjectHandle}
    {places : List (Option ObjectHandle)} {found : List ObjectHandle}
    {collection : EntryCollection} (answers : tree.Answers place collection)
    (isPlace : tree.IsPlace place) (before : Walk.Frontier tree.visible (place :: places) found) :
    Walk.Frontier tree.visible
      (((collection.objects.filter ObjectEntry.isFolder).map fun object =>
        some object.handle).reverse ++ places) (found ++ collected collection) := by
  have addedFolders : ((collection.objects.filter ObjectEntry.isFolder).map
      fun object => object.handle).Nodup :=
    answers.objects_once.sublist (List.filter_sublist.map _)
  refine before.visit (answers.listed isPlace) ?_ ?_ fun node mem container => answers.holding mem
  · rw [(List.reverse_perm _).nodup_iff, ← Function.comp_def some, ← List.map_map]
    exact List.Pairwise.map some (fun _ _ apart same => apart (Option.some.inj same)) addedFolders
  · intro next mem
    obtain ⟨object, inFolders, rfl⟩ := List.mem_map.mp (List.mem_reverse.mp mem)
    exact ⟨object.handle, List.mem_append_left _
      (List.mem_map_of_mem (answers.opened inFolders).1), rfl⟩

/-- What a visit adds to a plan is what the visited place holds. -/
theorem kept_visit {found folders : List ObjectHandle} {plan : FolderPlan} (visit : Visit)
    (collection : EntryCollection)
    (kept : found.Perm (folders ++ plan.files.map (fun row => row.handle) ++
      plan.skipped.map fun row => row.handle)) :
    (found ++ collected collection).Perm
      (folders ++ (collection.objects.filter ObjectEntry.isFolder).map (fun object => object.handle)
        ++ (plan.files ++ (collection.objects.filter (!ObjectEntry.isFolder ·)).map
          visit.plannedFile).map (fun row => row.handle)
        ++ (plan.addSkipped visit collection).skipped.map fun row => row.handle) := by
  have kinds := (List.filter_append_perm ObjectEntry.isFolder collection.objects).map
    fun object => object.handle
  rw [List.perm_iff_count] at kinds kept ⊢
  intro node
  have kind := kinds node
  have there := kept node
  simp only [collected, FolderPlan.addSkipped, List.map_append, List.map_map, List.count_append,
    Function.comp_def, Visit.plannedFile] at kind there ⊢
  omega

/-- A folder found in the place visited next comes behind the folder it is in. -/
theorem Walking.ordered_visit {visit : Visit} {toVisit : List Visit} {plan : FolderPlan}
    {place : Option ObjectHandle} {places : List (Option ObjectHandle)}
    {found folders : List ObjectHandle} {collection : EntryCollection}
    (walking : Walking tree windows localRoot (visit :: toVisit) plan (place :: places) found
      folders)
    (answers : tree.Answers place collection) :
    tree.forest.Ordered (folders ++ (collection.objects.filter ObjectEntry.isFolder).map
      fun object => object.handle) := by
  have lists := answers.listed (walking.isPlace place (List.mem_cons_self ..))
  apply walking.ordered.append
  intro node mem container home
  obtain ⟨object, inFolders, rfl⟩ := List.mem_map.mp mem
  have inObjects := (answers.opened inFolders).1
  obtain ⟨inTree, same, -⟩ := answers.object inObjects
  rw [home] at same
  subst same
  have there := walking.frontier.waiting container (List.mem_cons_self ..)
  apply walking.container _ home there
  exact ((lists.mem object.handle).mp (List.mem_append_left _ (List.mem_map_of_mem inObjects))).1

/-- Visiting the next folder, answered from the tree and without a name that cannot be used. -/
theorem Walking.visit {debug : String → String} {visit : Visit} {toVisit : List Visit}
    {plan : FolderPlan} {place : Option ObjectHandle} {places : List (Option ObjectHandle)}
    {found folders : List ObjectHandle} {collection : EntryCollection}
    {after : FolderPlan × List Visit}
    (walking : Walking tree windows localRoot (visit :: toVisit) plan (place :: places) found
      folders)
    (answers : tree.Answers place collection)
    (planned : planObjects windows debug visit collection.objects
      (plan.addSkipped visit collection) toVisit = .ok after) :
    Walking tree windows localRoot after.2 after.1
      (((collection.objects.filter ObjectEntry.isFolder).map fun object =>
        some object.handle).reverse ++ places)
      (found ++ collected collection)
      (folders ++ (collection.objects.filter ObjectEntry.isFolder).map
        fun object => object.handle) := by
  obtain ⟨usable, rfl⟩ := planObjects_ok planned
  obtain ⟨visits, later⟩ := List.forall₂_cons.mp walking.visits
  have isPlace := walking.isPlace place (List.mem_cons_self ..)
  have inside : ∀ object ∈ collection.objects,
      tree.Lands windows localRoot object.handle (visit.localPath object.filename) ∧
        tree.Visits windows localRoot (visit.inside object) (some object.handle) := by
    intro object mem
    obtain ⟨-, home, described⟩ := answers.object mem
    exact visits.inside home described rfl (usable object mem)
  exact {
    frontier := answers.frontier isPlace walking.frontier
    kept := kept_visit visit collection walking.kept
    visits := by
      apply List.rel_append _ later
      rw [List.forall₂_reverse_iff, List.forall₂_map_left_iff, List.forall₂_map_right_iff,
        List.forall₂_same]
      intro object inFolders
      exact (inside object (answers.opened inFolders).1).2
    isPlace := by
      intro next mem
      rcases List.mem_append.mp mem with added | waiting
      · obtain ⟨object, inFolders, rfl⟩ := List.mem_map.mp (List.mem_reverse.mp added)
        intro node same
        cases same
        obtain ⟨inObjects, isFolder⟩ := answers.opened inFolders
        exact ⟨(answers.object inObjects).1, isFolder⟩
      · exact walking.isPlace next (List.mem_cons_of_mem _ waiting)
    folder_rows := by
      apply List.rel_append walking.folder_rows
      rw [List.forall₂_map_left_iff, List.forall₂_map_right_iff, List.forall₂_same]
      intro object inFolders
      exact (inside object (answers.opened inFolders).1).1
    file_rows := by
      intro row mem
      rcases List.mem_append.mp mem with earlier | added
      · exact walking.file_rows row earlier
      · obtain ⟨object, inFiles, rfl⟩ := List.mem_map.mp added
        exact (inside object (answers.saved inFiles).1).1
    folders_kind := by
      intro node mem
      rcases List.mem_append.mp mem with earlier | added
      · exact walking.folders_kind node earlier
      · obtain ⟨object, inFolders, rfl⟩ := List.mem_map.mp added
        exact (answers.opened inFolders).2
    files_kind := by
      intro node mem
      rw [List.map_append, List.map_map] at mem
      rcases List.mem_append.mp mem with earlier | added
      · exact walking.files_kind node earlier
      · obtain ⟨object, inFiles, rfl⟩ := List.mem_map.mp added
        exact (answers.saved inFiles).2
    skipped_kind := by
      intro node mem
      simp only [FolderPlan.addSkipped, List.map_append, List.map_map] at mem
      rcases List.mem_append.mp mem with earlier | added
      · exact walking.skipped_kind node earlier
      · exact ((answers.skipped node).mp added).2.2
    ordered := walking.ordered_visit answers }

/-- A plan of a walk that is over covers the tree. -/
theorem Walking.covers {plan : FolderPlan} {found folders : List ObjectHandle}
    (walking : Walking tree windows localRoot [] plan [] found folders) :
    plan.Covers tree windows localRoot folders := by
  have distinct := walking.kept.nodup_iff.mp walking.frontier.found_nodup
  have placed : ∀ node, (node ∈ folders ∨ node ∈ plan.files.map (fun row => row.handle)) ∨
      node ∈ plan.skipped.map (fun row => row.handle) ↔ tree.Visible node := by
    intro node
    rw [← RemoteTree.visible_reached, ← walking.frontier.done node, walking.kept.mem_iff,
      List.mem_append, List.mem_append]
  have described : ∀ {node : ObjectHandle}, tree.readable node = true →
      node ∉ plan.skipped.map fun row => row.handle := by
    intro node readable skipped
    rw [walking.skipped_kind node skipped] at readable
    cases readable
  have held : ∀ node ∈ folders ++ plan.files.map (fun row => row.handle), ∀ container,
      tree.forest.home node = some container → container ∈ folders := by
    intro node mem container home
    have there : node ∈ found :=
      walking.kept.mem_iff.mpr (List.mem_append_left _ mem)
    apply walking.container _ home (walking.frontier.rooted node there container home)
    exact (walking.frontier.reached node there).mem
  refine ⟨walking.folder_rows, walking.file_rows, distinct.sublist (List.sublist_append_left ..),
    ?_, ?_, distinct.sublist (List.sublist_append_right ..), ?_, ?_⟩
  · intro node
    constructor
    · intro folder
      exact ⟨(placed node).mp (Or.inl (Or.inl folder)), walking.folders_kind node folder⟩
    · rintro ⟨visible, isFolder⟩
      rcases (placed node).mpr visible with (folder | file) | skipped
      · exact folder
      · exact absurd (walking.files_kind node file) isFolder.not_file
      · exact absurd skipped (described isFolder.readable)
  · intro node
    constructor
    · intro file
      exact ⟨(placed node).mp (Or.inl (Or.inr file)), walking.files_kind node file⟩
    · rintro ⟨visible, isFile⟩
      rcases (placed node).mpr visible with (folder | file) | skipped
      · exact absurd isFile (walking.folders_kind node folder).not_file
      · exact file
      · exact absurd skipped (described isFile.readable)
  · intro node
    constructor
    · intro skipped
      exact ⟨(placed node).mp (Or.inr skipped), walking.skipped_kind node skipped⟩
    · rintro ⟨visible, refused⟩
      have undescribed : ¬ tree.readable node = true := by
        rw [refused]
        exact Bool.false_ne_true
      rcases (placed node).mpr visible with (folder | file) | skipped
      · exact absurd (walking.folders_kind node folder).readable undescribed
      · exact absurd (walking.files_kind node file).readable undescribed
      · exact skipped
  · intro before node after split folder encloses
    have ordered := walking.ordered.append fun node file =>
      held node (List.mem_append_right _ file)
    exact ordered.encloses encloses split

section

variable {σ : Type} {collectObjects : Option ObjectHandle → Attempt σ Error EntryCollection}
  {settings : Settings} {debug : String → String}

/-- The loop ends within the fuel its frontier leaves it; a plan it ends with covers the tree. -/
theorem walkFolders_ends (shown : tree.ShownBy collectObjects) (fuel : Nat) {toVisit : List Visit}
    {plan : FolderPlan} {places : List (Option ObjectHandle)} {found folders : List ObjectHandle}
    (walking : Walking tree windows localRoot toVisit plan places found folders)
    (enough : tree.forest.nodes.length - found.length + places.length ≤ fuel) (state : σ) :
    ∃ result after, walkFolders collectObjects settings windows debug fuel toVisit plan state =
        some (result, after) ∧
      ∀ plan, result = .ok plan → ∃ folders, plan.Covers tree windows localRoot folders := by
  induction fuel generalizing toVisit plan places found folders state with
  | zero =>
      have none : places = [] := List.eq_nil_of_length_eq_zero (by omega)
      subst none
      have nothing := List.forall₂_nil_right_iff.mp walking.visits
      subst nothing
      refine ⟨.ok plan, state, rfl, fun other same => ?_⟩
      cases same
      exact ⟨folders, walking.covers⟩
  | succ fuel ih =>
      cases toVisit with
      | nil =>
          have none := List.forall₂_nil_left_iff.mp walking.visits
          subst none
          refine ⟨.ok plan, state, rfl, fun other same => ?_⟩
          cases same
          exact ⟨folders, walking.covers⟩
      | cons visit toVisit =>
          obtain ⟨place, rest, visits, later, rfl⟩ :=
            List.forall₂_cons_left_iff.mp walking.visits
          rw [walkFolders, request, Attempt.mapError, visits.1]
          rcases asked : collectObjects (tree.requested place) state with ⟨error | collection, next⟩
          · exact ⟨_, next, rfl, fun plan same => by cases same⟩
          · dsimp only
            have answers := shown place (walking.isPlace place (List.mem_cons_self ..)) state
              collection next asked
            cases planned : planObjects windows debug visit collection.objects
                (plan.addSkipped visit collection) toVisit with
            | error e => exact ⟨_, next, rfl, fun plan same => by cases same⟩
            | ok after =>
                have further := walking.visit answers planned
                apply ih further
                have lengths := further.frontier.found_length_le
                have fewer : tree.visible.nodes.length ≤ tree.forest.nodes.length :=
                  List.length_filter_le ..
                have few := List.length_filter_le ObjectEntry.isFolder collection.objects
                simp only [List.length_append, List.length_reverse, List.length_map, collected,
                  List.length_cons] at lengths enough ⊢
                omega

/-- A walk of a whole tree ends, and its plan covers the tree. -/
theorem walkFolder_ends (shown : tree.ShownBy collectObjects) (remoteRoot : String) {fuel : Nat}
    (enough : tree.forest.nodes.length < fuel) (state : σ) :
    ∃ result after, walkFolder collectObjects settings windows debug tree.root remoteRoot localRoot
        fuel state = some (result, after) ∧
      ∀ plan, result = .ok plan → ∃ folders, plan.Covers tree windows localRoot folders :=
  walkFolders_ends shown fuel (walking_start remoteRoot) enough state

end

end

end Cli
