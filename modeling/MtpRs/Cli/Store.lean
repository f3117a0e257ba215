import Mathlib.Data.List.Nodup
import MtpRs.Cli.Path

set_option autoImplicit false

/- What is on a storage, what its device does at each request, and what the commands find there by
their paths. -/
namespace Cli

open Attempts (Attempt)
open Mtp (Error ObjectEntry ObjectHandle Storage)

structure Stored where
  handle : ObjectHandle
  parent : ObjectHandle
  name : String
  folder : Bool
  content : List UInt8
deriving DecidableEq, Repr

/-- What a command reads of a listed object. -/
structure Shown where
  handle : ObjectHandle
  name : String
  folder : Bool
deriving DecidableEq, Repr

def Stored.shown (self : Stored) : Shown := ⟨self.handle, self.name, self.folder⟩

def shown (entry : ObjectEntry) : Shown := ⟨entry.handle, entry.filename, entry.folder⟩

/-- The objects of a storage, in the order they are listed. What is at the top has the root's handle
as its parent. -/
structure Store where
  objects : List Stored
  distinct : (objects.map (·.handle)).Nodup

namespace Store

def find (self : Store) (handle : ObjectHandle) : Option Stored :=
  self.objects.find? (·.handle == handle)

def children (self : Store) (folder : ObjectHandle) : List Stored :=
  self.objects.filter (·.parent == folder)

/-- The first object of a folder that has a name. -/
def child (self : Store) (folder : ObjectHandle) (name : String) : Option Stored :=
  (self.children folder).find? (·.name == name)

/-- The object at the end of a path, each name before the last one a folder's. -/
def locateFrom (self : Store) : ObjectHandle → String → List String → Option Stored
  | folder, name, rest =>
      match self.child folder name with
      | none => none
      | some object =>
          match rest with
          | [] => some object
          | next :: rest => if object.folder then self.locateFrom object.handle next rest else none
termination_by structural _ _ rest => rest

def locate (self : Store) : List String → Option Stored
  | [] => none
  | name :: rest => self.locateFrom ObjectHandle.root name rest

/-- The folder at the end of a path, the root for the empty one. -/
def folderAt (self : Store) : List String → Option ObjectHandle
  | [] => some ObjectHandle.root
  | name :: rest =>
      match self.locateFrom ObjectHandle.root name rest with
      | some object => if object.folder then some object.handle else none
      | none => none

/-- Where a command puts an object: the folder, the name, and the file in its place. -/
structure Target where
  folder : ObjectHandle
  name : String
  existing : Option Stored
deriving DecidableEq

/-- What a path names as a destination: an existing folder, or a name in one. -/
def target (self : Store) (path : RemotePath) (localName : String) : Option Target :=
  if path.isRoot then some ⟨ObjectHandle.root, localName, none⟩
  else
    let components :=
      if path.trailingSlash then path.components else path.components.dropLast
    let finalName :=
      if path.trailingSlash then localName else path.components.getLast?.getD ""
    match validateComponent finalName, self.folderAt components with
    | .ok _, some folder =>
        match (self.children folder).find? fun o => o.name == finalName && o.folder with
        | some inner => some ⟨inner.handle, localName, none⟩
        | none =>
            some ⟨folder, finalName,
              (self.children folder).find? fun o => o.name == finalName && !o.folder⟩
    | _, _ => none

/-- The object a path text leads to. -/
def source (self : Store) (path : String) : Option Stored :=
  match RemotePath.parse path with
  | .ok path => self.locate path.components
  | .error _ => none

def destination (self : Store) (sourcePath destinationPath : String) : Option Target :=
  match self.source sourcePath, RemotePath.parse destinationPath with
  | some source, .ok path => self.target path source.name
  | _, _ => none

/-- What `mv` and `cp` begin with finds this source and this destination, on a device that takes
renames or does not. -/
structure Finds (store : Store) (supportsRename : Bool) (sourcePath destinationPath : String)
    (source : Stored) (t : Target) : Prop where
  located : store.source sourcePath = some source
  resolved : store.destination sourcePath destinationPath = some t
  renamable : t.name ≠ source.name → supportsRename = true

section

variable {store : Store} {handle : ObjectHandle} {o : Stored}

theorem mem_of_find (found : store.find handle = some o) :
    o ∈ store.objects ∧ o.handle = handle := by
  refine ⟨List.mem_of_find?_eq_some found, ?_⟩
  simpa using List.find?_some found

theorem find_iff : store.find handle = some o ↔ o ∈ store.objects ∧ o.handle = handle := by
  constructor
  · exact mem_of_find
  · rintro ⟨mem, rfl⟩
    cases found : store.find o.handle with
    | none =>
        have absent := List.find?_eq_none.mp found o mem
        simp at absent
    | some other =>
        obtain ⟨there, same⟩ := mem_of_find found
        rw [List.inj_on_of_nodup_map store.distinct there mem same]

theorem find_self (mem : o ∈ store.objects) : store.find o.handle = some o :=
  find_iff.mpr ⟨mem, rfl⟩

theorem mem_children {folder : ObjectHandle} :
    o ∈ store.children folder ↔ o ∈ store.objects ∧ o.parent = folder := by
  rw [children, List.mem_filter, beq_iff_eq]

end

theorem locateFrom_mem {store : Store} {rest : List String} :
    ∀ {folder : ObjectHandle} {name : String} {o : Stored},
      store.locateFrom folder name rest = some o → o ∈ store.objects := by
  induction rest with
  | nil =>
      intro folder name o located
      unfold locateFrom at located
      split at located
      · cases located
      · next found =>
          cases located
          exact (mem_children.mp (List.mem_of_find?_eq_some found)).1
  | cons next rest ih =>
      intro folder name o located
      unfold locateFrom at located
      cases found : store.child folder name with
      | none =>
          rw [found] at located
          cases located
      | some object =>
          rw [found] at located
          dsimp only at located
          by_cases inside : object.folder = true
          · rw [if_pos inside] at located
            exact ih located
          · rw [if_neg inside] at located
            cases located

theorem source_mem {store : Store} {path : String} {o : Stored}
    (located : store.source path = some o) : o ∈ store.objects := by
  unfold source at located
  split at located
  · unfold locate at located
    split at located
    · cases located
    · exact locateFrom_mem located
  · cases located

/-- A destination is the root, a folder in another one, or a name that no folder has. -/
theorem target_cases {store : Store} {path : RemotePath} {localName : String} {t : Target}
    (resolved : store.target path localName = some t) :
    t = ⟨ObjectHandle.root, localName, none⟩ ∨
      (∃ inner ∈ store.objects, inner.folder = true ∧ t = ⟨inner.handle, localName, none⟩) ∨
      ∃ components, store.folderAt components = some t.folder ∧
        (store.children t.folder).find? (fun o => o.name == t.name && o.folder) = none ∧
        t.existing = (store.children t.folder).find? fun o => o.name == t.name && !o.folder := by
  unfold target at resolved
  split at resolved
  · cases resolved
    exact Or.inl rfl
  · dsimp only at resolved
    split at resolved
    · next there =>
        right
        split at resolved
        · next inner found =>
            cases resolved
            left
            have test := List.find?_some found
            rw [Bool.and_eq_true] at test
            have mem := (mem_children.mp (List.mem_of_find?_eq_some found)).1
            exact ⟨inner, mem, test.2, rfl⟩
        · next noFolder =>
            cases resolved
            right
            exact ⟨_, there, noFolder, rfl⟩
    · cases resolved

/-- A file in the place of a destination is there, in that folder and with that name. -/
theorem target_existing {store : Store} {path : RemotePath} {localName : String} {t : Target}
    {e : Stored} (resolved : store.target path localName = some t) (there : t.existing = some e) :
    e ∈ store.objects ∧ e.folder = false ∧ e.parent = t.folder ∧ e.name = t.name := by
  rcases target_cases resolved with rfl | ⟨inner, _, _, rfl⟩ | ⟨_, _, _, existing⟩
  · cases there
  · cases there
  · rw [existing] at there
    have test := List.find?_some there
    have mem := mem_children.mp (List.mem_of_find?_eq_some there)
    rw [Bool.and_eq_true, beq_iff_eq, Bool.not_eq_true'] at test
    exact ⟨mem.1, test.2, mem.2, test.1⟩

/-- A destination is what its path leads to, under the name of the source. -/
theorem target_of_destination {store : Store} {sourcePath destinationPath : String} {t : Target}
    {source : Stored} (located : store.source sourcePath = some source)
    (resolved : store.destination sourcePath destinationPath = some t) :
    ∃ path, store.target path source.name = some t := by
  unfold destination at resolved
  rw [located] at resolved
  split at resolved
  · next is _ =>
      cases is
      exact ⟨_, resolved⟩
  · cases resolved

theorem destination_existing {store : Store} {sourcePath destinationPath : String} {t : Target}
    {e : Stored} (resolved : store.destination sourcePath destinationPath = some t)
    (there : t.existing = some e) :
    e ∈ store.objects ∧ e.folder = false ∧ e.parent = t.folder ∧ e.name = t.name := by
  unfold destination at resolved
  split at resolved
  · exact target_existing resolved there
  · cases resolved

/-- At most one object is different. -/
def Only (handle : ObjectHandle) (before after : Store) : Prop :=
  ∀ other, other ≠ handle → after.find other = before.find other

/-- Another object that has the name of this one, in a folder it is to be moved to. -/
structure Clashes (store : Store) (handle folder : ObjectHandle) (o : Stored) : Prop where
  mem : o ∈ store.objects
  other : o.handle ≠ handle
  there : o.parent = folder
  alike : ∃ moved, store.find handle = some moved ∧ o.name = moved.name

/-- What a move makes of a store: the object goes with its name, and takes the place of another one
of that name. -/
structure Moved (handle folder : ObjectHandle) (before after : Store) : Prop where
  object : after.find handle = (before.find handle).map fun o => { o with parent := folder }
  others : (∀ o, ¬ before.Clashes handle folder o) → Only handle before after
  replaced : ∀ o, before.Clashes handle folder o → after.find o.handle = none

structure Renamed (handle : ObjectHandle) (name : String) (before after : Store) : Prop where
  object : after.find handle = (before.find handle).map fun o => { o with name }
  others : Only handle before after

/-- Of a file, or of a folder with nothing in it. -/
structure Deleted (handle : ObjectHandle) (before after : Store) : Prop where
  gone : after.find handle = none
  others : (∀ o, before.find handle = some o → o.folder = true → before.children handle = []) →
    Only handle before after

/-- What a request that failed made of a store: nothing, or all it asks for. -/
def Perhaps (change : Store → Store → Prop) (before after : Store) : Prop :=
  (∀ handle, after.find handle = before.find handle) ∨ change before after

end Store

/-- What a request that was answered, or failed, may have done. -/
def Requests {σ : Type} (view : σ → Store) (change : Store → Store → Prop)
    (request : Attempt σ Error Unit) : Prop :=
  ∀ state, request.Ends state (fun _ after => change (view state) (view after))
    fun _ after => Store.Perhaps change (view state) (view after)

/-- A device that lists what it holds, and that does at each request what was asked. -/
structure Holds {σ : Type} (storage : Storage σ) (view : σ → Store) : Prop where
  lists : ∀ state parent, (storage.listObjects parent).Ends state
    (fun entries after =>
      entries.map shown = ((view state).children (parent.getD ObjectHandle.root)).map (·.shown) ∧
        view after = view state)
    fun _ after => view after = view state
  moves : ∀ handle folder, Requests view (Store.Moved handle folder)
    (storage.moveObject handle folder none)
  renames : ∀ handle name, Requests view (Store.Renamed handle name)
    fun state => storage.backend.rename state handle name
  deletes : ∀ handle, Requests view (Store.Deleted handle) (storage.delete handle)

end Cli
