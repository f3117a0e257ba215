import MtpRs.Cli.Lookup

set_option autoImplicit false

/- A device that does all it is asked, and is its own store. -/
namespace Cli

open Attempts (Attempt)
open Mtp (Error ObjectEntry ObjectHandle Storage StorageBackend StorageId)

namespace Store

/-- Without the objects a test refuses. -/
def keep (self : Store) (p : Stored → Bool) : Store where
  objects := self.objects.filter p
  distinct := self.distinct.sublist (List.filter_sublist.map _)

/-- With one object changed, but not its handle. -/
def change (self : Store) (handle : ObjectHandle) (f : Stored → Stored)
    (keeps : ∀ o, (f o).handle = o.handle) : Store where
  objects := self.objects.map fun o => if o.handle = handle then f o else o
  distinct := by
    rw [List.map_map]
    have same : ((·.handle) ∘ fun o : Stored => if o.handle = handle then f o else o) =
        (·.handle) := by
      funext o
      by_cases here : o.handle = handle
      · simp [here, keeps]
      · simp [here]
    rw [same]
    exact self.distinct

def add (self : Store) (o : Stored) (fresh : o.handle ∉ self.objects.map (·.handle)) : Store where
  objects := self.objects ++ [o]
  distinct := by
    rw [List.map_append, List.map_singleton, List.nodup_append]
    refine ⟨self.distinct, List.nodup_singleton _, ?_⟩
    rintro handle mem _ there rfl
    exact fresh (List.mem_singleton.mp there ▸ mem)

theorem find_keep (self : Store) (p : Stored → Bool) (handle : ObjectHandle) :
    (self.keep p).find handle = (self.find handle).filter p := by
  apply Option.ext
  intro o
  rw [Option.filter_eq_some_iff, find_iff, find_iff, keep, List.mem_filter]
  tauto

theorem find_keep_of {self : Store} {p : Stored → Bool} {handle : ObjectHandle}
    (kept : ∀ o, self.find handle = some o → p o = true) :
    (self.keep p).find handle = self.find handle := by
  rw [find_keep]
  cases found : self.find handle with
  | none => rfl
  | some o => rw [Option.filter_some_pos (kept o found)]

theorem find_change (self : Store) (handle other : ObjectHandle) (f : Stored → Stored)
    (keeps : ∀ o, (f o).handle = o.handle) : (self.change handle f keeps).find other =
      if other = handle then (self.find other).map f else self.find other := by
  apply Option.ext
  intro o
  rw [find_iff, change, List.mem_map]
  by_cases here : other = handle
  · subst here
    rw [if_pos rfl, Option.map_eq_some_iff]
    constructor
    · rintro ⟨⟨old, mem, rfl⟩, named⟩
      by_cases same : old.handle = other
      · rw [if_pos same]
        exact ⟨old, find_iff.mpr ⟨mem, same⟩, rfl⟩
      · rw [if_neg same] at named
        exact absurd named same
    · rintro ⟨old, found, rfl⟩
      obtain ⟨mem, same⟩ := find_iff.mp found
      refine ⟨⟨old, mem, if_pos same⟩, ?_⟩
      rw [keeps, same]
  · rw [if_neg here, find_iff]
    constructor
    · rintro ⟨⟨old, mem, rfl⟩, named⟩
      by_cases same : old.handle = handle
      · rw [if_pos same, keeps, same] at named
        exact absurd named.symm here
      · rw [if_neg same] at named ⊢
        exact ⟨mem, named⟩
    · rintro ⟨mem, rfl⟩
      exact ⟨⟨o, mem, if_neg here⟩, rfl⟩

/-- A handle above all others, of objects and of what they are in. -/
def freshHandle (self : Store) : Option ObjectHandle :=
  let next := (self.objects.map fun o => max o.handle.toNat o.parent.toNat).foldr max 0 + 1
  if next < 2 ^ 64 then some (UInt64.ofNat next) else none

theorem le_foldr_max {numbers : List Nat} {n : Nat} (mem : n ∈ numbers) :
    n ≤ numbers.foldr max 0 := by
  induction numbers with
  | nil => exact absurd mem List.not_mem_nil
  | cons first rest ih =>
      rw [List.foldr_cons]
      rcases List.mem_cons.mp mem with rfl | later
      · omega
      · have bound := ih later
        omega

theorem freshHandle_above {self : Store} {handle : ObjectHandle}
    (fresh : self.freshHandle = some handle) :
    0 < handle.toNat ∧ ∀ o ∈ self.objects, max o.handle.toNat o.parent.toNat < handle.toNat := by
  unfold freshHandle at fresh
  dsimp only at fresh
  split at fresh
  · next small =>
      have number := congrArg UInt64.toNat (Option.some.inj fresh)
      rw [UInt64.toNat_ofNat_of_lt' small] at number
      refine ⟨by omega, fun o mem => ?_⟩
      have bound := le_foldr_max
        (List.mem_map_of_mem (f := fun o => max o.handle.toNat o.parent.toNat) mem)
      omega
  · cases fresh

theorem freshHandle_fresh {self : Store} {handle : ObjectHandle}
    (fresh : self.freshHandle = some handle) : handle ∉ self.objects.map (·.handle) := by
  intro mem
  obtain ⟨o, there, rfl⟩ := List.mem_map.mp mem
  have above := (freshHandle_above fresh).2 o there
  omega

def delete (self : Store) (handle : ObjectHandle) : Store := self.keep fun o => o.handle != handle

def rename (self : Store) (handle : ObjectHandle) (name : String) : Store :=
  self.change handle (fun o => { o with name }) fun _ => rfl

def move (self : Store) (handle folder : ObjectHandle) : Store :=
  match self.find handle with
  | none => self
  | some moved =>
      (self.keep fun o => o.handle == handle || !(o.parent == folder && o.name ==
        moved.name)).change
        handle (fun o => { o with parent := folder }) fun _ => rfl

theorem deleted_delete (self : Store) (handle : ObjectHandle) :
    Deleted handle self (self.delete handle) where
  gone := by
    rw [delete, find_keep, Option.filter_eq_none_iff]
    intro o found
    simp [(find_iff.mp found).2]
  others _ other different := by
    apply find_keep_of
    intro o found
    simp [(find_iff.mp found).2, different]

theorem renamed_rename (self : Store) (handle : ObjectHandle) (name : String) :
    Renamed handle name self (self.rename handle name) where
  object := by rw [rename, find_change, if_pos rfl]
  others other different := by rw [rename, find_change, if_neg different]

theorem moved_move (self : Store) (handle folder : ObjectHandle) :
    Moved handle folder self (self.move handle folder) := by
  unfold move
  cases there : self.find handle with
  | none =>
      constructor
      · rw [there]
        rfl
      · exact fun _ _ _ => rfl
      · intro o clashes
        obtain ⟨moved, found, -⟩ := clashes.alike
        rw [there] at found
        cases found
  | some moved =>
      dsimp only
      constructor
      · rw [find_change, if_pos rfl, find_keep, there, Option.filter_some_pos]
        simp [(find_iff.mp there).2]
      · intro alone other different
        rw [find_change, if_neg different]
        apply find_keep_of
        intro o found
        obtain ⟨mem, same⟩ := find_iff.mp found
        by_contra refused
        simp only [Bool.or_eq_true, beq_iff_eq, Bool.not_eq_true', Bool.and_eq_false_iff, not_or,
          beq_eq_false_iff_ne, not_not] at refused
        exact alone o ⟨mem, same ▸ different, refused.2.1, moved, there, refused.2.2⟩
      · rintro o ⟨mem, other, place, same, found, alike⟩
        rw [there, Option.some.injEq] at found
        subst found
        rw [find_change, if_neg other, find_keep, find_self mem, Option.filter_some_neg]
        simp [other, place, alike]

end Store

/-- What a listing says of an object of the store. -/
def Stored.entry (self : Stored) : ObjectEntry where
  handle := self.handle
  storageId := 1
  parent := self.parent
  filename := self.name
  size := self.content.length
  format := if self.folder then 0x3001 else 0x3000
  created := none
  modified := none
  imageWidth := 0
  imageHeight := 0
  folder := self.folder

def Store.describe (self : Store) (handle : ObjectHandle) : Except Error ObjectEntry × Store :=
  match self.find handle with
  | none => (.error .staleHandle, self)
  | some o => (.ok o.entry, self)

/-- It copies files only, and only into folders that are there. -/
def Store.copy (self : Store) (handle folder : ObjectHandle) : Except Error ObjectHandle × Store :=
  match self.find handle with
  | none => (.error .notFound, self)
  | some source =>
      if source.folder || !(self.children handle).isEmpty ||
          !(folder == ObjectHandle.root || (self.find folder).isSome) then
        (.error .unsupported, self)
      else
        match fresh : self.freshHandle with
        | none => (.error .storageFull, self)
        | some copy =>
            (.ok copy, self.add { source with handle := copy, parent := folder }
              (Store.freshHandle_fresh fresh))

def Store.create (self : Store) (folder : ObjectHandle) (name : String) :
    Except Error ObjectHandle × Store :=
  match fresh : self.freshHandle with
  | none => (.error .storageFull, self)
  | some handle =>
      (.ok handle, self.add ⟨handle, folder, name, true, []⟩ (Store.freshHandle_fresh fresh))

def obliging (supportsRename : Bool) : Storage Store where
  id := 1
  backend := {
    supportsRename
    objectInfo := fun store handle => store.describe handle
    collect := fun store _ parent =>
      (.ok ((store.children (parent.getD ObjectHandle.root)).map Stored.entry), store)
    copyObject := fun store handle folder _ => store.copy handle folder
    createFolder := fun store _ parent name => store.create (parent.getD ObjectHandle.root) name
    delete := fun store handle => (.ok (), store.delete handle)
    moveObject := fun store handle folder _ => (.ok (), store.move handle folder)
    rename := fun store handle name => (.ok (), store.rename handle name) }

theorem obliging_holds (supportsRename : Bool) : Holds (obliging supportsRename) id where
  lists store parent := by
    refine ⟨?_, rfl⟩
    rw [List.map_map]
    rfl
  moves handle folder store := store.moved_move handle folder
  renames handle name store := store.renamed_rename handle name
  deletes handle store := store.deleted_delete handle

theorem obliging_answers (supportsRename : Bool) : Answers (obliging supportsRename) :=
  fun state _ => ⟨_, state, rfl⟩

end Cli
