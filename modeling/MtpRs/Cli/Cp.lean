import MtpRs.Cli.Copies

set_option autoImplicit false

/- The `cp` command: a copy made in place, or through a staging folder. -/
namespace Cli

open Attempts (Attempt)
open Mtp (Error ObjectEntry ObjectHandle Storage)

namespace Cp

structure CopyArgs where
  sourcePath : String
  destinationPath : String
  replace : Bool
deriving DecidableEq, Repr

structure CopyRow where
  operation : String
  sourcePath : String
  destinationPath : String
  filename : String
  sourceHandle : ObjectHandle
  handle : ObjectHandle
  kind : String
  replaced : Bool
  renamed : Bool
deriving DecidableEq, Repr

def nineDigits (n : Nat) : String :=
  let digits := toString n
  String.ofList (List.replicate (9 - digits.length) '0') ++ digits

def stagingFolderName (pid nanos : Nat) : String := s!".mtp-rs-cp-{pid}-" ++ nineDigits nanos

/-- What the command has made out before it changes anything. -/
structure Choice where
  prepared : Prepared
  staged : Bool

section

variable {σ : Type} (storage : Storage σ) (settings : Settings) (lower : String → String)

/-- How the copy is to be made: the destination folder may hold the source's name. -/
def choose (args : CopyArgs) : Attempt σ CliError Choice := do
  let prepared ← prepare storage settings args.sourcePath args.destinationPath
  let siblings ← request settings "list destination folder"
    (storage.listObjects prepared.target.parent)
  let replacedHandle := prepared.target.existing.map (·.handle)
  let clash := siblings.find? fun o =>
    some o.handle != replacedHandle && lower o.filename == lower prepared.source.filename
  match clash, prepared.renamed with
  | some clash, false =>
      Attempt.fail (.new .remotePath ("the destination folder already holds `" ++ clash.filename ++
        "`, which the device may treat as the same name"))
  | clash, _ => return ⟨prepared, clash.isSome⟩

def copyDirectly (prepared : Prepared) : Attempt σ CliError ObjectHandle := do
  let newHandle ← request settings "copy remote object"
    (storage.copyObject lower prepared.source.handle
      (prepared.target.parent.getD ObjectHandle.root) none)
  renameWhere storage settings "rename copied object" prepared.renamed newHandle
    prepared.target.filename
  return newHandle

/-- The steps of a staged copy that its cleanup follows. -/
def copyThrough (source : ObjectHandle) (parent : Option ObjectHandle) (filename : String)
    (stage : ObjectHandle) : Attempt σ CliError ObjectHandle := do
  let copy ← request settings "copy remote object" (storage.copyObject lower source stage none)
  request settings "rename copied object" (storage.rename copy filename)
  request settings "move copied object"
    (storage.moveObject copy (parent.getD ObjectHandle.root) none)
  let objects ← request settings "list destination folder" (storage.listObjects parent)
  match objects.find? (·.filename == filename) with
  | some o => return o.handle
  | none =>
      Attempt.fail (.new .remotePath
        ("the copy was moved but `" ++ filename ++ "` isn't in the destination"))

def deleteAll : List ObjectEntry → Attempt σ Error Unit
  | [] => Attempt.done ()
  | leftover :: rest => do
      storage.delete leftover.handle
      deleteAll rest

def removeStagingFolder (stage : ObjectHandle) : Attempt σ Error Unit := do
  let leftovers ← storage.listObjects (some stage)
  deleteAll storage leftovers
  storage.delete stage

/-- Where only the cleanup fails, its error is the command's; where the copy fails too, it is a
warning. -/
def stagedCopy (stageName : String) (source : ObjectHandle) (parent : Option ObjectHandle)
    (filename : String) : Attempt σ CliError ObjectHandle := do
  let stage ← request settings "create staging folder" (storage.createFolder parent stageName)
  (copyThrough storage settings lower source parent filename stage).cleanedUp
    (removeStagingFolder storage stage) fun e =>
      .new .remotePath ("couldn't remove the staging folder `" ++ stageName ++
        "` next to the destination: " ++ e.text ++ "; remove it by hand")

def makeCopy (stageName : String) (choice : Choice) : Attempt σ CliError ObjectHandle :=
  if choice.staged then
    stagedCopy storage settings lower stageName choice.prepared.source.handle
      choice.prepared.target.parent choice.prepared.target.filename
  else copyDirectly storage settings lower choice.prepared

/-- The command, from the opened storage to the row it prints. -/
def run (stageName : String) (args : CopyArgs) : Attempt σ CliError CopyRow := do
  let choice ← choose storage settings lower args
  let source := choice.prepared.source
  let target := choice.prepared.target
  replaceExisting storage settings source.handle args.replace target.existing
  let newHandle ← makeCopy storage settings lower stageName choice
  return {
    operation := "cp"
    sourcePath := choice.prepared.sourcePath.raw
    destinationPath := choice.prepared.destinationPath.raw
    filename := target.filename
    sourceHandle := source.handle
    handle := newHandle
    kind := if source.isFolder then "folder" else "file"
    replaced := target.existing.isSome
    renamed := choice.prepared.renamed }

end

/-- A device whose copies are copies, under the source's name, and that puts no object in the place
of the folder it is in. -/
structure HoldsCopies {σ : Type} (storage : Storage σ) (view : σ → Store) : Prop
    extends Holds storage view where
  describes : ∀ state handle,
    Attempt.Ends (fun state => storage.backend.objectInfo state handle) state
      (fun entry after => view after = view state ∧
        ∃ o, (view state).find handle = some o ∧ shown entry = o.shown)
      fun _ after => view after = view state
  copies : ∀ state handle folder,
    Attempt.Ends (fun state => storage.backend.copyObject state handle folder storage.id) state
      (fun copy after => Store.Copied handle folder copy (view state) (view after))
      fun _ _ => True
  creates : ∀ state parent name, (∀ o ∈ (view state).objects, o.name ≠ name) →
    Attempt.Ends (fun state => storage.backend.createFolder state storage.id parent name) state
      (fun stage after => Store.Created (parent.getD ObjectHandle.root) name stage (view state)
        (view after))
      fun _ _ => True
  leavesParent : ∀ state handle folder after,
    storage.moveObject handle folder none state = (.ok (), after) →
      ∀ o, (view state).Clashes handle folder o → ∀ moved, (view state).find handle = some moved →
        moved.parent ≠ o.handle

/-- The name check of `copy_object` refuses this copy. -/
def NameTaken {σ : Type} (storage : Storage σ) (lower : String → String)
    (handle newParent : ObjectHandle) (state : σ) : Prop :=
  ∃ info described siblings seen,
    storage.backend.objectInfo state handle = (.ok info, described) ∧
      storage.backend.collect described storage.id (Mtp.folderOf newParent) = (.ok siblings, seen) ∧
        ∃ o ∈ siblings, Mtp.sameName lower o.filename info.filename = true

/-- The name check can refuse the copy that was chosen. -/
def Refusable {σ : Type} (storage : Storage σ) (lower : String → String) (stageName : String)
    (choice : Choice) (state : σ) : Prop :=
  if choice.staged then
    ∃ stage made,
      storage.createFolder choice.prepared.target.parent stageName state = (.ok stage, made) ∧
        NameTaken storage lower choice.prepared.source.handle stage made
  else
    NameTaken storage lower choice.prepared.source.handle
      (choice.prepared.target.parent.getD ObjectHandle.root) state

/-- Whether a move would put an object in the place of the folder it is in. -/
def takesParent (store : Store) (handle folder : ObjectHandle) : Bool :=
  match store.find handle with
  | none => false
  | some moved => store.objects.any fun o => o.handle == moved.parent && o.parent == folder &&
      o.name == moved.name && o.handle != handle

/-- A device that refuses such a move, and does all else it is asked. -/
def careful : Storage Store where
  id := 1
  backend := { (obliging true).backend with
    moveObject := fun store handle folder _ =>
      if takesParent store handle folder then (.error (.other "General_Error"), store)
      else (.ok (), store.move handle folder) }

theorem describe_ends (store : Store) (handle : ObjectHandle) :
    Attempt.Ends (fun store => store.describe handle) store
      (fun entry after => after = store ∧ ∃ o, store.find handle = some o ∧ shown entry = o.shown)
      fun _ after => after = store := by
  unfold Attempt.Ends Store.describe
  dsimp only
  cases found : store.find handle with
  | none => rfl
  | some o => exact ⟨rfl, o, rfl, rfl⟩

theorem unused_of_fresh {store : Store} {handle : ObjectHandle}
    (fresh : store.freshHandle = some handle) : store.Unused handle := by
  obtain ⟨positive, above⟩ := Store.freshHandle_above fresh
  constructor
  · rintro rfl
    exact absurd positive (by decide)
  · rintro o mem rfl
    have bound := above o mem
    omega
  · rintro o mem rfl
    have bound := above o mem
    omega

theorem mem_add {store : Store} {o p : Stored} (fresh : o.handle ∉ store.objects.map (·.handle)) :
    p ∈ (store.add o fresh).objects ↔ p ∈ store.objects ∨ p = o := by
  rw [Store.add, List.mem_append, List.mem_singleton]

theorem create_ends (store : Store) (folder : ObjectHandle) (name : String) :
    Attempt.Ends (fun store => store.create folder name) store
      (fun handle after => Store.Created folder name handle store after) fun _ _ => True := by
  apply Attempt.ends_of_ok
  intro handle after ran
  unfold Store.create at ran
  split at ran
  · cases ran
  · next fresh =>
      cases ran
      exact ⟨unused_of_fresh fresh, _, rfl, rfl, rfl, fun p => mem_add _⟩

/-- A file is copied as a file, with nothing in it. -/
theorem copied_add {store : Store} {source : Stored} {folder copy : ObjectHandle}
    (mem : source ∈ store.objects) (leaf : store.children source.handle = [])
    (there : folder = ObjectHandle.root ∨ (store.find folder).isSome = true)
    (fresh : store.freshHandle = some copy) :
    Store.Copied source.handle folder copy store
      (store.add { source with handle := copy, parent := folder }
        (Store.freshHandle_fresh fresh)) := by
  have unused := unused_of_fresh fresh
  have apart : folder ≠ copy := by
    rintro rfl
    rcases there with root | known
    · exact unused.notRoot root
    · obtain ⟨f, found⟩ := Option.isSome_iff_exists.mp known
      exact unused.absent f (Store.mem_of_find found).1 (Store.mem_of_find found).2
  have made : { source with handle := copy, parent := folder } ∈
      (store.add { source with handle := copy, parent := folder }
        (Store.freshHandle_fresh fresh)).objects := (mem_add _).mpr (Or.inr rfl)
  refine ⟨unused, ⟨source, mem, rfl, made⟩, fun p known => (mem_add _).mpr (Or.inl known), ?_, ?_,
    fun a b => a = source.handle ∧ b = copy, ⟨rfl, rfl⟩, ⟨?_, ?_, ?_⟩, ?_⟩
  · intro p known new
    rw [((mem_add _).mp known).resolve_left new]
    exact unused
  · intro p known new other
    rw [((mem_add _).mp known).resolve_left new] at other
    exact absurd rfl other
  · rintro _ _ ⟨rfl, rfl⟩
    exact ⟨source, _, Store.find_self mem, Store.find_iff.mpr ⟨made, rfl⟩, rfl, rfl⟩
  · rintro _ _ ⟨rfl, rfl⟩ o child
    rw [leaf] at child
    exact absurd child List.not_mem_nil
  · rintro _ _ ⟨rfl, rfl⟩ p child
    obtain ⟨known, up⟩ := Store.mem_children.mp child
    rcases (mem_add _).mp known with old | rfl
    · exact absurd up (unused.childless p old)
    · exact absurd up apart
  · rintro _ _ ⟨-, rfl⟩
    exact unused

theorem copy_ends (store : Store) (handle folder : ObjectHandle) :
    Attempt.Ends (fun store => store.copy handle folder) store
      (fun copy after => Store.Copied handle folder copy store after) fun _ _ => True := by
  apply Attempt.ends_of_ok
  intro copy after ran
  unfold Store.copy at ran
  split at ran
  · cases ran
  · next source found =>
      obtain ⟨mem, rfl⟩ := Store.mem_of_find found
      split at ran
      · cases ran
      · next allowed =>
          split at ran
          · cases ran
          · next fresh =>
              cases ran
              simp only [Bool.or_eq_true, Bool.not_eq_true', not_or, Bool.not_eq_false,
                List.isEmpty_iff, beq_iff_eq] at allowed
              exact copied_add mem allowed.1.2 allowed.2 fresh

theorem careful_holds : HoldsCopies careful id where
  lists := (obliging_holds true).lists
  renames := (obliging_holds true).renames
  deletes := (obliging_holds true).deletes
  moves handle folder store := by
    show Attempt.Ends (fun store => if takesParent store handle folder then _ else _) store _ _
    unfold Attempt.Ends
    dsimp only
    by_cases refused : takesParent store handle folder = true
    · rw [if_pos refused]
      exact Or.inl fun _ => rfl
    · rw [if_neg refused]
      exact store.moved_move handle folder
  describes := describe_ends
  copies := copy_ends
  creates store parent name _ := create_ends store (parent.getD ObjectHandle.root) name
  leavesParent store handle folder after ran o clashes moved found same := by
    have refused : takesParent store handle folder = true := by
      obtain ⟨other, is, alike⟩ := clashes.alike
      have isMoved : some other = some moved := is.symm.trans found
      cases isMoved
      unfold takesParent
      rw [show store.find handle = some moved from found]
      dsimp only
      rw [List.any_eq_true]
      refine ⟨o, clashes.mem, ?_⟩
      simp [same, clashes.there, alike, clashes.other]
    rw [show careful.moveObject handle folder none store =
      (if takesParent store handle folder then (.error (.other "General_Error"), store)
        else (.ok (), store.move handle folder)) from rfl, if_pos refused] at ran
    cases ran

end Cp

end Cli
