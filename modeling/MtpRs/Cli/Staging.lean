import MtpRs.Cli.Cp

set_option autoImplicit false

/- What a reported copy leaves on the device, made in place or through the staging folder. -/
namespace Cli

open Attempts (Attempt)
open Mtp (Error ObjectEntry ObjectHandle Storage)

namespace Cp

section

variable {σ : Type} {storage : Storage σ} {view : σ → Store} (settings : Settings)
  (lower : String → String)

theorem folderOf_getD (folder : ObjectHandle) :
    (Mtp.folderOf folder).getD ObjectHandle.root = folder := by
  unfold Mtp.folderOf
  by_cases root : folder = ObjectHandle.root
  · rw [if_pos root, root]
    rfl
  · rw [if_neg root]
    rfl

theorem copyObject_ends (holds : HoldsCopies storage view) (handle folder : ObjectHandle)
    (state : σ) : (storage.copyObject lower handle folder none).Ends state
      (fun copy after => Store.Copied handle folder copy (view state) (view after))
      fun _ _ => True := by
  unfold Attempt.Ends Storage.copyObject
  rcases ran : Mtp.copyObject lower storage.backend.toCopyBackend state storage.id handle folder
    none
    with ⟨error | copy, after⟩
  · exact trivial
  · obtain ⟨seen, ⟨info, described, siblings, asked, listed, -⟩, made⟩ :=
      (Mtp.copyObject_ok_iff lower _ state after storage.id handle folder copy none).mp ran
    have first := ((holds.describes state handle).value asked).1
    have second := ((holds.lists described (Mtp.folderOf folder)).value listed).2
    have copied := (holds.copies seen handle folder).value made
    rw [second, first] at copied
    exact copied

theorem createFolder_ends (holds : HoldsCopies storage view) (parent : Option ObjectHandle)
    (name : String) (state : σ) (free : ∀ o ∈ (view state).objects, o.name ≠ name) :
    (storage.createFolder parent name).Ends state
      (fun stage after => Store.Created (parent.getD ObjectHandle.root) name stage (view state)
        (view after))
      fun _ _ => True := by
  unfold Storage.createFolder
  apply Attempt.ends_bind (fun _ after => after = state)
  · apply Attempt.ends_lift
    · exact fun _ _ => rfl
    · exact fun _ _ => trivial
  · rintro _ _ rfl
    exact holds.creates _ parent name free

/-- The name check refuses nothing where no name in the folder is the source's. -/
theorem not_nameTaken (holds : HoldsCopies storage view) {handle folder : ObjectHandle} {state : σ}
    (alone : ∀ source, (view state).find handle = some source →
      ∀ o ∈ (view state).children folder, Mtp.sameName lower o.name source.name = false) :
    ¬ NameTaken storage lower handle folder state := by
  rintro ⟨info, described, siblings, seen, asked, listed, entry, mem, same⟩
  obtain ⟨sameView, source, found, known⟩ := (holds.describes state handle).value asked
  have listing := ((holds.lists described (Mtp.folderOf folder)).value listed).1
  rw [folderOf_getD, sameView] at listing
  have shows := List.mem_map_of_mem (f := shown) mem
  rw [listing, List.mem_map] at shows
  obtain ⟨o, there, seen⟩ := shows
  have name : entry.filename = o.name := (congrArg Shown.name seen).symm
  have sourceName : info.filename = source.name := congrArg Shown.name known
  rw [name, sourceName, alone source found o there] at same
  cases same

/-- What is chosen: a staged copy only under another name, and one in place only where no other name
in the folder is the source's but for case. -/
structure Choice.Chosen (choice : Choice) (lower : String → String) (store : Store)
    (source : Stored) (t : Store.Target) : Prop where
  is : choice.prepared.Is source t
  staged : choice.staged = true → t.name ≠ source.name
  direct : choice.staged = false → ∀ o ∈ store.children t.folder, t.existing ≠ some o →
    lower o.name ≠ lower source.name

theorem choose_ends (holds : Holds storage view) (args : CopyArgs) (state : σ) :
    (choose storage settings lower args).Ends state
      (fun choice after => view after = view state ∧ ∃ source t,
        (view state).Finds storage.backend.supportsRename args.sourcePath args.destinationPath
          source t ∧ choice.Chosen lower (view state) source t)
      fun _ _ => True := by
  unfold choose
  apply Attempt.ends_bind
  · apply (prepare_ends settings holds args.sourcePath args.destinationPath state).mono
    · exact fun _ _ found => found
    · exact fun _ _ _ => trivial
  · rintro prepared first ⟨sameFirst, source, t, finds, is⟩
    apply Attempt.ends_bind
    · apply (holds.listed settings first _ prepared.target.parent).mono
      · exact fun _ _ listed => listed
      · exact fun _ _ _ => trivial
    · rintro siblings second ⟨sameSecond, listed⟩
      have same := sameSecond.trans sameFirst
      rw [sameFirst, ← is.target.folder] at listed
      dsimp only
      cases clash : siblings.find? fun o => some o.handle !=
          prepared.target.existing.map (·.handle) && lower o.filename ==
            lower prepared.source.filename
        with
      | some sibling =>
          cases renamed : prepared.renamed with
          | false => exact Attempt.ends_fail trivial
          | true =>
              apply Attempt.ends_pure
              exact ⟨same, source, t, finds, is, fun _ => is.renamed.mp renamed, nofun⟩
      | none =>
          apply Attempt.ends_pure
          refine ⟨same, source, t, finds, is, nofun, ?_⟩
          intro _ o child stays alike
          have shows := List.mem_map_of_mem (f := Stored.shown) child
          rw [← listed, List.mem_map] at shows
          obtain ⟨entry, mem, seen⟩ := shows
          have handle : entry.handle = o.handle := congrArg Shown.handle seen
          have name : entry.filename = o.name := congrArg Shown.name seen
          have sourceName : prepared.source.filename = source.name := congrArg Shown.name is.source
          have other := List.find?_eq_none.mp clash entry mem
          have replaced : prepared.target.existing.map (·.handle) = t.existing.map (·.handle) := by
            have handles := congrArg (Option.map Shown.handle) is.target.existing
            rw [Option.map_map, Option.map_map] at handles
            exact handles
          rw [handle, name, sourceName, alike, beq_self_eq_true, Bool.and_true, bne_iff_ne, not_not,
            replaced, eq_comm, Option.map_eq_some_iff] at other
          obtain ⟨e, there, alikeHandle⟩ := other
          have known := (Store.destination_existing finds.resolved there).1
          have is : e = o :=
            Store.eq_of_handle known (Store.mem_children.mp child).1 alikeHandle
          exact stays (is ▸ there)

/-- What is left after the deletion. -/
theorem staged_of_replaced {store cleared : Store} {t : Store.Target} {source : ObjectHandle}
    {replace : Bool} (existing : ∀ e, t.existing = some e → e ∈ store.objects ∧ e.folder = false)
    (untouched : t.existing = none → cleared = store)
    (deleted : ∀ e, t.existing = some e → e.handle ≠ source ∧ replace = true ∧
      Store.Deleted e.handle store cleared) : store.Staged t (fun _ => False) cleared := by
  refine ⟨?_, fun _ => False.elim, fun _ => False.elim⟩
  intro p
  rw [or_false]
  cases there : t.existing with
  | none =>
      rw [untouched there]
      exact ⟨fun mem => ⟨mem, nofun⟩, And.left⟩
  | some e =>
      obtain ⟨mem, file⟩ := existing e there
      have alone : ∀ o, store.find e.handle = some o → o.folder = true →
          store.children e.handle = [] := by
        intro o found folder
        rw [Store.find_self mem, Option.some.injEq] at found
        rw [← found, file] at folder
        cases folder
      rw [Store.mem_of_deleted (deleted e there).2.2 alone]
      apply and_congr_right
      intro known
      rw [ne_eq, ne_eq, Option.some.injEq, not_iff_not]
      exact ⟨fun same => (Store.eq_of_handle known mem same).symm, fun same => same ▸ rfl⟩

variable {source : Stored} {t : Store.Target} {store : Store}

theorem copyDirectly_ends (holds : HoldsCopies storage view) {prepared : Prepared} {state : σ}
    (is : prepared.Is source t) (ready : store.Ready source t)
    (staged : store.Staged t (fun _ => False) (view state)) :
    (copyDirectly storage settings lower prepared).Ends state
      (fun copy after => store.CopyMade (view after) source t copy) fun _ _ => True := by
  have handle : prepared.source.handle = source.handle := congrArg Shown.handle is.source
  have inside : source ∈ (view state).objects :=
    (staged.mem source).mpr (Or.inl ⟨ready.mem, ready.source_stays⟩)
  unfold copyDirectly
  rw [handle, ← is.target.folder, ← is.target.name]
  apply Attempt.ends_bind
  · apply Attempt.ends_mapError
    exact copyObject_ends lower holds source.handle t.folder state
  · intro copy middle copies
    obtain ⟨original, there, named, made⟩ := copies.made
    cases Store.eq_of_handle there inside named
    have finish {after : Store} (mem : ∀ p, p ∈ after.objects ↔
        (p ∈ (view middle).objects ∧ p.handle ≠ copy) ∨
          p = { source with handle := copy, parent := t.folder, name := t.name }) :
        store.CopyMade after source t copy := by
      apply Store.Leaves.copyMade (staged.leaves copies _) staged ready copies
      · exact fun b unused => staged.unused_ne ready unused
      · intro p
        rw [mem p, not_false_iff, and_true]
    apply Attempt.ends_bind (fun _ after => store.CopyMade (view after) source t copy)
    · apply (renameWhere_ends settings holds.toHolds _ prepared.renamed copy t.name middle).mono
      · rintro _ after ⟨changed, same⟩
        apply finish
        intro p
        by_cases renamed : prepared.renamed = true
        · have change := changed renamed
          exact Store.mem_of_changed_known (f := fun o => { o with name := t.name }) (fun _ => rfl)
            change.object change.others made rfl
        · have name : t.name = source.name := by
            by_contra other
            exact renamed (is.renamed.mpr other)
          rw [same (Bool.eq_false_iff.mpr renamed), name]
          constructor
          · intro mem
            by_cases own : p.handle = copy
            · exact Or.inr (Store.eq_of_handle mem made own)
            · exact Or.inl ⟨mem, own⟩
          · rintro (⟨mem, -⟩ | rfl)
            · exact mem
            · exact made
      · exact fun _ _ _ => trivial
    · exact fun _ after copied => Attempt.ends_pure copied

/-- The store in which a staged copy is made: what stays, and the staging folder. -/
theorem staged_of_created {cleared before : Store} {stageName : String} {stage : ObjectHandle}
    (staged : store.Staged t (fun _ => False) cleared)
    (created : Store.Created t.folder stageName stage cleared before) :
    ∃ made : Stored, made.handle = stage ∧ made.parent = t.folder ∧
      store.Staged t (fun p => p = made) before := by
  obtain ⟨made, named, parent, -, mem⟩ := created.made
  refine ⟨made, named, parent, ?_, ?_, ?_⟩
  · intro p
    rw [mem, staged.mem, or_false]
  · rintro p rfl
    exact parent
  · rintro p rfl o known stays same
    exact created.new.absent o ((staged.mem o).mpr (Or.inl ⟨known, stays⟩)) (same.trans named)

theorem move_ends (holds : HoldsCopies storage view) (handle folder : ObjectHandle) (state : σ) :
    (storage.moveObject handle folder none).Ends state
      (fun _ after => Store.Moved handle folder (view state) (view after) ∧
        ∀ o, (view state).Clashes handle folder o → ∀ moved,
          (view state).find handle = some moved → moved.parent ≠ o.handle)
      fun _ _ => True := by
  have moved := holds.moves handle folder state
  unfold Attempt.Ends at moved ⊢
  rcases ran : storage.moveObject handle folder none state with ⟨error | ⟨⟩, after⟩
  · exact trivial
  · rw [ran] at moved
    exact ⟨moved, holds.leavesParent state handle folder after ran⟩

/-- What has the target's name in the destination folder while the copy is made can only be the
staging folder. -/
theorem eq_made_of_name {stage copy : ObjectHandle} {made : Stored} {before copied : Store}
    (ready : store.Ready source t) (staged : store.Staged t (fun p => p = made) before)
    (copies : Store.Copied source.handle stage copy before copied) {o : Stored}
    (mem : o ∈ copied.objects) (other : o.handle ≠ copy) (parent : o.parent = t.folder)
    (name : o.name = t.name) : o = made := by
  by_cases old : o ∈ before.objects
  · rcases (staged.mem o).mp old with ⟨known, stays⟩ | is
    · exact absurd (ready.free o known parent name) stays
    · exact is
  · have inner := copies.unused (copies.inner o mem old other)
    exact absurd parent (staged.unused_ne ready inner)

/-- A store in which one object is as given, and the others as they were. -/
def Remade (before : Store) (object : Stored) (after : Store) : Prop :=
  ∀ p, p ∈ after.objects ↔ (p ∈ before.objects ∧ p.handle ≠ object.handle) ∨ p = object

theorem Remade.trans {before middle after : Store} {first second : Stored}
    (made : Remade before first middle)
    (remade : Remade middle second after) (same : first.handle = second.handle) :
      Remade before second after := by
  intro p
  rw [remade p, made p, ← same]
  apply or_congr_left
  constructor
  · rintro ⟨(there | rfl), other⟩
    · exact there
    · exact absurd rfl other
  · exact fun there => ⟨Or.inl there, there.2⟩

/-- The copy gets its name where it was made. -/
theorem renameCopy_ends (holds : HoldsCopies storage view) {copy : Stored} {state : σ}
    (known : copy ∈ (view state).objects) (name : String) :
    (request settings "rename copied object" (storage.rename copy.handle name)).Ends state
      (fun _ after => Remade (view state) { copy with name } (view after)) fun _ _ => True := by
  apply Attempt.ends_mapError
  apply Attempt.ends_bind (fun _ after => after = state)
  · apply Attempt.ends_lift
    · exact fun _ _ => rfl
    · exact fun _ _ => trivial
  · rintro _ _ rfl
    apply (holds.renames copy.handle name _).mono
    · intro _ after change p
      exact Store.mem_of_changed_known (f := fun o => { o with name }) (fun _ => rfl)
        change.object change.others known rfl
    · exact fun _ _ _ => trivial

/-- The copy goes to the destination folder, where the folder it is in is the only other object that
may have its name: it does not. -/
theorem moveCopy_ends (holds : HoldsCopies storage view) {copy : Stored} (made : Stored)
    {folder : ObjectHandle} {state : σ} (known : copy ∈ (view state).objects)
    (inside : copy.parent = made.handle) (there : made ∈ (view state).objects)
    (apart : made.handle ≠ copy.handle) (place : made.parent = folder)
    (alone : ∀ o ∈ (view state).objects, o.handle ≠ copy.handle → o.parent = folder →
      o.name = copy.name → o = made) :
    (request settings "move copied object" (storage.moveObject copy.handle folder none)).Ends state
      (fun _ after => Remade (view state) { copy with parent := folder } (view after) ∧
        made.name ≠ copy.name) fun _ _ => True := by
  have found := Store.find_self known
  apply Attempt.ends_mapError
  apply (move_ends holds copy.handle folder state).mono
  · rintro _ after ⟨moved, leaves⟩
    have free : ∀ o, ¬ (view state).Clashes copy.handle folder o := by
      intro o clashes
      obtain ⟨moving, is, alike⟩ := clashes.alike
      rw [found, Option.some.injEq] at is
      subst is
      have isMade := alone o clashes.mem clashes.other clashes.there alike
      exact leaves o clashes _ found (inside.trans (isMade ▸ rfl))
    refine ⟨?_, fun name => free made ⟨there, apart, place, _, found, name⟩⟩
    intro p
    exact Store.mem_of_changed_known (f := fun o => { o with parent := folder }) (fun _ => rfl)
      moved.object (moved.others free) known rfl
  · exact fun _ _ _ => trivial

/-- The copy is looked up by its name, which no other object of the folder has. -/
theorem findCopy_ends (holds : HoldsCopies storage view) {parent : Option ObjectHandle}
    {name : String} (copy : ObjectHandle) {state : σ}
    (alone : ∀ o ∈ (view state).objects, o.parent = parent.getD ObjectHandle.root →
      o.name = name → o.handle = copy) :
    (do
      let objects ← request settings "list destination folder" (storage.listObjects parent)
      match objects.find? (·.filename == name) with
      | some o => return o.handle
      | none =>
          Attempt.fail (.new .remotePath
            ("the copy was moved but `" ++ name ++ "` isn't in the destination")) :
        Attempt σ CliError ObjectHandle).Ends state
      (fun found after => found = copy ∧ view after = view state) fun _ _ => True := by
  apply Attempt.ends_bind
  · apply (holds.toHolds.listed settings state _ parent).mono
    · exact fun _ _ listed => listed
    · exact fun _ _ _ => trivial
  · rintro objects last ⟨same, listed⟩
    cases here : objects.find? (·.filename == name) with
    | none => exact Attempt.ends_fail trivial
    | some entry =>
        obtain ⟨o, there, seen⟩ := find_shown_some (p := fun s => s.name == name) listed here
        have handle : entry.handle = o.handle := congrArg Shown.handle seen
        have named := List.find?_some there
        rw [beq_iff_eq] at named
        obtain ⟨mem, up⟩ := Store.mem_children.mp (List.mem_of_find?_eq_some there)
        exact Attempt.ends_pure ⟨handle.trans (alone o mem up named), same⟩

/-- The steps of a staged copy, from the staging folder on. -/
theorem copyThrough_ends (holds : HoldsCopies storage view) {parent : Option ObjectHandle}
    {stage : ObjectHandle} {made : Stored} {state : σ} (ready : store.Ready source t)
    (folder : t.folder = parent.getD ObjectHandle.root) (named : made.handle = stage)
    (place : made.parent = t.folder) (staged : store.Staged t (fun p => p = made) (view state)) :
    (copyThrough storage settings lower source.handle parent t.name stage).Ends state
      (fun copy after => ∃ copied : Store,
        Store.Copied source.handle stage copy (view state) copied ∧
          ∀ p, p ∈ (view after).objects ↔ (p ∈ copied.objects ∧ p.handle ≠ copy) ∨
            p = { source with handle := copy, parent := t.folder, name := t.name })
      fun _ _ => True := by
  have inside : source ∈ (view state).objects :=
    (staged.mem source).mpr (Or.inl ⟨ready.mem, ready.source_stays⟩)
  have stageThere : made ∈ (view state).objects := (staged.mem made).mpr (Or.inr rfl)
  unfold copyThrough
  rw [← folder]
  apply Attempt.ends_bind
  · apply Attempt.ends_mapError
    exact copyObject_ends lower holds source.handle stage state
  · intro copy second copies
    obtain ⟨original, there, sameHandle, copyMade⟩ := copies.made
    cases Store.eq_of_handle there inside sameHandle
    have other : made.handle ≠ copy := copies.new.absent made stageThere
    apply Attempt.ends_bind
    · exact renameCopy_ends settings holds copyMade t.name
    · intro _ third renamed
      apply Attempt.ends_bind
      · apply moveCopy_ends settings holds made ((renamed _).mpr (Or.inr rfl)) named.symm
          ((renamed made).mpr (Or.inl ⟨copies.old made stageThere, other⟩)) other place
        intro o mem apart up name
        rcases (renamed o).mp mem with ⟨older, _⟩ | rfl
        · exact eq_made_of_name ready staged copies older apart up name
        · exact absurd rfl apart
      · rintro _ fourth ⟨moved, different⟩
        have remade := Remade.trans renamed moved rfl
        apply (findCopy_ends settings holds copy ?_).mono
        · rintro _ last ⟨rfl, same⟩
          rw [same]
          exact ⟨view second, copies, remade⟩
        · exact fun _ _ _ => trivial
        · intro o mem up name
          rw [← folder] at up
          rcases (remade o).mp mem with ⟨older, apart⟩ | rfl
          · rw [eq_made_of_name ready staged copies older apart up name] at name
            exact absurd name different
          · rfl

theorem removeStagingFolder_ends (holds : Holds storage view) {stage : ObjectHandle} {state : σ}
    (empty : ∀ o ∈ (view state).objects, o.parent ≠ stage) :
    (removeStagingFolder storage stage).Ends state
      (fun _ after => ∀ p, p ∈ (view after).objects ↔ p ∈ (view state).objects ∧ p.handle ≠ stage)
      fun _ _ => True := by
  have childless : (view state).children stage = [] := by
    rw [Store.children, List.filter_eq_nil_iff]
    intro o mem
    rw [beq_iff_eq]
    exact empty o mem
  unfold removeStagingFolder
  apply Attempt.ends_bind
  · apply (holds.lists state (some stage)).mono
    · exact fun _ _ listed => listed
    · exact fun _ _ _ => trivial
  · rintro leftovers second ⟨listed, same⟩
    rw [Option.getD_some, childless, List.map_nil, List.map_eq_nil_iff] at listed
    rw [listed, deleteAll]
    apply Attempt.ends_bind (fun _ after => after = second)
    · exact Attempt.ends_done rfl
    · rintro _ _ rfl
      apply (holds.deletes stage _).mono
      · intro _ after deleted p
        rw [same] at deleted
        exact Store.mem_of_deleted deleted fun _ _ _ => childless
      · exact fun _ _ _ => trivial

/-- A copy made through the staging folder. -/
theorem stagedCopy_ends (holds : HoldsCopies storage view) {parent : Option ObjectHandle}
    {stageName : String} {state : σ} (ready : store.Ready source t)
    (folder : t.folder = parent.getD ObjectHandle.root)
    (free : ∀ o ∈ (view state).objects, o.name ≠ stageName)
    (staged : store.Staged t (fun _ => False) (view state)) :
    (stagedCopy storage settings lower stageName source.handle parent t.name).Ends state
      (fun copy after => store.CopyMade (view after) source t copy) fun _ _ => True := by
  unfold stagedCopy
  apply Attempt.ends_bind
  · apply Attempt.ends_mapError
    exact createFolder_ends holds parent stageName state free
  · intro stage second created
    rw [← folder] at created
    obtain ⟨made, named, place, inStage⟩ := staged_of_created staged created
    apply Attempt.ends_cleanedUp
    · exact copyThrough_ends settings lower holds ready folder named place inStage
    · rintro copy third ⟨copied, copies, mem⟩
      have stageThere : made ∈ (view second).objects := (inStage.mem made).mpr (Or.inr rfl)
      have stageNew : stage ≠ t.folder := staged.unused_ne ready created.new
      have empty : ∀ o ∈ (view third).objects, o.parent ≠ stage := by
        intro o known up
        rcases (mem o).mp known with ⟨there, other⟩ | rfl
        · by_cases old : o ∈ (view second).objects
          · rcases (inStage.mem o).mp old with stays | is
            · exact created.new.childless o ((staged.mem o).mpr (Or.inl stays)) up
            · rw [is, place] at up
              exact stageNew up.symm
          · have inner := copies.unused (copies.inner o there old other)
            exact inner.absent made stageThere (named.trans up.symm)
        · exact stageNew up.symm
      apply (removeStagingFolder_ends holds.toHolds empty).mono
      · intro _ last removed
        apply Store.Leaves.copyMade (inStage.leaves copies ?_) inStage ready copies
        · intro b unused same
          exact unused.absent made stageThere (named.trans same.symm)
        · intro p
          rw [removed, mem]
          have copyOther : copy ≠ stage := fun same =>
            copies.new.absent made stageThere (named.trans same.symm)
          constructor
          · rintro ⟨(⟨there, other⟩ | rfl), stays⟩
            · exact Or.inl ⟨there, other, fun is => stays (is ▸ named)⟩
            · exact Or.inr rfl
          · rintro (⟨there, other, stays⟩ | rfl)
            · refine ⟨Or.inl ⟨there, other⟩, fun same => stays ?_⟩
              exact Store.eq_of_handle there (copies.old made stageThere)
                (same.trans named.symm)
            · exact ⟨Or.inr rfl, copyOther⟩
      · exact fun _ _ _ => trivial

/-- What stands in the way is deleted only where the copy after it cannot be refused for its
name. -/
def DeletesSafely (storage : Storage σ) (settings : Settings) (lower : String → String)
    (stageName : String) (args : CopyArgs) (state : σ) : Prop :=
  ∀ choice chosen existing cleared,
    choose storage settings lower args state = (.ok choice, chosen) →
      choice.prepared.target.existing = some existing →
        replaceExisting storage settings choice.prepared.source.handle args.replace
            choice.prepared.target.existing chosen = (.ok (), cleared) →
          ¬ Refusable storage lower stageName choice cleared

theorem deletes_safely (holds : HoldsCopies storage view) {stageName : String} {args : CopyArgs}
    {state : σ} (free : ∀ o ∈ (view state).objects, o.name ≠ stageName) :
    DeletesSafely storage settings lower stageName args state := by
  intro choice chosen existing cleared chose there replaced
  obtain ⟨same, source, t, finds, chosenAs⟩ :=
    (choose_ends settings lower holds.toHolds args state).value chose
  obtain ⟨untouched, deleted⟩ := (replaceExisting_ends settings holds.toHolds _ _
    chosenAs.is.target.existing chosen).value replaced
  rw [same] at untouched deleted
  have staged := staged_of_replaced
    (fun e is => ⟨(Store.destination_existing finds.resolved is).1,
      (Store.destination_existing finds.resolved is).2.1⟩) untouched deleted
  have handle : choice.prepared.source.handle = source.handle :=
    congrArg Shown.handle chosenAs.is.source
  have only : ∀ o ∈ (view cleared).objects, o ∈ (view state).objects ∧ t.existing ≠ some o :=
    fun o mem => ((staged.mem o).mp mem).resolve_right id
  obtain ⟨path, resolved⟩ := Store.target_of_destination finds.located finds.resolved
  unfold Refusable
  rw [handle, ← chosenAs.is.target.folder]
  by_cases stages : choice.staged = true
  · rw [if_pos stages]
    rintro ⟨stage, made, createdAs, taken⟩
    have freeStill : ∀ o ∈ (view cleared).objects, o.name ≠ stageName :=
      fun o mem => free o (only o mem).1
    have created := (createFolder_ends holds _ stageName cleared freeStill).value createdAs
    rw [← chosenAs.is.target.folder] at created
    obtain ⟨folder, named, place, inStage⟩ := staged_of_created staged created
    refine not_nameTaken lower holds (fun _ _ o child => ?_) taken
    obtain ⟨mem, up⟩ := Store.mem_children.mp child
    rcases (inStage.mem o).mp mem with stays | is
    · exact absurd up (created.new.childless o ((staged.mem o).mpr (Or.inl stays)))
    · have new := staged.unused_ne_folder (Store.target_folder resolved)
        (fun e there => (Store.target_existing resolved there).2.1) created.new
      rw [is, place] at up
      exact absurd up.symm new
  · rw [if_neg stages]
    apply not_nameTaken lower holds
    intro other found o child
    obtain ⟨mem, up⟩ := Store.mem_children.mp child
    obtain ⟨known, stays⟩ := only o mem
    have isSource : other = source := by
      obtain ⟨there, named⟩ := Store.mem_of_find found
      exact Store.eq_of_handle (only other there).1 (Store.source_mem finds.located) named
    have different := chosenAs.direct (Bool.eq_false_iff.mpr stages) o
      (Store.mem_children.mpr ⟨known, up⟩) stays
    rw [isSource, Mtp.sameName, Bool.or_eq_false_iff, beq_eq_false_iff_ne, beq_eq_false_iff_ne]
    exact ⟨fun same => different (congrArg lower same), different⟩

/-- What is known before the copy, of a source and a destination that were found. -/
theorem ready_of_chosen {supportsRename : Bool} {args : CopyArgs} {choice : Choice}
    (unique : store.NamesUnique)
    (finds : store.Finds supportsRename args.sourcePath args.destinationPath source t)
    (chosen : choice.Chosen lower store source t)
    (apart : ¬ store.Within source.handle t.folder)
    (other : ∀ e, t.existing = some e → e.handle ≠ source.handle) : store.Ready source t := by
  obtain ⟨path, resolved⟩ := Store.target_of_destination finds.located finds.resolved
  refine ⟨Store.source_mem finds.located, apart, Store.target_folder resolved, ?_, ?_⟩
  · intro e there
    obtain ⟨mem, file, parent, -⟩ := Store.target_existing resolved there
    exact ⟨mem, file, parent, other e there⟩
  · intro p mem parent name
    by_cases renamed : t.name = source.name
    · have direct : choice.staged = false := by
        by_contra staged
        exact chosen.staged (Bool.eq_true_of_not_eq_false staged) renamed
      by_contra stays
      exact chosen.direct direct p (Store.mem_children.mpr ⟨mem, parent⟩) stays
        (congrArg lower (name.trans renamed))
    · exact unique.free resolved renamed mem parent name

theorem makeCopy_ends (holds : HoldsCopies storage view) {stageName : String} {choice : Choice}
    {state : σ} (is : choice.prepared.Is source t) (ready : store.Ready source t)
    (free : ∀ o ∈ (view state).objects, o.name ≠ stageName)
    (staged : store.Staged t (fun _ => False) (view state)) :
    (makeCopy storage settings lower stageName choice).Ends state
      (fun copy after => store.CopyMade (view after) source t copy) fun _ _ => True := by
  have handle : choice.prepared.source.handle = source.handle := congrArg Shown.handle is.source
  unfold makeCopy
  by_cases stages : choice.staged = true
  · rw [if_pos stages, handle, ← is.target.name]
    exact stagedCopy_ends settings lower holds ready is.target.folder free staged
  · rw [if_neg stages]
    exact copyDirectly_ends settings lower holds is ready staged

theorem run_ends (holds : HoldsCopies storage view) {stageName : String} {args : CopyArgs}
    {state : σ} (unique : (view state).NamesUnique)
    (free : ∀ o ∈ (view state).objects, o.name ≠ stageName)
    (apart : ∀ source t, (view state).source args.sourcePath = some source →
      (view state).destination args.sourcePath args.destinationPath = some t →
        ¬ (view state).Within source.handle t.folder) :
    (run storage settings lower stageName args).Ends state
      (fun row after => ∃ source t, (view state).source args.sourcePath = some source ∧
        (view state).destination args.sourcePath args.destinationPath = some t ∧
          (view state).CopyMade (view after) source t row.handle) fun _ _ => True := by
  unfold run
  apply Attempt.ends_bind
  · exact choose_ends settings lower holds.toHolds args state
  · rintro choice chosen ⟨same, source, t, finds, chosenAs⟩
    have handle : choice.prepared.source.handle = source.handle :=
      congrArg Shown.handle chosenAs.is.source
    dsimp only
    apply Attempt.ends_bind
    · apply (replaceExisting_ends settings holds.toHolds _ _ chosenAs.is.target.existing
        chosen).mono
      · exact fun _ _ replaced => replaced
      · exact fun _ _ _ => trivial
    · rintro _ cleared ⟨untouched, deleted⟩
      rw [same] at untouched deleted
      rw [handle] at deleted
      have staged := staged_of_replaced
        (fun e is => ⟨(Store.destination_existing finds.resolved is).1,
          (Store.destination_existing finds.resolved is).2.1⟩) untouched deleted
      have ready := ready_of_chosen lower unique finds chosenAs
        (apart source t finds.located finds.resolved) fun e there => (deleted e there).1
      apply Attempt.ends_bind
      · exact makeCopy_ends settings lower holds chosenAs.is ready
          (fun o mem => free o (((staged.mem o).mp mem).resolve_right id).1) staged
      · exact fun copy last made =>
          Attempt.ends_pure ⟨source, t, finds.located, finds.resolved, made⟩

/-- A reported copy is there under its name, alone, and nothing else is different but the file it
replaced. That file is deleted only for a copy that its name cannot prevent. -/
theorem copy_made (holds : HoldsCopies storage view) (pid nanos : Nat) (args : CopyArgs) (state : σ)
    (unique : (view state).NamesUnique)
    (free : ∀ o ∈ (view state).objects, o.name ≠ stagingFolderName pid nanos)
    (apart : ∀ source t, (view state).source args.sourcePath = some source →
      (view state).destination args.sourcePath args.destinationPath = some t →
        ¬ (view state).Within source.handle t.folder) :
    (∀ row after,
      run storage settings lower (stagingFolderName pid nanos) args state = (.ok row, after) →
        ∃ source t, (view state).source args.sourcePath = some source ∧
          (view state).destination args.sourcePath args.destinationPath = some t ∧
            (view state).CopyMade (view after) source t row.handle) ∧
      DeletesSafely storage settings lower (stagingFolderName pid nanos) args state := by
  constructor
  · intro row after ran
    exact (run_ends settings lower holds unique free apart).value ran
  · exact deletes_safely settings lower holds free

end

/-- A file `x` at the top of a storage. -/
def oneFile : Store := ⟨[⟨1, 0, "x", false, [7]⟩], by decide⟩

/-- Its copy under another name beside it is made through the staging folder. -/
theorem copy_made_beside : ∃ source t, oneFile.source "/x" = some source ∧
    oneFile.destination "/x" "/y" = some t ∧
      oneFile.CopyMade
        (run careful ⟨false, false⟩ id (stagingFolderName 1 0) ⟨"/x", "/y", false⟩ oneFile).2
        source t 3 := by
  have ran : (run careful ⟨false, false⟩ id (stagingFolderName 1 0) ⟨"/x", "/y", false⟩ oneFile).1 =
      .ok ⟨"cp", "/x", "/y", "y", 1, 3, "file", false, true⟩ := by decide +kernel
  refine (copy_made ⟨false, false⟩ id careful_holds 1 0 ⟨"/x", "/y", false⟩ oneFile ?_ ?_ ?_).1 _ _
    (Prod.ext ran rfl)
  · intro o mem p there _ _
    exact (List.mem_singleton.mp mem).trans (List.mem_singleton.mp there).symm
  · intro o mem
    rw [List.mem_singleton.mp mem]
    decide +kernel
  · intro source t located resolved within
    have isSource : oneFile.source "/x" = some ⟨1, 0, "x", false, [7]⟩ := by decide
    have isTarget : oneFile.destination "/x" "/y" = some ⟨0, "y", none⟩ := by decide
    have first : some source = some ⟨1, 0, "x", false, [7]⟩ := located.symm.trans isSource
    have second : some t = some ⟨0, "y", none⟩ := resolved.symm.trans isTarget
    cases first
    cases second
    generalize root : (0 : ObjectHandle) = place at within
    cases within with
    | top => exact absurd root (by decide)
    | inside mem _ =>
        rw [List.mem_singleton.mp mem] at root
        exact absurd root (by decide)

end Cp

end Cli
