import MtpRs.Cli.Store

set_option autoImplicit false

/- What a path leads to on a device is what it leads to in its store. -/
namespace Cli

open Attempts (Attempt)
open Mtp (Error ObjectEntry ObjectHandle Storage)

/-- Every listing is answered. -/
def Answers {σ : Type} (storage : Storage σ) : Prop :=
  ∀ state parent, ∃ entries after, storage.listObjects parent state = (.ok entries, after)

theorem find_shown {entries : List ObjectEntry} {objects : List Stored} (p : Shown → Bool)
    (same : entries.map shown = objects.map (·.shown)) :
    (entries.find? fun entry => p (shown entry)).map shown =
      (objects.find? fun o => p o.shown).map (·.shown) := by
  have found := congrArg (List.find? p) same
  rw [List.find?_map, List.find?_map] at found
  exact found

theorem find_shown_none {entries : List ObjectEntry} {objects : List Stored} {p : Shown → Bool}
    (same : entries.map shown = objects.map (·.shown))
    (missing : (entries.find? fun entry => p (shown entry)) = none) :
    (objects.find? fun o => p o.shown) = none := by
  have found := find_shown p same
  rw [missing, Option.map_none, eq_comm, Option.map_eq_none_iff] at found
  exact found

theorem find_shown_some {entries : List ObjectEntry} {objects : List Stored} {p : Shown → Bool}
    {entry : ObjectEntry} (same : entries.map shown = objects.map (·.shown))
    (there : (entries.find? fun entry => p (shown entry)) = some entry) :
    ∃ o, (objects.find? fun o => p o.shown) = some o ∧ shown entry = o.shown := by
  have found := find_shown p same
  rw [there, Option.map_some, eq_comm, Option.map_eq_some_iff] at found
  obtain ⟨o, stored, seen⟩ := found
  exact ⟨o, stored, seen.symm⟩

section

variable {σ α : Type} {storage : Storage σ} {view : σ → Store} (settings : Settings)

/-- A listing that fails changes nothing, and does not fail where listings are answered. -/
theorem Holds.listed (holds : Holds storage view) (state : σ) (context : String)
    (parent : Option ObjectHandle) :
    (request settings context (storage.listObjects parent)).Ends state
      (fun entries after => view after = view state ∧
        entries.map shown = ((view state).children (parent.getD ObjectHandle.root)).map (·.shown))
      fun _ after => view after = view state ∧ ¬ Answers storage := by
  apply Attempt.ends_mapError
  have lists := holds.lists state parent
  unfold Attempt.Ends at lists ⊢
  rcases ran : storage.listObjects parent state with ⟨error | entries, after⟩
  · rw [ran] at lists
    refine ⟨lists, ?_⟩
    intro answers
    obtain ⟨entries, other, answered⟩ := answers state parent
    rw [ran] at answered
    cases answered
  · rw [ran] at lists
    exact ⟨lists.2, lists.1⟩

/-- Looking for a name in a folder. -/
theorem Holds.child_ends (holds : Holds storage view) {state : σ} (context name : String)
    (parent : Option ObjectHandle) (error : CliError) {next : ObjectEntry → Attempt σ CliError α}
    {finished : α → σ → Prop} {failed : CliError → σ → Prop}
    (missing : ∀ e after, view after = view state →
      (Answers storage → (view state).child (parent.getD ObjectHandle.root) name = none) →
        failed e after)
    (found : ∀ object o after, view after = view state →
      (view state).child (parent.getD ObjectHandle.root) name = some o → shown object = o.shown →
        (next object).Ends after finished failed) :
    (request settings context (storage.listObjects parent) >>= fun objects =>
      match objects.find? (·.filename == name) with
      | none => Attempt.fail error
      | some object => next object).Ends state finished failed := by
  apply Attempt.ends_bind
  · apply (holds.listed settings state context parent).mono
    · exact fun _ _ listed => listed
    · exact fun e after refused => missing e after refused.1 fun answers =>
        absurd answers refused.2
  · rintro entries after ⟨same, listed⟩
    cases here : entries.find? (·.filename == name) with
    | none =>
        apply Attempt.ends_fail
        exact missing error after same fun _ =>
          find_shown_none (p := fun s => s.name == name) listed here
    | some object =>
        obtain ⟨o, there, seen⟩ := find_shown_some (p := fun s => s.name == name) listed here
        exact found object o after same there seen

theorem walkComponents_ends (holds : Holds storage view) (path : RemotePath) (rest : List String) :
    ∀ (parent : Option ObjectHandle) (component : String) (state : σ),
      (walkComponents storage settings path parent component rest).Ends state
        (fun object after => view after = view state ∧ ∃ o,
          (view state).locateFrom (parent.getD ObjectHandle.root) component rest = some o ∧
            shown object = o.shown)
        fun _ after => view after = view state ∧ (Answers storage →
          (view state).locateFrom (parent.getD ObjectHandle.root) component rest = none) := by
  induction rest with
  | nil =>
      intro parent component state
      unfold walkComponents Store.locateFrom
      apply holds.child_ends
      · intro e after same missing
        refine ⟨same, fun answers => ?_⟩
        rw [missing answers]
      · intro object o after same there seen
        apply Attempt.ends_done
        refine ⟨same, o, ?_, seen⟩
        rw [there]
  | cons next rest ih =>
      intro parent component state
      unfold walkComponents Store.locateFrom
      apply holds.child_ends
      · intro e after same missing
        refine ⟨same, fun answers => ?_⟩
        rw [missing answers]
      · intro object o after same there seen
        have folder : object.isFolder = o.folder := congrArg Shown.folder seen
        have handle : object.handle = o.handle := congrArg Shown.handle seen
        rw [there, folder]
        by_cases inside : o.folder = true
        · simp only [inside, if_true]
          rw [handle, ← same]
          exact ih (some o.handle) next after
        · simp only [inside]
          exact Attempt.ends_fail ⟨same, fun _ => rfl⟩

theorem resolveFolder_ends (holds : Holds storage view) (path : RemotePath) (notFolder : String)
    (state : σ) : (resolveFolder storage settings path notFolder).Ends state
      (fun folder after => view after = view state ∧
        (view state).folderAt path.components = some (folder.getD ObjectHandle.root))
      fun _ after => view after = view state ∧
        (Answers storage → (view state).folderAt path.components = none) := by
  unfold resolveFolder resolveExisting
  cases path.components with
  | nil =>
      apply Attempt.ends_bind (fun found after => view after = view state ∧ found = .root)
      · exact Attempt.ends_done ⟨rfl, rfl⟩
      · rintro found after ⟨same, rfl⟩
        exact Attempt.ends_done ⟨same, rfl⟩
  | cons component rest =>
      simp only [Store.folderAt]
      apply Attempt.ends_bind (fun found after => view after = view state ∧
        ∃ object o, found = .object object ∧
          (view state).locateFrom ObjectHandle.root component rest = some o ∧
            shown object = o.shown)
      · apply Attempt.ends_bind
        · apply (walkComponents_ends settings holds path rest none component state).mono
          · exact fun _ _ found => found
          · rintro e after ⟨same, missing⟩
            refine ⟨same, fun answers => ?_⟩
            have absent : (view state).locateFrom ObjectHandle.root component rest = none :=
              missing answers
            rw [absent]
        · rintro object after ⟨same, o, located, seen⟩
          exact Attempt.ends_pure ⟨same, object, o, rfl, located, seen⟩
      · rintro found after ⟨same, object, o, rfl, located, seen⟩
        have folder : object.isFolder = o.folder := congrArg Shown.folder seen
        have handle : object.handle = o.handle := congrArg Shown.handle seen
        rw [located]
        dsimp only
        rw [← folder, ← handle]
        by_cases inside : object.isFolder = true
        · rw [if_pos inside, if_pos inside]
          exact Attempt.ends_done ⟨same, rfl⟩
        · rw [if_neg inside, if_neg inside]
          exact Attempt.ends_fail ⟨same, fun _ => rfl⟩

theorem existingObject_ends (holds : Holds storage view) (path : RemotePath) (state : σ) :
    (existingObject storage settings path).Ends state
      (fun object after => view after = view state ∧
        ∃ o, (view state).locate path.components = some o ∧ shown object = o.shown)
      fun _ after => view after = view state ∧
        (Answers storage → (view state).locate path.components = none) := by
  unfold existingObject resolveExisting
  cases path.components with
  | nil =>
      apply Attempt.ends_bind (fun found after => view after = view state ∧ found = .root)
      · exact Attempt.ends_done ⟨rfl, rfl⟩
      · rintro found after ⟨same, rfl⟩
        exact Attempt.ends_fail ⟨same, fun _ => rfl⟩
  | cons component rest =>
      apply Attempt.ends_bind (fun found after => view after = view state ∧
        ∃ object o, found = .object object ∧
          (view state).locate (component :: rest) = some o ∧ shown object = o.shown)
      · apply Attempt.ends_bind
        · exact walkComponents_ends settings holds path rest none component state
        · rintro object after ⟨same, o, located, seen⟩
          exact Attempt.ends_pure ⟨same, object, o, rfl, located, seen⟩
      · rintro found after ⟨same, object, o, rfl, located, seen⟩
        exact Attempt.ends_done ⟨same, o, located, seen⟩

/-- A resolved destination and the store's. -/
structure Resolved (target : UploadTarget) (t : Store.Target) : Prop where
  folder : t.folder = target.parent.getD ObjectHandle.root
  name : t.name = target.filename
  existing : target.existing.map shown = t.existing.map (·.shown)

theorem resolveUploadTarget_ends (holds : Holds storage view) (path : RemotePath)
    (localName : String) (state : σ) :
    (resolveUploadTarget storage settings path localName).Ends state
      (fun target after => view after = view state ∧
        ∃ t, (view state).target path localName = some t ∧ Resolved target t)
      fun _ after => view after = view state ∧
        (Answers storage → (view state).target path localName = none) := by
  unfold resolveUploadTarget Store.target
  by_cases root : path.isRoot = true
  · rw [if_pos root, if_pos root]
    exact Attempt.ends_done ⟨rfl, _, rfl, rfl, rfl, rfl⟩
  · rw [if_neg root, if_neg root]
    dsimp only
    generalize (if path.trailingSlash then localName else path.components.getLast?.getD "") =
      finalName
    generalize (if path.trailingSlash then path.components else path.components.dropLast) =
      components
    apply Attempt.ends_bind (fun _ after => view after = view state ∧
      validateComponent finalName = .ok ())
    · apply Attempt.ends_lift
      · exact fun _ valid => ⟨rfl, valid⟩
      · intro e invalid
        refine ⟨rfl, fun _ => ?_⟩
        rw [invalid]
    · rintro _ after ⟨same, valid⟩
      rw [valid, ← same]
      apply Attempt.ends_bind
      · apply (resolveFolder_ends settings holds _ _ after).mono
        · exact fun _ _ found => found
        · rintro e later ⟨sameView, missing⟩
          refine ⟨sameView, fun answers => ?_⟩
          rw [missing answers]
      · rintro parent later ⟨sameView, folder⟩
        rw [folder, ← sameView]
        apply Attempt.ends_bind
        · apply (holds.listed settings later _ parent).mono
          · exact fun _ _ listed => listed
          · exact fun _ _ refused => ⟨refused.1, fun answers => absurd answers refused.2⟩
        · rintro entries last ⟨lastView, listed⟩
          dsimp only
          cases inner : entries.find? fun e => e.filename == finalName && e.isFolder with
          | some existingFolder =>
              obtain ⟨o, there, seen⟩ :=
                find_shown_some (p := fun s => s.name == finalName && s.folder) listed inner
              simp only [Stored.shown] at there
              rw [there]
              exact Attempt.ends_pure
                ⟨lastView, _, rfl, (congrArg Shown.handle seen).symm, rfl, rfl⟩
          | none =>
              have missing :=
                find_shown_none (p := fun s => s.name == finalName && s.folder) listed inner
              simp only [Stored.shown] at missing
              rw [missing]
              exact Attempt.ends_pure ⟨lastView, _, rfl, rfl, rfl,
                find_shown (fun s => s.name == finalName && !s.folder) listed⟩

/-- What is resolved is what was found. -/
structure Prepared.Is (prepared : Prepared) (source : Stored) (t : Store.Target) : Prop where
  source : shown prepared.source = source.shown
  target : Resolved prepared.target t

theorem Prepared.Is.renamed {prepared : Prepared} {source : Stored} {t : Store.Target}
    (is : prepared.Is source t) : prepared.renamed = true ↔ t.name ≠ source.name := by
  rw [Prepared.renamed, bne_iff_ne, is.target.name,
    show source.name = prepared.source.filename from (congrArg Shown.name is.source).symm]

theorem prepare_ends (holds : Holds storage view) (sourcePath destinationPath : String)
    (state : σ) :
    (prepare storage settings sourcePath destinationPath).Ends state
      (fun prepared after => view after = view state ∧
        ∃ source t, (view state).Finds storage.backend.supportsRename sourcePath destinationPath
          source t ∧
          prepared.Is source t)
      fun _ after => view after = view state ∧ (Answers storage →
        ∀ source t, ¬ (view state).Finds storage.backend.supportsRename sourcePath destinationPath
          source t) := by
  unfold prepare
  apply Attempt.ends_bind (fun path after => view after = view state ∧
    RemotePath.parse sourcePath = .ok path)
  · apply Attempt.ends_lift
    · exact fun path parsed => ⟨rfl, parsed⟩
    · intro e invalid
      refine ⟨rfl, fun _ source t found => ?_⟩
      have located := found.located
      rw [Store.source, invalid] at located
      cases located
  · rintro path first ⟨sameFirst, parsed⟩
    apply Attempt.ends_bind (fun target after => view after = view state ∧
      RemotePath.parse destinationPath = .ok target)
    · apply Attempt.ends_lift
      · exact fun target valid => ⟨sameFirst, valid⟩
      · intro e invalid
        refine ⟨sameFirst, fun _ source t found => ?_⟩
        have resolved := found.resolved
        rw [Store.destination, found.located, invalid] at resolved
        cases resolved
    · rintro targetPath second ⟨sameSecond, parsedTarget⟩
      apply Attempt.ends_bind (fun object after => view after = view state ∧
        ∃ source, (view state).source sourcePath = some source ∧ shown object = source.shown)
      · apply (existingObject_ends settings holds path second).mono
        · rintro object after ⟨same, source, located, seen⟩
          refine ⟨same.trans sameSecond, source, ?_, seen⟩
          rw [Store.source, parsed, ← sameSecond]
          exact located
        · rintro e after ⟨same, missing⟩
          refine ⟨same.trans sameSecond, fun answers source t found => ?_⟩
          have located := found.located
          rw [Store.source, parsed, ← sameSecond] at located
          dsimp only at located
          rw [missing answers] at located
          cases located
      · rintro object third ⟨sameThird, source, located, seen⟩
        have name : object.filename = source.name := congrArg Shown.name seen
        have destined : (view state).destination sourcePath destinationPath =
            (view third).target targetPath object.filename := by
          rw [Store.destination, located, parsedTarget, sameThird, name]
        apply Attempt.ends_bind
        · apply (resolveUploadTarget_ends settings holds targetPath object.filename third).mono
          · exact fun _ _ resolved => resolved
          · rintro e after ⟨same, missing⟩
            refine ⟨same.trans sameThird, fun answers source t found => ?_⟩
            have resolved := found.resolved
            rw [destined, missing answers] at resolved
            cases resolved
        · rintro target last ⟨sameLast, t, resolved, is⟩
          have renamed : Prepared.renamed ⟨path, targetPath, object, target⟩ = true ↔
              t.name ≠ source.name := by
            rw [Prepared.renamed, is.name, bne_iff_ne, name]
          rw [← destined] at resolved
          dsimp only
          apply Attempt.ends_bind (fun _ after => view after = view state ∧
            (t.name ≠ source.name → storage.backend.supportsRename = true))
          · apply Attempt.ends_lift
            · intro _ supported
              refine ⟨sameLast.trans sameThird, fun different => ?_⟩
              rw [if_pos (renamed.mpr different), ensureRenameSupported] at supported
              by_contra refuses
              rw [if_neg refuses] at supported
              cases supported
            · intro e refused
              refine ⟨sameLast.trans sameThird, fun _ other target' found => ?_⟩
              have isSource : some other = some source := found.located.symm.trans located
              have isTarget : some target' = some t := found.resolved.symm.trans resolved
              cases isSource
              cases isTarget
              by_cases different : t.name ≠ source.name
              · rw [if_pos (renamed.mpr different), ensureRenameSupported,
                  if_pos (found.renamable different)] at refused
                cases refused
              · rw [if_neg (fun r => different (renamed.mp r))] at refused
                cases refused
          · rintro _ after ⟨same, renamable⟩
            exact Attempt.ends_pure
              ⟨same, source, t, ⟨located, resolved, renamable⟩, seen, is⟩

/-- What stood in the way is deleted, where there was something. -/
theorem replaceExisting_ends (holds : Holds storage view) (source : ObjectHandle) (replace : Bool)
    {existing : Option ObjectEntry} {stored : Option Stored}
    (same : existing.map shown = stored.map (·.shown)) (state : σ) :
    (replaceExisting storage settings source replace existing).Ends state
      (fun _ after => (stored = none → view after = view state) ∧
        ∀ e, stored = some e → e.handle ≠ source ∧ replace = true ∧
          Store.Deleted e.handle (view state) (view after))
      fun _ after => view after = view state ∨ ∃ e, stored = some e ∧ e.handle ≠ source ∧
        replace = true ∧ Store.Perhaps (Store.Deleted e.handle) (view state) (view after) := by
  cases stored with
  | none =>
      rw [Option.map_none, Option.map_eq_none_iff] at same
      subst same
      exact Attempt.ends_done ⟨fun _ => rfl, nofun⟩
  | some e =>
      rw [Option.map_some, Option.map_eq_some_iff] at same
      obtain ⟨object, rfl, seen⟩ := same
      have handle : object.handle = e.handle := congrArg Shown.handle seen
      unfold replaceExisting
      apply Attempt.ends_bind (fun _ after => after = state ∧ e.handle ≠ source)
      · apply Attempt.ends_lift
        · intro _ apart
          refine ⟨rfl, fun equal => ?_⟩
          rw [ensureNotSameObject, if_pos (handle.trans equal).symm] at apart
          cases apart
        · exact fun _ _ => Or.inl rfl
      · rintro _ _ ⟨rfl, apart⟩
        by_cases asked : replace = true
        · rw [if_pos asked, handle]
          apply Attempt.ends_mapError
          apply (holds.deletes e.handle _).mono
          · rintro _ after deleted
            refine ⟨nofun, fun other is => ?_⟩
            cases is
            exact ⟨apart, asked, deleted⟩
          · exact fun _ after perhaps => Or.inr ⟨e, rfl, apart, asked, perhaps⟩
        · rw [if_neg asked]
          exact Attempt.ends_fail (Or.inl rfl)

theorem renameWhere_ends (holds : Holds storage view) (context : String) (renamed : Bool)
    (handle : ObjectHandle) (name : String) (state : σ) :
    (renameWhere storage settings context renamed handle name).Ends state
      (fun _ after => (renamed = true → Store.Renamed handle name (view state) (view after)) ∧
        (renamed = false → view after = view state))
      fun _ after => view after = view state ∨
        Store.Perhaps (Store.Renamed handle name) (view state) (view after) := by
  unfold renameWhere
  cases renamed with
  | false => exact Attempt.ends_done ⟨nofun, fun _ => rfl⟩
  | true =>
      apply Attempt.ends_mapError
      apply Attempt.ends_bind (fun _ after => after = state)
      · apply Attempt.ends_lift
        · exact fun _ _ => rfl
        · exact fun _ _ => Or.inl rfl
      · rintro _ _ rfl
        apply (holds.renames handle name _).mono
        · exact fun _ after changed => ⟨fun _ => changed, nofun⟩
        · exact fun _ after perhaps => Or.inr perhaps

end

end Cli
