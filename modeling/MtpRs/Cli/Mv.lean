import MtpRs.Cli.Obliging

set_option autoImplicit false

/- The `mv` command, and what it leaves alone. -/
namespace Cli

open Attempts (Attempt)
open Mtp (Error ObjectEntry ObjectHandle Storage)

namespace Mv

structure MoveArgs where
  sourcePath : String
  destinationPath : String
  replace : Bool
deriving DecidableEq, Repr

structure MoveRow where
  operation : String
  sourcePath : String
  destinationPath : String
  filename : String
  handle : ObjectHandle
  kind : String
  replaced : Bool
  renamed : Bool
deriving DecidableEq, Repr

/-- The command, from the opened storage to the row it prints. -/
def run {σ : Type} (storage : Storage σ) (settings : Settings) (args : MoveArgs) :
    Attempt σ CliError MoveRow := do
  let prepared ← prepare storage settings args.sourcePath args.destinationPath
  let source := prepared.source
  let target := prepared.target
  replaceExisting storage settings source.handle args.replace target.existing
  request settings "move remote object"
    (storage.moveObject source.handle (target.parent.getD ObjectHandle.root) none)
  renameWhere storage settings "rename moved object" prepared.renamed source.handle target.filename
  return {
    operation := "mv"
    sourcePath := prepared.sourcePath.raw
    destinationPath := prepared.destinationPath.raw
    filename := target.filename
    handle := source.handle
    kind := if source.isFolder then "folder" else "file"
    replaced := target.existing.isSome
    renamed := prepared.renamed }

/-- All but the source, and with `--replace` the file in its way, is as it was; without, nothing is
lost. -/
structure TouchesNothingElse (args : MoveArgs) (before after : Store) : Prop where
  others : ∀ o ∈ before.objects, before.source args.sourcePath ≠ some o →
    ¬ (args.replace = true ∧
      ∃ t, before.destination args.sourcePath args.destinationPath = some t ∧ t.existing = some o) →
    after.find o.handle = some o
  kept : args.replace = false → ∀ o ∈ before.objects, (after.find o.handle).isSome = true

/-- The command comes as far as its move, with this source and to this destination. -/
structure Moves (args : MoveArgs) (supportsRename : Bool) (store : Store) (source : Stored)
    (t : Store.Target) : Prop where
  finds : store.Finds supportsRename args.sourcePath args.destinationPath source t
  replaceable : ∀ e, t.existing = some e → e.handle ≠ source.handle ∧ args.replace = true

/-- It moves its source into a folder that holds another object of the source's name, one that it
has not deleted. -/
def Overwrites (args : MoveArgs) (supportsRename : Bool) (store : Store) : Prop :=
  ∃ source t o, Moves args supportsRename store source t ∧
    store.Clashes source.handle t.folder o ∧ t.existing ≠ some o

section

variable {σ : Type} {storage : Storage σ} {view : σ → Store} {args : MoveArgs}
  {before after : Store} {source : Stored} {t : Store.Target}

theorem touches_same (same : after = before) : TouchesNothingElse args before after := by
  subst same
  constructor
  · exact fun o mem _ _ => Store.find_self mem
  · intro _ o mem
    rw [Store.find_self mem]
    rfl

/-- What may differ after a move, as far as it has come. -/
structure Spares (args : MoveArgs) (source : Stored) (existing : Option Stored)
    (before after : Store) : Prop where
  others : ∀ handle, handle ≠ source.handle →
    (args.replace = true → ∀ e, existing = some e → handle ≠ e.handle) →
      after.find handle = before.find handle
  source : (after.find source.handle).isSome = true

theorem Spares.touches (spares : Spares args source t.existing before after)
    (located : before.source args.sourcePath = some source)
    (resolved : before.destination args.sourcePath args.destinationPath = some t) :
    TouchesNothingElse args before after := by
  have mem := Store.source_mem located
  have self : ∀ o ∈ before.objects, o.handle = source.handle → o = source := fun o there same =>
    List.inj_on_of_nodup_map before.distinct there mem same
  constructor
  · intro o there other unasked
    rw [← Store.find_self there]
    apply spares.others
    · intro same
      exact other (self o there same ▸ located)
    · intro asked e existing same
      have known := (Store.destination_existing resolved existing).1
      have is : o = e := List.inj_on_of_nodup_map before.distinct there known same
      exact unasked ⟨asked, t, resolved, is ▸ existing⟩
  · intro unasked o there
    by_cases same : o.handle = source.handle
    · rw [same]
      exact spares.source
    · rw [spares.others o.handle same fun asked => absurd asked (by simp [unasked]),
        Store.find_self there]
      rfl

/-- One object may have moved or changed its name, and is still there. -/
structure Keeps (handle : ObjectHandle) (before after : Store) : Prop where
  others : Store.Only handle before after
  there : (after.find handle).isSome = (before.find handle).isSome

theorem Keeps.perhaps {handle : ObjectHandle} {change : Store → Store → Prop}
    (keeps : change before after → Keeps handle before after)
    (perhaps : Store.Perhaps change before after) : Keeps handle before after := by
  rcases perhaps with same | changed
  · exact ⟨fun other _ => same other, by rw [same]⟩
  · exact keeps changed

theorem keeps_of_renamed {handle : ObjectHandle} {name : String}
    (renamed : Store.Renamed handle name before after) : Keeps handle before after :=
  ⟨renamed.others, by rw [renamed.object, Option.isSome_map]⟩

theorem keeps_of_moved {handle folder : ObjectHandle}
    (alone : ∀ o, ¬ before.Clashes handle folder o)
    (moved : Store.Moved handle folder before after) : Keeps handle before after :=
  ⟨moved.others alone, by rw [moved.object, Option.isSome_map]⟩

theorem Spares.keeps {existing : Option Stored} {middle : Store}
    (spares : Spares args source existing before middle)
    (keeps : Keeps source.handle middle after) : Spares args source existing before after where
  others handle different unasked :=
    (keeps.others handle different).trans (spares.others handle different unasked)
  source := keeps.there.trans spares.source

/-- The file in the way is gone, and nothing else is different. -/
structure Cleared (args : MoveArgs) (source : Stored) (existing : Option Stored)
    (before after : Store) : Prop where
  others : ∀ handle, (∀ e, existing = some e → handle ≠ e.handle) →
    after.find handle = before.find handle
  gone : ∀ e, existing = some e →
    e.handle ≠ source.handle ∧ args.replace = true ∧ after.find e.handle = none

theorem Cleared.find_source {existing : Option Stored}
    (cleared : Cleared args source existing before after) :
    after.find source.handle = before.find source.handle :=
  cleared.others source.handle fun e there => (cleared.gone e there).1.symm

theorem Cleared.spares {existing : Option Stored}
    (cleared : Cleared args source existing before after) (mem : source ∈ before.objects) :
    Spares args source existing before after where
  others handle _ unasked :=
    cleared.others handle fun e there => unasked (cleared.gone e there).2.1 e there
  source := by
    rw [cleared.find_source, Store.find_self mem]
    rfl

/-- What clashes with the source after the deletion clashed with it before, and is not what was
deleted. -/
theorem Cleared.clashes {existing : Option Stored} {folder : ObjectHandle} {o : Stored}
    (cleared : Cleared args source existing before after)
    (clashes : after.Clashes source.handle folder o) :
    before.Clashes source.handle folder o ∧ existing ≠ some o := by
  have found := Store.find_self clashes.mem
  have other : ∀ e, existing = some e → o.handle ≠ e.handle := by
    intro e there same
    rw [same, (cleared.gone e there).2.2] at found
    cases found
  obtain ⟨moved, is, alike⟩ := clashes.alike
  rw [cleared.others o.handle other] at found
  rw [cleared.find_source] at is
  refine ⟨⟨(Store.mem_of_find found).1, clashes.other, clashes.there, moved, is, alike⟩, ?_⟩
  exact fun there => other o there rfl

/-- Deleting a file deletes nothing else. -/
theorem only_of_deleted {e : Stored} (mem : e ∈ before.objects) (file : e.folder = false)
    (deleted : Store.Deleted e.handle before after) : Store.Only e.handle before after := by
  apply deleted.others
  intro o found folder
  rw [Store.find_self mem, Option.some.injEq] at found
  rw [← found, file] at folder
  cases folder

theorem spares_of_perhaps_deleted {e : Stored} (mem : source ∈ before.objects)
    (resolved : before.destination args.sourcePath args.destinationPath = some t)
    (there : t.existing = some e) (apart : e.handle ≠ source.handle) (asked : args.replace = true)
    (perhaps : Store.Perhaps (Store.Deleted e.handle) before after) :
    Spares args source t.existing before after := by
  have only : Store.Only e.handle before after := by
    rcases perhaps with same | deleted
    · exact fun other _ => same other
    · obtain ⟨known, file, -⟩ := Store.destination_existing resolved there
      exact only_of_deleted known file deleted
  constructor
  · intro handle _ unasked
    exact only handle (unasked asked e there)
  · rw [only source.handle apart.symm, Store.find_self mem]
    rfl

theorem cleared_of_deleted
    (resolved : before.destination args.sourcePath args.destinationPath = some t)
    (untouched : t.existing = none → after = before)
    (deleted : ∀ e, t.existing = some e → e.handle ≠ source.handle ∧ args.replace = true ∧
      Store.Deleted e.handle before after) : Cleared args source t.existing before after := by
  constructor
  · intro handle other
    cases there : t.existing with
    | none => rw [untouched there]
    | some e =>
        obtain ⟨known, file, -⟩ := Store.destination_existing resolved there
        exact only_of_deleted known file (deleted e there).2.2 handle (other e there)
  · intro e there
    obtain ⟨apart, asked, deletes⟩ := deleted e there
    exact ⟨apart, asked, deletes.gone⟩

/-- Where it overwrites nothing, it touches nothing else, however it ends. -/
theorem run_touches (settings : Settings) (holds : Holds storage view) (state : σ)
    (harmless : ¬ Overwrites args storage.backend.supportsRename (view state)) :
    (run storage settings args).Ends state
      (fun _ after => TouchesNothingElse args (view state) (view after))
      fun _ after => TouchesNothingElse args (view state) (view after) := by
  unfold run
  apply Attempt.ends_bind
  · apply (prepare_ends settings holds args.sourcePath args.destinationPath state).mono
    · exact fun _ _ found => found
    · exact fun _ _ failed => touches_same failed.1
  · rintro prepared first ⟨same, source, t, finds, is⟩
    have mem := Store.source_mem finds.located
    have handle : prepared.source.handle = source.handle := congrArg Shown.handle is.source
    have touches {after : Store} (spares : Spares args source t.existing (view state) after) :
        TouchesNothingElse args (view state) after := spares.touches finds.located finds.resolved
    dsimp only
    apply Attempt.ends_bind (fun _ after =>
      Cleared args source t.existing (view state) (view after))
    · apply (replaceExisting_ends settings holds _ _ is.target.existing first).mono
      · rintro _ after ⟨untouched, deleted⟩
        rw [same, handle] at deleted
        rw [same] at untouched
        exact cleared_of_deleted finds.resolved untouched deleted
      · rintro _ after (unchanged | ⟨e, there, apart, asked, perhaps⟩)
        · exact touches_same (unchanged.trans same)
        · rw [handle] at apart
          rw [same] at perhaps
          exact touches (spares_of_perhaps_deleted mem finds.resolved there apart asked perhaps)
    · rintro _ second cleared
      have alone : ∀ o, ¬ (view second).Clashes source.handle t.folder o := by
        intro o clashes
        obtain ⟨clashed, stays⟩ := cleared.clashes clashes
        exact harmless ⟨source, t, o,
          ⟨finds, fun e there => ⟨(cleared.gone e there).1, (cleared.gone e there).2.1⟩⟩,
          clashed, stays⟩
      have spares := cleared.spares mem
      rw [← is.target.folder, handle]
      apply Attempt.ends_bind (fun _ after =>
        Spares args source t.existing (view state) (view after))
      · apply Attempt.ends_mapError
        apply (holds.moves source.handle t.folder second).mono
        · exact fun _ after moved => spares.keeps (keeps_of_moved alone moved)
        · exact fun _ after perhaps =>
            touches (spares.keeps (Keeps.perhaps (keeps_of_moved alone) perhaps))
      · rintro _ third moved
        apply Attempt.ends_bind (fun _ after =>
          Spares args source t.existing (view state) (view after))
        · apply (renameWhere_ends settings holds _ prepared.renamed source.handle _ third).mono
          · rintro _ after ⟨changed, same⟩
            by_cases renamed : prepared.renamed = true
            · exact moved.keeps (keeps_of_renamed (changed renamed))
            · rw [same (Bool.eq_false_iff.mpr renamed)]
              exact moved
          · rintro _ after (same | perhaps)
            · rw [same]
              exact touches moved
            · exact touches (moved.keeps (Keeps.perhaps keeps_of_renamed perhaps))
        · exact fun _ last spared => Attempt.ends_pure (touches spared)

/-- The other way: what clashed before still does, unless it was deleted. -/
theorem Cleared.still_clashes {existing : Option Stored} {folder : ObjectHandle} {o : Stored}
    (cleared : Cleared args source existing before after)
    (known : ∀ e, existing = some e → e ∈ before.objects)
    (clashes : before.Clashes source.handle folder o) (stays : existing ≠ some o) :
    after.Clashes source.handle folder o := by
  have found := Store.find_self clashes.mem
  have other : ∀ e, existing = some e → o.handle ≠ e.handle := by
    intro e there same
    have is : o = e :=
      List.inj_on_of_nodup_map before.distinct clashes.mem (known e there) same
    exact stays (is ▸ there)
  obtain ⟨moved, is, alike⟩ := clashes.alike
  rw [← cleared.others o.handle other] at found
  rw [← cleared.find_source] at is
  exact ⟨(Store.mem_of_find found).1, clashes.other, clashes.there, moved, is, alike⟩

theorem replaceExisting_obliging (settings : Settings) (supportsRename : Bool) {replace : Bool}
    {handle : ObjectHandle} {existing : Option ObjectEntry} {stored : Option Stored}
    (same : existing.map shown = stored.map (·.shown))
    (ready : ∀ e, stored = some e → e.handle ≠ handle ∧ replace = true) (store : Store) :
    (replaceExisting (obliging supportsRename) settings handle replace existing).Ends store
      (fun _ _ => True) fun _ _ => False := by
  cases existing with
  | none => exact Attempt.ends_done trivial
  | some object =>
      rw [Option.map_some, eq_comm, Option.map_eq_some_iff] at same
      obtain ⟨e, there, seen⟩ := same
      obtain ⟨apart, asked⟩ := ready e there
      rw [show e.handle = object.handle from congrArg Shown.handle seen] at apart
      unfold replaceExisting
      apply Attempt.ends_bind (fun _ _ => True)
      · apply Attempt.ends_lift
        · exact fun _ _ => trivial
        · intro e refused
          rw [ensureNotSameObject, if_neg apart.symm] at refused
          cases refused
      · intro _ after _
        rw [if_pos asked]
        exact Attempt.ends_mapError trivial

/-- Where it overwrites another object, a device that does all it is asked loses that object. -/
theorem run_overwrites (settings : Settings) {supportsRename : Bool} {store : Store}
    (harmful : Overwrites args supportsRename store) :
    ¬ TouchesNothingElse args store (run (obliging supportsRename) settings args store).2 := by
  obtain ⟨source, t, o, moves, clashes, stays⟩ := harmful
  have holds := obliging_holds supportsRename
  have known : ∀ e, t.existing = some e → e ∈ store.objects := fun e there =>
    (Store.destination_existing moves.finds.resolved there).1
  have lost : (run (obliging supportsRename) settings args).Ends store
      (fun _ after => after.find o.handle = none) fun _ after => after.find o.handle = none := by
    unfold run
    apply Attempt.ends_bind
    · apply (prepare_ends settings holds args.sourcePath args.destinationPath store).mono
      · exact fun _ _ found => found
      · exact fun _ _ failed => absurd moves.finds (failed.2 (obliging_answers _) source t)
    · rintro prepared first ⟨same, found, place, finds, is⟩
      have isSource : some found = some source := finds.located.symm.trans moves.finds.located
      have isPlace : some place = some t := finds.resolved.symm.trans moves.finds.resolved
      cases isSource
      cases isPlace
      cases same
      have handle : prepared.source.handle = source.handle := congrArg Shown.handle is.source
      dsimp only
      rw [handle, ← is.target.folder]
      apply Attempt.ends_bind (fun _ after => Cleared args source t.existing store after)
      · apply ((replaceExisting_ends settings holds _ _ is.target.existing store).and
          (replaceExisting_obliging settings _ is.target.existing moves.replaceable store)).mono
        · rintro _ after ⟨⟨untouched, deleted⟩, -⟩
          exact cleared_of_deleted moves.finds.resolved untouched deleted
        · exact fun _ _ failed => failed.2.elim
      · intro _ middle cleared
        have gone := (middle.moved_move source.handle t.folder).replaced o
          (cleared.still_clashes known clashes stays)
        apply Attempt.ends_bind (fun _ after => after.find o.handle = none)
        · exact Attempt.ends_mapError gone
        · intro _ moved lost
          apply Attempt.ends_bind (fun _ after => after.find o.handle = none)
          · apply (renameWhere_ends settings holds _ prepared.renamed source.handle _ moved).mono
            · rintro _ after ⟨changed, same⟩
              by_cases renamed : prepared.renamed = true
              · exact ((changed renamed).others _ clashes.other).trans lost
              · rw [show after = moved from same (Bool.eq_false_iff.mpr renamed)]
                exact lost
            · rintro _ after (same | unchanged | changed)
              · rw [show after = moved from same]
                exact lost
              · exact (unchanged o.handle).trans lost
              · exact (changed.others _ clashes.other).trans lost
          · exact fun _ after lost => Attempt.ends_pure lost
  intro touches
  have kept := touches.others o clashes.mem
    (by
      intro is
      rw [moves.finds.located, Option.some.injEq] at is
      exact clashes.other (is ▸ rfl))
    (by
      rintro ⟨-, place, resolved, there⟩
      rw [moves.finds.resolved, Option.some.injEq] at resolved
      exact stays (resolved ▸ there))
  rw [lost.always] at kept
  cases kept

end

/-- Over every device that lists what it holds and does what it is asked, however it fails, the
command leaves all else alone, unless its move lands on an object that it has not checked. -/
theorem touches_nothing_else_iff (settings : Settings) (args : MoveArgs) (supportsRename : Bool)
    (store : Store) :
    (∀ (σ : Type) (storage : Storage σ) (view : σ → Store) (state : σ), Holds storage view →
      storage.backend.supportsRename = supportsRename → view state = store →
        TouchesNothingElse args store (view (run storage settings args state).2)) ↔
      ¬ Overwrites args supportsRename store := by
  constructor
  · intro touches harmful
    exact run_overwrites settings harmful
      (touches Store (obliging supportsRename) id store (obliging_holds _) rfl rfl)
  · rintro harmless σ storage view state holds rfl rfl
    exact (run_touches settings holds state harmless).always

def twoFolders : Store where
  objects := [⟨1, 0, "A", true, []⟩, ⟨2, 1, "x", false, [1]⟩, ⟨3, 0, "B", true, []⟩,
    ⟨4, 3, "x", false, [2]⟩]
  distinct := by decide

/-- Moving one of them into the other folder under a new name destroys the file there. -/
theorem renaming_move_overwrites : ¬ ∀ (σ : Type) (storage : Storage σ) (view : σ → Store)
    (state : σ),
    Holds storage view → view state = twoFolders →
      TouchesNothingElse ⟨"/A/x", "/B/y", false⟩ twoFolders
        (view (run storage ⟨false, false⟩ ⟨"/A/x", "/B/y", false⟩ state).2) := by
  intro touches
  have law := touches Store (obliging true) id twoFolders (obliging_holds true) rfl
  refine run_overwrites ⟨false, false⟩ ?_ law
  have located : twoFolders.source "/A/x" = some ⟨2, 1, "x", false, [1]⟩ := by decide
  have resolved : twoFolders.destination "/A/x" "/B/y" = some ⟨3, "y", none⟩ := by decide
  refine ⟨_, _, ⟨4, 3, "x", false, [2]⟩, ⟨⟨located, resolved, fun _ => rfl⟩, nofun⟩, ?_, nofun⟩
  exact ⟨by decide, by decide, rfl, _, rfl, rfl⟩

end Mv

end Cli
