import MtpRs.Lib.Carriage
import MtpRs.VirtualDevice.WholeListing
import MtpRs.VirtualDevice.Writes

set_option autoImplicit false

/- The device's own ways to move and to copy carry all there is. -/
namespace VirtualDevice

open Files (Away Builds Carries Disk Location Name Path Spares inTurn)
open VirtualDeviceState (copyPath movePath)

section

variable {host : Host} {disk after : Disk} {src dst : Path} {source target : Location}

theorem copyFileInPlace_copies (there : dst.follow disk.workingDirectory = target)
    (absent : disk.node target = none) :
    copyFileInPlace host disk src dst = host.files.copyBytes disk src dst false := by
  have nothing : disk.present dst = false := by
    rw [Bool.eq_false_iff]
    intro present
    obtain ⟨location, located, node⟩ := Disk.present_iff.mp present
    rw [Disk.locate_follow located, there, absent] at node
    cases node
  rw [copyFileInPlace, isSameFile, nothing, Bool.and_false, Bool.false_and]
  rfl

theorem apart_below (apart : ¬ target <+: source) (outside : ¬ source <+: target)
    (names : List Name) : ¬ target <+: source ++ names := fun inside =>
  (List.prefix_or_prefix_of_prefix inside (List.prefix_append source names)).elim apart outside

theorem apart_entries {first second : Name} (different : first ≠ second) (names : List Name) :
    ¬ target ++ [first] <+: target ++ [second] ++ names := by
  rw [List.append_assoc, List.prefix_append_right_inj, List.singleton_append,
    List.cons_prefix_cons]
  exact fun same => different same.1

/-- A directory and one it is copied into, neither of them in the other. -/
structure Beside (src dst : Path) (source target : Location) (disk : Disk) : Prop where
  located : disk.locate src = some source
  aimed : disk.locate dst = some target
  directory : disk.directoryAt source = true
  folder : disk.directoryAt target = true
  apart : ¬ target <+: source
  outside : ¬ source <+: target

theorem Beside.built (beside : Beside src dst source target disk)
    (builds : Builds (fun place => ¬ target <+: place) disk after) :
    Beside src dst source target after where
  located := builds.locate beside.located
  aimed := builds.locate beside.aimed
  directory := builds.directories _ beside.directory
  folder := builds.directories _ beside.folder
  apart := beside.apart
  outside := beside.outside

theorem Beside.comparable (beside : Beside src dst source target disk) (name : Name) :
    ¬ target ++ [name] <+: source ++ [name] ∧ ¬ source ++ [name] <+: target ++ [name] :=
  ⟨fun below => apart_below beside.apart beside.outside [name]
    ((List.prefix_append ..).trans below),
    fun below => apart_below beside.outside beside.apart [name]
      ((List.prefix_append ..).trans below)⟩

def copyEntry (host : Host) (fuel : Nat) (src dst : Path) (disk : Disk) (entry : Name) :
    Bool × Disk :=
  if disk.isDirectory (src.child entry) then
    copyDirAllWithin host fuel disk (src.child entry) (dst.child entry)
  else copyFileInPlace host disk (src.child entry) (dst.child entry)

variable {fuel : Nat} {name : Name} {made : Disk}

theorem copyDirAllWithin_succ
    (copied : copyDirAllWithin host (fuel + 1) disk src dst = (true, after)) :
    ∃ made entries, host.files.createDirAll disk dst = (true, made) ∧
      host.files.readDir made src = some (entries, true) ∧
      inTurn (copyEntry host fuel src dst) entries made = (true, after) := by
  rw [copyDirAllWithin] at copied
  split at copied
  · cases copied
  · next made directories =>
      split at copied
      · cases copied
      · next entries complete read =>
          simp only [Prod.mk.injEq, Bool.and_eq_true] at copied
          obtain ⟨⟨done, rfl⟩, same⟩ := copied
          exact ⟨made, entries, directories, read, Prod.ext done same⟩

theorem copyEntry_builds (beside : Beside src dst source target disk) :
    Builds (fun place => ¬ target ++ [name] <+: place) disk
      (copyEntry host fuel src dst disk name).2 := by
  have folder : disk.isDirectory dst = true :=
    Disk.isDirectory_iff.mpr ⟨target, beside.aimed, beside.folder⟩
  have away : Away (fun place => ¬ target ++ [name] <+: place)
      ((dst.child name).follow disk.workingDirectory) := by
    rw [Path.follow_child, ← Disk.locate_follow beside.aimed]
    exact fun other inner outer => outer inner
  unfold copyEntry
  split
  · exact copyDirAllWithin_builds fuel (Disk.attached_child folder name) away
  · exact copyFileInPlace_builds away

/-- The entries of a directory, copied one by one to where none of them is. -/
theorem copyEntries_carries
    (each : ∀ reached name last, Beside src dst source target reached →
      reached.node (target ++ [name]) = none →
        copyEntry host fuel src dst reached name = (true, last) →
          Carries (source ++ [name]) (target ++ [name]) reached last)
    (beside : Beside src dst source target made) {entries : List Name}
    (distinct : entries.Nodup) {reached : Disk}
    (kept : Builds (fun place => ¬ target <+: place) made reached)
    (absent : ∀ name ∈ entries, reached.node (target ++ [name]) = none)
    (copied : inTurn (copyEntry host fuel src dst) entries reached = (true, after)) :
    Builds (fun place => ¬ target <+: place) made after ∧
      (∀ place, (∀ name ∈ entries, ¬ target ++ [name] <+: place) →
        after.node place = reached.node place) ∧
      ∀ name ∈ entries, Carries (source ++ [name]) (target ++ [name]) made after := by
  induction entries generalizing reached with
  | nil =>
      cases copied
      exact ⟨kept, fun _ _ => rfl, fun _ mem => by cases mem⟩
  | cons name rest ih =>
      obtain ⟨new, distinct⟩ := List.nodup_cons.mp distinct
      have different : ∀ other ∈ rest, other ≠ name := by
        rintro other mem rfl
        exact new mem
      have step : Builds (fun place => ¬ target ++ [name] <+: place) reached
          (copyEntry host fuel src dst reached name).2 := copyEntry_builds (beside.built kept)
      rw [inTurn] at copied
      split at copied
      · next next acted =>
          rw [acted] at step
          have first := each reached name next (beside.built kept)
            (absent name (List.mem_cons_self ..)) acted
          have onward : Builds (fun place => ¬ target <+: place) made next :=
            kept.trans (step.mono fun place outer inner =>
              outer ((List.prefix_append ..).trans inner))
          have free : ∀ other ∈ rest, next.node (target ++ [other]) = none := by
            intro other mem
            have still : ¬ target ++ [name] <+: target ++ [other] ++ [] :=
              apart_entries (different other mem).symm []
            rw [List.append_nil] at still
            rw [step.node _ still]
            exact absent other (List.mem_cons_of_mem _ mem)
          obtain ⟨whole, later, others⟩ := ih distinct onward free copied
          refine ⟨whole, fun place away => ?_, fun other mem => ?_⟩
          · rw [later place fun other mem => away other (List.mem_cons_of_mem _ mem)]
            exact step.node place (away name (List.mem_cons_self ..))
          · rcases List.mem_cons.mp mem with rfl | mem
            · refine first.within (fun names => ?_) fun names => ?_
              · refine kept.node _ ?_
                rw [List.append_assoc]
                exact apart_below beside.apart beside.outside _
              · exact later _ fun third mem => apart_entries (different third mem) names
            · exact others other mem
      · cases copied

/-- The directory made at the target is beside the one copied, and there is nothing in it yet. -/
theorem beside_of_made {entries : List Name} (located : disk.locate src = some source)
    (leads : disk.attached dst) (there : dst.follow disk.workingDirectory = target)
    (absent : disk.node target = none) (apart : ¬ target <+: source)
    (outside : ¬ source <+: target)
    (directories : host.files.createDirAll disk dst = (true, made))
    (read : host.files.readDir made src = some (entries, true)) :
    Beside src dst source target made ∧
      Builds (fun place => ¬ target <+: place) disk made ∧
        ∀ name, made.node (target ++ [name]) = none := by
  have away : Away (fun place => ¬ target <+: place) (dst.follow disk.workingDirectory) :=
    fun other inside outer => outer (there ▸ inside)
  have builds : Builds (fun place => ¬ target <+: place) disk
      (host.files.createDirAll disk dst).2 := Files.Host.createDirAll_builds leads away
  rw [directories] at builds
  refine ⟨?_, builds, fun name => ?_⟩
  · obtain ⟨here, same, directory⟩ := Disk.isDirectory_iff.mp
      (VirtualDeviceState.isDirectory_of_readDir read)
    obtain ⟨place, aimed, folder⟩ := Disk.isDirectory_iff.mp
      (Files.Host.createDirAll_made directories leads.start)
    have led := Disk.locate_follow aimed
    rw [builds.workingDirectory, there] at led
    rw [led] at aimed folder
    rw [builds.locate located] at same
    cases same
    exact ⟨builds.locate located, aimed, directory, folder, apart, outside⟩
  · have only : (host.files.createDirAll disk dst).2.node (target ++ [name]) = _ :=
      Files.Host.createDirAll_only leads (by rw [there]; simp)
    rw [directories] at only
    exact only.trans (Files.absent_below absent [name])

theorem carries_of_entries (beside : Beside src dst source target made)
    (sources : ∀ names, made.node (source ++ names) = disk.node (source ++ names))
    (kept : after.node target = made.node target)
    (entries : ∀ name, (made.node (source ++ [name])).isSome = true →
      Carries (source ++ [name]) (target ++ [name]) made after) :
    Carries source target disk after := by
  intro names content found
  cases names with
  | nil =>
      have top := sources []
      rw [List.append_nil] at found top ⊢
      rw [← Disk.contentAt_congr top, Disk.contentAt_directory.mpr beside.directory] at found
      rw [← found, Disk.contentAt_congr kept]
      exact Disk.contentAt_directory.mpr beside.folder
  | cons name rest =>
      have split : ∀ place : Location, place ++ name :: rest = place ++ [name] ++ rest :=
        fun place => by simp
      have entry : (made.node (source ++ [name])).isSome = true := by
        by_contra none
        have absent := Files.absent_below (Option.not_isSome_iff_eq_none.mp none) rest
        rw [← split, sources] at absent
        rw [Disk.contentAt, absent] at found
        cases found
      rw [split]
      refine entries name entry rest content ?_
      rw [← split, Disk.contentAt_congr (sources _)]
      exact found

/-- A directory is copied with all in it to where nothing is. -/
theorem copyDirAllWithin_carries (fuel : Nat) (located : disk.locate src = some source)
    (leads : disk.attached dst) (there : dst.follow disk.workingDirectory = target)
    (absent : disk.node target = none) (apart : ¬ target <+: source)
    (outside : ¬ source <+: target)
    (copied : copyDirAllWithin host fuel disk src dst = (true, after)) :
    Carries source target disk after ∧ after.locate dst = some target := by
  induction fuel generalizing disk after src dst source target with
  | zero => cases copied
  | succ fuel ih =>
      obtain ⟨made, entries, directories, read, done⟩ := copyDirAllWithin_succ copied
      obtain ⟨beside, builds, free⟩ :=
        beside_of_made located leads there absent apart outside directories read
      have sources : ∀ names, made.node (source ++ names) = disk.node (source ++ names) :=
        fun names => builds.node _ (apart_below apart outside names)
      obtain ⟨distinct, -, whole⟩ := readDir_entries read beside.located
      have each : ∀ reached name last, Beside src dst source target reached →
          reached.node (target ++ [name]) = none →
            copyEntry host fuel src dst reached name = (true, last) →
              Carries (source ++ [name]) (target ++ [name]) reached last := by
        intro reached name last beside free acted
        obtain ⟨sideways, inward⟩ := beside.comparable name
        have located := Disk.locate_child beside.located beside.directory name
        have aimed := Disk.locate_child beside.aimed beside.folder name
        unfold copyEntry at acted
        split at acted
        · have leads := Disk.attached_child
            (Disk.isDirectory_iff.mpr ⟨target, beside.aimed, beside.folder⟩) name
          exact (ih located leads (Disk.locate_follow aimed).symm free sideways inward acted).1
        · rw [copyFileInPlace_copies (Disk.locate_follow aimed).symm free] at acted
          exact Files.Host.copyBytes_carries located (Disk.locate_follow aimed).symm
            (fun same => sideways (same ▸ List.prefix_refl _)) (Or.inr free) acted
      obtain ⟨grown, later, carried⟩ :=
        copyEntries_carries each beside distinct (.refl made) (fun name _ => free name) done
      have kept : after.node target = made.node target := by
        refine later target fun name _ below => ?_
        have length := below.length_le
        rw [List.length_append, List.length_singleton] at length
        omega
      exact ⟨carries_of_entries beside sources kept fun name there =>
        carried name ((whole rfl name).mpr there), grown.locate beside.aimed⟩

theorem apart_of_absent (absent : disk.node target = none)
    (present : (disk.node source).isSome = true) : ¬ target <+: source := by
  rintro ⟨names, rfl⟩
  rw [Files.absent_below absent names] at present
  cases present

/-- The copy that stands in for a rename. -/
theorem transferred (leads : disk.attached dst)
    (there : dst.follow disk.workingDirectory = target) (outside : ¬ source <+: target)
    (located : disk.locate src = some source) (present : (disk.node source).isSome = true)
    (free : disk.isDirectory src = true → disk.node target = none)
    (copied : (if disk.isDirectory src = true then copyDirAll host disk src dst
      else host.files.copy disk src dst) = (true, after)) :
    Carries source target disk after ∧ after.locate dst = some target ∧
      ¬ target <+: source ∧ after.workingDirectory = disk.workingDirectory := by
  have builds : Builds (fun _ => False) disk (if disk.isDirectory src = true then
      copyDirAll host disk src dst else host.files.copy disk src dst).2 := by
    split
    · exact copyDirAllWithin_builds _ leads (Files.away_nowhere _)
    · exact Files.Host.copyBytes_builds true (Files.away_nowhere _)
  rw [copied] at builds
  split at copied
  · next directory =>
      have apart := apart_of_absent (free directory) present
      obtain ⟨carries, aimed⟩ := copyDirAllWithin_carries _ located leads there (free directory)
        apart outside copied
      exact ⟨carries, aimed, apart, builds.workingDirectory⟩
  · next file =>
      have carries := Files.Host.copyBytes_carries located there
        (fun same => outside (same ▸ List.prefix_refl _)) (Or.inl rfl) copied
      refine ⟨carries, there ▸ Files.Host.copyBytes_located copied, ?_, builds.workingDirectory⟩
      rintro ⟨names, rfl⟩
      cases names with
      | nil => exact outside (by simp)
      | cons name rest =>
          -- What a file is copied to is no directory.
          obtain ⟨node, found⟩ := Option.isSome_iff_exists.mp present
          have there : disk.contentAt (target ++ name :: rest ++ []) = some node.content := by
            rw [List.append_nil, Disk.contentAt, found]
            rfl
          have here := carries [] node.content there
          have above := builds.directories _
            (Disk.directoryAt_of_below (List.cons_ne_nil name rest) present)
          rw [List.append_nil, Disk.contentAt_directory.mpr above] at here
          rw [List.append_nil, ← here, Disk.contentAt_directory] at there
          exact file (Disk.isDirectory_iff.mpr ⟨_, located, there⟩)

end

end VirtualDevice
