import MtpRs.Lib.Confined

set_option autoImplicit false

/- What the calls on files and directories leave alone, and what they build. -/
namespace Files

section

variable {σ α : Type} {act : σ → α → Bool × σ} {items : List α} {state after : σ}

/-- What each thing done in turn preserves. -/
theorem inTurn_invariant (holds : σ → Prop)
    (preserved : ∀ item ∈ items, ∀ state, holds state → holds (act state item).2)
    (initially : holds state) : holds (inTurn act items state).2 := by
  induction items generalizing state with
  | nil => exact initially
  | cons first rest ih =>
      have next := preserved first (List.mem_cons_self ..) state initially
      rw [inTurn]
      split
      · next reached acted =>
          rw [acted] at next
          exact ih (fun item mem => preserved item (List.mem_cons_of_mem _ mem)) next
      · next reached acted =>
          rw [acted] at next
          exact next

theorem inTurn_concat {last : α} (ended : inTurn act (items ++ [last]) state = (true, after)) :
    ∃ middle, inTurn act items state = (true, middle) ∧ act middle last = (true, after) := by
  induction items generalizing state with
  | nil =>
      refine ⟨state, rfl, ?_⟩
      rw [List.nil_append, inTurn] at ended
      split at ended
      · next reached acted => exact acted.trans ended
      · cases ended
  | cons first rest ih =>
      rw [List.cons_append, inTurn] at ended
      rw [inTurn]
      split at ended
      · next reached acted => exact ih ended
      · cases ended

/-- What does nothing but succeed can be left out. -/
theorem inTurn_append (idle : ∀ item ∈ items, act state item = (true, state)) (more : List α) :
    inTurn act (items ++ more) state = inTurn act more state := by
  induction items with
  | nil => rfl
  | cons first rest ih =>
      rw [List.cons_append, inTurn, idle first (List.mem_cons_self ..)]
      exact ih fun item mem => idle item (List.mem_cons_of_mem _ mem)

end

theorem mem_inits_tail {α : Type} {front list : List α} :
    front ∈ list.inits.tail ↔ front <+: list ∧ front ≠ [] := by
  cases list with
  | nil => simp
  | cons first rest =>
      rw [List.inits_cons, List.tail_cons, List.mem_map]
      constructor
      · rintro ⟨inner, mem, rfl⟩
        exact ⟨List.cons_prefix_cons.mpr ⟨rfl, (List.mem_inits _ _).mp mem⟩, List.cons_ne_nil _ _⟩
      · rintro ⟨starts, some⟩
        cases front with
        | nil => exact absurd rfl some
        | cons other inner =>
            obtain ⟨rfl, inside⟩ := List.cons_prefix_cons.mp starts
            exact ⟨inner, (List.mem_inits _ _).mpr inside, rfl⟩

/-- The whole list is the last of its beginnings. -/
theorem inits_tail_concat {α : Type} {list : List α} (some : list ≠ []) :
    ∃ shorter, list.inits.tail = shorter ++ [list] := by
  have ends : ∀ other : List α, ∃ shorter, other.inits = shorter ++ [other] := by
    intro other
    induction other with
    | nil => exact ⟨[], rfl⟩
    | cons first rest ih =>
        obtain ⟨shorter, split⟩ := ih
        exact ⟨[] :: shorter.map (first :: ·), by simp [split]⟩
  cases list with
  | nil => exact absurd rfl some
  | cons first rest =>
      obtain ⟨shorter, split⟩ := ends rest
      exact ⟨shorter.map (first :: ·), by simp [split]⟩

section

variable {disk after : Disk} {location : Location}

/-- A path leads to a file. -/
def Disk.holdsFile (disk : Disk) (path : Path) : Prop :=
  ∃ location bytes created modified, disk.locate path = some location ∧
    disk.hasRoom location = true ∧ disk.node location = some ⟨.file bytes, created, modified⟩

theorem Disk.directoryAt_of_file {bytes : List UInt8} {created modified : Option Int}
    (node : disk.node location = some ⟨.file bytes, created, modified⟩) :
    disk.directoryAt location = false := by
  rw [directoryAt, directoryIn, node]
  rfl

theorem Builds.hasRoom {region : Location → Prop} (builds : Builds region disk after)
    (room : disk.hasRoom location = true) : after.hasRoom location = true := by
  rw [Disk.hasRoom, Bool.and_eq_true] at room ⊢
  exact ⟨room.1, builds.directories _ room.2⟩

end

namespace Host

variable {host : Host} {region : Location → Prop} {disk after : Disk} {location : Location}
  {path source target : Path}

theorem mkdirAt_some (made : host.mkdirAt disk location = some after) :
    (disk.node location).isNone = true ∧ after.directoryAt location = true := by
  unfold mkdirAt at made
  split at made
  · next ready =>
      cases made
      exact ⟨ready.2.2.1, by simp [Disk.put, Disk.directoryAt, directoryIn, Node.isDirectory]⟩
  · cases made

theorem mkdirAt_builds (made : host.mkdirAt disk location = some after)
    (away : Away region location) : Builds region disk after := by
  unfold mkdirAt at made
  split at made
  · cases made
    exact Disk.put_builds _ _ rfl away
  · cases made

/-- A directory is made only where nothing is. -/
theorem absent_of_mkdir (made : (disk.locate path).bind (host.mkdirAt disk) = some after) :
    disk.present path = false := by
  obtain ⟨location, located, created⟩ := Option.bind_eq_some_iff.mp made
  rw [Bool.eq_false_iff]
  intro there
  obtain ⟨place, same, node⟩ := Disk.present_iff.mp there
  rw [located] at same
  cases same
  have nothing := (mkdirAt_some created).1
  rw [Option.isNone_iff_eq_none] at nothing
  rw [nothing] at node
  cases node

theorem mkdir_builds (made : (disk.locate path).bind (host.mkdirAt disk) = some after)
    (away : Away region (path.follow disk.workingDirectory)) : Builds region disk after := by
  obtain ⟨location, located, created⟩ := Option.bind_eq_some_iff.mp made
  rw [← Disk.locate_follow located] at away
  exact mkdirAt_builds created away

theorem createDirAll_builds (leads : disk.attached path)
    (away : Away region (path.follow disk.workingDirectory)) :
    Builds region disk (host.createDirAll disk path).2 := by
  apply inTurn_invariant (Builds region disk)
  · intro components mem reached builds
    obtain ⟨⟨rest, split⟩, start⟩ := mem_inits_tail.mp mem
    by_cases directory : reached.isDirectory ⟨components⟩ = true
    · rw [if_pos directory]
      exact builds
    · rw [if_neg directory]
      split
      · next made mkdir =>
          have whole : rest = [] := by
            by_contra more
            have front : disk.attached ⟨components ++ rest⟩ := by
              rw [split]
              exact leads
            have there := builds.present_path (front.front start more)
            rw [absent_of_mkdir mkdir] at there
            cases there
          rw [whole, List.append_nil] at split
          apply builds.trans (mkdir_builds mkdir _)
          rw [split, builds.workingDirectory]
          exact away
      · exact builds
  · exact .refl disk

theorem createDirAll_unchanged (there : ∀ front, front <+: path.components → front ≠ [] →
    disk.present ⟨front⟩ = true) : (host.createDirAll disk path).2 = disk := by
  apply inTurn_invariant (· = disk)
  · intro components mem reached same
    subst same
    obtain ⟨starts, start⟩ := mem_inits_tail.mp mem
    split
    · rfl
    · split
      · next made mkdir =>
          have here := there components starts start
          rw [absent_of_mkdir mkdir] at here
          cases here
      · rfl
  · rfl

/-- In a directory that is there only the last one is made. -/
theorem createDirAll_child (directory : disk.isDirectory path = true) (name : Name) :
    host.createDirAll disk (path.child name) =
      if disk.isDirectory (path.child name) then (true, disk)
      else
        match (disk.locate (path.child name)).bind (host.mkdirAt disk) with
        | some made => (true, made)
        | none => (false, disk) := by
  have whole : (path.child name).components.inits.tail =
      path.components.inits.tail ++ [(path.child name).components] := by
    rw [Path.components_child, List.inits_append, List.tail_append_of_ne_nil
      (by cases path.components <;> simp)]
    rfl
  rw [createDirAll, whole, inTurn_append]
  · rw [inTurn]
    split
    · next made ended => exact ended.symm
    · next failed ended => exact ended.symm
  · intro components mem
    obtain ⟨⟨rest, split⟩, start⟩ := mem_inits_tail.mp mem
    apply if_pos
    by_cases last : rest = []
    · rw [last, List.append_nil] at split
      rw [split]
      exact directory
    · have there : disk.present ⟨components ++ rest⟩ = true := by
        rw [split]
        exact Disk.present_of_isDirectory directory
      exact Disk.isDirectory_front start last there

theorem createDirAll_made (made : host.createDirAll disk path = (true, after))
    (start : path.components ≠ []) : after.isDirectory path = true := by
  obtain ⟨shorter, split⟩ := inits_tail_concat start
  rw [createDirAll, split] at made
  obtain ⟨middle, -, last⟩ := inTurn_concat made
  split at last
  · next directory =>
      cases last
      exact directory
  · split at last
    · next mkdir =>
        obtain ⟨location, located, created⟩ := Option.bind_eq_some_iff.mp mkdir
        cases last
        have builds : Builds (fun _ => False) middle after :=
          mkdirAt_builds created fun _ _ => id
        exact Disk.isDirectory_iff.mpr
          ⟨location, builds.locate located, (mkdirAt_some created).2⟩
    · cases last

theorem openAt_builds {truncate : Bool} (opened : host.openAt disk location truncate = some after)
    (away : Away region location) : Builds region disk after := by
  unfold openAt at opened
  split at opened
  · cases opened
    exact Disk.put_builds _ _ rfl away
  · cases opened

theorem storeAt_builds (bytes : List UInt8) (away : Away region location) :
    Builds region disk (host.storeAt disk location bytes).2 := by
  unfold storeAt
  split
  · split
    · dsimp only
      exact Disk.put_builds _ _ rfl away
    · exact .refl disk
  · exact .refl disk

theorem write_builds (bytes : List UInt8) (away : Away region (path.follow disk.workingDirectory)) :
    Builds region disk (host.write disk path bytes).2 := by
  unfold write
  split
  · exact .refl disk
  · next location located =>
      rw [← Disk.locate_follow located] at away
      split
      · exact .refl disk
      · next opened isOpen => exact (openAt_builds isOpen away).trans (storeAt_builds bytes away)

theorem setModified_builds {time : Int} (stamped : host.setModified disk path time = some after)
    (away : Away region (path.follow disk.workingDirectory)) : Builds region disk after := by
  unfold setModified at stamped
  split at stamped
  · cases stamped
  · next location located =>
      rw [← Disk.locate_follow located] at away
      split at stamped
      · split at stamped
        · cases stamped
          exact Disk.put_builds _ _ rfl away
        · cases stamped
      · cases stamped

theorem copyBytes_builds (truncate : Bool)
    (away : Away region (target.follow disk.workingDirectory)) :
    Builds region disk (host.copyBytes disk source target truncate).2 := by
  unfold copyBytes
  split
  · next location _ located =>
      rw [← Disk.locate_follow located] at away
      split
      · exact .refl disk
      · next opened isOpen =>
          have builds := openAt_builds isOpen away
          split
          · exact builds
          · exact builds.trans (storeAt_builds _ away)
  · exact .refl disk

theorem renameAt_spares {source target : Location}
    (renamed : host.renameAt disk source target = some after) (sourceAway : Away region source)
    (targetAway : Away region target) : Spares region disk after := by
  unfold renameAt at renamed
  split at renamed
  · cases renamed
  · split at renamed
    · cases renamed
      exact .refl disk
    · split at renamed
      · cases renamed
        exact Disk.shift_spares _ _ _ sourceAway targetAway
      · cases renamed

theorem rename_spares (renamed : host.rename disk source target = some after)
    (sourceAway : Away region (source.follow disk.workingDirectory))
    (targetAway : Away region (target.follow disk.workingDirectory)) :
    Spares region disk after := by
  unfold rename at renamed
  split at renamed
  · next located found =>
      rw [← Disk.locate_follow located] at sourceAway
      rw [← Disk.locate_follow found] at targetAway
      exact renameAt_spares renamed sourceAway targetAway
  · cases renamed

theorem unlinkAt_spares (away : Away region location) :
    Spares region disk (host.unlinkAt disk location).2 := by
  unfold unlinkAt
  split
  · dsimp only
    exact Disk.take_spares _ _ rfl away
  · exact .refl disk

theorem rmdirAt_spares (away : Away region location) :
    Spares region disk (host.rmdirAt disk location).2 := by
  unfold rmdirAt
  split
  · dsimp only
    exact Disk.take_spares _ _ rfl away
  · exact .refl disk

theorem removeTreeAt_spares (fuel : Nat) (away : Away region location) :
    Spares region disk (host.removeTreeAt fuel disk location).2 := by
  induction fuel generalizing disk location with
  | zero => exact .refl disk
  | succ fuel ih =>
      rw [removeTreeAt]
      split
      · exact .refl disk
      · next entries complete _ =>
          have emptied : Spares region disk (inTurn (fun disk name =>
              if disk.directoryAt (location ++ [name]) then
                host.removeTreeAt fuel disk (location ++ [name])
              else host.unlinkAt disk (location ++ [name])) entries disk).2 := by
            apply inTurn_invariant (Spares region disk)
            · intro name _ reached spares
              have inner : Away region (location ++ [name]) := away.below (List.prefix_append ..)
              split
              · exact spares.trans (ih inner)
              · exact spares.trans (unlinkAt_spares inner)
            · exact .refl disk
          split
          · next reached done =>
              rw [done] at emptied
              split
              · exact emptied.trans (rmdirAt_spares away)
              · exact emptied
          · next reached done =>
              rw [done] at emptied
              exact emptied

theorem removeDirAll_spares (away : Away region (path.follow disk.workingDirectory)) :
    Spares region disk (host.removeDirAll disk path).2 := by
  unfold removeDirAll
  split
  · exact .refl disk
  · next location located =>
      rw [← Disk.locate_follow located] at away
      exact removeTreeAt_spares _ away

theorem removeFile_spares (away : Away region (path.follow disk.workingDirectory)) :
    Spares region disk (host.removeFile disk path).2 := by
  unfold removeFile
  split
  · exact .refl disk
  · next location located =>
      rw [← Disk.locate_follow located] at away
      exact unlinkAt_spares away

theorem openAt_room {truncate : Bool} (opened : host.openAt disk location truncate = some after) :
    disk.hasRoom location = true := by
  unfold openAt at opened
  split at opened
  · next ready => exact ready.1
  · cases opened

theorem storeAt_made {bytes : List UInt8}
    (stored : host.storeAt disk location bytes = (true, after)) :
    ∃ bytes created modified, after.node location = some ⟨.file bytes, created, modified⟩ := by
  unfold storeAt at stored
  split at stored
  · split at stored
    · next before created modified node =>
        obtain ⟨-, rfl⟩ := Prod.mk.inj stored
        exact ⟨_, _, _, if_pos rfl⟩
    · cases stored
  · cases stored

/-- What has been written is there. -/
theorem write_made {bytes : List UInt8} (wrote : host.write disk path bytes = (true, after)) :
    after.holdsFile path := by
  unfold write at wrote
  split at wrote
  · cases wrote
  · next location located =>
      split at wrote
      · cases wrote
      · next opened isOpen =>
          have builds : Builds (fun _ => False) disk after := by
            have stored : Builds (fun _ => False) opened (host.storeAt opened location bytes).2 :=
              storeAt_builds bytes fun _ _ => id
            rw [wrote] at stored
            exact (openAt_builds isOpen fun _ _ => id).trans stored
          obtain ⟨bytes, created, modified, node⟩ := storeAt_made wrote
          exact ⟨location, bytes, created, modified, builds.locate located,
            builds.hasRoom (openAt_room isOpen), node⟩

/-- A time set on a file is the file's. -/
theorem setModified_made {time : Int} (file : disk.holdsFile path)
    (allowed : ∀ location, host.refuses disk (.setModified location) = none) :
    ∃ after node, host.setModified disk path time = some after ∧
      after.metadata path = some node ∧ node.modified = some time := by
  obtain ⟨location, bytes, created, modified, located, room, node⟩ := file
  have plain := Disk.directoryAt_of_file node
  have set : ∃ after, host.setModified disk path time = some after ∧
      after.node location = some ⟨.file bytes, created, some time⟩ := by
    unfold setModified
    simp only [located, node]
    rw [dif_pos ⟨room, plain, allowed location⟩]
    exact ⟨_, rfl, if_pos rfl⟩
  obtain ⟨after, stamped, there⟩ := set
  have builds : Builds (fun _ => False) disk after := setModified_builds stamped fun _ _ => id
  refine ⟨after, ⟨.file bytes, created, some time⟩, stamped, ?_, rfl⟩
  rw [Disk.metadata, builds.locate located, Option.bind_some, there]

end Host

end Files
