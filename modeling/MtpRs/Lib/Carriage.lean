import MtpRs.Lib.Contents

set_option autoImplicit false

/- What is renamed or copied comes to lie where it is meant to, with all in it, and what is removed
is gone. -/
namespace Files

namespace Path

end Path

/-- What is in a place, its times left aside. -/
def Disk.contentAt (disk : Disk) (location : Location) : Option Content :=
  (disk.node location).map Node.content

/-- All that is in a place before is in another one after, at the same names. -/
def Carries (source target : Location) (before after : Disk) : Prop :=
  ∀ names content, before.contentAt (source ++ names) = some content →
    after.contentAt (target ++ names) = some content

section

variable {before middle after : Disk} {source target location : Location} {path : Path}

theorem Disk.contentAt_congr (same : after.node location = before.node location) :
    after.contentAt location = before.contentAt location := by
  rw [contentAt, same, contentAt]

theorem Disk.present_of_contentAt {content : Content}
    (there : before.contentAt location = some content) : (before.node location).isSome = true := by
  obtain ⟨node, found, -⟩ := Option.map_eq_some_iff.mp there
  rw [found]
  rfl

theorem Disk.contentAt_directory :
    before.contentAt location = some .directory ↔ before.directoryAt location = true := by
  rw [contentAt, directoryAt, directoryIn]
  cases before.node location with
  | none => simp
  | some node =>
      obtain ⟨content, created, modified⟩ := node
      cases content <;> simp [Node.isDirectory]

/-- Where what is carried has not changed before and is left alone after. -/
theorem Carries.within {first last : Disk} (carries : Carries source target before after)
    (early : ∀ names, before.node (source ++ names) = first.node (source ++ names))
    (late : ∀ names, last.node (target ++ names) = after.node (target ++ names)) :
    Carries source target first last := by
  intro names content there
  rw [Disk.contentAt_congr (late names)]
  refine carries names content ?_
  rw [Disk.contentAt_congr (early names)]
  exact there

theorem Spares.mono {region smaller : Location → Prop} (spares : Spares region before after)
    (less : ∀ place, smaller place → region place) : Spares smaller before after where
  node place inside := spares.node place (less place inside)
  workingDirectory := spares.workingDirectory
  calls := by
    obtain ⟨made, calls, away⟩ := spares.calls
    exact ⟨made, calls, fun call mem aim aimed other below inside =>
      away call mem aim aimed other below (less other inside)⟩

theorem Builds.mono {region smaller : Location → Prop} (builds : Builds region before after)
    (less : ∀ place, smaller place → region place) : Builds smaller before after where
  toSpares := builds.toSpares.mono less
  present := builds.present
  directories := builds.directories

theorem absent_below (absent : before.node location = none) (names : List Name) :
    before.node (location ++ names) = none := by
  cases names with
  | nil => rwa [List.append_nil]
  | cons name rest =>
      rw [← Option.not_isSome_iff_eq_none]
      intro there
      have directory := Disk.present_of_directoryAt
        (Disk.directoryAt_of_below (List.cons_ne_nil _ _) there)
      rw [absent] at directory
      cases directory

/-- Where a path leads to nothing, nothing is below it. -/
theorem contents_gone (gone : before.node (path.follow before.workingDirectory) = none)
    (names : List Name) : before.contents (path.descend names) = none := by
  rw [Disk.contents, Disk.metadata]
  cases located : before.locate (path.descend names) with
  | none => rfl
  | some there =>
      have led := Disk.locate_follow located
      rw [Path.follow_descend] at led
      rw [led, Option.bind_some, absent_below gone]
      rfl

/-- A file carries nothing but itself. -/
theorem Carries.of_file {bytes : List UInt8}
    (file : before.contentAt source = some (.file bytes))
    (there : after.contentAt target = some (.file bytes)) :
    Carries source target before after := by
  intro names content found
  cases names with
  | nil =>
      rw [List.append_nil] at found ⊢
      rw [there, ← file, found]
  | cons name rest =>
      have directory := Disk.directoryAt_of_below (List.cons_ne_nil name rest)
        (Disk.present_of_contentAt found)
      obtain ⟨⟨content, created, modified⟩, node, same⟩ := Option.map_eq_some_iff.mp file
      cases same
      rw [Disk.directoryAt_of_file node] at directory
      cases directory

end

namespace Host

variable {host : Host} {before after : Disk} {source target : Location} {src dst : Path}

theorem mkdirAt_only {location other : Location}
    (made : host.mkdirAt before location = some after) (different : other ≠ location) :
    after.node other = before.node other := by
  unfold mkdirAt at made
  split at made
  · cases made
    exact if_neg different
  · cases made

/-- Nothing but the directory itself is made where it is attached. -/
theorem createDirAll_only {path : Path} (leads : before.attached path) {location : Location}
    (different : location ≠ path.follow before.workingDirectory) :
    (host.createDirAll before path).2.node location = before.node location := by
  refine (inTurn_invariant (fun reached => Builds (fun _ => False) before reached ∧
    reached.node location = before.node location) ?_ ⟨.refl before, rfl⟩).2
  rintro components mem reached ⟨builds, same⟩
  obtain ⟨⟨rest, split⟩, start⟩ := mem_inits_tail.mp mem
  by_cases directory : reached.isDirectory ⟨components⟩ = true
  · rw [if_pos directory]
    exact ⟨builds, same⟩
  · rw [if_neg directory]
    split
    · next made mkdir =>
        have whole : rest = [] := by
          by_contra more
          have front : before.attached ⟨components ++ rest⟩ := by
            rw [split]
            exact leads
          have there := builds.present_path (front.front start more)
          rw [absent_of_mkdir mkdir] at there
          cases there
        rw [whole, List.append_nil] at split
        refine ⟨builds.trans (mkdir_builds mkdir (away_nowhere _)), ?_⟩
        obtain ⟨place, located, created⟩ := Option.bind_eq_some_iff.mp mkdir
        rw [mkdirAt_only created, same]
        rw [Disk.locate_follow located, split, builds.workingDirectory]
        exact different
    · exact ⟨builds, same⟩

/-- A file that is opened anew, or cut, is empty. -/
theorem openAt_anew {truncate : Bool} {location : Location}
    (opened : host.openAt before location truncate = some after)
    (anew : truncate = true ∨ before.node location = none) :
    ∃ created modified, after.node location = some ⟨.file [], created, modified⟩ := by
  rcases anew with rfl | absent
  · exact openAt_empty opened
  · unfold openAt at opened
    split at opened
    · cases opened
      simp only [Disk.put, if_true, absent]
      exact ⟨_, _, rfl⟩
    · cases opened

theorem read_some {bytes : List UInt8} (found : host.read before src = some bytes) :
    ∃ location, before.locate src = some location ∧
      before.contentAt location = some (.file bytes) := by
  unfold read at found
  split at found
  · cases found
  · next location located =>
      split at found
      · next content created modified node =>
          split at found
          · cases found
            exact ⟨location, located, by rw [Disk.contentAt, node]; rfl⟩
          · cases found
      · cases found

theorem copyBytes_located {truncate : Bool}
    (copied : host.copyBytes before src dst truncate = (true, after)) :
    after.locate dst = some (dst.follow before.workingDirectory) := by
  have builds : Builds (fun _ => False) before (host.copyBytes before src dst truncate).2 :=
    copyBytes_builds truncate (away_nowhere _)
  rw [copied] at builds
  unfold copyBytes at copied
  split at copied
  · next aimed =>
      rw [← Disk.locate_follow aimed]
      exact builds.locate aimed
  · cases copied

/-- A copy of a file over nothing, or over what is cut, carries its bytes. -/
theorem copyBytes_carries {truncate : Bool} (located : before.locate src = some source)
    (there : dst.follow before.workingDirectory = target) (different : source ≠ target)
    (anew : truncate = true ∨ before.node target = none)
    (copied : host.copyBytes before src dst truncate = (true, after)) :
    Carries source target before after := by
  unfold copyBytes at copied
  split at copied
  · next old location readable aimed =>
      have same := Disk.locate_follow aimed
      rw [there] at same
      rw [same] at copied
      obtain ⟨_, same, file⟩ := read_some readable
      rw [located] at same
      cases same
      split at copied
      · cases copied
      · next opened cut =>
          have apart : Away (· = source) target := by
            rintro other ⟨names, rfl⟩ same
            have free : before.directoryAt target = false := by
              unfold openAt at cut
              split at cut
              · next ready => exact ready.2.1
              · cases cut
            cases names with
            | nil =>
                rw [List.append_nil] at same
                exact different same.symm
            | cons name rest =>
                rw [Disk.directoryAt_of_below (List.cons_ne_nil name rest)
                  (by rw [same]; exact Disk.present_of_contentAt file)] at free
                cases free
          have builds := openAt_builds cut apart
          obtain ⟨_, _, empty⟩ := openAt_anew cut anew
          split at copied
          · cases copied
          · next bytes again =>
              obtain ⟨_, same, now⟩ := read_some again
              rw [builds.locate located] at same
              cases same
              rw [Disk.contentAt_congr (builds.node source rfl)] at now
              obtain ⟨created, modified, stored⟩ := storeAt_empty empty copied
              exact .of_file now (by rw [Disk.contentAt, stored]; rfl)
  · cases copied

theorem unlinkAt_gone (removed : host.unlinkAt before source = (true, after)) :
    after.node source = none := by
  unfold unlinkAt at removed
  split at removed
  · cases removed
    exact if_pos rfl
  · cases removed

theorem rmdirAt_gone (removed : host.rmdirAt before source = (true, after)) :
    after.node source = none := by
  unfold rmdirAt at removed
  split at removed
  · cases removed
    exact if_pos rfl
  · cases removed

/-- The directory goes last, when there is nothing in it. -/
theorem removeTreeAt_gone {fuel : Nat}
    (removed : host.removeTreeAt fuel before source = (true, after)) :
    after.node source = none := by
  cases fuel with
  | zero => cases removed
  | succ fuel =>
      rw [removeTreeAt] at removed
      split at removed
      · cases removed
      · split at removed
        · split at removed
          · exact rmdirAt_gone removed
          · cases removed
        · cases removed

theorem removeDirAll_gone (removed : host.removeDirAll before src = (true, after)) :
    after.node (src.follow before.workingDirectory) = none := by
  unfold removeDirAll at removed
  split at removed
  · cases removed
  · next location located =>
      rw [← Disk.locate_follow located]
      exact removeTreeAt_gone removed

theorem removeFile_gone (removed : host.removeFile before src = (true, after)) :
    after.node (src.follow before.workingDirectory) = none := by
  unfold removeFile at removed
  split at removed
  · cases removed
  · next location located =>
      rw [← Disk.locate_follow located]
      exact unlinkAt_gone removed

end Host

end Files
