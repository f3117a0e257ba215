import MtpRs.Lib.Effects
import MtpRs.VirtualDevice.Handlers

set_option autoImplicit false

/- What the device's own ways to change a path leave alone. -/
namespace VirtualDevice

open Files (Away Builds Component Disk Location Path Spares)
open VirtualDeviceState (copyPath movePath stamp)

variable {host : Host} {disk : Disk} {region : Location → Prop} {src dst path baseDir : Path}

theorem startsWith_ofLocation {inner outer : Location}
    (starts : (Path.ofLocation inner).startsWith (.ofLocation outer) = true) : outer <+: inner := by
  have components := Path.startsWith_iff.mp starts
  rw [Path.components_ofLocation, Path.components_ofLocation, List.cons_prefix_cons] at components
  exact (List.prefix_map_iff_of_injective fun _ _ => Component.normal.inj).mp components.2

/-- What passes the check leads into the directory, to something or to where something can be. -/
theorem inside_of_valid (valid : ¬ (validatePathWithin disk baseDir path).isNone = true) :
    baseDir.follow disk.workingDirectory <+: path.follow disk.workingDirectory ∧
      disk.attached path := by
  rw [Option.isNone_iff_eq_none] at valid
  obtain ⟨canonical, valid⟩ := Option.ne_none_iff_exists'.mp valid
  obtain ⟨base, canonicalBase, checked⟩ := Option.bind_eq_some_iff.mp valid
  have baseIs := Disk.canonicalize_follow canonicalBase
  split at checked
  · next there =>
      obtain ⟨found, canonicalPath, checked⟩ := Option.bind_eq_some_iff.mp checked
      have pathIs := Disk.canonicalize_follow canonicalPath
      split at checked
      · next starts =>
          rw [baseIs, pathIs] at starts
          exact ⟨startsWith_ofLocation starts, Or.inl there⟩
      · cases checked
  · obtain ⟨parent, above, checked⟩ := Option.bind_eq_some_iff.mp checked
    split at checked
    · next there =>
        obtain ⟨found, canonicalParent, checked⟩ := Option.bind_eq_some_iff.mp checked
        have parentIs := Disk.canonicalize_follow canonicalParent
        split at checked
        · next starts =>
            obtain ⟨name, named, -⟩ := Option.bind_eq_some_iff.mp checked
            obtain ⟨same, dropped, child⟩ := Path.child_of_fileName named
            rw [above] at dropped
            cases dropped
            rw [baseIs, parentIs] at starts
            refine ⟨?_, Or.inr ⟨parent, above, there⟩⟩
            rw [child, Path.follow_child]
            exact (startsWith_ofLocation starts).trans (List.prefix_append ..)
        · cases checked
    · cases checked

theorem copyFileInPlace_builds (away : Away region (dst.follow disk.workingDirectory)) :
    Builds region disk (copyFileInPlace host disk src dst).2 := by
  unfold copyFileInPlace
  split
  · exact .refl disk
  · exact Files.Host.copyBytes_builds false away

/-- Every directory is copied into one that is there by then. -/
theorem copyDirAllWithin_builds (fuel : Nat) (leads : disk.attached dst)
    (away : Away region (dst.follow disk.workingDirectory)) :
    Builds region disk (copyDirAllWithin host fuel disk src dst).2 := by
  induction fuel generalizing disk src dst with
  | zero => exact .refl disk
  | succ fuel ih =>
      have builds : Builds region disk (host.files.createDirAll disk dst).2 :=
        Files.Host.createDirAll_builds leads away
      rw [copyDirAllWithin]
      split
      · next failed made =>
          rw [made] at builds
          exact builds
      · next made directories =>
          rw [directories] at builds
          split
          · exact builds
          · next entries complete _ =>
              have there : made.isDirectory dst = true :=
                Files.Host.createDirAll_made directories leads.start
              apply builds.trans
              apply Files.inTurn_invariant (Builds region made)
              · intro entry _ reached kept
                have leadsOn := Disk.attached_child (kept.isDirectory there) entry
                have awayOn : Away region ((dst.child entry).follow reached.workingDirectory) := by
                  rw [Path.follow_child, kept.workingDirectory, builds.workingDirectory]
                  exact away.below (List.prefix_append ..)
                split
                · exact kept.trans (ih leadsOn awayOn)
                · exact kept.trans (copyFileInPlace_builds awayOn)
              · exact .refl made

/-- The directory a file is written in is there already. -/
theorem writeInDir_builds (data : Ptp.Bytes) (leads : disk.attached path)
    (away : Away region (path.follow disk.workingDirectory)) :
    Builds region disk (writeInDir host disk path data).2 := by
  unfold writeInDir
  split
  · exact Files.Host.write_builds data away
  · next parent above =>
      obtain ⟨last, -, components⟩ := Path.parent_eq_some above
      have unchanged : (host.files.createDirAll disk parent).2 = disk := by
        apply Files.Host.createDirAll_unchanged
        rintro front ⟨rest, split⟩ start
        have onward : disk.attached ⟨front ++ (rest ++ [last])⟩ := by
          rw [← List.append_assoc, split, ← components]
          exact leads
        exact onward.front start (by simp)
      split
      · next failed made =>
          rw [made] at unchanged
          rw [unchanged]
          exact .refl disk
      · next made directories =>
          rw [directories] at unchanged
          have same : made = disk := unchanged
          rw [same]
          exact Files.Host.write_builds data away

theorem stamp_builds (modified : Option Int)
    (away : Away region (path.follow disk.workingDirectory)) :
    Builds region disk (stamp host disk path modified) := by
  unfold stamp
  split
  · exact .refl disk
  · next time =>
      cases stamped : host.files.setModified disk path time with
      | none => exact .refl disk
      | some after => exact Files.Host.setModified_builds stamped away

theorem removePath_spares (away : Away region (path.follow disk.workingDirectory)) :
    Spares region disk (removePath host disk path).2 := by
  unfold removePath
  split
  · exact Files.Host.removeDirAll_spares away
  · exact Files.Host.removeFile_spares away

theorem copyPath_builds (leads : disk.attached dst)
    (away : Away region (dst.follow disk.workingDirectory)) :
    Builds region disk (copyPath host disk src dst).2 := by
  unfold copyPath
  split
  · exact copyDirAllWithin_builds _ leads away
  · exact copyFileInPlace_builds away

theorem movePath_spares (leads : disk.attached dst)
    (srcAway : Away region (src.follow disk.workingDirectory))
    (away : Away region (dst.follow disk.workingDirectory)) :
    Spares region disk (movePath host disk src dst).2 := by
  unfold movePath
  split
  · next renamed moved => exact Files.Host.rename_spares moved srcAway away
  · have copied : Builds region disk (if disk.isDirectory src = true then
        copyDirAll host disk src dst else host.files.copy disk src dst).2 := by
      split
      · exact copyDirAllWithin_builds _ leads away
      · exact Files.Host.copyBytes_builds true away
    dsimp only
    generalize (if disk.isDirectory src = true then copyDirAll host disk src dst
      else host.files.copy disk src dst) = result at copied ⊢
    split
    · apply copied.toSpares.trans
      apply removePath_spares
      rw [copied.workingDirectory]
      exact srcAway
    · exact copied.toSpares

end VirtualDevice
