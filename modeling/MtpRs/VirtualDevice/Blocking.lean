import MtpRs.VirtualDevice.Writes

set_option autoImplicit false

/- What stands in the way: where a directory is no file is written, and where a file is no
directory. -/
namespace VirtualDevice

open Files (Disk Location Name Path)
open VirtualDeviceState (copyPath movePath)

variable {host : Host} {disk : Disk} {src dst path parent baseDir : Path}
  {source location : Location}

/-- What passes the check and leads to the directory itself leads to what is there. -/
theorem present_of_valid (valid : ¬ (validatePathWithin disk baseDir path).isNone = true)
    (same : path.follow disk.workingDirectory = baseDir.follow disk.workingDirectory) :
    disk.present path = true ∧ disk.isDirectory path = disk.isDirectory baseDir := by
  rw [Option.isNone_iff_eq_none] at valid
  obtain ⟨canonical, valid⟩ := Option.ne_none_iff_exists'.mp valid
  obtain ⟨base, canonicalBase, checked⟩ := Option.bind_eq_some_iff.mp valid
  obtain ⟨home, located, there⟩ : ∃ home, disk.locate baseDir = some home ∧
      (disk.node home).isSome = true := by
    unfold Disk.canonicalize at canonicalBase
    split at canonicalBase
    · next home located =>
        split at canonicalBase
        · next there => exact ⟨home, located, there⟩
        · cases canonicalBase
    · cases canonicalBase
  have homeIs := Disk.locate_follow located
  -- The path is found at the place the directory is found at.
  have found : disk.locate path = some home := by
    split at checked
    · next here =>
        obtain ⟨place, leads, -⟩ := Disk.present_iff.mp here
        rw [leads, Disk.locate_follow leads, same, homeIs]
    · obtain ⟨above, parentIs, checked⟩ := Option.bind_eq_some_iff.mp checked
      split at checked
      · next here =>
          obtain ⟨_, canonicalParent, checked⟩ := Option.bind_eq_some_iff.mp checked
          split at checked
          · obtain ⟨name, named, -⟩ := Option.bind_eq_some_iff.mp checked
            obtain ⟨other, dropped, child⟩ := Path.child_of_fileName named
            rw [parentIs] at dropped
            cases dropped
            obtain ⟨place, leads, -⟩ := Disk.present_iff.mp here
            have split : home = place ++ [name] := by
              rw [homeIs, ← same, child, Path.follow_child, Disk.locate_follow leads]
            rw [split] at there
            rw [child, split]
            exact Disk.locate_child leads (disk.closed _ _ there) name
          · cases checked
      · cases checked
  refine ⟨Disk.present_iff.mpr ⟨home, found, there⟩, ?_⟩
  rw [Disk.isDirectory, Disk.isDirectory, Disk.metadata, Disk.metadata, found, located]

theorem createDirAll_blocked (there : disk.present path = true)
    (file : disk.isDirectory path = false) : host.files.createDirAll disk path = (false, disk) := by
  obtain ⟨place, located, -⟩ := Disk.present_iff.mp there
  have start := Disk.components_ne_nil located
  have unchanged : (host.files.createDirAll disk path).2 = disk := by
    apply Files.Host.createDirAll_unchanged
    rintro front ⟨rest, split⟩ begun
    by_cases whole : rest = []
    · rw [whole, List.append_nil] at split
      rw [split]
      exact there
    · have further : disk.present ⟨front ++ rest⟩ = true := by
        rw [split]
        exact there
      exact Disk.present_front begun whole further
  cases made : host.files.createDirAll disk path with
  | mk done after =>
      rw [made] at unchanged
      have same : after = disk := unchanged
      cases done with
      | false => rw [same]
      | true =>
          have directory := Files.Host.createDirAll_made made start
          rw [same, file] at directory
          cases directory

theorem copyBytes_blocked {truncate : Bool} (directory : disk.isDirectory dst = true) :
    host.files.copyBytes disk src dst truncate = (false, disk) := by
  obtain ⟨place, located, isDirectory⟩ := Disk.isDirectory_iff.mp directory
  have closed : host.files.openAt disk place truncate = none := by
    unfold Files.Host.openAt
    rw [dif_neg]
    rintro ⟨-, file, -⟩
    rw [isDirectory] at file
    cases file
  unfold Files.Host.copyBytes
  rw [located]
  cases host.files.read disk src with
  | none => rfl
  | some bytes =>
      dsimp only
      rw [closed]

theorem write_blocked (directory : disk.isDirectory path = true) (bytes : Ptp.Bytes) :
    host.files.write disk path bytes = (false, disk) := by
  obtain ⟨place, located, isDirectory⟩ := Disk.isDirectory_iff.mp directory
  have closed : host.files.openAt disk place true = none := by
    unfold Files.Host.openAt
    rw [dif_neg]
    rintro ⟨-, file, -⟩
    rw [isDirectory] at file
    cases file
  rw [Files.Host.write, located]
  dsimp only
  rw [closed]

theorem writeInDir_blocked (directory : disk.isDirectory path = true) (data : Ptp.Bytes) :
    writeInDir host disk path data = (false, disk) := by
  have leads : disk.attached path := Or.inl (Disk.present_of_isDirectory directory)
  unfold writeInDir
  split
  · exact write_blocked directory data
  · next above parentIs =>
      obtain ⟨last, -, components⟩ := Path.parent_eq_some parentIs
      have unchanged : (host.files.createDirAll disk above).2 = disk := by
        apply Files.Host.createDirAll_unchanged
        rintro front ⟨rest, split⟩ start
        have onward : disk.attached ⟨front ++ (rest ++ [last])⟩ := by
          rw [← List.append_assoc, split, ← components]
          exact leads
        exact onward.front start (by simp)
      split
      · next failed made =>
          rw [made] at unchanged
          exact Prod.ext rfl unchanged
      · next made directories =>
          rw [directories] at unchanged
          have same : made = disk := unchanged
          rw [same]
          exact write_blocked directory data

def sameKind (disk : Disk) (src dst : Path) : Bool :=
  disk.present src && disk.isDirectory src == disk.isDirectory dst

theorem rename_blocked (there : disk.present dst = true) (other : sameKind disk src dst = false) :
    host.files.rename disk src dst = none := by
  obtain ⟨target, located, node⟩ := Disk.present_iff.mp there
  unfold Files.Host.rename
  cases from_src : disk.locate src with
  | none => rfl
  | some source =>
      rw [located]
      dsimp only
      unfold Files.Host.renameAt
      split
      · rfl
      · next present =>
          have here : disk.present src = true :=
            Disk.present_iff.mpr ⟨source, from_src, by
              rwa [Option.isSome_iff_ne_none, ne_eq, ← Option.isNone_iff_eq_none]⟩
          rw [sameKind, here, Bool.true_and, beq_eq_false_iff_ne] at other
          have kinds : disk.directoryAt source ≠ disk.directoryAt target := by
            intro same
            apply other
            rw [Disk.isDirectory, Disk.isDirectory, Disk.metadata, Disk.metadata, from_src, located]
            exact same
          split
          · next same =>
              rw [same] at kinds
              exact absurd rfl kinds
          · rw [dif_neg]
            rintro ⟨-, directories, files, -⟩
            cases kind : disk.directoryAt source with
            | true =>
                rw [kind, (directories kind node).1] at kinds
                exact kinds rfl
            | false =>
                rw [kind, files kind] at kinds
                exact kinds rfl

/-- A copy of one kind onto something of the other kind, or of nothing. -/
theorem copyDirAll_blocked (there : disk.present dst = true)
    (file : disk.isDirectory dst = false) : copyDirAll host disk src dst = (false, disk) := by
  unfold copyDirAll
  cases host.files.nesting with
  | zero => rfl
  | succ fuel =>
      rw [copyDirAllWithin, createDirAll_blocked there file]

theorem copyBytes_absent {truncate : Bool} (absent : disk.present src = false) :
    host.files.copyBytes disk src dst truncate = (false, disk) := by
  have unread : host.files.read disk src = none := by
    unfold Files.Host.read
    split
    · rfl
    · next place located =>
        split
        · next node =>
            have here : disk.present src = true :=
              Disk.present_iff.mpr ⟨place, located, by rw [node]; rfl⟩
            rw [absent] at here
            cases here
        · rfl
  unfold Files.Host.copyBytes
  rw [unread]

theorem isDirectory_of_absent (absent : disk.present src = false) :
    disk.isDirectory src = false := by
  rw [Bool.eq_false_iff]
  intro directory
  rw [Disk.present_of_isDirectory directory] at absent
  cases absent

variable (host) in
/-- Nothing is copied onto what is of the other kind. -/
theorem copied_blocked (truncate : Bool) (there : disk.present dst = true)
    (other : sameKind disk src dst = false) :
    (if disk.isDirectory src then copyDirAll host disk src dst
      else host.files.copyBytes disk src dst truncate) = (false, disk) := by
  unfold sameKind at other
  cases present : disk.present src with
  | false => rw [isDirectory_of_absent present, if_neg (by decide), copyBytes_absent present]
  | true =>
      rw [present, Bool.true_and, beq_eq_false_iff_ne] at other
      cases kind : disk.isDirectory src with
      | true =>
          have file : disk.isDirectory dst = false := by
            rw [kind] at other
            simpa using other
          rw [if_pos rfl, copyDirAll_blocked there file]
      | false =>
          have directory : disk.isDirectory dst = true := by
            rw [kind] at other
            simpa using other
          rw [if_neg (by decide), copyBytes_blocked directory]

theorem movePath_blocked (there : disk.present dst = true)
    (other : sameKind disk src dst = false) : movePath host disk src dst = (false, disk) := by
  unfold movePath
  rw [rename_blocked there other]
  dsimp only
  rw [show host.files.copy disk src dst = host.files.copyBytes disk src dst true from rfl,
    copied_blocked host true there other]
  rfl

theorem copyPath_blocked (there : disk.present dst = true)
    (other : sameKind disk src dst = false) : copyPath host disk src dst = (false, disk) := by
  have blocked := copied_blocked host false there other
  have different : isSameFile disk src dst = false := by
    rw [Bool.eq_false_iff]
    intro same
    simp only [isSameFile, Bool.and_eq_true, beq_iff_eq] at same
    obtain ⟨⟨here, -⟩, places⟩ := same
    rw [sameKind, here, Disk.isDirectory, Disk.isDirectory, Disk.metadata, Disk.metadata,
      places] at other
    simp at other
  unfold copyPath copyFileInPlace
  rw [different]
  exact blocked

end VirtualDevice
