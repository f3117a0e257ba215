import MtpRs.Cli.Error
import MtpRs.Lib.Confined
import MtpRs.Lib.FileSteps

set_option autoImplicit false

/- The download of one file to a local path, through a temporary file beside it. -/
namespace Cli

open Attempts (Attempt)
open Files (Disk Host Location Name Path Within)
open Mtp (Error)

/-- The local machine as far as its disk does not decide it: why the metadata of a path can't be
read, or a file can't be flushed, where that is so; the texts of the other errors and of paths; and
what tells one temporary file from another. -/
structure Machine where
  host : Host
  unreadable : Disk → Path → Option String
  unflushed : Disk → Location → Option String
  reason : Disk → Path → String
  display : Path → String
  nonce : Nat
  processId : UInt32

/-- What the device answers to a download: an error, or chunks, of which one may be an error. -/
abbrev Answer := Except Error (List (Except Error (List UInt8)))

structure Download where
  remotePath : String
  localPath : Path
  replace : Bool
  answer : Answer

def yielded (chunks : List (Except Error (List UInt8))) : List UInt8 :=
  (chunks.filterMap Except.toOption).flatten

namespace Machine

variable (self : Machine)

def tempName (name : String) : String :=
  "." ++ name ++ ".mtp-rs-" ++ toString self.nonce ++ "-" ++ toString self.processId.toNat ++ ".tmp"

def tempDownloadPath (destination : Path) : Path :=
  let parent := destination.parent.getD ⟨[.curDir]⟩
  let name := (destination.fileName.map Name.text).getD "download"
  parent.join (.ofString (self.tempName name))

def localError (kind : CliErrorKind) (context : String) (disk : Disk) (path : Path) : CliError :=
  .new kind (context ++ ": " ++ self.reason disk path)

/-- Whether something is at the destination that may be replaced. -/
def checkDestination (request : Download) : Attempt Disk CliError Bool := fun disk =>
  match self.unreadable disk request.localPath with
  | some reason =>
      (.error (.new .other ("check local path " ++ self.display request.localPath ++ ": " ++
        reason)), disk)
  | none =>
      match disk.metadata request.localPath with
      | none => (.ok false, disk)
      | some node =>
          if node.isDirectory then
            (.error (.new .other ("local path is a directory: " ++ self.display request.localPath)),
              disk)
          else (.ok true, disk)

/-- `File::create`. -/
def create (path : Path) : Attempt Disk CliError Location := fun disk =>
  match (disk.locate path).bind fun location =>
      (self.host.openAt disk location true).map fun opened => (location, opened) with
  | some (location, opened) => (.ok location, opened)
  | none =>
      (.error (self.localError .other ("create local file " ++ self.display path) disk path), disk)

def writeAll (temp : Path) (out : Location) (bytes : List UInt8) : Attempt Disk CliError Unit :=
  fun disk =>
    match self.host.appendAt disk out bytes with
    | (true, after) => (.ok (), after)
    | (false, after) => (.error (self.localError .transfer "write local file" disk temp), after)

def flush (out : Location) : Attempt Disk CliError Unit := fun disk =>
  match self.unflushed disk out with
  | some reason => (.error (.new .transfer ("flush local file: " ++ reason)), disk)
  | none => (.ok (), disk)

/-- `remove_file` and `rename`, which make room for the new file and put it there. -/
def removeOld (path : Path) : Attempt Disk CliError Unit := fun disk =>
  match self.host.removeFile disk path with
  | (true, after) => (.ok (), after)
  | (false, after) => (.error (self.localError .other "replace local file" disk path), after)

def moveTemp (temp path : Path) : Attempt Disk CliError Unit := fun disk =>
  match self.host.rename disk temp path with
  | some after => (.ok (), after)
  | none => (.error (self.localError .other "replace local file" disk temp), disk)

/-- The chunks, written one after the other up to the first error, and how many bytes they had. -/
def writeChunks (settings : Settings) (request : Download) (temp : Path) (out : Location) :
    List (Except Error (List UInt8)) → Nat → Attempt Disk CliError Nat
  | [], received => Attempt.done received
  | chunk :: rest, received => do
      let bytes ← Cli.request settings ("download " ++ request.remotePath) (Attempt.lift chunk)
      self.writeAll temp out bytes
      writeChunks settings request temp out rest (received + bytes.length)

def transfer (settings : Settings) (request : Download) (temp : Path) (out : Location) :
    Attempt Disk CliError Nat := do
  let chunks ← Cli.request settings ("start download of " ++ request.remotePath)
    (Attempt.lift request.answer)
  let received ← self.writeChunks settings request temp out chunks 0
  self.flush out
  return received

/-- The temporary file of a transfer that failed is removed, if that is possible. -/
def transferOrRemove (settings : Settings) (request : Download) (temp : Path) (out : Location) :
    Attempt Disk CliError Nat := fun disk =>
  match self.transfer settings request temp out disk with
  | (.ok received, after) => (.ok received, after)
  | (.error error, after) => (.error error, (self.host.removeFile after temp).2)

/-- All up to the last step: the whole file is in the temporary one, and nothing in its way. -/
def prepare (settings : Settings) (request : Download) : Attempt Disk CliError Nat := do
  let destinationExists ← self.checkDestination request
  if destinationExists && !request.replace then
    Attempt.fail (.new .other ("local file already exists; pass --replace to overwrite it: " ++
      self.display request.localPath))
  else do
    let temp := self.tempDownloadPath request.localPath
    let out ← self.create temp
    let received ← self.transferOrRemove settings request temp out
    if destinationExists then self.removeOld request.localPath
    return received

def downloadFile (settings : Settings) (request : Download) : Attempt Disk CliError Nat := do
  let received ← self.prepare settings request
  self.moveTemp (self.tempDownloadPath request.localPath) request.localPath
  return received

section

variable {self : Machine} {settings : Settings} {request : Download} {disk before after : Disk}
  {temp : Path} {out location : Location} {name : String}

theorem digit_ne_slash {n : Nat} : '/' ∉ (toString n).toList := by
  intro mem
  have digits : (toString n).toList = Nat.toDigits 10 n := Nat.toList_repr
  rw [digits] at mem
  have digit := Nat.isDigit_of_mem_toDigits (by decide) (by decide) mem
  exact absurd digit (by decide)

theorem length_tempName : name.length < (self.tempName name).length := by
  simp only [tempName, String.length_append]
  have first : ".".length = 1 := rfl
  omega

theorem isPlain_tempName (plain : '/' ∉ name.toList) :
    Files.isPlain (self.tempName name) = true := by
  have long : 2 < (self.tempName name).length := by
    simp only [tempName, String.length_append]
    have last : ".tmp".length = 4 := rfl
    omega
  have whole : '/' ∉ (self.tempName name).toList := by
    simp only [tempName, String.toList_append, List.mem_append, plain, digit_ne_slash]
    decide
  simp only [Files.isPlain, Bool.and_eq_true, bne_iff_ne, Bool.not_eq_true',
    List.contains_eq_mem, decide_eq_false_iff_not]
  refine ⟨⟨⟨?_, ?_⟩, ?_⟩, whole⟩
  all_goals
    intro same
    rw [same] at long
    revert long
    decide

/-- The temporary file lies beside what it is to replace. -/
theorem temp_apart {other : Location} {last : Name} (named : request.localPath.fileName = some last)
    (located : disk.locate request.localPath = some location)
    (found : disk.locate (self.tempDownloadPath request.localPath) = some other) :
    other ≠ location := by
  obtain ⟨parent, above, path⟩ := Path.child_of_fileName named
  have plain : Files.isPlain (self.tempName last.text) = true := by
    apply isPlain_tempName
    have rules := last.plain
    simp only [Files.isPlain, Bool.and_eq_true, Bool.not_eq_true', List.contains_eq_mem,
      decide_eq_false_iff_not] at rules
    exact rules.2
  have beside : self.tempDownloadPath request.localPath =
      parent.child ⟨self.tempName last.text, plain⟩ := by
    rw [tempDownloadPath, above, named]
    exact (congrArg _ (Path.ofString_text ⟨_, plain⟩)).trans (Path.join_normal _ _)
  rw [path] at located
  rw [beside] at found
  have own := Disk.locate_follow located
  have temp := Disk.locate_follow found
  rw [Path.follow_child] at own temp
  intro same
  rw [own, temp] at same
  have names := List.singleton_inj.mp (List.append_cancel_left same)
  have texts : self.tempName last.text = last.text := congrArg Name.text names
  have longer : last.text.length < (self.tempName last.text).length := length_tempName
  rw [texts] at longer
  exact Nat.lt_irrefl _ longer

theorem checkDestination_ends : (self.checkDestination request).Ends disk
    (fun there after => after = disk ∧
      (there = false → disk.metadata request.localPath = none) ∧
      (there = true → request.localPath.fileName ≠ none))
    fun _ after => after = disk := by
  unfold Attempt.Ends checkDestination
  cases self.unreadable disk request.localPath with
  | some reason => exact rfl
  | none =>
      cases metadata : disk.metadata request.localPath with
      | none => exact ⟨rfl, fun _ => rfl, by simp⟩
      | some node =>
          dsimp only
          by_cases directory : node.isDirectory = true
          · rw [if_pos directory]
          · rw [if_neg directory]
            refine ⟨rfl, by simp, fun _ unnamed => directory ?_⟩
            obtain ⟨location, located, there⟩ := Option.bind_eq_some_iff.mp metadata
            have ended := Files.directoryAt_of_unnamed unnamed located
            rw [Disk.directoryAt, Files.directoryIn, there] at ended
            exact ended

theorem create_ends : (self.create temp).Ends disk
    (fun out after => disk.locate temp = some out ∧ Within (· = out) disk after ∧
      after.fileAt out = some [])
    fun _ after => after = disk := by
  unfold Attempt.Ends create
  cases located : disk.locate temp with
  | none => exact rfl
  | some location =>
      rw [Option.bind_some]
      cases opened : self.host.openAt disk location true with
      | none => exact rfl
      | some after => exact ⟨rfl, Files.openAt_within opened, Files.openAt_file opened⟩

theorem writeAll_ends {bytes written : List UInt8} (file : disk.fileAt out = some written) :
    (self.writeAll temp out bytes).Ends disk
      (fun _ after => Within (· = out) disk after ∧ after.fileAt out = some (written ++ bytes))
      fun _ after => Within (· = out) disk after := by
  have within : Within (· = out) disk (self.host.appendAt disk out bytes).2 :=
    Files.appendAt_within bytes
  unfold Attempt.Ends writeAll
  cases appended : self.host.appendAt disk out bytes with
  | mk whole after =>
      rw [appended] at within
      cases whole with
      | true => exact ⟨within, Files.appendAt_file file appended⟩
      | false => exact within

/-- All chunks are good, and their bytes behind those that were there. -/
structure Written (out : Location) (chunks : List (Except Error (List UInt8)))
    (written : List UInt8) (before after : Disk) : Prop where
  good : ∀ chunk ∈ chunks, ∃ bytes, chunk = .ok bytes
  within : Within (· = out) before after
  file : after.fileAt out = some (written ++ yielded chunks)

theorem writeChunks_ends {chunks : List (Except Error (List UInt8))} {written : List UInt8}
    {received : Nat} (file : disk.fileAt out = some written) :
    (self.writeChunks settings request temp out chunks received).Ends disk
      (fun _ after => Written out chunks written disk after)
      fun _ after => Within (· = out) disk after := by
  induction chunks generalizing disk written received with
  | nil =>
      apply Attempt.ends_done
      exact ⟨by simp, .refl disk, by rw [file]; simp [yielded]⟩
  | cons chunk rest ih =>
      rw [writeChunks]
      apply Attempt.ends_bind fun bytes after => chunk = .ok bytes ∧ after = disk
      · apply Attempt.ends_mapError
        apply Attempt.ends_lift
        · intro bytes good
          exact ⟨good, rfl⟩
        · intro _ _
          exact .refl disk
      · intro bytes between ⟨good, same⟩
        rw [same]
        apply Attempt.ends_bind _ (writeAll_ends file)
        intro _ next ⟨within, longer⟩
        apply (ih longer).mono
        · intro _ after done
          refine ⟨?_, within.trans done.within, ?_⟩
          · intro other mem
            cases List.mem_cons.mp mem with
            | inl own => exact ⟨bytes, own.trans good⟩
            | inr later => exact done.good other later
          · rw [done.file, good]
            simp [yielded, Except.toOption]
        · intro _ after failed
          exact within.trans failed

theorem transfer_ends (file : disk.fileAt out = some []) :
    (self.transfer settings request temp out).Ends disk
      (fun _ after => ∃ chunks, request.answer = .ok chunks ∧ Written out chunks [] disk after)
      fun _ after => Within (· = out) disk after := by
  rw [transfer]
  apply Attempt.ends_bind fun chunks after => request.answer = .ok chunks ∧ after = disk
  · apply Attempt.ends_mapError
    apply Attempt.ends_lift
    · intro chunks answered
      exact ⟨answered, rfl⟩
    · intro _ _
      exact .refl disk
  · intro chunks between ⟨answered, same⟩
    rw [same]
    apply Attempt.ends_bind _ (writeChunks_ends file)
    intro received after written
    apply Attempt.ends_bind fun _ last => last = after
    · unfold Attempt.Ends flush
      cases self.unflushed after out with
      | none => exact rfl
      | some reason => exact written.within
    · intro _ last same
      rw [same]
      exact ⟨chunks, answered, written⟩

/-- Whether or not the temporary file of a failed transfer goes, nothing else does. -/
theorem transferOrRemove_ends (located : disk.locate temp = some out)
    (file : disk.fileAt out = some []) :
    (self.transferOrRemove settings request temp out).Ends disk
      (fun _ after => ∃ chunks, request.answer = .ok chunks ∧ Written out chunks [] disk after)
      fun _ after => Within (· = out) disk after := by
  have ends : (self.transfer settings request temp out).Ends disk _ _ := transfer_ends file
  unfold Attempt.Ends at ends ⊢
  unfold transferOrRemove
  cases ran : self.transfer settings request temp out disk with
  | mk result after =>
      rw [ran] at ends
      cases result with
      | ok received => exact ends
      | error error =>
          have found : after.locate temp = some out := by
            rw [ends.locate, located]
          have removed : Within (· = out) after (self.host.removeFile after temp).2 := by
            rw [Host.removeFile, found]
            exact Files.unlinkAt_within ..
          exact ends.trans removed

theorem removeOld_ends {path : Path} : (self.removeOld path).Ends disk
    (fun _ after => ∃ location, disk.locate path = some location ∧
      Within (· = location) disk after ∧ after.node location = none)
    fun _ after => after = disk := by
  unfold Attempt.Ends removeOld Host.removeFile
  cases located : disk.locate path with
  | none => exact rfl
  | some location =>
      have within := Files.unlinkAt_within self.host disk location
      dsimp only
      cases removed : self.host.unlinkAt disk location with
      | mk gone after =>
          rw [removed] at within
          cases gone with
          | true => exact ⟨location, rfl, within, Files.unlinkAt_gone removed⟩
          | false => exact Files.unlinkAt_failed removed

end

/-- A file that was at a path is still there, with its content. -/
def KeepsOld (path : Path) (before after : Disk) : Prop :=
  ∀ location bytes, before.locate path = some location → before.fileAt location = some bytes →
    after.locate path = some location ∧ after.fileAt location = some bytes

/-- A path leads to a file of exactly these bytes, and there is no temporary file. -/
structure HoldsNew (path temp : Path) (bytes : List UInt8) (after : Disk) : Prop where
  file : ∃ location, after.locate path = some location ∧ after.fileAt location = some bytes
  clean : after.present temp = false

/-- The temporary file is complete, and nothing is left of a file at the local path. -/
structure Prepared (machine : Machine) (request : Download)
    (chunks : List (Except Error (List UInt8)))
    (out : Location) (before after : Disk) : Prop where
  answer : request.answer = .ok chunks
  good : ∀ chunk ∈ chunks, ∃ bytes, chunk = .ok bytes
  temp : before.locate (machine.tempDownloadPath request.localPath) = some out
  file : after.fileAt out = some (yielded chunks)
  paths : ∀ path, after.locate path = before.locate path
  apart : ∀ location, before.locate request.localPath = some location → out ≠ location
  removed : ∀ location bytes, before.locate request.localPath = some location →
    before.fileAt location = some bytes → after.node location = none

section

variable {self : Machine} {settings : Settings} {request : Download} {disk before after : Disk}
  {out : Location}

theorem KeepsOld.refl (path : Path) (disk : Disk) : KeepsOld path disk disk :=
  fun _ _ located file => ⟨located, file⟩

theorem keepsOld_within {path : Path} (within : Within (· = out) before after)
    (apart : ∀ location, before.locate path = some location → out ≠ location) :
    KeepsOld path before after := by
  intro location bytes located file
  refine ⟨(within.locate path).trans located, ?_⟩
  rw [← file]
  exact Files.fileAt_congr (within.node location fun same => apart location located same.symm)

/-- Nothing that a file could be taken for is where the metadata finds nothing. -/
theorem temp_apart_of_checked {there : Bool}
    (missing : there = false → disk.metadata request.localPath = none)
    (named : there = true → request.localPath.fileName ≠ none)
    (temp : disk.locate (self.tempDownloadPath request.localPath) = some out)
    {location : Location} (located : disk.locate request.localPath = some location) :
    out ≠ location := by
  cases name : request.localPath.fileName with
  | some last => exact temp_apart name located temp
  | none =>
      cases there with
      | true => exact absurd name (named rfl)
      | false =>
          have nothing : disk.node location = none := by
            have missing := missing rfl
            rw [Disk.metadata, located] at missing
            exact missing
          have ended := Files.directoryAt_of_unnamed name located
          rw [Disk.directoryAt, Files.directoryIn, nothing] at ended
          cases ended

theorem prepare_ends : (self.prepare settings request).Ends disk
    (fun _ after => ∃ chunks out, Prepared self request chunks out disk after)
    fun _ after => KeepsOld request.localPath disk after := by
  rw [prepare]
  apply Attempt.ends_bind fun there after => after = disk ∧
    (there = false → disk.metadata request.localPath = none) ∧
    (there = true → request.localPath.fileName ≠ none)
  · apply checkDestination_ends.mono
    · intro _ _ checked
      exact checked
    · intro _ after same
      rw [same]
      exact .refl _ disk
  · rintro there between ⟨same, missing, named⟩
    rw [same]
    by_cases refused : (there && !request.replace) = true
    · rw [if_pos refused]
      exact Attempt.ends_fail (.refl _ disk)
    · rw [if_neg refused]
      apply Attempt.ends_bind fun out after =>
        disk.locate (self.tempDownloadPath request.localPath) = some out ∧
          Within (· = out) disk after ∧ after.fileAt out = some []
      · apply create_ends.mono
        · intro _ _ created
          exact created
        · intro _ after same
          rw [same]
          exact .refl _ disk
      · rintro out opened ⟨temp, within, file⟩
        have apart : ∀ location, disk.locate request.localPath = some location → out ≠ location :=
          fun _ => temp_apart_of_checked missing named temp
        have located := (within.locate _).trans temp
        apply Attempt.ends_bind fun _ after =>
          ∃ chunks, request.answer = .ok chunks ∧ Written out chunks [] opened after
        · apply (transferOrRemove_ends located file).mono
          · intro _ _ transferred
            exact transferred
          · intro _ after failed
            exact keepsOld_within (within.trans failed) apart
        · rintro received after ⟨chunks, answer, written⟩
          have whole := within.trans written.within
          have complete : after.fileAt out = some (yielded chunks) := written.file
          cases there with
          | false =>
              apply Attempt.ends_pure
              refine ⟨chunks, out, answer, written.good, temp, complete, whole.locate, apart, ?_⟩
              intro location bytes there file
              have nothing := missing rfl
              rw [Disk.metadata, there, Option.bind_some] at nothing
              rw [Disk.fileAt, nothing] at file
              cases file
          | true =>
              apply Attempt.ends_bind fun _ last => ∃ location,
                after.locate request.localPath = some location ∧
                  Within (· = location) after last ∧ last.node location = none
              · apply removeOld_ends.mono
                · intro _ _ removed
                  exact removed
                · intro _ last same
                  rw [same]
                  exact keepsOld_within whole apart
              · rintro _ last ⟨location, there, removed, gone⟩
                rw [whole.locate] at there
                apply Attempt.ends_pure
                refine ⟨chunks, out, answer, written.good, temp, ?_, ?_, apart, ?_⟩
                · rw [← complete]
                  exact Files.fileAt_congr (removed.node out (apart location there))
                · intro path
                  rw [removed.locate, whole.locate]
                · intro other bytes located _
                  rw [there, Option.some.injEq] at located
                  rw [← located]
                  exact gone

/-- The rename that is all that is left to do. -/
theorem moveTemp_moved {chunks : List (Except Error (List UInt8))}
    (prepared : Prepared self request chunks out disk before)
    (moved : self.host.rename before (self.tempDownloadPath request.localPath) request.localPath =
      some after) :
    HoldsNew request.localPath (self.tempDownloadPath request.localPath) (yielded chunks)
      after := by
  unfold Host.rename at moved
  rw [prepared.paths, prepared.paths, prepared.temp] at moved
  cases located : disk.locate request.localPath with
  | none =>
      rw [located] at moved
      cases moved
  | some location =>
      rw [located] at moved
      have arrived := Files.renameAt_moved prepared.file (prepared.apart location located) moved
      have paths := fun path => (arrived.within.locate path).trans (prepared.paths path)
      refine ⟨⟨location, (paths _).trans located, arrived.arrived⟩, ?_⟩
      rw [Disk.present, Disk.metadata, paths, prepared.temp, Option.bind_some, arrived.gone]
      rfl

end

/-- The old file is removed, and then the new one can't be put in its place. -/
def Strands (self : Machine) (settings : Settings) (request : Download) (disk : Disk) : Prop :=
  (∃ location bytes, disk.locate request.localPath = some location ∧
    disk.fileAt location = some bytes) ∧
  ∃ received ready, self.prepare settings request disk = (.ok received, ready) ∧
    self.host.rename ready (self.tempDownloadPath request.localPath) request.localPath = none

/-- A download that fails leaves the old file, and one that succeeds the new one and nothing else,
if and only if the old file is not removed for a rename that fails. -/
theorem downloadFile_safe (self : Machine) (settings : Settings) (request : Download)
    (disk : Disk) :
    (self.downloadFile settings request).Ends disk
      (fun _ after => ∃ chunks, request.answer = .ok chunks ∧
        (∀ chunk ∈ chunks, ∃ bytes, chunk = .ok bytes) ∧
        HoldsNew request.localPath (self.tempDownloadPath request.localPath) (yielded chunks) after)
      (fun _ after => KeepsOld request.localPath disk after) ↔
    ¬ self.Strands settings request disk := by
  have prepared : (self.prepare settings request).Ends disk _ _ := prepare_ends
  have run : self.downloadFile settings request disk =
      Attempt.andThen (self.prepare settings request) (fun received =>
        Attempt.andThen (self.moveTemp (self.tempDownloadPath request.localPath) request.localPath)
          fun _ => Attempt.done received) disk := rfl
  unfold Attempt.Ends Strands
  unfold Attempt.Ends at prepared
  rw [run, Attempt.andThen]
  cases ran : self.prepare settings request disk with
  | mk result ready =>
      rw [ran] at prepared
      cases result with
      | error error =>
          dsimp only at prepared ⊢
          simp [prepared]
      | ok received =>
          obtain ⟨chunks, out, prepared⟩ := prepared
          dsimp only
          rw [Attempt.andThen, moveTemp]
          cases moved : self.host.rename ready (self.tempDownloadPath request.localPath)
              request.localPath with
          | some after =>
              constructor
              · intro _ ⟨_, other, last, same, failed⟩
                rw [Prod.mk.injEq] at same
                rw [← same.2, moved] at failed
                cases failed
              · intro _
                exact ⟨chunks, prepared.answer, prepared.good, moveTemp_moved prepared moved⟩
          | none =>
              constructor
              · intro keeps ⟨⟨location, bytes, located, file⟩, _⟩
                have kept := (keeps location bytes located file).2
                rw [Disk.fileAt, prepared.removed location bytes located file] at kept
                cases kept
              · intro safe location bytes located file
                exact absurd ⟨⟨location, bytes, located, file⟩, received, ready, rfl, moved⟩ safe

end Machine

def song : Name := ⟨"song", rfl⟩

def oneSong : Disk :=
  Disk.bare.put [song] ⟨.file [1], none, none⟩ (.write [song]) rfl fun there =>
    absurd there (by decide)

/-- A machine that refuses to rename, and nothing else. -/
def renameless : Machine where
  host := ⟨fun _ call => if call.targets.length = 2 then some 0 else none, .asIs, fun _ => 0,
    fun _ _ => 0, 16⟩
  unreadable _ _ := none
  unflushed _ _ := none
  reason _ _ := "not permitted"
  display _ := "song"
  nonce := 0
  processId := 1

def replaceSong : Download := ⟨"/song", ⟨[.normal song]⟩, true, .ok [.ok [2]]⟩

/-- The download fails, and the file that was there is lost. -/
theorem replaceSong_strands :
    oneSong.locate ⟨[.normal song]⟩ = some [song] ∧ oneSong.fileAt [song] = some [1] ∧
      (renameless.downloadFile ⟨false, false⟩ replaceSong oneSong).1 =
        .error (.new .other "replace local file: not permitted") ∧
      (renameless.downloadFile ⟨false, false⟩ replaceSong oneSong).2.fileAt [song] = none := by
  decide +kernel

end Cli
