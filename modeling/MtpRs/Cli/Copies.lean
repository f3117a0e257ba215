import MtpRs.Cli.Obliging

set_option autoImplicit false

/- Copies of what a store holds, and what stays when one is made. -/
namespace Cli

open Attempts (Attempt)
open Mtp (Error ObjectEntry ObjectHandle Storage)

namespace Store

variable {store before after : Store} {handle folder : ObjectHandle} {p : Stored}

/-- No folder holds two objects of one name. -/
def NamesUnique (store : Store) : Prop :=
  ∀ o ∈ store.objects, ∀ p ∈ store.objects, o.parent = p.parent → o.name = p.name → o = p

/-- A handle that no object has, and none is in. -/
structure Unused (store : Store) (handle : ObjectHandle) : Prop where
  notRoot : handle ≠ ObjectHandle.root
  absent : ∀ o ∈ store.objects, o.handle ≠ handle
  childless : ∀ o ∈ store.objects, o.parent ≠ handle

/-- An object, and everything inside it. -/
inductive Within (store : Store) (top : ObjectHandle) : ObjectHandle → Prop where
  | top : Within store top top
  | inside {o : Stored} : o ∈ store.objects → Within store top o.parent → Within store top o.handle

/-- Objects of one store and of another that are alike, with what is in them. -/
structure Twins (store other : Store) (twin : ObjectHandle → ObjectHandle → Prop) : Prop where
  alike : ∀ a b, twin a b → ∃ o p, store.find a = some o ∧ other.find b = some p ∧
    p.folder = o.folder ∧ p.content = o.content
  there : ∀ a b, twin a b → ∀ o ∈ store.children a,
    ∃ p ∈ other.children b, p.name = o.name ∧ twin o.handle p.handle
  back : ∀ a b, twin a b → ∀ p ∈ other.children b,
    ∃ o ∈ store.children a, p.name = o.name ∧ twin o.handle p.handle

/-- An object of the other store is a copy of one of this store, but for its name. -/
def CopyOf (store other : Store) (source copy : ObjectHandle) : Prop :=
  ∃ twin, twin source copy ∧ Twins store other twin

/-- What a copy makes of a store: a new object under the source's name, which is a copy of it, and
nothing else but what is inside that. -/
structure Copied (handle folder copy : ObjectHandle) (before after : Store) : Prop where
  new : before.Unused copy
  made : ∃ source ∈ before.objects, source.handle = handle ∧
    { source with handle := copy, parent := folder } ∈ after.objects
  old : ∀ p ∈ before.objects, p ∈ after.objects
  fresh : ∀ p ∈ after.objects, p ∉ before.objects → before.Unused p.handle
  inner : ∀ p ∈ after.objects, p ∉ before.objects → p.handle ≠ copy → after.Within copy p.parent
  alike : ∃ twin, twin handle copy ∧ Twins before after twin ∧
    ∀ a b, twin a b → before.Unused b

/-- What the creation of a folder makes of a store. -/
structure Created (folder : ObjectHandle) (name : String) (handle : ObjectHandle)
    (before after : Store) : Prop where
  new : before.Unused handle
  made : ∃ made : Stored, made.handle = handle ∧ made.parent = folder ∧ made.name = name ∧
    ∀ p, p ∈ after.objects ↔ p ∈ before.objects ∨ p = made

theorem eq_of_handle {o : Stored} (mem : o ∈ store.objects) (there : p ∈ store.objects)
    (same : o.handle = p.handle) : o = p :=
  List.inj_on_of_nodup_map store.distinct mem there same

theorem mem_of_only (only : Only handle before after) (other : p.handle ≠ handle) :
    p ∈ after.objects ↔ p ∈ before.objects := by
  have same := only p.handle other
  constructor
  · intro mem
    exact (mem_of_find (same.symm.trans (find_self mem))).1
  · intro mem
    exact (mem_of_find (same.trans (find_self mem))).1

/-- One object is changed and keeps its handle, and no other is. -/
theorem mem_of_changed {f : Stored → Stored} (keeps : ∀ o, (f o).handle = o.handle)
    (object : after.find handle = (before.find handle).map f) (only : Only handle before after) :
    p ∈ after.objects ↔ (p ∈ before.objects ∧ p.handle ≠ handle) ∨
      ∃ o ∈ before.objects, o.handle = handle ∧ p = f o := by
  by_cases same : p.handle = handle
  · constructor
    · intro mem
      have found := find_self mem
      rw [same, object, Option.map_eq_some_iff] at found
      obtain ⟨o, there, rfl⟩ := found
      exact Or.inr ⟨o, (mem_of_find there).1, (mem_of_find there).2, rfl⟩
    · rintro (⟨-, other⟩ | ⟨o, there, rfl, rfl⟩)
      · exact absurd same other
      · rw [find_self there, Option.map_some] at object
        exact (mem_of_find object).1
  · rw [mem_of_only only same]
    constructor
    · exact fun mem => Or.inl ⟨mem, same⟩
    · rintro (⟨mem, -⟩ | ⟨o, -, named, rfl⟩)
      · exact mem
      · exact absurd ((keeps o).trans named) same

theorem mem_of_changed_known {f : Stored → Stored} {o : Stored}
    (keeps : ∀ o, (f o).handle = o.handle)
    (object : after.find handle = (before.find handle).map f) (only : Only handle before after)
    (known : o ∈ before.objects) (named : o.handle = handle) :
    p ∈ after.objects ↔ (p ∈ before.objects ∧ p.handle ≠ handle) ∨ p = f o := by
  rw [mem_of_changed keeps object only]
  apply or_congr_right
  constructor
  · rintro ⟨other, there, same, rfl⟩
    rw [eq_of_handle there known (same.trans named.symm)]
  · rintro rfl
    exact ⟨o, known, named, rfl⟩

theorem mem_of_deleted (deleted : Deleted handle before after)
    (alone : ∀ o, before.find handle = some o → o.folder = true → before.children handle = []) :
    p ∈ after.objects ↔ p ∈ before.objects ∧ p.handle ≠ handle := by
  by_cases same : p.handle = handle
  · constructor
    · intro mem
      have found := find_self mem
      rw [same, deleted.gone] at found
      cases found
    · exact fun there => absurd same there.2
  · rw [mem_of_only (deleted.others alone) same]
    exact ⟨fun mem => ⟨mem, same⟩, And.left⟩

/-- Under another name than its own, a target's name is free but for the file in its place. -/
theorem NamesUnique.free (unique : store.NamesUnique) {path : RemotePath} {localName : String}
    {t : Target} (resolved : store.target path localName = some t) (renamed : t.name ≠ localName)
    (mem : p ∈ store.objects) (parent : p.parent = t.folder) (name : p.name = t.name) :
    t.existing = some p := by
  rcases target_cases resolved with rfl | ⟨inner, _, _, rfl⟩ | ⟨_, _, noFolder, existing⟩
  · exact absurd rfl renamed
  · exact absurd rfl renamed
  · have child := mem_children.mpr ⟨mem, parent⟩
    have file : p.folder = false := by
      by_contra folder
      have refused := List.find?_eq_none.mp noFolder p child
      simp [name, folder] at refused
    rw [existing]
    cases found : (store.children t.folder).find? fun o => o.name == t.name && !o.folder with
    | none =>
        have refused := List.find?_eq_none.mp found p child
        simp [name, file] at refused
    | some other =>
        have test := List.find?_some found
        have there := mem_children.mp (List.mem_of_find?_eq_some found)
        rw [Bool.and_eq_true, beq_iff_eq] at test
        rw [unique other there.1 p mem (there.2.trans parent.symm) (test.1.trans name.symm)]

/-- A target's folder is the root, or a folder that is there. -/
theorem folderAt_there {components : List String}
    (found : store.folderAt components = some folder) :
    folder = ObjectHandle.root ∨ ∃ f ∈ store.objects, f.handle = folder ∧ f.folder = true := by
  cases components with
  | nil =>
      cases found
      exact Or.inl rfl
  | cons name rest =>
      simp only [folderAt] at found
      cases located : store.locateFrom ObjectHandle.root name rest with
      | none =>
          rw [located] at found
          cases found
      | some o =>
          rw [located] at found
          dsimp only at found
          by_cases inside : o.folder = true
          · rw [if_pos inside, Option.some.injEq] at found
            exact Or.inr ⟨o, locateFrom_mem located, found, inside⟩
          · rw [if_neg inside] at found
            cases found

theorem target_folder {path : RemotePath} {localName : String} {t : Target}
    (resolved : store.target path localName = some t) :
    t.folder = ObjectHandle.root ∨ ∃ f ∈ store.objects, f.handle = t.folder ∧ f.folder = true := by
  rcases target_cases resolved with rfl | ⟨inner, mem, folder, rfl⟩ | ⟨_, there, _, _⟩
  · exact Or.inl rfl
  · exact Or.inr ⟨inner, mem, rfl, folder⟩
  · exact folderAt_there there

/-- What is known of a source and a destination when a copy begins. -/
structure Ready (store : Store) (source : Stored) (t : Target) : Prop where
  mem : source ∈ store.objects
  apart : ¬ store.Within source.handle t.folder
  folder : t.folder = ObjectHandle.root ∨
    ∃ f ∈ store.objects, f.handle = t.folder ∧ f.folder = true
  existing : ∀ e, t.existing = some e →
    e ∈ store.objects ∧ e.folder = false ∧ e.parent = t.folder ∧ e.handle ≠ source.handle
  free : ∀ p ∈ store.objects, p.parent = t.folder → p.name = t.name → t.existing = some p

/-- What the copy is made in: what stays of the store, and what was put in the destination folder
for the time being. -/
structure Staged (store : Store) (t : Target) (extra : Stored → Prop) (before : Store) : Prop where
  mem : ∀ p, p ∈ before.objects ↔ (p ∈ store.objects ∧ t.existing ≠ some p) ∨ extra p
  there : ∀ p, extra p → p.parent = t.folder
  new : ∀ p, extra p → ∀ o ∈ store.objects, t.existing ≠ some o → o.handle ≠ p.handle

/-- What is left at the end: what stays of the store, the copy in its place, and what is in it. -/
def Leaves (store : Store) (source : Stored) (t : Target) (copy : ObjectHandle)
    (before copied after : Store) : Prop :=
  ∀ p, p ∈ after.objects ↔ (p ∈ store.objects ∧ t.existing ≠ some p) ∨
    p = { source with handle := copy, parent := t.folder, name := t.name } ∨
      (p ∈ copied.objects ∧ p ∉ before.objects ∧ p.handle ≠ copy)

/-- What is asked of a copy that is reported. -/
structure CopyMade (before after : Store) (source : Stored) (t : Target) (copy : ObjectHandle) :
    Prop where
  made : ∃ o, after.find copy = some o ∧ o.parent = t.folder ∧ o.name = t.name
  only : ∀ o ∈ after.objects, o.parent = t.folder → o.name = t.name → o.handle = copy
  alike : before.CopyOf after source.handle copy
  others : ∀ o ∈ before.objects, t.existing ≠ some o → after.find o.handle = some o
  new : ∀ p ∈ after.objects, p ∉ before.objects → p.handle = copy ∨ after.Within copy p.parent

section

variable {source : Stored} {t : Target} {copy place a b : ObjectHandle} {extra : Stored → Prop}
  {copied : Store} {q : Stored}

theorem Ready.source_stays (ready : store.Ready source t) : t.existing ≠ some source :=
  fun there => (ready.existing source there).2.2.2 rfl

theorem Staged.unused_ne_folder (staged : store.Staged t extra before)
    (folder : t.folder = ObjectHandle.root ∨
      ∃ f ∈ store.objects, f.handle = t.folder ∧ f.folder = true)
    (file : ∀ e, t.existing = some e → e.folder = false) (unused : before.Unused b) :
    b ≠ t.folder := by
  intro same
  rcases folder with root | ⟨f, mem, named, inside⟩
  · exact unused.notRoot (same.trans root)
  · have stays : t.existing ≠ some f := by
      intro there
      have notFolder := file f there
      rw [inside] at notFolder
      cases notFolder
    exact unused.absent f ((staged.mem f).mpr (Or.inl ⟨mem, stays⟩)) (named.trans same.symm)

theorem Staged.unused_ne (staged : store.Staged t extra before) (ready : store.Ready source t)
    (unused : before.Unused b) : b ≠ t.folder :=
  staged.unused_ne_folder ready.folder (fun e there => (ready.existing e there).2.1) unused

/-- A file that is deleted is not in the source. -/
theorem Ready.within_ne (ready : store.Ready source t) (within : store.Within source.handle a)
    {e : Stored} (there : t.existing = some e) : a ≠ e.handle := by
  obtain ⟨mem, -, parent, apart⟩ := ready.existing e there
  rintro rfl
  generalize handle : e.handle = a at within
  cases within with
  | top => exact apart handle
  | @inside o known inner =>
      have same : o = e := eq_of_handle known mem handle.symm
      rw [same, parent] at inner
      exact ready.apart inner

/-- Nothing of the source is different where the copy is made. -/
theorem Staged.mem_within (staged : store.Staged t extra before) (ready : store.Ready source t)
    (within : store.Within source.handle a) (parent : p.parent = a) :
    p ∈ before.objects ↔ p ∈ store.objects := by
  have apart : p.parent ≠ t.folder := by
    intro same
    rw [← parent, same] at within
    exact ready.apart within
  rw [staged.mem]
  constructor
  · rintro (⟨mem, -⟩ | added)
    · exact mem
    · exact absurd (staged.there p added) apart
  · intro mem
    refine Or.inl ⟨mem, fun there => ?_⟩
    exact apart (ready.existing p there).2.2.1

theorem Staged.find_within (staged : store.Staged t extra before) (ready : store.Ready source t)
    (within : store.Within source.handle a) (found : before.find a = some p) :
    store.find a = some p := by
  obtain ⟨mem, named⟩ := mem_of_find found
  rw [find_iff]
  refine ⟨?_, named⟩
  rcases (staged.mem p).mp mem with ⟨there, -⟩ | added
  · exact there
  · have ends : ∀ o ∈ store.objects, o.handle = a → t.existing ≠ some o → False :=
      fun o known same stays => staged.new p added o known stays (same.trans named.symm)
    cases within with
    | top => exact (ends source ready.mem rfl ready.source_stays).elim
    | @inside o known inner =>
        refine (ends o known rfl fun there => ?_).elim
        exact ready.within_ne (.inside known inner) there rfl

/-- From the store after the copy: the copy under its last name and in its last place, without what
was put in the destination folder for the time being. -/
theorem Staged.leaves (staged : store.Staged t extra before)
    (copies : Copied source.handle place copy before copied)
    (mem : ∀ p, p ∈ after.objects ↔ (p ∈ copied.objects ∧ p.handle ≠ copy ∧ ¬ extra p) ∨
      p = { source with handle := copy, parent := t.folder, name := t.name }) :
    store.Leaves source t copy before copied after := by
  intro p
  rw [mem]
  constructor
  · rintro (⟨made, other, kept⟩ | rfl)
    · by_cases there : p ∈ before.objects
      · exact Or.inl (((staged.mem p).mp there).resolve_right kept)
      · exact Or.inr (Or.inr ⟨made, there, other⟩)
    · exact Or.inr (Or.inl rfl)
  · rintro (stays | rfl | ⟨made, new, other⟩)
    · have there := (staged.mem p).mpr (Or.inl stays)
      refine Or.inl ⟨copies.old p there, copies.new.absent p there, fun added => ?_⟩
      exact staged.new p added p stays.1 stays.2 rfl
    · exact Or.inr rfl
    · exact Or.inl ⟨made, other, fun added => new ((staged.mem p).mpr (Or.inr added))⟩

theorem Leaves.find (leaves : store.Leaves source t copy before copied after)
    (copies : Copied source.handle place copy before copied) (inside : source ∈ before.objects)
    (unused : before.Unused b) (found : copied.find b = some p) :
    ∃ o, after.find b = some o ∧ o.folder = p.folder ∧ o.content = p.content := by
  obtain ⟨mem, rfl⟩ := mem_of_find found
  by_cases same : p.handle = copy
  · obtain ⟨original, there, named, made⟩ := copies.made
    cases eq_of_handle there inside named
    have is : p = { source with handle := copy, parent := place } :=
      eq_of_handle mem made same
    refine ⟨{ source with handle := copy, parent := t.folder, name := t.name }, ?_, ?_, ?_⟩
    · exact find_iff.mpr ⟨(leaves _).mpr (Or.inr (Or.inl rfl)), same.symm⟩
    · rw [is]
    · rw [is]
  · have new : p ∉ before.objects := fun there => unused.absent p there rfl
    exact ⟨p, find_self ((leaves p).mpr (Or.inr (Or.inr ⟨mem, new, same⟩))), rfl, rfl⟩

theorem Leaves.mem_inner (leaves : store.Leaves source t copy before copied after)
    (staged : store.Staged t extra before) (ready : store.Ready source t)
    (copies : Copied source.handle place copy before copied)
    (placed : ∀ b, before.Unused b → b ≠ place) (unused : before.Unused b) (parent : q.parent = b) :
    q ∈ copied.objects ↔ q ∈ after.objects := by
  rw [leaves]
  constructor
  · intro mem
    have new : q ∉ before.objects := fun there => unused.childless q there parent
    refine Or.inr (Or.inr ⟨mem, new, fun same => ?_⟩)
    obtain ⟨original, there, named, made⟩ := copies.made
    have is : q = { original with handle := copy, parent := place } := eq_of_handle mem made same
    rw [is] at parent
    exact placed b unused parent.symm
  · rintro (stays | rfl | ⟨mem, -⟩)
    · exact absurd parent (unused.childless q ((staged.mem q).mpr (Or.inl stays)))
    · exact absurd parent.symm (staged.unused_ne ready unused)
    · exact mem

/-- What is inside the copy is new, and is still inside it at the end. -/
theorem Copied.unused (copies : Copied handle place copy before copied)
    (within : copied.Within copy a) : before.Unused a := by
  induction within with
  | top => exact copies.new
  | @inside o mem _ ih => exact copies.fresh o mem fun there => ih.childless o there rfl

theorem Leaves.within (leaves : store.Leaves source t copy before copied after)
    (copies : Copied source.handle place copy before copied)
    (within : copied.Within copy a) : after.Within copy a := by
  induction within with
  | top => exact .top
  | @inside o mem inner ih =>
      have new : o ∉ before.objects := fun there => (copies.unused inner).childless o there rfl
      by_cases same : o.handle = copy
      · rw [same]
        exact .top
      · exact .inside ((leaves o).mpr (Or.inr (Or.inr ⟨mem, new, same⟩))) ih

theorem Leaves.copyMade (leaves : store.Leaves source t copy before copied after)
    (staged : store.Staged t extra before) (ready : store.Ready source t)
    (copies : Copied source.handle place copy before copied)
    (placed : ∀ b, before.Unused b → b ≠ place) : CopyMade store after source t copy := by
  have inside : source ∈ before.objects :=
    (staged.mem source).mpr (Or.inl ⟨ready.mem, ready.source_stays⟩)
  constructor
  · exact ⟨_, find_iff.mpr ⟨(leaves _).mpr (Or.inr (Or.inl rfl)), rfl⟩, rfl, rfl⟩
  · intro o mem parent name
    rcases (leaves o).mp mem with ⟨there, stays⟩ | rfl | ⟨made, new, other⟩
    · exact absurd (ready.free o there parent name) stays
    · rfl
    · have inner := copies.unused (copies.inner o made new other)
      exact absurd parent (staged.unused_ne ready inner)
  · obtain ⟨twin, first, twins, news⟩ := copies.alike
    refine ⟨fun a b => twin a b ∧ store.Within source.handle a, ⟨first, .top⟩, ?_, ?_, ?_⟩
    · rintro a b ⟨pair, within⟩
      obtain ⟨o, p, left, right, folder, content⟩ := twins.alike a b pair
      obtain ⟨last, found, sameFolder, sameContent⟩ :=
        leaves.find copies inside (news a b pair) right
      exact ⟨o, last, staged.find_within ready within left, found, sameFolder.trans folder,
        sameContent.trans content⟩
    · rintro a b ⟨pair, within⟩ o mem
      obtain ⟨known, parent⟩ := mem_children.mp mem
      have there := (staged.mem_within ready within parent).mpr known
      obtain ⟨p, child, name, next⟩ := twins.there a b pair o (mem_children.mpr ⟨there, parent⟩)
      obtain ⟨made, up⟩ := mem_children.mp child
      have last := (leaves.mem_inner staged ready copies placed (news a b pair) up).mp made
      refine ⟨p, mem_children.mpr ⟨last, up⟩, name, next, .inside known ?_⟩
      rw [parent]
      exact within
    · rintro a b ⟨pair, within⟩ p mem
      obtain ⟨last, up⟩ := mem_children.mp mem
      have made := (leaves.mem_inner staged ready copies placed (news a b pair) up).mpr last
      obtain ⟨o, child, name, next⟩ := twins.back a b pair p (mem_children.mpr ⟨made, up⟩)
      obtain ⟨there, parent⟩ := mem_children.mp child
      have known := (staged.mem_within ready within parent).mp there
      refine ⟨o, mem_children.mpr ⟨known, parent⟩, name, next, .inside known ?_⟩
      rw [parent]
      exact within
  · intro o mem stays
    exact find_self ((leaves o).mpr (Or.inl ⟨mem, stays⟩))
  · intro p mem new
    rcases (leaves p).mp mem with ⟨there, -⟩ | rfl | ⟨made, fresh, other⟩
    · exact absurd there new
    · exact Or.inl rfl
    · exact Or.inr (leaves.within copies (copies.inner p made fresh other))

end

end Store

end Cli
