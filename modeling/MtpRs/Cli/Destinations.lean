import MtpRs.Cli.Copies

set_option autoImplicit false

/- Which destinations are resolved to the folder they denote, with what stands in the way there. -/
namespace Cli

open Attempts (Attempt)
open Mtp (Error ObjectEntry ObjectHandle Storage)

namespace Store

/-- The folder a path denotes as a destination: the one it names, the root's included, and else the
one its last name is to be in. -/
def denoted (self : Store) (path : RemotePath) : Option ObjectHandle :=
  match self.folderAt path.components with
  | some folder => some folder
  | none => if path.trailingSlash then none else self.folderAt path.components.dropLast

def nameThere (self : Store) (path : RemotePath) (localName : String) : String :=
  if (self.folderAt path.components).isSome || path.trailingSlash then localName
  else path.components.getLast?.getD ""

/-- Where a path names a folder, nothing there has the local name; a file may, if the path ends in a
slash and is not the root's. -/
def Vacant (store : Store) (path : RemotePath) (localName : String) : Prop :=
  ∀ folder, store.folderAt path.components = some folder →
    ∀ o ∈ store.children folder, o.name = localName →
      path.trailingSlash = true ∧ path.isRoot = false ∧ o.folder = false

end Store

namespace Put

/-- How `put` makes room for its file. -/
def makeRoom {σ : Type} (storage : Storage σ) (settings : Settings) (replace : Bool) :
    Option ObjectEntry → Attempt σ CliError Unit
  | none => Attempt.done ()
  | some existing =>
      if replace then request settings "delete existing remote file"
        (storage.delete existing.handle)
      else
        Attempt.fail
          (.new .remotePath "remote file already exists; pass --replace to delete it first")

end Put

/-- Refused before anything is done. -/
def Refused {σ : Type} (check : Attempt σ CliError Unit) (state : σ) : Prop :=
  ∃ e, check state = (.error e, state)

/-- A resolved destination is the folder that is denoted, with the object of its name there, and the
commands that write there refuse to do so unasked where there is one. -/
structure Sees {σ : Type} (storage : Storage σ) (settings : Settings) (state : σ) (store : Store)
    (path : RemotePath) (localName : String) (t : UploadTarget) : Prop where
  folder : store.denoted path = some (t.parent.getD ObjectHandle.root)
  name : t.filename = store.nameThere path localName
  existing : ∀ s : Shown, t.existing.map shown = some s ↔
    ∃ o ∈ store.children (t.parent.getD ObjectHandle.root), o.name = t.filename ∧ o.shown = s
  put : Refused (Put.makeRoom storage settings false t.existing) state ↔
    ∃ o ∈ store.children (t.parent.getD ObjectHandle.root), o.name = t.filename
  transfer : ∀ source : ObjectHandle,
    Refused (replaceExisting storage settings source false t.existing) state ↔
      ∃ o ∈ store.children (t.parent.getD ObjectHandle.root), o.name = t.filename

section

variable {σ : Type} {storage : Storage σ} {settings : Settings} {state : σ}

theorem makeRoom_refused (existing : Option ObjectEntry) :
    Refused (Put.makeRoom storage settings false existing) state ↔ existing.isSome = true := by
  cases existing with
  | none =>
      refine iff_of_false ?_ Bool.false_ne_true
      intro ⟨e, refused⟩
      cases refused
  | some existing => exact iff_of_true ⟨_, rfl⟩ rfl

theorem replaceExisting_refused (source : ObjectHandle) (existing : Option ObjectEntry) :
    Refused (replaceExisting storage settings source false existing) state ↔
      existing.isSome = true := by
  cases existing with
  | none =>
      refine iff_of_false ?_ Bool.false_ne_true
      intro ⟨e, refused⟩
      cases refused
  | some existing =>
      refine iff_of_true ?_ rfl
      cases checked : ensureNotSameObject source existing.handle with
      | error e =>
          refine ⟨e, ?_⟩
          simp only [replaceExisting, checked]
          rfl
      | ok _ =>
          refine ⟨.new .remotePath
            "destination already exists; pass --replace to delete it first", ?_⟩
          simp only [replaceExisting, checked]
          rfl

/-- Without `--replace` a command refuses exactly where it was told of an object. -/
theorem sees_iff {store : Store} {path : RemotePath} {localName : String} {t : UploadTarget} :
    Sees storage settings state store path localName t ↔
      store.denoted path = some (t.parent.getD ObjectHandle.root) ∧
        t.filename = store.nameThere path localName ∧
        ∀ s : Shown, t.existing.map shown = some s ↔
          ∃ o ∈ store.children (t.parent.getD ObjectHandle.root),
            o.name = t.filename ∧ o.shown = s := by
  constructor
  · intro sees
    exact ⟨sees.folder, sees.name, sees.existing⟩
  · intro ⟨folder, name, existing⟩
    have told : t.existing.isSome = true ↔
        ∃ o ∈ store.children (t.parent.getD ObjectHandle.root), o.name = t.filename := by
      rw [Option.isSome_iff_exists]
      constructor
      · intro ⟨object, is⟩
        obtain ⟨o, mem, same, -⟩ := (existing (shown object)).mp (by rw [is, Option.map_some])
        exact ⟨o, mem, same⟩
      · intro ⟨o, mem, same⟩
        obtain ⟨object, is, -⟩ :=
          Option.map_eq_some_iff.mp ((existing o.shown).mpr ⟨o, mem, same, rfl⟩)
        exact ⟨object, is⟩
    exact ⟨folder, name, existing, (makeRoom_refused t.existing).trans told,
      fun source => (replaceExisting_refused source t.existing).trans told⟩

end

namespace Store

variable {store : Store} {path : RemotePath} {localName : String} {t : Target}

theorem locateFrom_concat (name : String) (rest : List String) :
    ∀ (folder : ObjectHandle) (first : String),
      store.locateFrom folder first (rest ++ [name]) =
        (store.locateFrom folder first rest).bind fun o =>
          if o.folder then store.child o.handle name else none := by
  induction rest with
  | nil =>
      intro folder first
      rw [List.nil_append, locateFrom, locateFrom]
      cases store.child folder first with
      | none => rfl
      | some o =>
          dsimp only [Option.bind_some]
          by_cases inside : o.folder = true
          · rw [if_pos inside, if_pos inside, locateFrom]
            cases store.child o.handle name with
            | none => rfl
            | some inner => rfl
          · rw [if_neg inside, if_neg inside]
  | cons next rest ih =>
      intro folder first
      rw [List.cons_append, locateFrom, locateFrom]
      cases store.child folder first with
      | none => rfl
      | some o =>
          dsimp only
          by_cases inside : o.folder = true
          · rw [if_pos inside, if_pos inside]
            exact ih o.handle next
          · rw [if_neg inside, if_neg inside, Option.bind_none]

/-- The folder of a longer path is in the folder of the shorter one. -/
theorem folderAt_concat (components : List String) (name : String) :
    store.folderAt (components ++ [name]) =
      (store.folderAt components).bind fun folder =>
        (store.child folder name).bind fun o => if o.folder then some o.handle else none := by
  cases components with
  | nil =>
      rw [List.nil_append, folderAt, folderAt, locateFrom, Option.bind_some]
      cases store.child ObjectHandle.root name with
      | none => rfl
      | some o => rfl
  | cons first rest =>
      rw [List.cons_append, folderAt, folderAt, locateFrom_concat]
      cases store.locateFrom ObjectHandle.root first rest with
      | none => rfl
      | some o =>
          dsimp only [Option.bind_some]
          by_cases inside : o.folder = true
          · rw [if_pos inside, if_pos inside, Option.bind_some]
            cases store.child o.handle name with
            | none => rfl
            | some inner => rfl
          · rw [if_neg inside, if_neg inside]
            rfl

/-- With unique names, a folder has one child of a name at most. -/
theorem child_iff (unique : store.NamesUnique) {folder : ObjectHandle} {name : String}
    {o : Stored} :
    store.child folder name = some o ↔ o ∈ store.children folder ∧ o.name = name := by
  constructor
  · intro found
    have test := List.find?_some found
    rw [beq_iff_eq] at test
    exact ⟨List.mem_of_find?_eq_some found, test⟩
  · rintro ⟨mem, rfl⟩
    cases found : store.child folder o.name with
    | none =>
        have refused := List.find?_eq_none.mp found o mem
        rw [beq_self_eq_true] at refused
        exact absurd rfl refused
    | some other =>
        have test := List.find?_some found
        rw [beq_iff_eq] at test
        have there := mem_children.mp (List.mem_of_find?_eq_some found)
        have here := mem_children.mp mem
        rw [unique other there.1 o here.1 (there.2.trans here.2.symm) test]

/-- So which kind it is can be asked before or after it is looked up. -/
theorem find_kind (unique : store.NamesUnique) (folder : ObjectHandle) (name : String)
    (kind : Stored → Bool) :
    ((store.children folder).find? fun o => o.name == name && kind o) =
      (store.child folder name).filter kind := by
  cases found : store.child folder name with
  | none =>
      rw [Option.filter_none, List.find?_eq_none]
      intro o mem test
      rw [Bool.and_eq_true, beq_iff_eq] at test
      rw [(child_iff unique).mpr ⟨mem, test.1⟩] at found
      cases found
  | some o =>
      have there := (child_iff unique).mp found
      cases other : (store.children folder).find? fun o => o.name == name && kind o with
      | some p =>
          have test := List.find?_some other
          rw [Bool.and_eq_true, beq_iff_eq] at test
          have same := (child_iff unique).mpr ⟨List.mem_of_find?_eq_some other, test.1⟩
          rw [found, Option.some.injEq] at same
          rw [same, Option.filter_some_pos test.2]
      | none =>
          have refused := List.find?_eq_none.mp other o there.1
          rw [there.2, beq_self_eq_true, Bool.true_and] at refused
          rw [Option.filter_some_neg (Bool.eq_false_of_not_eq_true refused)]

/-- What a command was told of the object in its way. -/
def Target.Tells (store : Store) (t : Target) : Prop :=
  ∀ s : Shown, t.existing.map (·.shown) = some s ↔
    ∃ o ∈ store.children t.folder, o.name = t.name ∧ o.shown = s

theorem tells_none {folder : ObjectHandle} {name : String} :
    Target.Tells store ⟨folder, name, none⟩ ↔ ∀ o ∈ store.children folder, o.name ≠ name := by
  unfold Target.Tells
  constructor
  · intro tells o mem same
    have told := (tells o.shown).mpr ⟨o, mem, same, rfl⟩
    cases told
  · intro vacant s
    refine iff_of_false nofun ?_
    intro ⟨o, mem, same, _⟩
    exact vacant o mem same

theorem tells_child (unique : store.NamesUnique) (folder : ObjectHandle) (name : String) :
    Target.Tells store ⟨folder, name, store.child folder name⟩ := by
  intro s
  rw [Option.map_eq_some_iff]
  constructor
  · intro ⟨o, found, same⟩
    have there := (child_iff unique).mp found
    exact ⟨o, there.1, there.2, same⟩
  · intro ⟨o, mem, named, same⟩
    exact ⟨o, (child_iff unique).mpr ⟨mem, named⟩, same⟩

inductive Looked (store : Store) (folder : ObjectHandle) (name localName : String) : Target → Prop
  | inner (o : Stored) : store.child folder name = some o → o.folder = true →
      Looked store folder name localName ⟨o.handle, localName, none⟩
  | other : (∀ o, store.child folder name = some o → o.folder = false) →
      Looked store folder name localName ⟨folder, name, store.child folder name⟩

theorem target_looked (unique : store.NamesUnique) (inside : path.isRoot = false)
    (resolved : store.target path localName = some t) :
    ∃ folder,
      store.folderAt (if path.trailingSlash then path.components else path.components.dropLast) =
        some folder ∧
      Looked store folder
        (if path.trailingSlash then localName else path.components.getLast?.getD "") localName
          t := by
  unfold target at resolved
  rw [inside] at resolved
  dsimp only at resolved
  generalize (if path.trailingSlash then localName else path.components.getLast?.getD "") = name
    at resolved ⊢
  simp only [Bool.false_eq_true, if_false] at resolved
  split at resolved
  · next folder _ there =>
      refine ⟨folder, there, ?_⟩
      rw [find_kind unique folder name (·.folder),
        find_kind unique folder name (!·.folder)] at resolved
      cases found : store.child folder name with
      | none =>
          rw [found] at resolved
          cases resolved
          rw [Option.filter_none, ← found]
          apply Looked.other
          intro o is
          rw [found] at is
          cases is
      | some o =>
          rw [found] at resolved
          by_cases isFolder : o.folder = true
          · rw [Option.filter_some_pos isFolder] at resolved
            cases resolved
            exact .inner o found isFolder
          · have file := Bool.eq_false_of_not_eq_true isFolder
            rw [Option.filter_some_neg file, Option.filter_some_pos (by rw [file]; rfl)] at resolved
            cases resolved
            rw [← found]
            apply Looked.other
            intro p is
            rw [found, Option.some.injEq] at is
            rw [← is]
            exact file
  · cases resolved

/-- The root is the destination folder: nothing in it has the local name. -/
theorem target_iff_root (root : path.isRoot = true)
    (resolved : store.target path localName = some t) :
    store.denoted path = some t.folder ∧ t.name = store.nameThere path localName ∧
        t.Tells store ↔
      store.Vacant path localName := by
  have empty : path.components = [] := List.isEmpty_iff.mp root
  have there : store.folderAt path.components = some ObjectHandle.root := by
    rw [empty]
    rfl
  unfold target at resolved
  rw [if_pos root, Option.some.injEq] at resolved
  subst resolved
  rw [tells_none]
  constructor
  · intro ⟨_, _, free⟩ folder found o mem named
    rw [there, Option.some.injEq] at found
    subst found
    exact absurd named (free o mem)
  · intro vacant
    refine ⟨by rw [denoted, there], by rw [nameThere, there]; rfl, ?_⟩
    intro o mem named
    have inside := (vacant _ there o mem named).2.1
    rw [root] at inside
    cases inside

/-- A path with a slash at its end is a folder's: what is looked at in it is the local name. -/
theorem target_iff_slash (unique : store.NamesUnique) (inside : path.isRoot = false)
    (slash : path.trailingSlash = true) (resolved : store.target path localName = some t) :
    store.denoted path = some t.folder ∧ t.name = store.nameThere path localName ∧
        t.Tells store ↔
      store.Vacant path localName := by
  obtain ⟨folder, there, looked⟩ := target_looked unique inside resolved
  simp only [slash, if_true] at there looked
  cases looked with
  | inner o found isFolder =>
      have mem := (child_iff unique).mp found
      refine iff_of_false ?_ ?_
      · intro ⟨same, _, tells⟩
        rw [denoted, there, Option.some.injEq] at same
        rw [same] at mem
        exact tells_none.mp tells o mem.1 mem.2
      · intro vacant
        have file := (vacant folder there o mem.1 mem.2).2.2
        rw [isFolder] at file
        cases file
  | other files =>
      refine iff_of_true ⟨?_, ?_, ?_⟩ ?_
      · rw [denoted, there]
      · rw [nameThere, there]
        rfl
      · exact tells_child unique folder localName
      · intro place found o mem named
        rw [there, Option.some.injEq] at found
        subst found
        exact ⟨slash, inside, files o ((child_iff unique).mpr ⟨mem, named⟩)⟩

theorem components_split (inside : path.isRoot = false) : path.components =
    path.components.dropLast ++ [path.components.getLast?.getD ""] := by
  cases ends : path.components.getLast? with
  | none =>
      rw [List.getLast?_eq_none_iff] at ends
      rw [RemotePath.isRoot, ends] at inside
      cases inside
  | some name =>
      rw [Option.getD_some]
      exact (List.dropLast_append_getLast? name ends).symm

/-- Without the slash the path's own name is looked at, in the folder above. -/
theorem target_iff_plain (unique : store.NamesUnique) (inside : path.isRoot = false)
    (plain : path.trailingSlash = false) (resolved : store.target path localName = some t) :
    store.denoted path = some t.folder ∧ t.name = store.nameThere path localName ∧
        t.Tells store ↔
      store.Vacant path localName := by
  obtain ⟨folder, there, looked⟩ := target_looked unique inside resolved
  have named : store.folderAt path.components = _ :=
    (congrArg store.folderAt (components_split inside)).trans (folderAt_concat _ _)
  simp only [plain, Bool.false_eq_true, if_false] at there looked
  rw [there, Option.bind_some] at named
  cases looked with
  | inner o found isFolder =>
      rw [found, Option.bind_some, if_pos isFolder] at named
      rw [tells_none]
      constructor
      · intro ⟨_, _, free⟩ place is p mem same
        rw [named, Option.some.injEq] at is
        subst is
        exact absurd same (free p mem)
      · intro vacant
        refine ⟨by rw [denoted, named], by rw [nameThere, named]; rfl, ?_⟩
        intro p mem same
        have slashed := (vacant _ named p mem same).1
        rw [plain] at slashed
        cases slashed
  | other files =>
      have none : store.folderAt path.components = none := by
        rw [named]
        cases found : store.child folder (path.components.getLast?.getD "") with
        | none => rfl
        | some o =>
            rw [Option.bind_some, if_neg]
            rw [files o found]
            exact Bool.false_ne_true
      refine iff_of_true ⟨?_, ?_, ?_⟩ ?_
      · rw [denoted, none, plain, if_neg Bool.false_ne_true]
        exact there
      · rw [nameThere, none, plain]
        rfl
      · exact tells_child unique folder _
      · intro place is
        rw [none] at is
        cases is

/-- The rules for a destination are kept where nothing is in the way that is not looked at. -/
theorem target_iff (unique : store.NamesUnique) (resolved : store.target path localName = some t) :
    store.denoted path = some t.folder ∧ t.name = store.nameThere path localName ∧
        t.Tells store ↔
      store.Vacant path localName := by
  cases root : path.isRoot with
  | true => exact target_iff_root root resolved
  | false =>
      cases slash : path.trailingSlash with
      | true => exact target_iff_slash unique root slash resolved
      | false => exact target_iff_plain unique root slash resolved

end Store

/-- A resolved destination is what its path denotes, with what is there, exactly where nothing is in
the way that is not looked at. -/
theorem destination_seen_iff {σ : Type} {storage : Storage σ} {view : σ → Store}
    (holds : Holds storage view) (settings : Settings) (path : RemotePath) (localName : String)
    {state after : σ} {t : UploadTarget} (unique : (view state).NamesUnique)
    (resolved : resolveUploadTarget storage settings path localName state = (.ok t, after)) :
    Sees storage settings after (view state) path localName t ↔
      (view state).Vacant path localName := by
  have ends := resolveUploadTarget_ends settings holds path localName state
  unfold Attempt.Ends at ends
  rw [resolved] at ends
  obtain ⟨_, found, there, is⟩ := ends
  rw [sees_iff, ← Store.target_iff unique there, is.folder, is.name, Store.Target.Tells,
    is.folder, is.name, is.existing]

def oneNote : Store where
  objects := [⟨1, 0, "note.txt", false, [7]⟩]
  distinct := by decide

theorem oneNote_unique : oneNote.NamesUnique := by
  unfold Store.NamesUnique
  decide

theorem destination_seen_file : Sees (obliging true) ⟨false, false⟩ oneNote oneNote
    ⟨"/note.txt", ["note.txt"], false⟩ "other.txt"
    ⟨none, "note.txt", some (Stored.entry ⟨1, 0, "note.txt", false, [7]⟩)⟩ :=
  (@destination_seen_iff Store (obliging true) id (obliging_holds true) ⟨false, false⟩
    ⟨"/note.txt", ["note.txt"], false⟩ "other.txt" oneNote oneNote _ oneNote_unique rfl).mpr (by
      intro folder named
      have none : oneNote.folderAt ["note.txt"] = none := by decide
      exact absurd (none.symm.trans named) (nofun))

/-- In the root it is not, and nothing is asked before another of its name is put there. -/
theorem root_destination_unseen : ¬ ∀ path t after, RemotePath.parse "/" = .ok path →
    resolveUploadTarget (obliging true) ⟨false, false⟩ path "note.txt" oneNote = (.ok t, after) →
      Sees (obliging true) ⟨false, false⟩ after oneNote path "note.txt" t := by
  intro seen
  have sees := seen ⟨"/", [], false⟩ ⟨none, "note.txt", none⟩ oneNote (by decide) rfl
  have told := (sees.existing ⟨1, "note.txt", false⟩).mpr
    ⟨⟨1, 0, "note.txt", false, [7]⟩, by decide, rfl, rfl⟩
  cases told

end Cli
