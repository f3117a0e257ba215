import Mathlib.Data.List.Nodup
import MtpRs.Cli.GetPlan

set_option autoImplicit false

/- A plan without a collision saves no two entries in one place: the check compares the last name
only, and the folders above are entries themselves. -/
namespace Cli

open Attempts (Attempt)
open Files (Name Path)
open Mtp (EntryCollection Error ObjectEntry ObjectHandle)

/-- In rows of names that hold every row's front, rows are told apart by any map that tells them
apart by their last names under one front. -/
theorem folded_inj {α β : Type} {rows : List α → Prop} {fold : α → β}
    (fronts : ∀ names name, rows (names ++ [name]) → names = [] ∨ rows names)
    (lasts : ∀ names name other, rows (names ++ [name]) → rows (names ++ [other]) →
      fold name = fold other → name = other)
    {first second : List α} (row : rows first) (other : rows second)
    (same : first.map fold = second.map fold) : first = second := by
  induction first using List.reverseRecOn generalizing second with
  | nil => exact (List.map_eq_nil_iff.mp same.symm).symm
  | append_singleton names name ih =>
      induction second using List.reverseRecOn with
      | nil => simp at same
      | append_singleton others last _ =>
          rw [List.map_append, List.map_append, List.map_singleton, List.map_singleton] at same
          obtain ⟨sameFronts, sameLasts⟩ := List.append_inj' same rfl
          have front : names = others := by
            rcases fronts names name row with none | inner
            · rw [none, List.map_nil] at sameFronts
              rw [none, List.map_eq_nil_iff.mp sameFronts.symm]
            · rcases fronts others last other with none | outer
              · rw [none, List.map_nil] at sameFronts
                rw [none, List.map_eq_nil_iff.mp sameFronts]
              · exact ih inner outer sameFronts
          subst front
          rw [lasts names name last row other (List.singleton_inj.mp sameLasts)]

section

variable {lower : String → String} {caseInsensitive : Bool}

theorem findCollisionAmong_none {seen : List ((Option Path × String) × String)}
    {entries : List (String × Path)}
    (apart : findCollisionAmong lower caseInsensitive seen entries = none) :
    (entries.map fun entry => collisionKey lower caseInsensitive entry.2).Nodup ∧
      ∀ entry ∈ entries, seen.lookup (collisionKey lower caseInsensitive entry.2) = none := by
  induction entries generalizing seen with
  | nil => exact ⟨List.nodup_nil, List.forall_mem_nil _⟩
  | cons entry rest ih =>
      rw [findCollisionAmong] at apart
      cases looked : seen.lookup (collisionKey lower caseInsensitive entry.2) with
      | some first => simp [looked] at apart
      | none =>
          simp only [looked] at apart
          obtain ⟨distinct, unseen⟩ := ih apart
          have fresh : ∀ other ∈ rest, collisionKey lower caseInsensitive other.2 ≠
              collisionKey lower caseInsensitive entry.2 ∧
                seen.lookup (collisionKey lower caseInsensitive other.2) = none := by
            intro other mem
            have missed := unseen other mem
            rw [List.lookup_eq_none_iff] at missed
            refine ⟨fun same => ?_, List.lookup_eq_none_iff.mpr fun pair inSeen =>
              missed pair (List.mem_cons_of_mem _ inSeen)⟩
            have first := missed _ (List.mem_cons_self ..)
            rw [same, bne_self_eq_false] at first
            cases first
          constructor
          · rw [List.map_cons, List.nodup_cons, List.mem_map]
            refine ⟨?_, distinct⟩
            rintro ⟨other, mem, same⟩
            exact (fresh other mem).1 same
          · intro other mem
            rcases List.mem_cons.mp mem with rfl | later
            · exact looked
            · exact (fresh other later).2

/-- Without a collision the keys are distinct. -/
theorem findCollision_none {entries : List (String × Path)}
    (apart : findCollision lower caseInsensitive entries = none) :
    (entries.map fun entry => collisionKey lower caseInsensitive entry.2).Nodup :=
  (findCollisionAmong_none apart).1

theorem collisionKey_descend (root : Path) (names : List Name) (name : Name) :
    collisionKey lower caseInsensitive (root.descend (names ++ [name])) =
      (some (root.descend names), comparedName lower caseInsensitive name.text) := by
  rw [Path.descend_concat, collisionKey, Path.parent_child, Path.fileName_child]
  rfl

/-- No two entries are saved under the same names, as they are compared. -/
def SavedApart (lower : String → String) (caseInsensitive : Bool) (localRoot : Path)
    (entries : List (String × Path)) : Prop :=
  entries.Pairwise fun first second => ∀ names others : List Name,
    first.2 = localRoot.descend names → second.2 = localRoot.descend others →
    names.map (fun name => comparedName lower caseInsensitive name.text) ≠
      others.map fun name => comparedName lower caseInsensitive name.text

end

section

variable {tree : RemoteTree} {windows : Bool} {localRoot localPath : Path}

/-- A visible object's last name is its own, and the names before it lead to its folder. -/
theorem RemoteTree.Lands.folder {node : ObjectHandle} {names : List Name} {name : Name}
    (lands : tree.Lands windows localRoot node (localRoot.descend (names ++ [name]))) :
    tree.Spelled windows (tree.forest.home node) names := by
  obtain ⟨spelledNames, spelled, same⟩ := lands
  rw [Path.descend_inj.mp same.symm] at spelled
  generalize all : names ++ [name] = row at spelled
  cases spelled with
  | inside outer _ _ _ =>
      rw [(List.append_inj' all rfl).1]
      exact outer

theorem RemoteTree.Lands.staysBelow {node : ObjectHandle}
    (lands : tree.Lands windows localRoot node localPath) : StaysBelow localRoot localPath := by
  obtain ⟨names, spelled, rfl⟩ := lands
  refine ⟨names, ?_, rfl, ?_⟩
  · cases spelled
    simp
  · generalize (some node) = place at spelled
    induction spelled with
    | root => exact List.forall_mem_nil _
    | inside _ _ usable text ih =>
        intro name mem
        rcases List.mem_append.mp mem with outer | last
        · exact ih name outer
        · rw [List.mem_singleton.mp last, text]
          exact (plain_of_usable usable).2

/-- The rows of a plan as `entries` has them, each for an object. -/
theorem FolderPlan.Covers.rows {plan : FolderPlan} {folders : List ObjectHandle}
    (covers : plan.Covers tree windows localRoot folders) :
    List.Forall₂ (fun entry node => tree.Lands windows localRoot node entry.2) plan.entries
      (folders ++ plan.files.map fun row => row.handle) := by
  apply List.rel_append
  · rw [List.forall₂_map_left_iff]
    exact covers.folder_rows
  · rw [List.forall₂_map_left_iff, List.forall₂_map_right_iff, List.forall₂_same]
    exact covers.file_rows

theorem exists_right {α β : Type} {related : α → β → Prop} {first : List α} {second : List β}
    (rows : List.Forall₂ related first second) {a : α} (mem : a ∈ first) :
    ∃ b ∈ second, related a b := by
  induction rows with
  | nil => cases mem
  | cons head _ ih =>
      rcases List.mem_cons.mp mem with rfl | later
      · exact ⟨_, List.mem_cons_self .., head⟩
      · obtain ⟨b, there, related⟩ := ih later
        exact ⟨b, List.mem_cons_of_mem _ there, related⟩

/-- Whether a plan saves something under these names. -/
def FolderPlan.HasRow (plan : FolderPlan) (localRoot : Path) (names : List Name) : Prop :=
  ∃ entry ∈ plan.entries, entry.2 = localRoot.descend names

/-- The folder of what is saved is saved itself, unless it is the root. -/
theorem FolderPlan.Covers.fronts {plan : FolderPlan} {folders : List ObjectHandle}
    (covers : plan.Covers tree windows localRoot folders) (names : List Name) (name : Name)
    (row : plan.HasRow localRoot (names ++ [name])) : names = [] ∨ plan.HasRow localRoot names := by
  obtain ⟨entry, mem, localPath⟩ := row
  obtain ⟨node, planned, lands⟩ := exists_right covers.rows mem
  rw [localPath] at lands
  have spelled := lands.folder
  cases home : tree.forest.home node with
  | none =>
      rw [home] at spelled
      cases spelled
      exact Or.inl rfl
  | some container =>
      rw [home] at spelled
      obtain ⟨before, after, split⟩ := List.append_of_mem planned
      have earlier := covers.ordered before node after split container (.single home)
      have held : container ∈ folders ++ plan.files.map fun row => row.handle :=
        split ▸ List.mem_append_left _ earlier
      obtain ⟨outer, inEntries, others, outerSpelled, outerPath⟩ :=
        exists_right covers.rows.flip held
      right
      refine ⟨outer, inEntries, ?_⟩
      rw [outerPath, outerSpelled.unique spelled]

/-- A plan that covers a tree saves its entries apart where no collision was found. -/
theorem FolderPlan.Covers.savedApart {plan : FolderPlan} {folders : List ObjectHandle}
    (covers : plan.Covers tree windows localRoot folders) {lower : String → String}
    {caseInsensitive : Bool} (apart : findCollision lower caseInsensitive plan.entries = none) :
    SavedApart lower caseInsensitive localRoot plan.entries := by
  have distinct := findCollision_none apart
  have lasts : ∀ names name other, plan.HasRow localRoot (names ++ [name]) →
      plan.HasRow localRoot (names ++ [other]) →
      comparedName lower caseInsensitive name.text = comparedName lower caseInsensitive other.text →
      name = other := by
    rintro names name other ⟨first, inEntries, firstPath⟩ ⟨second, alsoIn, secondPath⟩ same
    have one := List.inj_on_of_nodup_map distinct inEntries alsoIn (by
      rw [firstPath, secondPath, collisionKey_descend, collisionKey_descend, same])
    rw [one, secondPath, Path.descend_inj] at firstPath
    exact (List.singleton_inj.mp (List.append_cancel_left firstPath)).symm
  apply (List.pairwise_map.mp distinct).imp_of_mem
  intro first second inEntries alsoIn keys names others firstPath secondPath same
  have one := folded_inj covers.fronts lasts ⟨first, inEntries, firstPath⟩
    ⟨second, alsoIn, secondPath⟩ same
  rw [firstPath, secondPath, one] at keys
  exact keys rfl

/-- A walk of a remote tree that succeeds plans every object it can see once, below the root and
after its folder; without a collision, and so where `check_no_collisions` lets it pass, no two are
saved in one place. -/
theorem folder_plan_safe {σ : Type} (tree : RemoteTree)
    (collectObjects : Option ObjectHandle → Attempt σ Error EntryCollection)
    (shown : tree.ShownBy collectObjects) (settings : Settings) (windows : Bool)
    (debug lower : String → String) (remoteRoot : String) (localRoot : Path) (fuel : Nat)
    (enough : tree.forest.nodes.length < fuel) (state : σ) :
    ∃ result after, walkFolder collectObjects settings windows debug tree.root remoteRoot localRoot
        fuel state = some (result, after) ∧
      ∀ plan, result = .ok plan →
        (∀ entry ∈ plan.entries, StaysBelow localRoot entry.2) ∧
        (∃ folders, plan.Covers tree windows localRoot folders) ∧
        (∀ caseInsensitive, findCollision lower caseInsensitive plan.entries = none →
          SavedApart lower caseInsensitive localRoot plan.entries) ∧
        ∀ probed shownRoot, checkNoCollisions lower probed shownRoot plan = .ok () →
          ∃ caseInsensitive, probed = .ok caseInsensitive ∧
            SavedApart lower caseInsensitive localRoot plan.entries := by
  obtain ⟨result, after, walked, covered⟩ := walkFolder_ends shown remoteRoot enough state
  refine ⟨result, after, walked, fun plan same => ?_⟩
  obtain ⟨folders, covers⟩ := covered plan same
  refine ⟨fun entry mem => ?_, ⟨folders, covers⟩, fun caseInsensitive apart =>
    covers.savedApart apart, fun probed shownRoot passes => ?_⟩
  · obtain ⟨node, -, lands⟩ := exists_right covers.rows mem
    exact lands.staysBelow
  · obtain ⟨caseInsensitive, rfl, apart⟩ := findCollision_of_checkNoCollisions passes
    exact ⟨caseInsensitive, rfl, covers.savedApart apart⟩

def RemoteTree.answering (tree : RemoteTree) (folder : Option ObjectHandle) :
    Attempt Unit Error EntryCollection :=
  let place := if folder = tree.root then none else folder
  let inside := tree.forest.nodes.filter fun node => tree.forest.home node = place
  Attempt.done ⟨inside.filterMap fun node =>
      match tree.info node with
      | .ok entry => some entry
      | .error _ => none,
    inside.filterMap fun node =>
      match tree.info node with
      | .ok _ => none
      | .error error => some ⟨node, error⟩⟩

theorem answering_objects {nodes : List ObjectHandle}
    (inTree : ∀ node ∈ nodes, node ∈ tree.forest.nodes) :
    (nodes.filterMap fun node =>
        match tree.info node with
        | .ok entry => some entry
        | .error _ => none).map (fun object => object.handle) = nodes.filter tree.readable := by
  induction nodes with
  | nil => rfl
  | cons node rest ih =>
      have further := ih fun other mem => inTree other (List.mem_cons_of_mem _ mem)
      cases described : tree.info node with
      | error e => simp [RemoteTree.readable, described, Except.isOk, Except.toBool, further]
      | ok entry =>
          have handle := tree.named node (inTree node (List.mem_cons_self ..)) entry described
          simp [RemoteTree.readable, described, Except.isOk, Except.toBool, further, handle]

theorem answering_skipped (nodes : List ObjectHandle) :
    (nodes.filterMap fun node =>
        match tree.info node with
        | .ok _ => none
        | .error error =>
            some (⟨node, error⟩ : Mtp.SkippedEntry)).map (fun skipped => skipped.handle) =
      nodes.filter (!tree.readable ·) := by
  induction nodes with
  | nil => rfl
  | cons node rest ih =>
      cases described : tree.info node <;>
        simp [RemoteTree.readable, described, Except.isOk, Except.toBool, ih]

/-- A storage that answers from a tree shows it, where the tree is not walked from inside. -/
theorem answering_shows (distinct : tree.forest.nodes.Nodup)
    (apart : ∀ node ∈ tree.forest.nodes, tree.root ≠ some node) :
    tree.ShownBy tree.answering := by
  intro place isPlace state collection after answered
  have asked : (if tree.requested place = tree.root then none else tree.requested place) =
    place := by
    cases place with
    | none => simp [RemoteTree.requested]
    | some node =>
        have other := apart node (isPlace node rfl).1
        simp [RemoteTree.requested, other.symm]
  rw [RemoteTree.answering, asked] at answered
  cases answered
  have inTree : ∀ node ∈ tree.forest.nodes.filter (fun node => tree.forest.home node = place),
      node ∈ tree.forest.nodes := fun node mem => (List.mem_filter.mp mem).1
  have inside := distinct.filter fun node => tree.forest.home node = place
  refine ⟨?_, ?_, ?_, ?_⟩
  · rw [answering_objects inTree]
    exact inside.filter _
  · intro entry
    simp only [List.mem_filterMap, List.mem_filter, decide_eq_true_eq]
    constructor
    · rintro ⟨node, ⟨mem, home⟩, described⟩
      refine ⟨node, mem, home, ?_⟩
      cases answer : tree.info node with
      | error e => simp [answer] at described
      | ok other => simpa [answer] using described
    · rintro ⟨node, mem, home, described⟩
      exact ⟨node, ⟨mem, home⟩, by rw [described]⟩
  · rw [answering_skipped]
    exact inside.filter _
  · intro node
    rw [answering_skipped]
    simp only [List.mem_filter, decide_eq_true_eq, Bool.not_eq_true', and_assoc]

/-- A file or folder of the tree below. -/
def plainEntry (handle : ObjectHandle) (filename : String) (folder : Bool) : ObjectEntry :=
  ⟨handle, 1, 0, filename, 0, 0x3000, none, none, 0, 0, folder⟩

/-- What a device says of a folder, a file in it and a file beside it, where it may refuse to
describe the folder. -/
def cardInfo (refuses : Bool) (handle : ObjectHandle) : Except Error ObjectEntry :=
  if handle = 5 then
    if refuses then .error .notFound else .ok (plainEntry 5 "DCIM" true)
  else .ok (plainEntry handle (if handle = 6 then "IMG.jpg" else "a.txt") false)

def cardForest : Walk.Forest ObjectHandle where
  nodes := [5, 6, 7]
  home node := if node = 6 then some 5 else none

def cardTree (refuses : Bool) : RemoteTree where
  root := none
  forest := cardForest
  info := cardInfo refuses
  grounded := by
    have folder : cardForest.Reached 5 := .top (by decide) rfl
    rw [show cardForest.nodes = [5, 6, 7] from rfl, List.forall_mem_cons, List.forall_mem_cons,
      List.forall_mem_singleton]
    exact ⟨folder, .inside folder (by decide) rfl, .top (by decide) rfl⟩
  named node mem entry described := by
    unfold cardInfo at described
    by_cases folder : node = 5
    · rw [if_pos folder] at described
      cases refuses <;> cases described
      exact folder.symm
    · rw [if_neg folder] at described
      cases described
      rfl
  holding node mem container home entry described := by
    dsimp only [cardForest] at home
    by_cases inside : node = 6
    · rw [if_pos inside] at home
      cases home
      cases refuses <;> cases described
      rfl
    · rw [if_neg inside] at home
      cases home

theorem cardTree_shown (refuses : Bool) : (cardTree refuses).ShownBy (cardTree refuses).answering :=
  answering_shows (show [5, 6, 7].Nodup by decide) fun _ _ root => by cases root

end

theorem folder_plan_safe_card :
    ∃ result after, walkFolder (cardTree false).answering ⟨false, false⟩ false id none "/"
        (.ofString "card") 4 () = some (result, after) ∧
      ∀ plan, result = .ok plan →
        (∀ entry ∈ plan.entries, StaysBelow (.ofString "card") entry.2) ∧
        (∃ folders, plan.Covers (cardTree false) false (.ofString "card") folders) ∧
        (∀ caseInsensitive, findCollision id caseInsensitive plan.entries = none →
          SavedApart id caseInsensitive (.ofString "card") plan.entries) ∧
        ∀ probed shownRoot, checkNoCollisions id probed shownRoot plan = .ok () →
          ∃ caseInsensitive, probed = .ok caseInsensitive ∧
            SavedApart id caseInsensitive (.ofString "card") plan.entries :=
  folder_plan_safe (cardTree false) (cardTree false).answering (cardTree_shown false) ⟨false, false⟩
    false id id "/" (.ofString "card") 4 (show [5, 6, 7].length < 4 by decide) ()

/-- The device describes the file in the folder, not the folder: the file is neither planned nor
reported. -/
theorem hidden_file_unplanned :
    (cardTree true).ShownBy (cardTree true).answering ∧
      ((6 : ObjectHandle) ∈ (cardTree true).forest.nodes ∧ (cardTree true).readable 6 = true) ∧
      ∃ plan, walkFolder (cardTree true).answering ⟨false, false⟩ false id none "/"
          (.ofString "card") 4 () = some (.ok plan, ()) ∧
        plan.folders = [] ∧ plan.files.map (fun row => row.handle) = [7] ∧
        plan.skipped.map (fun row => row.handle) = [5] :=
  ⟨cardTree_shown true, by decide, _, rfl, rfl, rfl, rfl⟩

end Cli
