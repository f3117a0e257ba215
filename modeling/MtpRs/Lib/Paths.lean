import Mathlib.Data.List.Infix
import Mathlib.Data.List.Basic

set_option autoImplicit false

/- Paths as Unix reads them: lists of components, whatever separators and `.` spell them. -/
namespace Files

/-- What an entry of a directory can be called. -/
def isPlain (text : String) : Bool :=
  text != "" && text != "." && text != ".." && !text.toList.contains '/'

structure Name where
  text : String
  plain : isPlain text = true
deriving DecidableEq

theorem Name.eq_of_text {first second : Name} (same : first.text = second.text) :
    first = second := by
  cases first
  cases same
  rfl

inductive Component where
  | rootDir
  | curDir
  | parentDir
  | normal (name : Name)
deriving DecidableEq

/-- Two spellings with the same components are one path. -/
structure Path where
  components : List Component
deriving DecidableEq

/-- The names from the root down to a node of the tree. -/
abbrev Location := List Name

/-- What one piece between separators stands for. A `.` counts only where it starts the path. -/
def Component.ofPiece (starts : Bool) (piece : List Char) : Option Component :=
  let text := String.ofList piece
  if text = ".." then some .parentDir
  else if text = "." then (if starts then some .curDir else none)
  else if plain : isPlain text = true then some (.normal ⟨text, plain⟩)
  else none

namespace Path

def empty : Path := ⟨[]⟩

/-- The components of a text. Repeated and trailing separators go, and `.` but at the start. -/
def ofString (text : String) : Path :=
  match text.toList.splitOn '/' with
  | [] => empty
  | first :: rest =>
      -- A separator at the start leaves an empty first piece.
      if first = [] ∧ rest ≠ [] then ⟨.rootDir :: rest.filterMap (Component.ofPiece false)⟩
      else ⟨(Component.ofPiece true first).toList ++ rest.filterMap (Component.ofPiece false)⟩

def ofLocation (location : Location) : Path := ⟨.rootDir :: location.map .normal⟩

def isAbsolute (path : Path) : Bool := path.components.head? == some .rootDir

/-- A `.` that starts the second path counts only after nothing. -/
def join (base path : Path) : Path :=
  if path.isAbsolute then path
  else
    match base.components, path.components with
    | [], inner => ⟨inner⟩
    | outer, .curDir :: inner => ⟨outer ++ inner⟩
    | outer, inner => ⟨outer ++ inner⟩

def child (path : Path) (name : Name) : Path := ⟨path.components ++ [.normal name]⟩

/-- The path of what lies further down. -/
def descend (path : Path) (names : List Name) : Path :=
  ⟨path.components ++ names.map .normal⟩

def parent (path : Path) : Option Path :=
  match path.components.getLast? with
  | none => none
  | some .rootDir => none
  | some _ => some ⟨path.components.dropLast⟩

def fileName (path : Path) : Option Name :=
  match path.components.getLast? with
  | some (.normal name) => some name
  | _ => none

/-- `file_name().unwrap_or_default()`, as a path to join. -/
def fileNamePath (path : Path) : Path :=
  match path.fileName with
  | some name => ⟨[.normal name]⟩
  | none => empty

/-- The text after the last `.` of the name, where anything stands before it. -/
def extension (path : Path) : Option String :=
  match path.fileName with
  | none => none
  | some name =>
      let reversed := name.text.toList.reverse
      match reversed.dropWhile (· != '.') with
      | _ :: _ :: _ => some (String.ofList (reversed.takeWhile (· != '.')).reverse)
      | _ => none

def startsWith (path base : Path) : Bool := base.components.isPrefixOf path.components

def stripPrefix (path base : Path) : Option Path :=
  if path.startsWith base then some ⟨path.components.drop base.components.length⟩ else none

section

variable {path base : Path} {name : Name}

@[simp] theorem components_child : (path.child name).components =
    path.components ++ [.normal name] := rfl

@[simp] theorem components_ofLocation (location : Location) :
    (ofLocation location).components = .rootDir :: location.map .normal := rfl

@[simp] theorem parent_child : (path.child name).parent = some path := by
  simp [parent, child]

@[simp] theorem fileName_child : (path.child name).fileName = some name := by
  simp [fileName, child]

theorem startsWith_iff : path.startsWith base = true ↔ base.components <+: path.components :=
  List.isPrefixOf_iff_prefix

theorem startsWith_child (starts : path.startsWith base = true) :
    (path.child name).startsWith base = true :=
  startsWith_iff.mpr ((startsWith_iff.mp starts).trans (List.prefix_append ..))

@[simp] theorem join_normal (path : Path) (name : Name) :
    path.join ⟨[.normal name]⟩ = path.child name := by
  obtain ⟨components⟩ := path
  cases components <;> rfl

theorem join_child (base path : Path) (name : Name) :
    base.join (path.child name) = (base.join path).child name := by
  obtain ⟨outer⟩ := base
  obtain ⟨inner⟩ := path
  match inner with
  | [] => cases outer <;> simp [join, isAbsolute, child]
  | .rootDir :: inner => simp [join, isAbsolute, child]
  | .curDir :: inner => cases outer <;> simp [join, isAbsolute, child]
  | .parentDir :: inner => cases outer <;> simp [join, isAbsolute, child]
  | .normal name :: inner => cases outer <;> simp [join, isAbsolute, child]

theorem join_normals (path : Path) (names : List Name) :
    path.join ⟨names.map .normal⟩ = path.descend names := by
  obtain ⟨components⟩ := path
  cases components <;> cases names <;> simp [join, isAbsolute, descend]

@[simp] theorem descend_nil (path : Path) : path.descend [] = path := by simp [descend]

@[simp] theorem descend_concat (path : Path) (names : List Name) (name : Name) :
    path.descend (names ++ [name]) = (path.descend names).child name := by
  simp [descend, child]

theorem stripPrefix_descend (path : Path) (names : List Name) :
    (path.descend names).stripPrefix path = some ⟨names.map .normal⟩ := by
  have starts : (path.descend names).startsWith path = true :=
    startsWith_iff.mpr (List.prefix_append ..)
  rw [stripPrefix, if_pos starts, descend, List.drop_left]

theorem descend_inj {first second : List Name} :
    path.descend first = path.descend second ↔ first = second := by
  constructor
  · intro same
    have components := List.append_cancel_left (congrArg components same)
    exact List.map_injective_iff.mpr (fun _ _ => Component.normal.inj) components
  · intro same
    rw [same]

/-- A plain name is a path of one component. -/
theorem ofString_text (name : Name) : ofString name.text = ⟨[.normal name]⟩ := by
  obtain ⟨text, plain⟩ := name
  have rules := plain
  simp only [isPlain, Bool.and_eq_true, bne_iff_ne, ne_eq, Bool.not_eq_true',
    List.contains_eq_mem, decide_eq_false_iff_not] at rules
  obtain ⟨⟨⟨notEmpty, notDot⟩, notParent⟩, noSeparator⟩ := rules
  have piece : Component.ofPiece true text.toList = some (.normal ⟨text, plain⟩) := by
    simp only [Component.ofPiece, String.ofList_toList, notDot, notParent, if_false, plain,
      dif_pos]
  rw [ofString, List.splitOn_eq_singleton noSeparator]
  simp [piece]

end

example : (ofString "DCIM//./Camera/").components =
    [.normal ⟨"DCIM", by decide⟩, .normal ⟨"Camera", by decide⟩] := by decide

end Path

end Files
