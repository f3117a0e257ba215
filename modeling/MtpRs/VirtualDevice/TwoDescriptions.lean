import MtpRs.VirtualDevice.DeviceElements
import MtpRs.VirtualDevice.FolderListings
import MtpRs.VirtualDevice.ReadOnly

set_option autoImplicit false

/- The two descriptions of an object: its dataset, and the elements of property lists. -/
namespace VirtualDevice

open Files (Disk Name Path)
open Runs (Run)
open Ptp (Bytes DecodedElement DescribedAlike ObjectDataset ObjectPropListElement ObjectPropertyCode
  Tells describing foldElements foldElements_tells settable)
open Ptp.ObjectPropListElement (readList)

def describingCodes : List UInt16 := [0xDC01, 0xDC02, 0xDC04, 0xDC07, 0xDC08, 0xDC09, 0xDC0B]

def propListParams (handle property depth : UInt32) : List UInt32 := [handle, 0, property, 0, depth]

namespace VirtualDeviceState

/-- Property lists asked for one after another, each answered and read with nothing left over. -/
inductive Asks (host : Host) (usizeBits : Nat) (state : VirtualDeviceState) :
    List (List UInt32) → List ObjectPropListElement → VirtualDeviceState → Prop where
  | nothing : Asks host usizeBits state [] [] state
  | more {requests : List (List UInt32)} {elements : List ObjectPropListElement}
      {between after : VirtualDeviceState} {params : List UInt32} {payload : Bytes}
      {answered : List DecodedElement} (asked : Asks host usizeBits state requests elements between)
      (answer : between.answer host params = some (.ok payload, after))
      (read : readList usizeBits payload = .ok (answered, payload.length)) :
      Asks host usizeBits state (requests ++ [params])
        (elements ++ answered.map DecodedElement.toObjectPropListElement) after

/-- One request after another, as far as each is answered and read with nothing left over. -/
def askAll (host : Host) (usizeBits : Nat) :
    List (List UInt32) → VirtualDeviceState →
      Option (List ObjectPropListElement × VirtualDeviceState)
  | [], state => some ([], state)
  | params :: rest, state =>
      match state.answer host params with
      | some (.ok payload, after) =>
          match readList usizeBits payload with
          | .ok (answered, taken) =>
              if taken = payload.length then
                (askAll host usizeBits rest after).map fun later =>
                  (answered.map DecodedElement.toObjectPropListElement ++ later.1, later.2)
              else none
          | .error _ => none
      | _ => none

section

variable {host : Host} {usizeBits : Nat} {first state after : VirtualDeviceState} {handle : UInt32}
  {obj : VirtualObject}

theorem Grows.factsDataset_eq (grows : Grows first after) (facts : ObjectFacts) :
    after.factsDataset facts = first.factsDataset facts := by
  rw [grows.same]
  rfl

theorem Asks.grows {requests : List (List UInt32)} {elements : List ObjectPropListElement}
    (asks : Asks host usizeBits first requests elements after) : Grows first after := by
  induction asks with
  | nothing => exact .refl
  | more _ answer _ ih => exact ih.trans (answer_grows answer)

/-- Every element of an object in a series of answers tells what its facts are. -/
theorem Asks.tells {requests : List (List UInt32)} {elements : List ObjectPropListElement}
    {facts : ObjectFacts} (asks : Asks host usizeBits first requests elements after)
    (room : first.RoomUntil after) (found : first.objects.lookup handle = some obj)
    (known : first.objectFacts handle = some facts) :
    ∀ element ∈ elements, element.handle = handle →
      (∀ value, element.value = some value →
        Tells (first.factsDataset facts) element.property value) ∧
      (element.property ∈ settable → element.value.isSome = true) := by
  induction asks with
  | nothing => exact List.forall_mem_nil _
  | @more requests elements between after params payload answered asked answer read ih =>
      have grows := answer_grows answer
      intro element mem own
      rcases List.mem_append.mp mem with earlier | now
      · exact ih (room.before grows) element earlier own
      · obtain ⟨decoded, inside, same⟩ := List.mem_map.mp now
        obtain ⟨_, _, properties, _, objects, _, _, described, truthful, _⟩ :=
          answer_elements answer read
        obtain ⟨item, listed, truthful⟩ := truthful decoded inside
        have here : item.1.1 = handle := by
          rw [← truthful.handle, ← own, ← same]
        have facts' := describedObjects_facts described item.1 (List.mem_product.mp listed).1
        rw [here, (asked.grows.trans grows).objectFacts_eq room found, known] at facts'
        have tells := truthful.tells
        rw [← Option.some.inj facts', (asked.grows.trans grows).factsDataset_eq] at tells
        rw [← same]
        exact ⟨tells, truthful.given⟩

/-- The dataset of an object, read, and all that a series of answers tells of it are alike. -/
theorem Asks.alike {requests : List (List UInt32)} {elements : List ObjectPropListElement}
    {facts : ObjectFacts} (asks : Asks host usizeBits first requests elements after)
    (room : first.RoomUntil after) (known : first.objectFacts handle = some facts)
    (covered : ∀ property ∈ describing, ∃ element ∈ elements,
      element.handle = handle ∧ element.property = property) :
    DescribedAlike (foldElements elements handle)
      (first.describe facts).received.toObjectDataset := by
  obtain ⟨obj, found, -⟩ := Option.bind_eq_some_iff.mp known
  have tells := asks.tells room found known
  have settled : ∀ property ∈ describing, property ∈ settable := by decide
  obtain ⟨protection, made⟩ := foldElements_tells (fun element mem own => (tells element mem own).1)
    fun property mem => by
      obtain ⟨element, inside, own, same⟩ := covered property mem
      refine ⟨element, inside, own, same, (tells element inside own).2 ?_⟩
      rw [same]
      exact settled property mem
  rw [made]
  exact ⟨rfl, rfl, rfl, rfl, rfl, rfl, rfl⟩

/-- A request is checked as it is, at the depths the device goes to. -/
theorem checkPropList_eq {property depth : UInt32} (asked : property ≠ 0)
    (shallow : depth = 0 ∨ depth = 1) :
    state.checkPropList (propListParams handle property depth) =
      (state.requestedProperties property).map fun properties => (handle, depth, properties) := by
  have everywhere : ¬ (depth = 0xFFFFFFFF ∧ (handle = 0 ∨ handle = handleAll)) := by
    rcases shallow with rfl | rfl <;> simp
  have deep : ¬ 1 < depth := by
    rcases shallow with rfl | rfl <;> decide
  have first : param (propListParams handle property depth) 0 = handle := rfl
  have third : param (propListParams handle property depth) 2 = property := rfl
  have fifth : param (propListParams handle property depth) 4 = depth := rfl
  unfold checkPropList
  simp only [first, third, fifth, if_neg asked, if_neg everywhere, if_neg deep]
  cases state.requestedProperties property <;> rfl

theorem mem_describingCodes {code : UInt16} (mem : code ∈ describingCodes) :
    (code.toUInt32 ≠ 0 ∧ code.toUInt32 ≠ 0xFFFFFFFF ∧ code.toUInt32.toUInt16 = code) ∧
      ObjectPropertyCode.ofCode code ∈ describing := by
  simp only [describingCodes, List.mem_cons, List.not_mem_nil, or_false] at mem
  rcases mem with rfl | rfl | rfl | rfl | rfl | rfl | rfl <;> decide

theorem requestedProperties_one {code : UInt16} (mem : code ∈ describingCodes) :
    state.requestedProperties code.toUInt32 =
      if state.declined code then .error Code.invalidObjectPropCode else .ok [code] := by
  obtain ⟨-, one, same⟩ := (mem_describingCodes mem).1
  rw [requestedProperties, if_neg one, same]

/-- The answers for its folder give the properties of an object that they are asked for. -/
theorem Asks.folder_covers {requests : List (List UInt32)} {elements : List ObjectPropListElement}
    {facts : ObjectFacts} {code : UInt16} (asks : Asks host usizeBits first requests elements after)
    (room : first.RoomUntil after) (found : first.objects.lookup handle = some obj)
    (listed : first.Listed handle obj) (known : first.objectFacts handle = some facts)
    (describes : code ∈ describingCodes)
    (mem : propListParams obj.parent code.toUInt32 1 ∈ requests) :
    ∃ element ∈ elements, element.handle = handle ∧ element.property = .ofCode code := by
  induction asks with
  | nothing => cases mem
  | @more requests elements between after params payload answered asked answer read ih =>
      have grows := answer_grows answer
      rcases List.mem_append.mp mem with earlier | now
      · obtain ⟨element, inside, same⟩ := ih (room.before grows) earlier
        exact ⟨element, List.mem_append_left _ inside, same⟩
      · rw [List.mem_singleton] at now
        subst now
        obtain ⟨folder, depth, properties, _, _, checked, _⟩ := answer_ok answer
        have request := checked
        rw [checkPropList_eq (mem_describingCodes describes).1.1 (Or.inr rfl),
          requestedProperties_one describes]
          at request
        split at request
        · cases request
        · cases request
          have same := (asked.grows.trans grows).objectFacts_eq room found
          rw [known] at same
          obtain ⟨element, inside, own, property⟩ := answer_covers answer read checked rfl
            (List.mem_singleton_self code) (fun handles requested =>
              requestedObjects_lists found listed known asked.grows requested room) same
          exact ⟨element.toObjectPropListElement,
            List.mem_append_right _ (List.mem_map_of_mem inside), own, property⟩

theorem requestedObjects_alone (found : state.objects.lookup handle = some obj)
    (notRoot : handle ≠ 0) (notAll : handle ≠ handleAll) :
    state.requestedObjects host handle 0 = some (.ok [handle], state) := by
  unfold requestedObjects
  dsimp only
  rw [if_neg fun both => notAll both.1, if_neg (not_or.mpr ⟨notRoot, notAll⟩), found]
  rfl

/-- A request for some properties of one object is answered, and changes nothing. -/
theorem answer_alone {property : UInt32} {properties : List UInt16} {facts : ObjectFacts}
    (known : state.objectFacts handle = some facts)
    (described : state.descriptionRefusal handle = none) (notRoot : handle ≠ 0)
    (notAll : handle ≠ handleAll) (asked : property ≠ 0)
    (served : state.requestedProperties property = .ok properties) :
    state.answer host (propListParams handle property 0) =
      some (.ok (state.propListDataset [(handle, facts)] properties), state) := by
  obtain ⟨obj, found, -⟩ := Option.bind_eq_some_iff.mp known
  have all : state.describedObjects (param (propListParams handle property 0) 1) [handle] =
      .ok [(handle, facts)] := by
    rw [describedObjects, described]
    dsimp only
    rw [known]
    rfl
  unfold answer
  rw [checkPropList_eq asked (Or.inl rfl), served]
  dsimp only [Except.map]
  rw [requestedObjects_alone found notRoot notAll]
  dsimp only
  rw [all]

/-- One more request for an object alone, which gives the properties that it asks for. -/
theorem Asks.alone {requests : List (List UInt32)} {elements : List ObjectPropListElement}
    {property : UInt32} {properties : List UInt16} {facts : ObjectFacts}
    (asks : Asks host usizeBits first requests elements state)
    (known : state.objectFacts handle = some facts)
    (described : state.descriptionRefusal handle = none) (notRoot : handle ≠ 0)
    (notAll : handle ≠ handleAll) (asked : property ≠ 0)
    (served : state.requestedProperties property = .ok properties)
    (few : properties.length < 2 ^ 32) :
    ∃ answered : List DecodedElement,
      Asks host usizeBits first (requests ++ [propListParams handle property 0])
        (elements ++ answered.map DecodedElement.toObjectPropListElement) state ∧
      ∀ code ∈ properties, ∃ element ∈ answered,
        element.handle = handle ∧ element.property = .ofCode code := by
  obtain ⟨obj, found, -⟩ := Option.bind_eq_some_iff.mp known
  have answer := @answer_alone host state handle property properties facts known described notRoot
    notAll asked served
  obtain ⟨element, -, reads⟩ := state.read_propListDataset usizeBits
  obtain ⟨taken, read, whole⟩ := reads [(handle, facts)] properties
  rw [whole.mpr (by rw [List.length_singleton, Nat.one_mul]; exact few)] at read
  refine ⟨_, asks.more answer read, ?_⟩
  intro code mem
  have checked : state.checkPropList (propListParams handle property 0) =
      .ok (handle, 0, properties) := by
    rw [checkPropList_eq asked (Or.inl rfl), served]
    rfl
  apply answer_covers answer read checked rfl mem _ known
  intro handles requested
  rw [requestedObjects_alone found notRoot notAll, Option.some.injEq, Prod.mk.injEq,
    Except.ok.injEq] at requested
  rw [← requested.1]
  exact List.mem_singleton_self handle

/-- An object alone is answered for, all of its properties and the date of its creation. -/
theorem asks_alone (host : Host) (usizeBits : Nat) {facts : ObjectFacts}
    (known : state.objectFacts handle = some facts)
    (described : state.descriptionRefusal handle = none) (notRoot : handle ≠ 0)
    (notAll : handle ≠ handleAll)
    (served : ∀ property ∈ describing, property ∉ state.config.propListDeclinedProperties) :
    ∃ elements, Asks host usizeBits state
        [propListParams handle 0xFFFFFFFF 0, propListParams handle 0xDC08 0] elements state ∧
      ∀ property ∈ describing, ∃ element ∈ elements,
        element.handle = handle ∧ element.property = property := by
  have kept : ∀ code ∈ describingCodes, state.declined code = false := by
    intro code mem
    rw [declined, List.contains_eq_mem, decide_eq_false_iff_not]
    exact served _ (mem_describingCodes mem).2
  have all : state.requestedProperties 0xFFFFFFFF =
      .ok (fileProperties.filter fun code => !state.declined code) := rfl
  have created : state.requestedProperties 0xDC08 = .ok [0xDC08] := by
    have one := @requestedProperties_one state 0xDC08 (by decide)
    rw [kept 0xDC08 (by decide)] at one
    exact one
  have few : (fileProperties.filter fun code => !state.declined code).length < 2 ^ 32 :=
    Nat.lt_of_le_of_lt (List.length_filter_le _ fileProperties) (by decide)
  have start : Asks host usizeBits state [] [] state := .nothing
  obtain ⟨listed, first, covers⟩ := start.alone known described notRoot notAll (by decide) all few
  obtain ⟨single, second, covered⟩ := first.alone known described notRoot notAll (by decide) created
    (by decide)
  refine ⟨_, second, ?_⟩
  intro property mem
  have codes : ∀ property ∈ describing, property = .dateCreated ∨ ∃ code ∈ describingCodes,
      code ∈ fileProperties ∧ ObjectPropertyCode.ofCode code = property := by decide
  rcases codes property mem with rfl | ⟨code, describes, inAll, rfl⟩
  · obtain ⟨element, inside, same⟩ := covered 0xDC08 (List.mem_singleton_self _)
    exact ⟨element.toObjectPropListElement,
      List.mem_append_right _ (List.mem_map_of_mem inside), same⟩
  · have asked : code ∈ fileProperties.filter fun code => !state.declined code := by
      rw [List.mem_filter, kept code describes]
      exact ⟨inAll, rfl⟩
    obtain ⟨element, inside, same⟩ := covers code asked
    exact ⟨element.toObjectPropListElement,
      List.mem_append_left _ (List.mem_append_right _ (List.mem_map_of_mem inside)), same⟩

/-- Requests made by hand are asked one after another. -/
theorem Asks.askAll {requests rest : List (List UInt32)}
    {elements others : List ObjectPropListElement}
    (asks : Asks host usizeBits first requests elements state)
    (asked : VirtualDeviceState.askAll host usizeBits rest state = some (others, after)) :
    Asks host usizeBits first (requests ++ rest) (elements ++ others) after := by
  induction rest generalizing requests elements others state with
  | nil =>
      cases asked
      rw [List.append_nil, List.append_nil]
      exact asks
  | cons params rest ih =>
      rw [VirtualDeviceState.askAll] at asked
      split at asked
      · next payload between answer =>
          split at asked
          · next answered taken read =>
              split at asked
              · next whole =>
                  obtain ⟨⟨later, last⟩, more, same⟩ := Option.map_eq_some_iff.mp asked
                  cases same
                  rw [whole] at read
                  have all := ih (asks.more answer read) more
                  rw [List.append_assoc, List.append_assoc] at all
                  exact all
              · cases asked
          · cases asked
      · cases asked

end

end VirtualDeviceState

/-- Every answer is read, and nothing of it left over unless it has more elements than can be
counted. An object that is there, of which no property is declined, is described alike by its
dataset and by the elements of property lists: its own, or those of the folder that lists it. -/
theorem descriptions_agree (host : Host) (usizeBits : Nat) (state : VirtualDeviceState) :
    (∀ params payload after, state.answer host params = some (.ok payload, after) →
      ∃ objects properties, payload = after.propListDataset objects properties ∧
        ∃ elements taken, readList usizeBits payload = .ok (elements, taken) ∧
          (taken = payload.length ↔ objects.length * properties.length < 2 ^ 32)) ∧
    ∀ handle facts, state.objectFacts handle = some facts →
      state.descriptionRefusal handle = none →
      ∃ payload info, state.buildObjectInfo handle = some payload ∧
        (∀ opCode txId, state.handleGetObjectInfo opCode txId [handle] =
          state.respondData opCode txId payload) ∧
        ObjectDataset.fromBytes payload = .ok info ∧
        (handle ≠ 0 → handle ≠ handleAll →
          (∀ property ∈ describing, property ∉ state.config.propListDeclinedProperties) →
          ∃ elements, state.Asks host usizeBits [propListParams handle 0xFFFFFFFF 0,
            propListParams handle 0xDC08 0] elements state ∧
          DescribedAlike (foldElements elements handle) info) ∧
        ∀ obj, state.objects.lookup handle = some obj → state.Listed handle obj →
          ∀ requests elements last, state.Asks host usizeBits requests elements last →
            state.RoomUntil last →
            (∀ code ∈ describingCodes, propListParams obj.parent code.toUInt32 1 ∈ requests) →
            DescribedAlike (foldElements elements handle) info := by
  refine ⟨fun params payload after answered => VirtualDeviceState.answer_read usizeBits answered,
    ?_⟩
  intro handle facts known described
  obtain ⟨payload, built, read⟩ := VirtualDeviceState.read_buildObjectInfo known
  refine ⟨payload, _, built, ?_, read, ?_, ?_⟩
  · intro opCode txId
    have first : param [handle] 0 = handle := rfl
    rw [VirtualDeviceState.handleGetObjectInfo, first, described]
    dsimp only
    rw [built]
  · intro notRoot notAll served
    obtain ⟨elements, asks, covered⟩ :=
      VirtualDeviceState.asks_alone host usizeBits known described notRoot notAll served
    exact ⟨elements, asks, asks.alike (.refl state) known covered⟩
  · intro obj found listed requests elements last asks room asked
    apply asks.alike room known
    intro property mem
    have codes : ∀ property ∈ describing, ∃ code ∈ describingCodes,
        ObjectPropertyCode.ofCode code = property := by decide
    obtain ⟨code, describes, rfl⟩ := codes property mem
    exact asks.folder_covers room found listed known describes (asked code describes)

/-- A device over `/sd`, which answers no property list with what it declines. -/
def decliningOver (declined : List ObjectPropertyCode) : VirtualDeviceConfig :=
  ⟨"", "", "", [⟨"", 0, .ofString "/sd", false⟩], false, false, false, true, declined, [],
    .utc, false⟩

/-- The device after the folders `r` and `sd` in it were listed. -/
def listedFolders (declined : List ObjectPropertyCode) : VirtualDeviceState :=
  ((VirtualDeviceState.new (decliningOver declined) twoBackings).scanDir Host.usual 0x00010001 0).2

/-- A folder of two, asked for by itself and with the other one. -/
theorem descriptions_agree_listed : ∃ payload info elements others last,
    (listedFolders []).buildObjectInfo 1 = some payload ∧
      ObjectDataset.fromBytes payload = .ok info ∧
      DescribedAlike (foldElements elements 1) info ∧
      VirtualDeviceState.askAll Host.usual 64
        (describingCodes.map fun code => propListParams 0 code.toUInt32 1) (listedFolders []) =
          some (others, last) ∧
      DescribedAlike (foldElements others 1) info := by
  have folder : (listedFolders []).objects.lookup 1 = some ⟨⟨[.normal ⟨"sd", rfl⟩]⟩, 0x00010001,
    0⟩ := by
    decide +kernel
  obtain ⟨facts, known⟩ : ∃ facts, (listedFolders []).objectFacts 1 = some facts :=
    Option.isSome_iff_exists.mp (by decide +kernel)
  obtain ⟨⟨others, last⟩, asked, given⟩ : ∃ result, VirtualDeviceState.askAll Host.usual 64
      (describingCodes.map fun code => propListParams 0 code.toUInt32 1) (listedFolders []) =
        some result ∧ result.2.nextHandle = (listedFolders []).nextHandle := by
    apply Option.map_eq_some_iff.mp
    decide +kernel
  have room : (listedFolders []).RoomUntil last := by
    rw [VirtualDeviceState.RoomUntil, given]
    exact VirtualDeviceState.RoomUntil.refl _
  have listed : (listedFolders []).Listed 1 ⟨⟨[.normal ⟨"sd", rfl⟩]⟩, 0x00010001, 0⟩ := by
    constructor
    · exact ⟨⟨"sd", rfl⟩, rfl⟩
    · exact ⟨_, _, rfl, rfl, by decide +kernel⟩
    · intro other found tracked
      have all : ∀ entry ∈ (listedFolders []).objects.entries,
          VirtualDeviceState.pairOf entry.2 = (0x00010001, ⟨[.normal ⟨"sd", rfl⟩]⟩) →
            entry.1 = 1 := by
        decide +kernel
      exact all ⟨other, found⟩ (AList.mem_lookup_iff.mp tracked)
    · decide
  obtain ⟨payload, info, built, -, read, own, inFolder⟩ :=
    (descriptions_agree Host.usual 64 (listedFolders [])).2 1 facts known (by decide +kernel)
  have kept : (listedFolders []).config.propListDeclinedProperties = [] := rfl
  obtain ⟨elements, -, alike⟩ := own (by decide) (by decide) (by simp [kept])
  have asks := VirtualDeviceState.Asks.askAll .nothing asked
  refine ⟨payload, info, elements, others, last, built, read, alike, asked, ?_⟩
  apply inFolder _ folder listed _ _ last asks room
  intro code mem
  rw [List.nil_append]
  exact List.mem_map_of_mem mem

/-- A device that declines names answers for an object without its name. -/
theorem declined_name_missing : ¬ ∀ (host : Host) (config : VirtualDeviceConfig) (disk : Disk)
    (actions : List Action) (state : VirtualDeviceState),
    Run (Steps host) (.new config disk) actions state → ∀ handle facts payload info elements after,
      state.objectFacts handle = some facts → state.descriptionRefusal handle = none →
      state.buildObjectInfo handle = some payload → ObjectDataset.fromBytes payload = .ok info →
      state.Asks host 64 [propListParams handle 0xFFFFFFFF 0, propListParams handle 0xDC08 0]
        elements after →
      DescribedAlike (foldElements elements handle) info := by
  intro alike
  have run : Run (Steps Host.usual) (.new (decliningOver [.objectFileName]) twoBackings)
      [.scanDir 0x00010001 0] (listedFolders [.objectFileName]) := .snoc (.nil _) rfl
  obtain ⟨facts, known⟩ : ∃ facts, (listedFolders [.objectFileName]).objectFacts 1 = some facts :=
    Option.isSome_iff_exists.mp (by decide +kernel)
  obtain ⟨payload, built, named⟩ : ∃ payload,
      (listedFolders [.objectFileName]).buildObjectInfo 1 = some payload ∧
        (ObjectDataset.fromBytes payload).map (fun info => info.filename) = .ok "sd" := by
    apply Option.map_eq_some_iff.mp
    decide +kernel
  obtain ⟨info, read, name⟩ := Readers.map_eq_ok.mp named
  obtain ⟨⟨elements, last⟩, asked, nameless⟩ : ∃ result, VirtualDeviceState.askAll Host.usual 64
      [propListParams 1 0xFFFFFFFF 0, propListParams 1 0xDC08 0] (listedFolders [.objectFileName]) =
        some result ∧ (foldElements result.1 1).filename = "" := by
    apply Option.map_eq_some_iff.mp
    decide +kernel
  have asks := VirtualDeviceState.Asks.askAll .nothing asked
  have same := alike _ _ _ _ _ run 1 facts payload info _ _ known (by decide +kernel) built read
    asks
  have names := same.filename
  rw [List.nil_append, name] at names
  rw [names] at nameless
  exact absurd nameless (by decide)

end VirtualDevice
