import MtpRs.Mtp.HandleListing

set_option autoImplicit false

/- The per-handle listing as its consumers pull it, item by item: what is asked of the device
for each item, and what the collecting and the streaming consumer make of the same stream. -/
namespace Mtp

open Ptp (ObjectDataset PtpError)

/-- The stream between two items: the handles from the cursor on, and those asked for. -/
structure ListingState where
  cursor : Nat
  remaining : List UInt32
  asked : List UInt32
deriving DecidableEq, Repr

namespace ListingState

/-- The loop that looks for the next item. Only an object the filter drops makes it go round. -/
def nextFrom (device : Responder) (filter : ParentFilter) (cursor : Nat) (asked : List UInt32) :
    List UInt32 → Option ListingItem × ListingState
  | [] => (none, ⟨cursor, [], asked⟩)
  | handle :: rest =>
      match device.bailIfCancelled (.handle cursor) with
      -- the cursor stays: a listing that is pulled again is cancelled again
      | .error e => (some (.error ⟨handle, .ofPtp e, .fatal⟩), ⟨cursor, handle :: rest, asked⟩)
      | .ok _ =>
          match device.getObjectInfoFull cursor handle with
          | .error e =>
              (some (.error (listingError handle e)), ⟨cursor + 1, rest, asked ++ [handle]⟩)
          | .ok info =>
              if filter.accepts info.parent then
                (some (.ok (.fromPtp { info with handle := handle })),
                  ⟨cursor + 1, rest, asked ++ [handle]⟩)
              else nextFrom device filter (cursor + 1) (asked ++ [handle]) rest

def next (device : Responder) (filter : ParentFilter) (self : ListingState) :
    Option ListingItem × ListingState :=
  nextFrom device filter self.cursor self.asked self.remaining

/-- A listing of `handles` nothing was pulled from yet. -/
def start (handles : List UInt32) : ListingState := ⟨0, handles, []⟩

/-- Whatever leaves the listing usable uses up a handle. -/
theorem nextFrom_length_lt {device : Responder} {filter : ParentFilter} {cursor : Nat}
    {asked handles : List UInt32} {item : ListingItem} {after : ListingState}
    (pulled : nextFrom device filter cursor asked handles = (some item, after))
    (usable : ∀ error, item = .error error → error.disposition = .skipObject) :
    after.remaining.length < handles.length := by
  induction handles generalizing cursor asked with
  | nil => simp [nextFrom] at pulled
  | cons handle rest ih =>
      unfold nextFrom at pulled
      cases looked : device.bailIfCancelled (.handle cursor) with
      | error e =>
          simp only [looked, Prod.mk.injEq, Option.some.injEq] at pulled
          have fatal := usable _ pulled.1.symm
          simp at fatal
      | ok _ =>
          simp only [looked] at pulled
          cases answered : device.getObjectInfoFull cursor handle with
          | error e =>
              simp only [answered, Prod.mk.injEq] at pulled
              simp [← pulled.2]
          | ok info =>
              simp only [answered] at pulled
              by_cases accepted : filter.accepts info.parent
              · simp only [accepted, if_true, Prod.mk.injEq] at pulled
                simp [← pulled.2]
              · simp only [accepted, Bool.false_eq_true, if_false] at pulled
                have further := ih pulled
                simp only [List.length_cons]
                omega

end ListingState

/-- A listing a caller streams: the backend's stream, and the objects yielded so far. -/
structure ObjectListing where
  inner : ListingState
  fetched : Nat
deriving DecidableEq, Repr

inductive ObjectListing.Item where
  | object (info : ListedObject)
  | skipped (refused : SkippedObject)
deriving DecidableEq, Repr

namespace ObjectListing

def Item.object? : Item → Option ListedObject
  | .object info => some info
  | .skipped _ => none

def Item.skipped? : Item → Option SkippedObject
  | .object _ => none
  | .skipped refused => some refused

def Item.classified : Item → ListingItem
  | .object info => .ok info
  | .skipped refused => .error ⟨refused.handle, refused.error, .skipObject⟩

end ObjectListing

section

variable (device : Responder) (filter : ParentFilter)

def collectFrom (state : ListingState) (objects : List ListedObject)
    (skipped : List BackendListingError) :
    Except Error (List ListedObject × List BackendListingError) × ListingState :=
  match _ : state.next device filter with
  | (none, after) => (.ok (objects, skipped), after)
  | (some (.ok object), after) => collectFrom after (objects ++ [object]) skipped
  | (some (.error error), after) =>
      if _ : error.disposition = .skipObject then
        collectFrom after objects (skipped ++ [error])
      else (.error error.source, after)
termination_by state.remaining.length
decreasing_by
  · exact ListingState.nextFrom_length_lt ‹_› fun _ isError => absurd isError (by simp)
  · exact ListingState.nextFrom_length_lt ‹_› fun other isError => by
      cases isError
      assumption

/-- The loop goes by what the stream yields. -/
theorem collectFrom_eq (state : ListingState) (objects : List ListedObject)
    (skipped : List BackendListingError) :
    collectFrom device filter state objects skipped =
      match state.next device filter with
      | (none, after) => (.ok (objects, skipped), after)
      | (some (.ok object), after) => collectFrom device filter after (objects ++ [object]) skipped
      | (some (.error error), after) =>
          if error.disposition = .skipObject then
            collectFrom device filter after objects (skipped ++ [error])
          else (.error error.source, after) := by
  rw [collectFrom]
  cases pulled : state.next device filter with
  | mk item after =>
      cases item with
      | none => rfl
      | some item => cases item <;> rfl

/-- `collect_in` once the handles are known: the collection or the error, and the handles the
device was asked for. -/
def collectHandles (handles : List UInt32) : Except Error ObjectCollection × List UInt32 :=
  match collectFrom device filter (.start handles) [] [] with
  | (.error e, after) => (.error e, after.asked)
  | (.ok (objects, skipped), after) =>
      match objects, skipped with
      -- a device that answered nothing does not make an empty folder
      | [], first :: _ => (.error first.source, after.asked)
      | objects, skipped =>
          (.ok ⟨objects, skipped.map fun e => ⟨e.handle, e.source⟩⟩, after.asked)

namespace ObjectListing

def nextClassified (self : ObjectListing) : Option ListingItem × ObjectListing :=
  match self.inner.next device filter with
  | (some (.ok info), inner) => (some (.ok info), ⟨inner, self.fetched + 1⟩)
  | (other, inner) => (other, ⟨inner, self.fetched⟩)

def next (self : ObjectListing) : Option (Except Error Item) × ObjectListing :=
  match self.nextClassified device filter with
  | (none, self) => (none, self)
  | (some (.ok info), self) => (some (.ok (.object info)), self)
  | (some (.error error), self) =>
      if error.disposition = .skipObject then
        (some (.ok (.skipped ⟨error.handle, error.source⟩)), self)
      else (some (.error error.source), self)

/-- A caller that streams until the end or the first `Err`: what `next` yielded, at most
`pulls` times, and the listing as it is left. -/
def stream : Nat → ObjectListing → List (Except Error Item) × ObjectListing
  | 0, self => ([], self)
  | pulls + 1, self =>
      match self.next device filter with
      | (none, after) => ([], after)
      | (some (.error e), after) => ([.error e], after)
      | (some (.ok item), after) =>
          let (items, last) := stream pulls after
          (.ok item :: items, last)

end ObjectListing

/-- What one handle's turn comes to: a cancellation, or the answer to its metadata request. -/
def Responder.metadata (cursor : Nat) (handle : UInt32) : Except PtpError ObjectDataset :=
  match device.bailIfCancelled (.handle cursor) with
  | .error e => .error e
  | .ok _ => device.getObjectInfoFull cursor handle

/-- The handle's turn leaves the listing usable: an object, or `GeneralError` to `GetObjectInfo`. -/
def Responder.Tolerated (cursor : Nat) (handle : UInt32) : Prop :=
  ∀ e, device.metadata cursor handle = .error e → e = .protocol .generalError .getObjectInfo

/-- The handle's turn is anything else. -/
def Responder.Fails (cursor : Nat) (handle : UInt32) (error : Error) : Prop :=
  ∃ e, device.metadata cursor handle = .error e ∧ e ≠ .protocol .generalError .getObjectInfo ∧
    error = .ofPtp e

/-- What a usable turn adds to the listing: nothing, where the filter drops the object. -/
def turn (entry : UInt32 × Nat) : Option ObjectListing.Item :=
  match device.metadata entry.2 entry.1 with
  | .ok info =>
      if filter.accepts info.parent then
        some (.object (.fromPtp { info with handle := entry.1 }))
      else none
  | .error e => some (.skipped ⟨entry.1, .ofPtp e⟩)

/-- What the turns of `handles` add, in their order. -/
def turns (cursor : Nat) (handles : List UInt32) : List ObjectListing.Item :=
  (handles.zipIdx cursor).filterMap (turn device filter)

end

section

variable {device : Responder} {filter : ParentFilter} {cursor : Nat} {handle : UInt32}

open ObjectListing (Item)

theorem turns_cons {rest : List UInt32} :
    turns device filter cursor (handle :: rest) =
      (turn device filter (handle, cursor)).toList ++ turns device filter (cursor + 1) rest := by
  simp only [turns, List.zipIdx_cons, List.filterMap_cons]
  cases turn device filter (handle, cursor) <;> rfl

/-- A usable turn, as the stream takes it. -/
theorem nextFrom_turn (filter : ParentFilter) (tolerated : device.Tolerated cursor handle)
    (asked rest : List UInt32) :
    ListingState.nextFrom device filter cursor asked (handle :: rest) =
      match turn device filter (handle, cursor) with
      | none => ListingState.nextFrom device filter (cursor + 1) (asked ++ [handle]) rest
      | some item => (some item.classified, ⟨cursor + 1, rest, asked ++ [handle]⟩) := by
  unfold Responder.Tolerated Responder.metadata at tolerated
  unfold turn Responder.metadata
  rw [ListingState.nextFrom]
  cases looked : device.bailIfCancelled (.handle cursor) with
  | error e =>
      simp only [looked] at tolerated
      have cancelled : e = .cancelled := by
        unfold Responder.bailIfCancelled at looked
        by_cases stopped : device.cancelled (.handle cursor)
        · simp only [stopped, if_true, Except.error.injEq] at looked
          exact looked.symm
        · simp [stopped] at looked
      have refused := tolerated e rfl
      simp [cancelled] at refused
  | ok _ =>
      simp only [looked] at tolerated ⊢
      cases answered : device.getObjectInfoFull cursor handle with
      | error e =>
          have refused := tolerated e answered
          simp [refused, Item.classified, listingError]
      | ok info =>
          by_cases accepted : filter.accepts info.parent
          · simp [accepted, Item.classified]
          · simp [accepted]

/-- A turn that ends the listing, as the stream takes it. -/
theorem nextFrom_fails (filter : ParentFilter) {error : Error}
    (fails : device.Fails cursor handle error)
    (asked rest : List UInt32) :
    ∃ after, ListingState.nextFrom device filter cursor asked (handle :: rest) =
        (some (.error ⟨handle, error, .fatal⟩), after) ∧
      after.asked = asked ++ if device.cancelled (.handle cursor) then [] else [handle] := by
  obtain ⟨e, answer, other, rfl⟩ := fails
  unfold Responder.metadata at answer
  rw [ListingState.nextFrom]
  unfold Responder.bailIfCancelled at answer ⊢
  by_cases cancelled : device.cancelled (.handle cursor)
  · simp only [cancelled, if_true] at answer ⊢
    cases answer
    exact ⟨_, rfl, by simp⟩
  · simp only [cancelled, Bool.false_eq_true, if_false] at answer ⊢
    simp only [answer, listingError, if_neg other]
    exact ⟨_, rfl, rfl⟩

/-- The collecting loop past usable turns. -/
theorem collectFrom_turns (filter : ParentFilter) (cursor : Nat) {before : List UInt32}
    (rest asked : List UInt32)
    (tolerated : ∀ i handle, before[i]? = some handle → device.Tolerated (cursor + i) handle)
    (objects : List ListedObject) (skipped : List BackendListingError) :
    collectFrom device filter ⟨cursor, before ++ rest, asked⟩ objects skipped =
      collectFrom device filter ⟨cursor + before.length, rest, asked ++ before⟩
        (objects ++ (turns device filter cursor before).filterMap Item.object?)
        (skipped ++ ((turns device filter cursor before).filterMap Item.skipped?).map
          fun o => ⟨o.handle, o.error, .skipObject⟩) := by
  induction before generalizing cursor asked objects skipped with
  | nil => simp [turns]
  | cons handle others ih =>
      have first : device.Tolerated cursor handle := tolerated 0 handle rfl
      have later := fun objects skipped => ih (cursor + 1) (asked ++ [handle])
        (fun i h found => by
          have this := tolerated (i + 1) h found
          rwa [Nat.add_comm i, ← Nat.add_assoc] at this) objects skipped
      have taken := nextFrom_turn filter first asked (others ++ rest)
      have place : cursor + (handle :: others).length = cursor + 1 + others.length := by
        rw [List.length_cons]
        omega
      rw [turns_cons, List.cons_append, place, List.append_cons asked handle others]
      cases added : turn device filter (handle, cursor) with
      | none =>
          rw [added] at taken
          have same : collectFrom device filter ⟨cursor, handle :: (others ++ rest), asked⟩
              objects skipped =
              collectFrom device filter ⟨cursor + 1, others ++ rest, asked ++ [handle]⟩
                objects skipped := by
            rw [collectFrom_eq, collectFrom_eq, ListingState.next, ListingState.next, taken]
          rw [same, later]
          rfl
      | some item =>
          rw [added] at taken
          rw [collectFrom_eq, ListingState.next, taken]
          cases item with
          | object info =>
              dsimp only [Item.classified]
              rw [later]
              simp [List.filterMap_cons, Item.object?, Item.skipped?]
          | skipped refused =>
              dsimp only [Item.classified]
              rw [if_pos rfl, later]
              simp [List.filterMap_cons, Item.object?, Item.skipped?]

/-- The streaming caller past usable turns. -/
theorem stream_turns (filter : ParentFilter) (cursor : Nat) {before : List UInt32}
    (rest asked : List UInt32) (fetched more : Nat)
    (tolerated : ∀ i handle, before[i]? = some handle → device.Tolerated (cursor + i) handle) :
    ∃ yielded, ObjectListing.stream device filter
        ((turns device filter cursor before).length + more + 1)
        ⟨⟨cursor, before ++ rest, asked⟩, fetched⟩ =
      let ended := ObjectListing.stream device filter (more + 1)
        ⟨⟨cursor + before.length, rest, asked ++ before⟩, yielded⟩
      ((turns device filter cursor before).map .ok ++ ended.1, ended.2) := by
  induction before generalizing cursor asked fetched with
  | nil => exact ⟨fetched, by simp [turns]⟩
  | cons handle others ih =>
      have first : device.Tolerated cursor handle := tolerated 0 handle rfl
      have later := fun fetched => ih (cursor + 1) (asked ++ [handle]) fetched
        (fun i h found => by
          have this := tolerated (i + 1) h found
          rwa [Nat.add_comm i, ← Nat.add_assoc] at this)
      have taken := nextFrom_turn filter first asked (others ++ rest)
      have place : cursor + (handle :: others).length = cursor + 1 + others.length := by
        rw [List.length_cons]
        omega
      rw [turns_cons, List.cons_append, place, List.append_cons asked handle others]
      cases added : turn device filter (handle, cursor) with
      | none =>
          rw [added] at taken
          obtain ⟨yielded, streamed⟩ := later fetched
          refine ⟨yielded, ?_⟩
          rw [Option.toList_none, List.nil_append, ← streamed]
          simp only [ObjectListing.stream, ObjectListing.next, ObjectListing.nextClassified,
            ListingState.next, taken]
      | some item =>
          rw [added] at taken
          have pulls : (Option.toList (some item) ++
              turns device filter (cursor + 1) others).length + more + 1 =
              (turns device filter (cursor + 1) others).length + more + 1 + 1 := by
            simp only [Option.toList_some, List.length_append, List.length_singleton]
            omega
          rw [pulls, ObjectListing.stream, ObjectListing.next, ObjectListing.nextClassified,
            ListingState.next, taken]
          cases item with
          | object info =>
              obtain ⟨yielded, streamed⟩ := later (fetched + 1)
              refine ⟨yielded, ?_⟩
              dsimp only [Item.classified]
              rw [streamed]
              rfl
          | skipped refused =>
              obtain ⟨yielded, streamed⟩ := later fetched
              refine ⟨yielded, ?_⟩
              dsimp only [Item.classified]
              rw [if_pos rfl]
              dsimp only
              rw [streamed]
              rfl

theorem turns_length_le (device : Responder) (filter : ParentFilter) (cursor : Nat)
    (handles : List UInt32) : (turns device filter cursor handles).length ≤ handles.length := by
  have bound := List.length_filterMap_le (turn device filter) (handles.zipIdx cursor)
  rwa [List.length_zipIdx] at bound

/-- The handles a listing that stops at `handle` has asked for. -/
def askedUntil (device : Responder) (before : List UInt32) (handle : UInt32) : List UInt32 :=
  before ++ if device.cancelled (.handle before.length) then [] else [handle]

/-- Both consumers of a listing whose first turn that is not usable is `handle`'s. -/
theorem stops_at {before after : List UInt32} {handle : UInt32} {error : Error}
    (tolerated : ∀ i handle, before[i]? = some handle → device.Tolerated i handle)
    (fails : device.Fails before.length handle error) :
    collectHandles device filter (before ++ handle :: after) =
        (.error error, askedUntil device before handle) ∧
      ∀ pulls > (before ++ handle :: after).length, ∃ last,
        ObjectListing.stream device filter pulls ⟨.start (before ++ handle :: after), 0⟩ =
            ((turns device filter 0 before).map .ok ++ [.error error], last) ∧
          last.inner.asked = askedUntil device before handle := by
  have fromStart : ∀ i handle, before[i]? = some handle → device.Tolerated (0 + i) handle :=
    fun i h found => by rw [Nat.zero_add]; exact tolerated i h found
  obtain ⟨ended, pulled, asks⟩ := nextFrom_fails filter fails before after
  constructor
  · rw [collectHandles, ListingState.start, collectFrom_turns _ _ _ _ fromStart, Nat.zero_add,
      List.nil_append, collectFrom_eq, ListingState.next, pulled]
    dsimp only
    rw [if_neg (by simp)]
    dsimp only
    rw [asks]
    rfl
  · intro pulls enough
    have few := turns_length_le device filter 0 before
    rw [List.length_append] at enough
    obtain ⟨more, rfl⟩ : ∃ more, pulls = (turns device filter 0 before).length + more + 1 :=
      ⟨pulls - (turns device filter 0 before).length - 1, by omega⟩
    obtain ⟨yielded, streamed⟩ :=
      stream_turns filter 0 (handle :: after) [] 0 more fromStart
    refine ⟨⟨ended, yielded⟩, ?_, asks⟩
    rw [ListingState.start, streamed, Nat.zero_add, List.nil_append, ObjectListing.stream,
      ObjectListing.next, ObjectListing.nextClassified, ListingState.next, pulled]
    dsimp only
    rw [if_neg (by simp)]

/-- Both consumers of a listing all of whose turns are usable. -/
theorem runs_through {handles : List UInt32}
    (tolerated : ∀ i handle, handles[i]? = some handle → device.Tolerated i handle) :
    collectHandles device filter handles =
        (match (turns device filter 0 handles).filterMap Item.object?,
            (turns device filter 0 handles).filterMap Item.skipped? with
          | [], first :: _ => .error first.error
          | objects, skipped => .ok ⟨objects, skipped⟩, handles) ∧
      ∀ pulls > handles.length, ∃ last,
        ObjectListing.stream device filter pulls ⟨.start handles, 0⟩ =
            ((turns device filter 0 handles).map .ok, last) ∧
          last.inner.asked = handles := by
  have fromStart : ∀ i handle, handles[i]? = some handle → device.Tolerated (0 + i) handle :=
    fun i h found => by rw [Nat.zero_add]; exact tolerated i h found
  constructor
  · have ran := collectFrom_turns filter 0 [] [] fromStart [] []
    rw [List.append_nil] at ran
    rw [collectHandles, ListingState.start, ran, collectFrom_eq]
    generalize (turns device filter 0 handles).filterMap Item.object? = objects
    generalize (turns device filter 0 handles).filterMap Item.skipped? = skipped
    cases objects with
    | nil => cases skipped <;> simp [ListingState.next, ListingState.nextFrom]
    | cons object others =>
        simp only [ListingState.next, ListingState.nextFrom, List.nil_append, List.map_map]
        congr 3
        exact List.map_id skipped
  · intro pulls enough
    have few := turns_length_le device filter 0 handles
    obtain ⟨more, rfl⟩ : ∃ more, pulls = (turns device filter 0 handles).length + more + 1 :=
      ⟨pulls - (turns device filter 0 handles).length - 1, by omega⟩
    obtain ⟨yielded, streamed⟩ := stream_turns filter 0 [] [] 0 more fromStart
    rw [List.append_nil] at streamed
    refine ⟨⟨⟨handles.length, [], handles⟩, yielded⟩, ?_, rfl⟩
    rw [ListingState.start, streamed]
    simp [ObjectListing.stream, ObjectListing.next, ObjectListing.nextClassified,
      ListingState.next, ListingState.nextFrom]

/-- A listing over the per-handle path, collected or streamed: it ends in the first turn that is
neither an object nor `GeneralError` to `GetObjectInfo`, and asks for no handle after it. Without
one, it holds the accepted objects and the refused handles, in the order of the handles; a
collection of refusals only is the first refusal's error. -/
theorem tolerant_listing (device : Responder) (filter : ParentFilter) (handles : List UInt32) :
    (∀ before handle after error, handles = before ++ handle :: after →
      (∀ i h, before[i]? = some h → device.Tolerated i h) →
      device.Fails before.length handle error →
      collectHandles device filter handles = (.error error, askedUntil device before handle) ∧
        ∀ pulls > handles.length, ∃ last,
          ObjectListing.stream device filter pulls ⟨.start handles, 0⟩ =
              ((turns device filter 0 before).map .ok ++ [.error error], last) ∧
            last.inner.asked = askedUntil device before handle) ∧
    ((∀ i h, handles[i]? = some h → device.Tolerated i h) →
      collectHandles device filter handles =
          (match (turns device filter 0 handles).filterMap Item.object?,
              (turns device filter 0 handles).filterMap Item.skipped? with
            | [], first :: _ => .error first.error
            | objects, skipped => .ok ⟨objects, skipped⟩, handles) ∧
        ∀ pulls > handles.length, ∃ last,
          ObjectListing.stream device filter pulls ⟨.start handles, 0⟩ =
              ((turns device filter 0 handles).map .ok, last) ∧
            last.inner.asked = handles) := by
  constructor
  · intro before handle after error split tolerated fails
    subst split
    exact stops_at tolerated fails
  · intro tolerated
    exact runs_through tolerated

end

end Mtp
