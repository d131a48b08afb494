import DashAgent.Proofs.Switch.Gate
import Mathlib.Data.List.Nodup

/-!
# A flush that is cut off and repeated

A flush of requests that name their entries does the same to a table of the switch whether it runs
through or is first cut off, after any number of calls, and then repeated as a whole: entries that
are gone already or there already stay so, and a table that was full for a create is still full for
it. The answers may differ, but they are decided alike. Main theorem: `leaves_of_halfway`.
-/
namespace DashAgent

/-! ## Tables of entries -/

/-- Removes of keys that are not there change nothing. -/
theorem diff_of_absent {objects keys : List ObjectKey} (h : ∀ key ∈ keys, key ∉ objects) :
    objects.diff keys = objects := by
  induction keys with
  | nil => rfl
  | cons key rest ih =>
    rw [List.diff_cons, List.erase_of_not_mem (h key (List.mem_cons_self ..))]
    exact ih fun key' hkey' => h key' (List.mem_cons_of_mem _ hkey')

def place (size : Nat) (objects : List ObjectKey) (key : ObjectKey) : List ObjectKey :=
  if key ∈ objects ∨ size ≤ objects.length then objects else key :: objects

/-- The objects of a table after creates of keys, in order. -/
def placeAll (size : Nat) (objects keys : List ObjectKey) : List ObjectKey :=
  keys.foldl (place size) objects

section Place

variable {size : Nat} {objects keys : List ObjectKey} {key : ObjectKey}

theorem placeAll_append (keys' : List ObjectKey) :
    placeAll size objects (keys ++ keys') = placeAll size (placeAll size objects keys) keys' :=
  List.foldl_append

/-- Keys that are there, or have no room, change nothing. -/
theorem placeAll_eq_self (h : ∀ key ∈ keys, key ∈ objects ∨ size ≤ objects.length) :
    placeAll size objects keys = objects := by
  induction keys with
  | nil => rfl
  | cons key rest ih =>
    have hfirst : place size objects key = objects := if_pos (h key (List.mem_cons_self ..))
    rw [placeAll, List.foldl_cons, hfirst]
    exact ih fun key' hkey' => h key' (List.mem_cons_of_mem _ hkey')

theorem placeAll_of_full (h : size ≤ objects.length) : placeAll size objects keys = objects :=
  placeAll_eq_self fun _ _ => .inr h

theorem mem_or_full_place (key : ObjectKey) :
    key ∈ place size objects key ∨ size ≤ (place size objects key).length := by
  unfold place
  split
  · next h => exact h
  · exact .inl (List.mem_cons_self ..)

theorem mem_placeAll_of_mem (h : key ∈ objects) : key ∈ placeAll size objects keys := by
  induction keys generalizing objects with
  | nil => exact h
  | cons next rest ih =>
    refine ih ?_
    unfold place
    split
    · exact h
    · exact List.mem_cons_of_mem _ h

/-- What is in the table was there or was asked for. -/
theorem mem_of_mem_placeAll (h : key ∈ placeAll size objects keys) :
    key ∈ objects ∨ key ∈ keys := by
  induction keys generalizing objects with
  | nil => exact .inl h
  | cons next rest ih =>
    obtain hplaced | hrest := ih h
    · unfold place at hplaced
      split at hplaced
      · exact .inl hplaced
      · obtain rfl | hold := List.mem_cons.1 hplaced
        · exact .inr (List.mem_cons_self ..)
        · exact .inl hold
    · exact .inr (List.mem_cons_of_mem _ hrest)

/-- Every key that was asked for is in the table, unless the table is full. -/
theorem mem_or_full_placeAll (h : key ∈ keys) :
    key ∈ placeAll size objects keys ∨ size ≤ (placeAll size objects keys).length := by
  induction keys generalizing objects with
  | nil => cases h
  | cons next rest ih =>
    rcases List.mem_cons.1 h with rfl | hrest
    · rw [placeAll, List.foldl_cons]
      refine (mem_or_full_place key).imp (fun hplaced => mem_placeAll_of_mem hplaced) ?_
      intro hfull
      have hsame : placeAll size (place size objects key) rest = place size objects key :=
        placeAll_of_full hfull
      rw [← placeAll, hsame]
      exact hfull
    · exact ih hrest

/-- Whether a key that was asked for got its place does not change later. -/
theorem mem_placeAll_append_iff (h : key ∈ keys) (keys' : List ObjectKey) :
    key ∈ placeAll size objects (keys ++ keys') ↔ key ∈ placeAll size objects keys := by
  rw [placeAll_append]
  refine ⟨fun hmem => ?_, mem_placeAll_of_mem⟩
  have hplaced : key ∈ placeAll size objects keys ∨ size ≤ (placeAll size objects keys).length :=
    mem_or_full_placeAll h
  obtain hthere | hfull := hplaced
  · exact hthere
  · rwa [placeAll_of_full hfull] at hmem

end Place

def CreateRequest.target (request : CreateRequest) : ObjectKey := .entry (request.entry.getD "")

namespace BulkStager

variable (s : BulkStager)

def removals : List ObjectKey := (s.selected Slot.openRemove?).map Prod.snd

def creations : List ObjectKey := (s.selected Slot.openCreate?).map fun u => u.2.target

def leaves (size : Nat) (objects : List ObjectKey) : List ObjectKey :=
  placeAll size (objects.diff s.removals) s.creations

/-- The objects at some moment of a flush, between two calls. -/
def Halfway (size : Nat) (objects objects' : List ObjectKey) : Prop :=
  (∃ sent, sent <+: s.removals ∧ objects' = objects.diff sent) ∨
    ∃ sent, sent <+: s.creations ∧ objects' = placeAll size (objects.diff s.removals) sent

/-- No entry is to be removed and created in one flush. -/
def Apart : Prop := ∀ key ∈ s.removals, key ∉ s.creations

variable {s} {size : Nat} {objects objects' : List ObjectKey}

theorem halfway_leaves (s : BulkStager) (size : Nat) (objects : List ObjectKey) :
    s.Halfway size objects (s.leaves size objects) :=
  .inr ⟨s.creations, List.prefix_rfl, rfl⟩

/-- A flush that begins where another one was cut off leaves what a whole one leaves. -/
theorem leaves_of_halfway (hnodup : objects.Nodup) (hapart : s.Apart)
    (h : s.Halfway size objects objects') : s.leaves size objects' = s.leaves size objects := by
  obtain ⟨sent, hsent, rfl⟩ | ⟨sent, hsent, rfl⟩ := h
  · have hagain : (objects.diff sent).diff s.removals = objects.diff s.removals := by
      rw [hnodup.diff.sdiff_eq_filter, hnodup.sdiff_eq_filter, hnodup.sdiff_eq_filter,
        List.filter_filter]
      refine List.filter_congr fun key _ => ?_
      by_cases hkey : key ∈ s.removals
      · simp [hkey]
      · simp [hkey, mt (fun h => hsent.subset h) hkey]
    rw [leaves, hagain, leaves]
  · obtain ⟨rest, hrest⟩ := hsent
    have hremoved : (placeAll size (objects.diff s.removals) sent).diff s.removals =
        placeAll size (objects.diff s.removals) sent := by
      refine diff_of_absent fun key hkey hmem => ?_
      obtain hleft | hsent := mem_of_mem_placeAll hmem
      · exact (hnodup.mem_sdiff_iff.1 hleft).2 hkey
      · exact hapart key hkey (hrest ▸ List.mem_append_left rest hsent)
    have hplaced : placeAll size (placeAll size (objects.diff s.removals) sent) sent =
        placeAll size (objects.diff s.removals) sent :=
      placeAll_eq_self fun key hkey => mem_or_full_placeAll hkey
    rw [leaves, hremoved, leaves, ← hrest, placeAll_append, hplaced, ← placeAll_append]

end BulkStager

def Slot.key? : Slot → Option ObjectKey
  | create request _ => request.entry.map .entry
  | remove key _ => some key
  | settled _ => none

namespace BulkStager

def keys (s : BulkStager) : List ObjectKey := s.slots.filterMap Slot.key?

/-- Requests about different entries do not get into each other's way. -/
theorem apart_of_nodup {s : BulkStager} (hkeyed : s.NamesEntries) (hnodup : s.keys.Nodup) :
    s.Apart := by
  intro key hremoved hcreated
  obtain ⟨⟨i, removed⟩, hi, hkey⟩ := List.mem_map.1 hremoved
  obtain ⟨⟨j, request⟩, hj, htarget⟩ := List.mem_map.1 hcreated
  have hnamed : request.entry ≠ none := hkeyed _ hj
  dsimp only at hkey htarget
  subst hkey
  obtain ⟨slot, hslot, hpick⟩ := mem_selected.1 hi
  obtain ⟨slot', hslot', hpick'⟩ := mem_selected.1 hj
  rw [Slot.eq_of_openRemove? hpick] at hslot
  rw [Slot.eq_of_openCreate? hpick'] at hslot'
  obtain ⟨text, htext⟩ := Option.ne_none_iff_exists'.1 hnamed
  have hkey : (Slot.create request none).key? = some removed := by
    rw [Slot.key?, ← htarget, CreateRequest.target, htext]
    rfl
  obtain ⟨hlt, hget⟩ := List.getElem?_eq_some_iff.1 hslot
  obtain ⟨hlt', hget'⟩ := List.getElem?_eq_some_iff.1 hslot'
  have hpairwise := List.pairwise_iff_getElem.1 (List.pairwise_filterMap.1 hnodup)
  rcases Nat.lt_trichotomy i j with hij | rfl | hji
  · have hne := hpairwise i j hlt hlt' hij
    rw [hget, hget'] at hne
    exact hne _ rfl _ hkey rfl
  · rw [hslot] at hslot'
    cases hslot'
  · have hne := hpairwise j i hlt' hlt hji
    rw [hget, hget'] at hne
    exact hne _ hkey _ rfl rfl

end BulkStager

/-! ## Answers to requests -/

namespace Simulator

/-- The switch is up, holds the given objects of every type, and is as another one was but for them
and for what it counted. -/
structure Holds (d₀ : Simulator) (objects : ObjectType → List ObjectKey) (d : Simulator) :
    Prop where
  up : d.channelLost = false
  size : d.defaultCapacity = d₀.defaultCapacity
  pools : ∀ type, d.pools.get type = { d₀.pools.get type with objects := objects type }

section Holds

variable {d₀ d : Simulator} {type : ObjectType} {objects : ObjectType → List ObjectKey}

theorem holds_self (hup : d.channelLost = false) : Holds d d.objects d := ⟨hup, rfl, fun _ => rfl⟩

theorem Holds.objects_eq (h : Holds d₀ objects d) (type : ObjectType) :
    d.objects type = objects type := by
  rw [Simulator.objects, h.pools]

theorem Holds.capacityOf (h : Holds d₀ objects d) (type : ObjectType) :
    d.capacityOf type = d₀.capacityOf type := by
  rw [Simulator.capacityOf, Simulator.capacityOf, h.size, h.pools]

theorem Holds.unforced (h : Holds d₀ objects d) :
    (d.pools.get type).forced = (d₀.pools.get type).forced := by
  rw [h.pools]

theorem Holds.called (h : Holds d₀ objects d) : Holds d₀ objects d.called :=
  ⟨h.up, h.size, h.pools⟩

/-- The objects of one type are replaced. -/
theorem Holds.set (h : Holds d₀ objects d) (type : ObjectType) (after : List ObjectKey) :
    Holds d₀ (Function.update objects type after) { d with
      pools := d.pools.set type { d.pools.get type with objects := after } } := by
  refine ⟨h.up, h.size, fun other => ?_⟩
  by_cases hne : type = other
  · subst hne
    rw [Roster.get_set_self, Function.update_self, h.pools]
  · rw [Roster.get_set_of_ne _ _ hne, Function.update_of_ne (Ne.symm hne), h.pools]

/-- A remove is answered so that it is committed, and its key is gone. -/
theorem Holds.removeOne (h : Holds d₀ objects d) (hunforced : (d₀.pools.get type).forced = [])
    (key : ObjectKey) :
    (d.removeOne type key).1.IsGone ∧
      Holds d₀ (Function.update objects type ((objects type).erase key))
        (d.removeOne type key).2 := by
  have hobjects : (d.pools.get type).objects = objects type := h.objects_eq type
  simp only [Simulator.removeOne, takeForced_of_nil (h.unforced.trans hunforced), Pool.take,
    hobjects]
  split
  · exact ⟨ofStatus_success _, h.set type _⟩
  · next habsent =>
    rw [List.erase_of_not_mem habsent, set_get, Function.update_eq_self]
    exact ⟨ofStatus_itemNotFound, h⟩

/-- A create that names its entry is committed if the entry is in the table afterwards, and retried
if not. -/
theorem Holds.createOne (h : Holds d₀ objects d) (hunforced : (d₀.pools.get type).forced = [])
    {request : CreateRequest} (hentry : request.entry ≠ none) :
    Decision.ofStatus .create (d.createOne type request).1.status =
        (if request.target ∈ place (d₀.capacityOf type) (objects type) request.target then .commit
          else .retry) ∧
      Holds d₀ (Function.update objects type
          (place (d₀.capacityOf type) (objects type) request.target))
        (d.createOne type request).2 := by
  obtain ⟨key, hkey⟩ := Option.ne_none_iff_exists'.1 hentry
  have htarget : request.target = .entry key := by rw [CreateRequest.target, hkey]; rfl
  have hobjects : (d.pools.get type).objects = objects type := h.objects_eq type
  simp only [Simulator.createOne, takeForced_of_nil (h.unforced.trans hunforced), set_get, hkey,
    addKey, Pool.add, hobjects, htarget, h.capacityOf, place]
  by_cases hthere : ObjectKey.entry key ∈ objects type
  · simp only [hthere, if_true, true_or, set_get, Function.update_eq_self]
    exact ⟨ofStatus_itemAlreadyExists, h⟩
  · by_cases hfull : d₀.capacityOf type ≤ (objects type).length
    · simp only [hthere, hfull, if_true, if_false, or_true, set_get, Function.update_eq_self]
      exact ⟨by decide, h⟩
    · simp only [hthere, hfull, if_false, or_self, List.mem_cons_self, if_true]
      exact ⟨ofStatus_success _, h.set type _⟩

theorem Holds.removeAll (hunforced : (d₀.pools.get type).forced = []) (keys : List ObjectKey)
    {objects : ObjectType → List ObjectKey} {d : Simulator} (h : Holds d₀ objects d) :
    (removeAll type keys d).1.length = keys.length ∧
      (∀ status ∈ (removeAll type keys d).1, status.IsGone) ∧
      Holds d₀ (Function.update objects type ((objects type).diff keys))
        (removeAll type keys d).2 := by
  induction keys generalizing objects d with
  | nil => exact ⟨rfl, nofun, by rw [List.diff_nil, Function.update_eq_self]; exact h⟩
  | cons key rest ih =>
    obtain ⟨hgone, hnext⟩ := h.removeOne hunforced key
    obtain ⟨hlength, hall, hend⟩ := ih hnext
    rw [Function.update_self, Function.update_idem, ← List.diff_cons] at hend
    exact ⟨congrArg (· + 1) hlength, List.forall_mem_cons.2 ⟨hgone, hall⟩, hend⟩

/-- A request and its answer, which is committed if the entry has its place in the table. -/
def Placed (objects : List ObjectKey) (u : CreateRequest × CreateAnswer) : Prop :=
  Decision.ofStatus .create u.2.status = if u.1.target ∈ objects then .commit else .retry

theorem Holds.createAll (hunforced : (d₀.pools.get type).forced = [])
    {requests : List CreateRequest} (hentries : ∀ request ∈ requests, request.entry ≠ none)
    {objects : ObjectType → List ObjectKey} {d : Simulator} (h : Holds d₀ objects d) :
    (createAll type requests d).1.length = requests.length ∧
      (∀ u ∈ requests.zip (createAll type requests d).1, Placed
        (placeAll (d₀.capacityOf type) (objects type) (requests.map CreateRequest.target)) u) ∧
      Holds d₀ (Function.update objects type
          (placeAll (d₀.capacityOf type) (objects type) (requests.map CreateRequest.target)))
        (createAll type requests d).2 := by
  induction requests generalizing objects d with
  | nil =>
    refine ⟨rfl, nofun, ?_⟩
    rw [List.map_nil, placeAll, List.foldl_nil, Function.update_eq_self]
    exact h
  | cons request rest ih =>
    rw [List.forall_mem_cons] at hentries
    obtain ⟨hdecision, hnext⟩ := h.createOne hunforced hentries.1
    obtain ⟨hlength, hall, hend⟩ := ih hentries.2 hnext
    rw [Function.update_self] at hall
    rw [Function.update_self, Function.update_idem] at hend
    refine ⟨congrArg (· + 1) hlength, ?_, hend⟩
    rw [Simulator.createAll, List.zip_cons_cons, List.forall_mem_cons]
    refine ⟨hdecision.trans ?_, hall⟩
    have hkept : request.target ∈ placeAll (d₀.capacityOf type) (objects type)
        ([request.target] ++ rest.map CreateRequest.target) ↔
        request.target ∈ placeAll (d₀.capacityOf type) (objects type) [request.target] :=
      mem_placeAll_append_iff (List.mem_singleton_self request.target) _
    exact if_congr hkept.symm rfl rfl

end Holds

end Simulator

/-! ## Calls through a gate -/

namespace FaultGate

/-- A gate that hands on whole calls and their identifiers. It may still cut the channel. -/
structure Clear (g : FaultGate) : Prop where
  whole : g.faults.truncate = none
  visible : g.faults.nullIds = false

/-- The gate with the channel to be cut after so many more calls. -/
def cutAfter (g : FaultGate) (calls : Nat) : FaultGate :=
  { g with faults := { g.faults with lostAfter := some calls } }

def restored (g : FaultGate) : FaultGate := { g with switch := g.switch.setChannelLost false }

/-- A clear gate to a switch that holds the given objects; the channel lasts if `lasting`. -/
structure Stands (lasting : Prop) (d₀ : Simulator) (objects : ObjectType → List ObjectKey)
    (g : FaultGate) : Prop where
  clear : g.Clear
  lasts : lasting → g.faults.lostAfter = none
  holds : d₀.Holds objects g.switch

/-- The channel of the gate was cut, which was to be expected. -/
structure Cut (lasting : Prop) (d₀ : Simulator) (objects : ObjectType → List ObjectKey)
    (g : FaultGate) : Prop where
  expected : ¬lasting
  restored : g.restored.Stands True d₀ objects

section Calls

variable {g : FaultGate} {lasting : Prop} {d₀ : Simulator} {type : ObjectType}
  {objects : ObjectType → List ObjectKey}

/-- A call is received by a gate that stays as it is, or it finds the channel cut. -/
theorem Stands.receive (h : g.Stands lasting d₀ objects) (call : BulkCall) :
    (g.receive call).Stands lasting d₀ objects ∨
      (g.receive call).switch.channelLost = true ∧ (g.receive call).Cut lasting d₀ objects := by
  obtain ⟨⟨hwhole, hvisible⟩, hlasts, hup, hsize, hpools⟩ := h
  unfold FaultGate.receive
  dsimp only
  split
  · exact .inl ⟨⟨hwhole, hvisible⟩, hlasts, hup, hsize, hpools⟩
  · next hcut =>
    have hexpected : ¬lasting := fun hl => by rw [hlasts hl] at hcut; cases hcut
    exact .inr ⟨rfl, hexpected, ⟨hwhole, hvisible⟩, fun _ => rfl, rfl, hsize, hpools⟩
  · next hcut =>
    have hexpected : ¬lasting := fun hl => by rw [hlasts hl] at hcut; cases hcut
    exact .inl ⟨⟨hwhole, hvisible⟩, fun hl => absurd hl hexpected, hup, hsize, hpools⟩

theorem passedOn_of_clear {α : Type} (h : g.Clear) (requests : List α) :
    g.passedOn requests = requests := by
  rw [passedOn, h.whole]

/-- Removes are all committed, or the channel is cut before them. -/
theorem Stands.bulkRemove (h : g.Stands lasting d₀ objects)
    (hunforced : (d₀.pools.get type).forced = []) (keys : List ObjectKey) :
    (∃ statuses g', Driver.bulkRemove type keys g = (.ok statuses, g') ∧
      statuses.length = keys.length ∧ (∀ status ∈ statuses, status.IsGone) ∧
      g'.Stands lasting d₀ (Function.update objects type ((objects type).diff keys))) ∨
    ∃ g', Driver.bulkRemove type keys g = (.error Simulator.channelDown, g') ∧
      g'.Cut lasting d₀ objects := by
  have hcall : ∀ g', g.receive (.remove type keys) = g' → Driver.bulkRemove type keys g =
      ((Driver.bulkRemove type (g'.passedOn keys) g'.switch).1,
        { g' with switch := (Driver.bulkRemove type (g'.passedOn keys) g'.switch).2 }) := by
    rintro _ rfl
    rfl
  rw [hcall _ rfl]
  have hreceived := h.receive (.remove type keys)
  generalize g.receive (.remove type keys) = g' at hreceived ⊢
  obtain ⟨hclear, hlasts, hholds⟩ | ⟨hdown, hcut⟩ := hreceived
  · left
    rw [passedOn_of_clear hclear, Simulator.bulkRemove_eq hholds.up]
    obtain ⟨hlength, hgone, hend⟩ := hholds.called.removeAll hunforced keys
    exact ⟨_, _, rfl, hlength, hgone, ⟨hclear.whole, hclear.visible⟩, hlasts, hend⟩
  · right
    simp only [Driver.bulkRemove, hdown, if_true]
    exact ⟨_, rfl, hcut⟩

/-- Creates that name their entries are placed, or the channel is cut before them. -/
theorem Stands.bulkCreate (h : g.Stands lasting d₀ objects)
    (hunforced : (d₀.pools.get type).forced = []) {requests : List CreateRequest}
    (hentries : ∀ request ∈ requests, request.entry ≠ none) :
    (∃ answers g', Driver.bulkCreate type requests g = (.ok answers, g') ∧
      answers.length = requests.length ∧
      (∀ u ∈ requests.zip answers, Simulator.Placed
        (placeAll (d₀.capacityOf type) (objects type) (requests.map CreateRequest.target)) u) ∧
      g'.Stands lasting d₀ (Function.update objects type
        (placeAll (d₀.capacityOf type) (objects type) (requests.map CreateRequest.target)))) ∨
    ∃ g', Driver.bulkCreate type requests g = (.error Simulator.channelDown, g') ∧
      g'.Cut lasting d₀ objects := by
  have hcall : ∀ g', g.receive (.create type requests) = g' → Driver.bulkCreate type requests g =
      ((Driver.bulkCreate type (g'.passedOn requests) g'.switch).1.map fun answers =>
          if g'.faults.nullIds then answers.map withNullId else answers,
        { g' with switch := (Driver.bulkCreate type (g'.passedOn requests) g'.switch).2 }) := by
    rintro _ rfl
    rfl
  rw [hcall _ rfl]
  have hreceived := h.receive (.create type requests)
  generalize g.receive (.create type requests) = g' at hreceived ⊢
  obtain ⟨hclear, hlasts, hholds⟩ | ⟨hdown, hcut⟩ := hreceived
  · left
    rw [passedOn_of_clear hclear, Simulator.bulkCreate_eq hholds.up]
    obtain ⟨hlength, hplaced, hend⟩ := hholds.called.createAll hunforced hentries
    simp only [hclear.visible, Bool.false_eq_true, if_false]
    exact ⟨_, _, rfl, hlength, hplaced, ⟨hclear.whole, hclear.visible⟩, hlasts, hend⟩
  · right
    simp only [Driver.bulkCreate, hdown, if_true]
    exact ⟨_, rfl, hcut⟩

end Calls

end FaultGate

/-! ## Chunks -/

namespace BulkStager

section Chunks

variable {δ α β : Type} {call : BulkCall δ α β} {type : ObjectType} {Q : α → Prop}
  {told : List (α × β) → δ → Prop} {lost : List α → DriverError → δ → Prop}

/-- Calls are answered, and then so many more requests are told with their answers, or one of them
is lost, after those that were told. -/
def Tells (call : BulkCall δ α β) (type : ObjectType) (Q : α → Prop)
    (told : List (α × β) → δ → Prop) (lost : List α → DriverError → δ → Prop) : Prop :=
  ∀ us requests d, told us d → (∀ a ∈ requests, Q a) →
    (∃ answers d', call.send type requests d = (.ok answers, d') ∧
      answers.length = requests.length ∧ told (us ++ requests.zip answers) d') ∨
    ∃ error d', call.send type requests d = (.error error, d') ∧ lost (us.map Prod.fst) error d'

/-- All chunks are told, and every request has an answer at its position; or one of them is lost,
after a beginning of the requests. -/
theorem sendChunks_tells (htells : Tells call type Q told lost) (parts : List (List (Nat × α)))
    {us : List (α × β)} {s : BulkStager} {d : δ} (htype : s.type = type) (h : told us d)
    (hparts : ∀ u ∈ parts.flatten, Q u.2) (hnodup : (parts.flatten.map Prod.fst).Nodup)
    (hrange : ∀ u ∈ parts.flatten, u.1 < s.slots.length) :
    (∃ vs s' d', sendChunks call parts s d = (.ok (), s', d') ∧ SameShape s s' ∧
      vs.map Prod.fst = parts.flatten.map Prod.snd ∧ told (us ++ vs) d' ∧
      ∀ i a, (i, a) ∈ parts.flatten →
        ∃ b, (a, b) ∈ vs ∧ s'.slots[i]? = some (call.answered a b)) ∨
    ∃ sent error s' d', sendChunks call parts s d = (.error error, s', d') ∧
      sent <+: parts.flatten.map Prod.snd ∧ lost (us.map Prod.fst ++ sent) error d' := by
  induction parts generalizing us s d with
  | nil => exact .inl ⟨[], s, d, rfl, ⟨rfl, rfl, rfl⟩, rfl, by simpa using h, nofun⟩
  | cons chunk rest ih =>
    simp only [List.flatten_cons, List.map_append, List.nodup_append, List.forall_mem_append]
      at hparts hnodup hrange
    obtain ⟨hchunk, hrest, hdisjoint⟩ := hnodup
    have hrequests : ∀ a ∈ chunk.map Prod.snd, Q a := by
      intro a ha
      obtain ⟨u, hu, rfl⟩ := List.mem_map.1 ha
      exact hparts.1 u hu
    obtain ⟨answers, d', hsend, hlength, hnext⟩ | ⟨error, d', hsend, hlost⟩ :=
      htells us _ d h hrequests
    · have hshape := s.sameShape_replace (call.updates chunk answers)
      have hfirst : ((chunk.map Prod.snd).zip answers).map Prod.fst = chunk.map Prod.snd :=
        List.map_fst_zip (Nat.le_of_eq hlength.symm)
      have hnextSend : ∀ result, sendChunks call rest
          (s.replace (call.updates chunk answers)) d' = result →
          sendChunks call (chunk :: rest) s d = result := by
        rintro _ rfl
        simp only [sendChunks, htype, hsend]
      obtain ⟨vs, s'', d'', hflush, hshape', hvs, htold, hslots⟩ |
        ⟨sent, error, s'', d'', hflush, hsent, hlost⟩ :=
          ih (hshape.type.trans htype) hnext hparts.2 hrest (by rw [hshape.length]; exact hrange.2)
      · left
        refine ⟨(chunk.map Prod.snd).zip answers ++ vs, s'', d'', hnextSend _ hflush,
          hshape.trans hshape', ?_, ?_, ?_⟩
        · rw [List.map_append, hfirst, hvs, List.flatten_cons, List.map_append]
        · rw [← List.append_assoc]
          exact htold
        · intro i a hmem
          rw [List.flatten_cons, List.mem_append] at hmem
          rcases hmem with hmem | hmem
          · have hzip : List.Forall₂ (fun a b => (a, b) ∈ (chunk.map Prod.snd).zip answers)
                (chunk.map Prod.snd) answers :=
              List.forall₂_iff_zip.2 ⟨hlength.symm, id⟩
            obtain ⟨b, hupdate, hb⟩ := exists_update call hzip hmem
            refine ⟨b, List.mem_append_left _ hb, ?_⟩
            have hnotin : i ∉ rest.flatten.map Prod.fst :=
              fun hi => hdisjoint i (List.mem_map.2 ⟨_, hmem, rfl⟩) i hi rfl
            have hkept := slots_sendChunks call hnotin
              (s.replace (call.updates chunk answers)) d'
            rw [hflush] at hkept
            refine hkept.trans (slots_replace_of_mem hupdate ?_ (hrange.1 _ hmem))
            rw [fst_updates]
            exact hchunk
          · obtain ⟨b, hb, hslot⟩ := hslots i a hmem
            exact ⟨b, List.mem_append_right _ hb, hslot⟩
      · right
        refine ⟨chunk.map Prod.snd ++ sent, error, s'', d'', hnextSend _ hflush, ?_, ?_⟩
        · rw [List.flatten_cons, List.map_append]
          exact List.prefix_append_right_inj _ |>.2 hsent
        · rw [List.map_append, hfirst, List.append_assoc] at hlost
          exact hlost
    · right
      refine ⟨[], error, s, d', ?_, List.nil_prefix, by simpa using hlost⟩
      simp only [sendChunks, htype, hsend]

/-- The slots that wait for the calls are told and answered, and the others stay; or one of them is
lost. -/
theorem sendAll_tells (htells : Tells call type Q told lost) {s : BulkStager} {d : δ}
    (htype : s.type = type) (h : told [] d) (hselected : ∀ u ∈ s.selected call.pick, Q u.2) :
    (∃ vs s' d', sendAll call s d = (.ok (), s', d') ∧ SameShape s s' ∧
      vs.map Prod.fst = (s.selected call.pick).map Prod.snd ∧ told vs d' ∧
      (∀ {i : Nat} {slot : Slot}, s.slots[i]? = some slot → call.pick slot = none →
        s'.slots[i]? = some slot) ∧
      ∀ {i : Nat} {slot : Slot} {a : α}, s.slots[i]? = some slot → call.pick slot = some a →
        ∃ b, (a, b) ∈ vs ∧ s'.slots[i]? = some (call.answered a b)) ∨
    ∃ sent error s' d', sendAll call s d = (.error error, s', d') ∧
      sent <+: (s.selected call.pick).map Prod.snd ∧ lost sent error d' := by
  have hparts := chunks_flatten s.maxBulkSize_pos (s.selected call.pick)
  have hsent := sendChunks_tells htells (chunks s.maxBulkSize (s.selected call.pick)) htype h
    (by rw [hparts]; exact hselected) (by rw [hparts]; exact s.nodup_selected _)
    (by rw [hparts]; exact fun u hu => lt_of_mem_selected hu)
  rw [hparts] at hsent
  refine hsent.imp_left ?_
  rintro ⟨vs, s', d', hsend, hshape, hvs, htold, hslots⟩
  refine ⟨vs, s', d', hsend, hshape, hvs, htold, ?_, ?_⟩
  · intro i slot hslot hpick
    have hkept := slots_sendAll call hslot hpick d
    rw [sendAll, hsend] at hkept
    exact hkept
  · intro i slot a hslot hpick
    exact hslots i a (mem_selected.2 ⟨slot, hslot, hpick⟩)

end Chunks

/-! ## Flushes -/

section Flush

open FaultGate

variable {lasting : Prop} {d₀ : Simulator} {objects : ObjectType → List ObjectKey}
  {type : ObjectType}

theorem removes_tell (hunforced : (d₀.pools.get type).forced = []) :
    Tells removes type (fun _ => True)
      (fun us (g : FaultGate) => (∀ u ∈ us, u.2.IsGone) ∧ g.Stands lasting d₀
        (Function.update objects type ((objects type).diff (us.map Prod.fst))))
      (fun sent error (g : FaultGate) => error = Simulator.channelDown ∧
        g.Cut lasting d₀ (Function.update objects type ((objects type).diff sent))) := by
  rintro us keys g ⟨hgone, hstands⟩ -
  obtain ⟨statuses, g', hsend, hlength, hall, hend⟩ | ⟨g', hsend, hcut⟩ :=
    hstands.bulkRemove hunforced keys
  · refine .inl ⟨statuses, g', hsend, hlength, List.forall_mem_append.2 ⟨hgone, ?_⟩, ?_⟩
    · exact fun u hu => hall u.2 (List.of_mem_zip hu).2
    · rw [Function.update_self, Function.update_idem, ← List.diff_append] at hend
      rw [List.map_append, List.map_fst_zip (Nat.le_of_eq hlength.symm)]
      exact hend
  · exact .inr ⟨_, g', hsend, rfl, hcut⟩

theorem creates_tell (hunforced : (d₀.pools.get type).forced = []) :
    Tells creates type (fun request => request.entry ≠ none)
      (fun us (g : FaultGate) =>
        (∀ u ∈ us, Simulator.Placed (placeAll (d₀.capacityOf type) (objects type)
          ((us.map Prod.fst).map CreateRequest.target)) u) ∧
        g.Stands lasting d₀ (Function.update objects type (placeAll (d₀.capacityOf type)
          (objects type) ((us.map Prod.fst).map CreateRequest.target))))
      (fun sent error (g : FaultGate) => error = Simulator.channelDown ∧
        g.Cut lasting d₀ (Function.update objects type (placeAll (d₀.capacityOf type)
          (objects type) (sent.map CreateRequest.target)))) := by
  rintro us requests g ⟨hplaced, hstands⟩ hentries
  obtain ⟨answers, g', hsend, hlength, hall, hend⟩ | ⟨g', hsend, hcut⟩ :=
    hstands.bulkCreate hunforced hentries
  · have hfirst := List.map_fst_zip (Nat.le_of_eq hlength.symm)
    rw [Function.update_self, ← placeAll_append] at hall
    rw [Function.update_self, ← placeAll_append, Function.update_idem] at hend
    refine .inl ⟨answers, g', hsend, hlength, ?_⟩
    dsimp only
    rw [List.map_append, hfirst, List.map_append]
    refine ⟨List.forall_mem_append.2 ⟨fun u hu => ?_, hall⟩, hend⟩
    have hasked : u.1.target ∈ (us.map Prod.fst).map CreateRequest.target :=
      List.mem_map_of_mem (List.mem_map_of_mem hu)
    exact (hplaced u hu).trans (if_congr (mem_placeAll_append_iff hasked _).symm rfl rfl)
  · exact .inr ⟨_, g', hsend, rfl, hcut⟩

end Flush

end BulkStager

/-- What a slot becomes in a flush that leaves these objects; a settled slot stays. -/
def Slot.DecidedAs (objects : List ObjectKey) : Slot → Slot → Prop
  | create request none, after => ∃ answer : CreateAnswer,
      after = .create request (some answer) ∧ Simulator.Placed objects (request, answer)
  | remove key none, after => ∃ status : Status,
      after = .remove key (some status) ∧ status.IsGone
  | before, after => after = before

namespace BulkStager

/-- What the slots of a stager become in a flush that leaves these objects. -/
def DecidedAs (objects : List ObjectKey) (s s' : BulkStager) : Prop :=
  ∀ (i : Nat) (slot : Slot), s.slots[i]? = some slot →
    ∃ after, s'.slots[i]? = some after ∧ slot.DecidedAs objects after

open FaultGate

def after (s : BulkStager) (d₀ : Simulator) (objects : ObjectType → List ObjectKey) :
    ObjectType → List ObjectKey :=
  Function.update objects s.type (s.leaves (d₀.capacityOf s.type) (objects s.type))

section Halves

variable {s s₁ s₂ : BulkStager} {g : FaultGate} {lasting : Prop} {d₀ : Simulator}
  {objects : ObjectType → List ObjectKey}

/-- The removes of a flush through a gate that stands are answered, or they are cut off. -/
theorem removes_cases (hunforced : (d₀.pools.get s.type).forced = [])
    (h : g.Stands lasting d₀ objects) :
    (∃ s' g', sendAll removes s g = (.ok (), s', g') ∧ SameShape s s' ∧
      g'.Stands lasting d₀
        (Function.update objects s.type ((objects s.type).diff s.removals)) ∧
      (∀ {i : Nat} {slot : Slot}, s.slots[i]? = some slot → slot.openRemove? = none →
        s'.slots[i]? = some slot) ∧
      ∀ {i : Nat} {slot : Slot} {key : ObjectKey}, s.slots[i]? = some slot →
        slot.openRemove? = some key →
          ∃ status : Status, s'.slots[i]? = some (.remove key (some status)) ∧ status.IsGone) ∨
    ∃ sent s' g', sendAll removes s g = (.error Simulator.channelDown, s', g') ∧
      sent <+: s.removals ∧
      g'.Cut lasting d₀ (Function.update objects s.type ((objects s.type).diff sent)) := by
  have hstart : g.Stands lasting d₀
      (Function.update objects s.type ((objects s.type).diff ([] : List ObjectKey))) := by
    rw [List.diff_nil, Function.update_eq_self]
    exact h
  obtain ⟨us, s', g', hremoves, hshape, hus, ⟨hgone, hstands⟩, hkept, hslots⟩ |
    ⟨sent, _, s', g', hremoves, hsent, rfl, hcut⟩ :=
      sendAll_tells (removes_tell hunforced) rfl ⟨List.forall_mem_nil _, hstart⟩ fun _ _ => trivial
  · have hremovals : us.map Prod.fst = s.removals := hus
    rw [hremovals] at hstands
    refine .inl ⟨s', g', hremoves, hshape, hstands, hkept, fun hslot hpick => ?_⟩
    obtain ⟨status, hu, hafter⟩ := hslots hslot hpick
    exact ⟨status, hafter, hgone _ hu⟩
  · exact .inr ⟨sent, s', g', hremoves, hsent, hcut⟩

/-- The creates of a flush through a gate that stands are answered, or they are cut off. -/
theorem creates_cases (hkeyed : s.NamesEntries) (hunforced : (d₀.pools.get s.type).forced = [])
    (h : g.Stands lasting d₀ objects) :
    (∃ s' g', sendAll creates s g = (.ok (), s', g') ∧
      g'.Stands lasting d₀ (Function.update objects s.type
        (placeAll (d₀.capacityOf s.type) (objects s.type) s.creations)) ∧
      (∀ {i : Nat} {slot : Slot}, s.slots[i]? = some slot → slot.openCreate? = none →
        s'.slots[i]? = some slot) ∧
      ∀ {i : Nat} {slot : Slot} {request : CreateRequest}, s.slots[i]? = some slot →
        slot.openCreate? = some request →
          ∃ answer : CreateAnswer, s'.slots[i]? = some (.create request (some answer)) ∧
            Simulator.Placed
              (placeAll (d₀.capacityOf s.type) (objects s.type) s.creations) (request, answer)) ∨
    ∃ sent s' g', sendAll creates s g = (.error Simulator.channelDown, s', g') ∧
      sent <+: s.creations ∧
      g'.Cut lasting d₀ (Function.update objects s.type
        (placeAll (d₀.capacityOf s.type) (objects s.type) sent)) := by
  have hstart : g.Stands lasting d₀ (Function.update objects s.type
      (placeAll (d₀.capacityOf s.type) (objects s.type) [])) := by
    rw [placeAll, List.foldl_nil, Function.update_eq_self]
    exact h
  have hasked : ((s.selected Slot.openCreate?).map Prod.snd).map CreateRequest.target =
      s.creations := by
    rw [creations, List.map_map]
    rfl
  obtain ⟨vs, s', g', hcreates, -, hvs, ⟨hplaced, hstands⟩, hkept, hslots⟩ |
    ⟨sent, _, s', g', hcreates, hsent, rfl, hcut⟩ :=
      sendAll_tells (creates_tell hunforced) rfl ⟨List.forall_mem_nil _, hstart⟩ hkeyed
  · have hcreations : (vs.map Prod.fst).map CreateRequest.target = s.creations := by
      rw [hvs]
      exact hasked
    rw [hcreations] at hplaced hstands
    refine .inl ⟨s', g', hcreates, hstands, hkept, fun hslot hpick => ?_⟩
    obtain ⟨answer, hu, hafter⟩ := hslots hslot hpick
    exact ⟨answer, hafter, hplaced _ hu⟩
  · exact .inr ⟨sent.map CreateRequest.target, s', g', hcreates, hasked ▸ hsent.map _, hcut⟩

/-- A slot is decided in the half that it waits for. -/
theorem decidedAs_of_halves {left : List ObjectKey}
    (hkept₁ : ∀ {i : Nat} {slot : Slot}, s.slots[i]? = some slot → slot.openRemove? = none →
      s₁.slots[i]? = some slot)
    (hgone : ∀ {i : Nat} {slot : Slot} {key : ObjectKey}, s.slots[i]? = some slot →
      slot.openRemove? = some key →
        ∃ status : Status, s₁.slots[i]? = some (.remove key (some status)) ∧ status.IsGone)
    (hkept₂ : ∀ {i : Nat} {slot : Slot}, s₁.slots[i]? = some slot → slot.openCreate? = none →
      s₂.slots[i]? = some slot)
    (hplaced : ∀ {i : Nat} {slot : Slot} {request : CreateRequest}, s₁.slots[i]? = some slot →
      slot.openCreate? = some request →
        ∃ answer : CreateAnswer, s₂.slots[i]? = some (.create request (some answer)) ∧
          Simulator.Placed left (request, answer)) :
    s.DecidedAs left s₂ := by
  intro i slot hslot
  cases slot with
  | settled status => exact ⟨_, hkept₂ (hkept₁ hslot rfl) rfl, rfl⟩
  | create request answer =>
    have hkept := hkept₁ hslot rfl
    cases answer with
    | some answer => exact ⟨_, hkept₂ hkept rfl, rfl⟩
    | none =>
      obtain ⟨answer, hafter, hdecided⟩ := hplaced hkept rfl
      exact ⟨_, hafter, answer, rfl, hdecided⟩
  | remove key answer =>
    cases answer with
    | some status => exact ⟨_, hkept₂ (hkept₁ hslot rfl) rfl, rfl⟩
    | none =>
      obtain ⟨status, hafter, hdecided⟩ := hgone hslot rfl
      exact ⟨_, hkept₂ hafter rfl, status, rfl, hdecided⟩

/-- A flush through a gate that stands runs through, and then its decisions are told by the objects
that it leaves, or it is cut off halfway. -/
theorem flush_cases (hkeyed : s.NamesEntries) (hunforced : (d₀.pools.get s.type).forced = [])
    (h : g.Stands lasting d₀ objects) :
    (∃ s' g', s.flush g = (.ok (), s', g') ∧ g'.Stands lasting d₀ (s.after d₀ objects) ∧
      s.DecidedAs (s.after d₀ objects s.type) s') ∨
    ∃ left s' g', s.flush g = (.error Simulator.channelDown, s', g') ∧
      s.Halfway (d₀.capacityOf s.type) (objects s.type) left ∧
      g'.Cut lasting d₀ (Function.update objects s.type left) := by
  obtain ⟨s₁, g₁, hremoves, hshape, hstands₁, hkept₁, hgone⟩ |
    ⟨sent, s₁, g₁, hremoves, hsent, hcut⟩ := removes_cases hunforced h
  case inr =>
    refine .inr ⟨_, s₁, g₁, ?_, .inl ⟨sent, hsent, rfl⟩, hcut⟩
    simp only [flush, hremoves]
  -- The second half asks for the same creates, of what the first half has left.
  have hselected := selected_of_removes hshape hkept₁ hgone
  have hcreations : s₁.creations = s.creations := by rw [creations, hselected, creations]
  have hkeyed₁ : s₁.NamesEntries := fun u hu => hkeyed u (hselected ▸ hu)
  have hcases := creates_cases hkeyed₁ (by rw [hshape.type]; exact hunforced) hstands₁
  rw [hshape.type, hcreations, Function.update_self, Function.update_idem] at hcases
  obtain ⟨s₂, g₂, hcreates, hstands₂, hkept₂, hplaced⟩ |
    ⟨sent, s₂, g₂, hcreates, hsent, hcut⟩ := hcases
  · refine .inl ⟨s₂, g₂, ?_, hstands₂, ?_⟩
    · simp only [flush, hremoves, hcreates]
    · rw [after, Function.update_self, leaves]
      exact decidedAs_of_halves hkept₁ hgone hkept₂ hplaced
  · rw [Function.update_idem] at hcut
    refine .inr ⟨_, s₂, g₂, ?_, .inr ⟨sent, hsent, rfl⟩, hcut⟩
    simp only [flush, hremoves, hcreates]

end Halves

section Decisions

variable {s s' s'' : BulkStager} {objects : List ObjectKey}

/-- Flushes that leave the same objects decide alike on every request of the right kind. -/
theorem decision_of_decidedAs {kind : RequestKind} {position : Nat}
    (hawaits : s.Awaits kind false position) (h : s.DecidedAs objects s')
    (h' : s.DecidedAs objects s'') :
    Decision.ofStatus kind (s'.outcome position) =
      Decision.ofStatus kind (s''.outcome position) := by
  obtain ⟨slot, hslot, hasks⟩ := hawaits
  obtain ⟨after, hafter, hdecided⟩ := h position slot hslot
  obtain ⟨after', hafter', hdecided'⟩ := h' position slot hslot
  have houtcome : s'.outcome position = after.status?.getD .notExecuted := by
    simp [outcome, status?, hafter]
  have houtcome' : s''.outcome position = after'.status?.getD .notExecuted := by
    simp [outcome, status?, hafter']
  rw [houtcome, houtcome']
  cases slot with
  | create request answer =>
    cases answer with
    | none =>
      obtain ⟨answer, rfl, hplaced⟩ := hdecided
      obtain ⟨answer', rfl, hplaced'⟩ := hdecided'
      rw [hasks.1]
      exact hplaced.trans hplaced'.symm
    | some answer => exact False.elim hasks
  | remove key answer =>
    cases answer with
    | none =>
      obtain ⟨status, rfl, hgone⟩ := hdecided
      obtain ⟨status', rfl, hgone'⟩ := hdecided'
      rw [hasks.1]
      exact Eq.trans hgone (Eq.symm hgone')
    | some status => exact False.elim hasks
  | settled status =>
    rw [show after = .settled status from hdecided, show after' = .settled status from hdecided']

end Decisions

/-- A flush forgets no more than the slots. -/
theorem clear_flush {δ : Type} [Driver δ] (s : BulkStager) (d : δ) :
    (s.flush d).2.1.clear = s.clear := by
  have hchunks : ∀ {α β : Type} (call : BulkCall δ α β) (parts : List (List (Nat × α)))
      (s : BulkStager) (d : δ), (sendChunks call parts s d).2.1.clear = s.clear := by
    intro α β call parts
    induction parts with
    | nil => exact fun s d => rfl
    | cons chunk rest ih =>
      intro s d
      unfold sendChunks
      split
      · rfl
      · exact ih _ _
  have hremoves : (sendAll removes s d).2.1.clear = s.clear := hchunks ..
  unfold flush
  split
  · next heq =>
    rw [heq] at hremoves
    exact hremoves
  · next s' d' heq =>
    rw [heq] at hremoves
    exact (hchunks ..).trans hremoves

/-! ## Repetition -/

/-- Two stagers that one stager may become, alike in what they decide on its requests. -/
structure Alike (s s₁ s₂ : BulkStager) : Prop where
  clear : s₁.clear = s₂.clear
  decision : ∀ {kind : RequestKind} {position : Nat}, s.Awaits kind false position →
    Decision.ofStatus kind (s₁.outcome position) = Decision.ofStatus kind (s₂.outcome position)

section Repetition

variable {s s₁ s₂ : BulkStager} {g g₁ g₂ : FaultGate} {d₀ : Simulator}
  {objects : ObjectType → List ObjectKey}

theorem alike_of_flush {left : List ObjectKey} {d d' : FaultGate}
    (h : s.flush d = (.ok (), s₁, g₁)) (hdecided : s.DecidedAs left s₁)
    (h' : s.flush d' = (.ok (), s₂, g₂)) (hdecided' : s.DecidedAs left s₂) : Alike s s₁ s₂ := by
  have hclear := s.clear_flush d
  have hclear' := s.clear_flush d'
  rw [h] at hclear
  rw [h'] at hclear'
  exact ⟨hclear.trans hclear'.symm, fun hawaits => decision_of_decidedAs hawaits hdecided hdecided'⟩

/-- A flush runs through while the channel lasts. -/
theorem flush_lasting (hkeyed : s.NamesEntries) (hunforced : (d₀.pools.get s.type).forced = [])
    (h : g.Stands True d₀ objects) :
    ∃ s' g', s.flush g = (.ok (), s', g') ∧ g'.Stands True d₀ (s.after d₀ objects) ∧
      s.DecidedAs (s.after d₀ objects s.type) s' := by
  obtain hthrough | ⟨_, _, _, -, -, hcut⟩ := flush_cases hkeyed hunforced h
  · exact hthrough
  · exact absurd trivial hcut.expected

/-- What a flush that was cut off leaves does not show after another one. -/
theorem after_of_halfway {left : List ObjectKey} (hnodup : (objects s.type).Nodup)
    (hapart : s.Apart) (h : s.Halfway (d₀.capacityOf s.type) (objects s.type) left) :
    s.after d₀ (Function.update objects s.type left) = s.after d₀ objects := by
  rw [after, Function.update_self, Function.update_idem, leaves_of_halfway hnodup hapart h, after]

theorem after_after (hnodup : (objects s.type).Nodup) (hapart : s.Apart) :
    s.after d₀ (s.after d₀ objects) = s.after d₀ objects :=
  after_of_halfway hnodup hapart (halfway_leaves ..)

/-- A flush does not show in a table of another type. -/
theorem after_of_ne {type : ObjectType} (h : s.type ≠ type) :
    s.after d₀ objects type = objects type :=
  Function.update_of_ne (Ne.symm h) ..

/-- Nor does a table of another type show in a flush. -/
theorem after_update {type : ObjectType} (h : s.type ≠ type) (left : List ObjectKey) :
    s.after d₀ (Function.update objects type left) =
      Function.update (s.after d₀ objects) type left := by
  rw [after, Function.update_of_ne h, Function.update_comm (Ne.symm h), after]

end Repetition

end BulkStager

end DashAgent
