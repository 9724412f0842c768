import Exetron.Js
import Exetron.Lib.Rows
import Exetron.Types
import Mathlib.Data.List.Sort

/-!
# Supplier connectors

The registry's connectors as `InventoryService` lists them for a tenant and as it picks one for a
job. The list lets a tenant's own row shadow a global one of its version; the pick takes the newest
row of the key, whoever owns it.
-/

namespace Exetron.Replenishment

open Lib List

structure IntegrationRegistryEntry where
  id : Id
  tenantId : Option Id
  (connectorKey version status : String)
  manifest : Json
  (createdAt updatedAt : Instant)

structure IntegrationActivationRequest where
  (id tenantId : Id)
  (targetKind connectorKey version status : String)
  updatedAt : Instant

/-- `status: "ACTIVE", OR: [{ tenantId }, { tenantId: null }]`. -/
def isOffered (tenantId : Id) (row : IntegrationRegistryEntry) : Bool :=
  row.status = "ACTIVE" ∧ (row.tenantId = some tenantId ∨ row.tenantId = none)

def candidates (rows : List IntegrationRegistryEntry) (tenantId : Id) (connectorKey : String) :
    List IntegrationRegistryEntry :=
  rows.filter fun row => row.connectorKey = connectorKey ∧ isOffered tenantId row

/-- `orderBy: { createdAt: "desc" }`. -/
abbrev newestFirst (left right : IntegrationRegistryEntry) : Prop :=
  right.createdAt ≤ left.createdAt

def requireSupplierConnectorTx (rows : List IntegrationRegistryEntry) (tenantId : Id)
    (connectorKey : String) : Except ApiException IntegrationRegistryEntry :=
  required ((candidates rows tenantId connectorKey).insertionSort newestFirst).head?
    (.badRequest "Active supplier connector was not found in integration registry.")

def priority (tenantId : Id) (row : IntegrationRegistryEntry) : Nat :=
  if row.tenantId = some tenantId then 2 else 1

def visibleKey (row : IntegrationRegistryEntry) : String := row.connectorKey ++ "::" ++ row.version

abbrev Precedes (tenantId : Id) (row current : IntegrationRegistryEntry) : Prop :=
  priority tenantId row > priority tenantId current ∨
    priority tenantId row = priority tenantId current ∧ row.updatedAt > current.updatedAt

def collect (tenantId : Id) (visible : List IntegrationRegistryEntry)
    (row : IntegrationRegistryEntry) : List IntegrationRegistryEntry :=
  match Rows.find visibleKey visible (visibleKey row) with
  | none => visible ++ [row]
  | some current =>
    if Precedes tenantId row current then
      Rows.modify visibleKey (visibleKey row) (fun _ => row) visible
    else visible

/-- `orderBy: [{ connectorKey: "asc" }, { createdAt: "desc" }]`. -/
abbrev KeyThenNewest (left right : IntegrationRegistryEntry) : Prop :=
  if left.connectorKey = right.connectorKey then newestFirst left right
  else left.connectorKey ≤ right.connectorKey

abbrev LocaleThenNewest (localeCompare : String → String → Int)
    (left right : IntegrationRegistryEntry) : Prop :=
  if left.connectorKey = right.connectorKey then newestFirst left right
  else localeCompare left.connectorKey right.connectorKey ≤ 0

def listVisibleSupplierConnectorsTx (localeCompare : String → String → Int)
    (rows : List IntegrationRegistryEntry) (tenantId : Id) (connectorKey : Option String) :
    List IntegrationRegistryEntry :=
  let asked : List IntegrationRegistryEntry := match connectorKey with
    | none | some "" => rows.filter (isOffered tenantId)
    | some key => candidates rows tenantId (Text.trim key)
  ((asked.insertionSort KeyThenNewest).foldl (collect tenantId) []).insertionSort
    (LocaleThenNewest localeCompare)

def listLatestSupplierConnectorActivationsTx (requests : List IntegrationActivationRequest)
    (tenantId : Id) (connector : IntegrationRegistryEntry) : Option IntegrationActivationRequest :=
  if connector.tenantId = some tenantId then
    ((requests.filter fun request =>
      request.tenantId = tenantId ∧ request.targetKind = "SUPPLIER_CONNECTOR" ∧
      request.connectorKey = connector.connectorKey ∧
      request.version = connector.version).insertionSort
        fun left right => right.updatedAt ≤ left.updatedAt).head?
  else none

structure ConnectorActivation where
  (required implicit : Bool)
  status : String
  deriving DecidableEq

def mapSupplierConnectorActivation (connector : IntegrationRegistryEntry) (tenantId : Id)
    (activation : Option IntegrationActivationRequest) : ConnectorActivation :=
  if connector.tenantId ≠ some tenantId then ⟨false, true, "IMPLICIT"⟩
  else
    match activation with
    | none => ⟨true, false, "MISSING"⟩
    | some activation => ⟨true, false, activation.status⟩

def isActiveFor (requests : List IntegrationActivationRequest) (tenantId : Id)
    (connector : IntegrationRegistryEntry) : Bool :=
  let activation := mapSupplierConnectorActivation connector tenantId
    (listLatestSupplierConnectorActivationsTx requests tenantId connector)
  ¬(activation.required ∧ activation.status ≠ "APPLIED")

section
variable {tenantId : Id} {newest : IntegrationRegistryEntry}
  {rows earlier later : List IntegrationRegistryEntry}

/-- The row that was created last, and stands first in the table among those. -/
structure IsNewest (newest : IntegrationRegistryEntry)
    (earlier later : List IntegrationRegistryEntry) : Prop where
  earlier : ∀ row ∈ earlier, row.createdAt < newest.createdAt
  later : ∀ row ∈ later, row.createdAt ≤ newest.createdAt

theorem exists_newest (rows : List IntegrationRegistryEntry) (some : rows ≠ []) :
    ∃ earlier newest later, rows = earlier ++ newest :: later ∧ IsNewest newest earlier later := by
  induction rows with
  | nil => exact absurd rfl some
  | cons row rows ih =>
    by_cases none : rows = []
    · exact ⟨[], row, [], by rw [none]; rfl, ⟨by simp, by simp⟩⟩
    · obtain ⟨earlier, newest, later, parts, isNewest⟩ := ih none
      by_cases older : row.createdAt < newest.createdAt
      · refine ⟨row :: earlier, newest, later, by rw [parts]; rfl, ?_, isNewest.later⟩
        rintro other (_ | ⟨_, listed⟩)
        · exact older
        · exact isNewest.earlier other listed
      · refine ⟨[], row, rows, rfl, by simp, fun other listed => ?_⟩
        rw [parts] at listed
        have atMost : other.createdAt ≤ newest.createdAt := by
          rcases mem_append.mp listed with before | after
          · exact (isNewest.earlier other before).le
          · rcases mem_cons.mp after with rfl | after
            · exact le_rfl
            · exact isNewest.later other after
        exact atMost.trans (not_lt.mp older)

theorem IsNewest.sorted (isNewest : IsNewest newest earlier later) :
    ∃ rest, (earlier ++ newest :: later).insertionSort newestFirst = newest :: rest := by
  induction earlier with
  | nil => exact ⟨_, insertionSort_cons_of_forall_rel newestFirst isNewest.later⟩
  | cons row earlier ih =>
    obtain ⟨rest, sorted⟩ := ih ⟨fun other listed =>
      isNewest.earlier other (mem_cons_of_mem _ listed), isNewest.later⟩
    refine ⟨rest.orderedInsert newestFirst row, ?_⟩
    rw [cons_append, insertionSort_cons, sorted]
    exact orderedInsert_of_not_le _ _ (not_le.mpr (isNewest.earlier row mem_cons_self))

theorem precedes_trans {a b c : IntegrationRegistryEntry} (first : Precedes tenantId a b)
    (second : Precedes tenantId b c) : Precedes tenantId a c := by
  rcases first with more | ⟨same, later⟩ <;> rcases second with more' | ⟨same', later'⟩
  · exact .inl (more'.trans more)
  · exact .inl (same' ▸ more)
  · exact .inl (same ▸ more')
  · exact .inr ⟨same.trans same', later'.trans later⟩

theorem not_precedes_self (row : IntegrationRegistryEntry) : ¬Precedes tenantId row row := by
  rintro (more | ⟨_, later⟩)
  · exact lt_irrefl _ more
  · exact lt_irrefl _ later

/-- One row is shown for each key, none that another of its key precedes; the first row seen is
shown itself, in front, or gave way to one that precedes it. -/
structure Collected (tenantId : Id) (first : IntegrationRegistryEntry)
    (seen visible : List IntegrationRegistryEntry) : Prop where
  subset : ∀ row ∈ visible, row ∈ seen
  covers : ∀ row ∈ seen, visibleKey row ∈ visible.map visibleKey
  unique : (visible.map visibleKey).Nodup
  unbeaten : ∀ row ∈ visible, ∀ other ∈ seen, visibleKey other = visibleKey row →
    ¬Precedes tenantId other row
  front : ∃ winner rest, visible = winner :: rest ∧ visibleKey winner = visibleKey first ∧
    (winner = first ∨ Precedes tenantId winner first)

section
variable {first row current : IntegrationRegistryEntry}
  {seen visible : List IntegrationRegistryEntry}

theorem Collected.appended (collected : Collected tenantId first seen visible)
    (absent : visibleKey row ∉ visible.map visibleKey) :
    Collected tenantId first (seen ++ [row]) (visible ++ [row]) where
  subset shown listed := by
    rcases mem_append.mp listed with before | new
    · exact mem_append_left _ (collected.subset shown before)
    · exact mem_append_right _ new
  covers other listed := by
    rw [map_append]
    rcases mem_append.mp listed with before | new
    · exact mem_append_left _ (collected.covers other before)
    · exact mem_append_right _ (mem_map_of_mem new)
  unique := by
    rw [map_append, map_singleton]
    exact nodup_append.mpr ⟨collected.unique, nodup_singleton _,
      fun key listed other new same => absent (mem_singleton.mp new ▸ same ▸ listed)⟩
  unbeaten shown listed other isSeen same := by
    rcases mem_append.mp listed with before | new
    · rcases mem_append.mp isSeen with seen | last
      · exact collected.unbeaten shown before other seen same
      · rw [mem_singleton.mp last] at same
        exact absurd (mem_map.mpr ⟨shown, before, same.symm⟩) absent
    · rw [mem_singleton.mp new] at same ⊢
      rcases mem_append.mp isSeen with seen | last
      · exact absurd (same ▸ collected.covers other seen) absent
      · rw [mem_singleton.mp last]
        exact not_precedes_self row
  front := by
    obtain ⟨winner, rest, parts, key, wins⟩ := collected.front
    exact ⟨winner, rest ++ [row], by rw [parts]; rfl, key, wins⟩

theorem keys_replaced (row : IntegrationRegistryEntry) (visible : List IntegrationRegistryEntry) :
    (Rows.modify visibleKey (visibleKey row) (fun _ => row) visible).map visibleKey =
      visible.map visibleKey := by
  refine map_map.trans (map_congr_left fun other _ => ?_)
  by_cases same : visibleKey other = visibleKey row <;> simp [same]

theorem Collected.replaced (collected : Collected tenantId first seen visible)
    (shown : current ∈ visible) (own : visibleKey current = visibleKey row)
    (better : Precedes tenantId row current) : Collected tenantId first (seen ++ [row])
      (Rows.modify visibleKey (visibleKey row) (fun _ => row) visible) where
  subset other listed := by
    rcases Rows.mem_of_modify listed with before | ⟨_, _, _, rfl⟩
    · exact mem_append_left _ (collected.subset other before)
    · exact mem_append_right _ (mem_singleton_self _)
  covers other listed := by
    rw [keys_replaced]
    rcases mem_append.mp listed with before | new
    · exact collected.covers other before
    · rw [mem_singleton.mp new, ← own]
      exact mem_map_of_mem shown
  unique := by
    rw [keys_replaced]
    exact collected.unique
  unbeaten other listed rival isSeen same precedes := by
    obtain ⟨before, stored, rfl⟩ := Rows.mem_modify.mp listed
    by_cases replaced : visibleKey before = visibleKey row
    · rw [if_pos replaced] at same precedes
      rcases mem_append.mp isSeen with seen | last
      · exact collected.unbeaten current shown rival seen (same.trans own.symm)
          (precedes_trans precedes better)
      · rw [mem_singleton.mp last] at precedes
        exact not_precedes_self row precedes
    · rw [if_neg replaced] at same precedes
      rcases mem_append.mp isSeen with seen | last
      · exact collected.unbeaten before stored rival seen same precedes
      · rw [mem_singleton.mp last] at same
        exact replaced same.symm
  front := by
    obtain ⟨winner, rest, parts, key, wins⟩ := collected.front
    refine ⟨if visibleKey winner = visibleKey row then row else winner,
      Rows.modify visibleKey (visibleKey row) (fun _ => row) rest, ?_, ?_⟩
    · rw [parts]
      simp only [Rows.modify, Rows.updateWhere, map_cons, decide_eq_true_eq]
    split
    · rename_i same
      have isShown : winner ∈ visible := by
        rw [parts]
        exact mem_cons_self
      obtain rfl := Rows.eq_of_key collected.unique isShown shown (same.trans own.symm)
      refine ⟨same.symm.trans key, .inr ?_⟩
      rcases wins with rfl | wins
      · exact better
      · exact precedes_trans better wins
    · exact ⟨key, wins⟩

theorem Collected.passed (collected : Collected tenantId first seen visible)
    (shown : current ∈ visible) (own : visibleKey current = visibleKey row)
    (worse : ¬Precedes tenantId row current) :
    Collected tenantId first (seen ++ [row]) visible where
  subset other listed := mem_append_left _ (collected.subset other listed)
  covers other listed := by
    rcases mem_append.mp listed with before | new
    · exact collected.covers other before
    · rw [mem_singleton.mp new, ← own]
      exact mem_map_of_mem shown
  unique := collected.unique
  unbeaten other listed rival isSeen same := by
    rcases mem_append.mp isSeen with seen | last
    · exact collected.unbeaten other listed rival seen same
    · rw [mem_singleton.mp last] at same ⊢
      rw [Rows.eq_of_key collected.unique listed shown (same.symm.trans own.symm)]
      exact worse
  front := collected.front

theorem Collected.step (collected : Collected tenantId first seen visible) :
    Collected tenantId first (seen ++ [row]) (collect tenantId visible row) := by
  unfold collect
  cases found : Rows.find visibleKey visible (visibleKey row) with
  | none =>
    refine collected.appended fun listed => ?_
    obtain ⟨current, isFound⟩ := Rows.exists_find_iff.mpr listed
    rw [found] at isFound
    cases isFound
  | some current =>
    obtain ⟨shown, own⟩ := Rows.find_some found
    show Collected tenantId first (seen ++ [row]) (if _ then _ else _)
    split
    · exact collected.replaced shown own ‹_›
    · exact collected.passed shown own ‹_›

theorem Collected.steps {more : List IntegrationRegistryEntry}
    (collected : Collected tenantId first seen visible) :
    Collected tenantId first (seen ++ more) (more.foldl (collect tenantId) visible) := by
  induction more generalizing seen visible with
  | nil => rwa [append_nil]
  | cons row more ih =>
    rw [← singleton_append, ← append_assoc]
    exact ih collected.step

theorem collected_first (first : IntegrationRegistryEntry) :
    Collected tenantId first [first] (collect tenantId [] first) where
  subset _ listed := listed
  covers other listed := by
    rw [mem_singleton.mp listed]
    exact mem_singleton_self _
  unique := nodup_singleton _
  unbeaten shown listed other isSeen _ := by
    obtain rfl : shown = first := mem_singleton.mp listed
    obtain rfl : other = shown := mem_singleton.mp isSeen
    exact not_precedes_self other
  front := ⟨first, [], rfl, rfl, .inl rfl⟩

end

/-- What is used of a connector key is what is shown for it, unless that is not active for the
tenant. -/
def UsesShown (localeCompare : String → String → Int) (rows : List IntegrationRegistryEntry)
    (requests : List IntegrationActivationRequest) (tenantId : Id) (connectorKey : String) : Prop :=
  match (listVisibleSupplierConnectorsTx localeCompare rows tenantId (some connectorKey)).head? with
  | none => (requireSupplierConnectorTx rows tenantId (Text.trim connectorKey)).toOption = none
  | some shown =>
    (requireSupplierConnectorTx rows tenantId (Text.trim connectorKey)).toOption =
      if isActiveFor requests tenantId shown then some shown else none

def NewestLeads (rows : List IntegrationRegistryEntry)
    (requests : List IntegrationActivationRequest) (tenantId : Id) (connectorKey : String) : Prop :=
  ∃ earlier newest later, candidates rows tenantId connectorKey = earlier ++ newest :: later ∧
    IsNewest newest earlier later ∧ isActiveFor requests tenantId newest ∧
    ∀ row ∈ candidates rows tenantId connectorKey, row.version = newest.version →
      ¬Precedes tenantId row newest

section
variable {localeCompare : String → String → Int} {requests : List IntegrationActivationRequest}
  {connectorKey : String}

theorem visibleKey_eq_iff {a b : IntegrationRegistryEntry}
    (same : a.connectorKey = b.connectorKey) : visibleKey a = visibleKey b ↔ a.version = b.version := by
  rw [visibleKey, visibleKey, same, String.append_right_inj]

theorem insertionSort_of_key {le : IntegrationRegistryEntry → IntegrationRegistryEntry → Prop}
    [DecidableRel le] {rows : List IntegrationRegistryEntry}
    (same : ∀ a ∈ rows, ∀ b ∈ rows, le a b ↔ newestFirst a b) :
    rows.insertionSort le = rows.insertionSort newestFirst := by
  have mapped := map_insertionSort (r := le) (s := newestFirst) id rows same
  rwa [map_id, map_id] at mapped

theorem candidates_key {row : IntegrationRegistryEntry}
    (listed : row ∈ candidates rows tenantId connectorKey) : row.connectorKey = connectorKey :=
  (of_decide_eq_true (mem_filter.mp listed).2).1

theorem requireSupplierConnectorTx_newest
    (parts : candidates rows tenantId connectorKey = earlier ++ newest :: later)
    (isNewest : IsNewest newest earlier later) :
    requireSupplierConnectorTx rows tenantId connectorKey = .ok newest := by
  obtain ⟨rest, sorted⟩ := isNewest.sorted
  rw [requireSupplierConnectorTx, parts, sorted]
  rfl

theorem listVisibleSupplierConnectorsTx_filled (filled : Text.trim connectorKey ≠ "") :
    listVisibleSupplierConnectorsTx localeCompare rows tenantId (some connectorKey) =
      (((candidates rows tenantId (Text.trim connectorKey)).insertionSort newestFirst).foldl
        (collect tenantId) []).insertionSort (LocaleThenNewest localeCompare) := by
  have notEmpty : connectorKey ≠ "" := by
    rintro rfl
    exact filled rfl
  have sorted : (candidates rows tenantId (Text.trim connectorKey)).insertionSort KeyThenNewest =
      (candidates rows tenantId (Text.trim connectorKey)).insertionSort newestFirst :=
    insertionSort_of_key fun a listed b listed' => by
      rw [KeyThenNewest, if_pos ((candidates_key listed).trans (candidates_key listed').symm)]
  rw [← sorted]
  unfold listVisibleSupplierConnectorsTx
  split
  · rename_i none
    cases none
  · rename_i empty
    exact absurd (Option.some.inj empty) notEmpty
  · rename_i key given
    rw [Option.some.inj given]

/-- The newest row is shown first unless a row of its version precedes it, and then not at all. -/
theorem shown_newest (filled : Text.trim connectorKey ≠ "")
    (parts : candidates rows tenantId (Text.trim connectorKey) = earlier ++ newest :: later)
    (isNewest : IsNewest newest earlier later) :
    ∃ shown, (listVisibleSupplierConnectorsTx localeCompare rows tenantId
      (some connectorKey)).head? = some shown ∧ (shown = newest ↔
        ∀ row ∈ candidates rows tenantId (Text.trim connectorKey), row.version = newest.version →
          ¬Precedes tenantId row newest) := by
  obtain ⟨rest, sorted⟩ := isNewest.sorted
  rw [← parts] at sorted
  have members : ∀ row, row ∈ newest :: rest ↔
      row ∈ candidates rows tenantId (Text.trim connectorKey) := fun row => by
    rw [← sorted]
    exact mem_insertionSort newestFirst
  have collected : Collected tenantId newest (newest :: rest)
      ((newest :: rest).foldl (collect tenantId) []) := (collected_first newest).steps
  rw [listVisibleSupplierConnectorsTx_filled filled, sorted]
  generalize (newest :: rest).foldl (collect tenantId) [] = visible at collected
  obtain ⟨winner, others, visibleIs, key, wins⟩ := collected.front
  have sameKey : ∀ a ∈ newest :: rest, ∀ b ∈ newest :: rest, a.connectorKey = b.connectorKey :=
    fun a listed b listed' => (candidates_key ((members a).mp listed)).trans
      (candidates_key ((members b).mp listed')).symm
  have byAge : visible.insertionSort (LocaleThenNewest localeCompare) =
      visible.insertionSort newestFirst := insertionSort_of_key fun a listed b listed' => by
    rw [LocaleThenNewest, if_pos (sameKey a (collected.subset a listed) b
      (collected.subset b listed'))]
  rw [byAge]
  have isShown : winner ∈ visible := by
    rw [visibleIs]
    exact mem_cons_self
  have atMost : ∀ row ∈ newest :: rest, row.createdAt ≤ newest.createdAt := by
    intro row listed
    have member := (members row).mp listed
    rw [parts] at member
    rcases mem_append.mp member with before | after
    · exact (isNewest.earlier row before).le
    · rcases mem_cons.mp after with rfl | after
      · exact le_rfl
      · exact isNewest.later row after
  have leads : winner = newest ↔ ∀ row ∈ candidates rows tenantId (Text.trim connectorKey),
      row.version = newest.version → ¬Precedes tenantId row newest := by
    constructor
    · rintro rfl row listed version
      have isSeen := (members row).mpr listed
      exact collected.unbeaten winner isShown row isSeen
        ((visibleKey_eq_iff (sameKey row isSeen winner (collected.subset winner isShown))).mpr
          version)
    · intro unbeaten
      refine wins.resolve_right (unbeaten winner ((members winner).mp
        (collected.subset winner isShown)) ((visibleKey_eq_iff ?_).mp key))
      exact sameKey winner (collected.subset winner isShown) newest mem_cons_self
  by_cases front : winner = newest
  · refine ⟨newest, ?_, iff_of_true rfl (leads.mp front)⟩
    rw [visibleIs, front, insertionSort_cons_of_forall_rel newestFirst]
    · rfl
    · intro row listed
      refine atMost row (collected.subset row ?_)
      rw [visibleIs]
      exact mem_cons_of_mem _ listed
  · cases sortedVisible : visible.insertionSort newestFirst with
    | nil =>
      have listed := (mem_insertionSort newestFirst).mpr isShown
      rw [sortedVisible] at listed
      cases listed
    | cons shown more =>
      refine ⟨shown, rfl, iff_of_false ?_ fun unbeaten => front (leads.mpr unbeaten)⟩
      rintro rfl
      have listed : shown ∈ visible := by
        rw [← mem_insertionSort newestFirst, sortedVisible]
        exact mem_cons_self
      exact front (Rows.eq_of_key collected.unique isShown listed key)

end

/-- The connector that is used of a key is the one shown for it, and refused just when that one is
not active for the tenant, just when there is none or the newest row leads its version and is
active. -/
theorem uses_shown_iff (localeCompare : String → String → Int)
    (rows : List IntegrationRegistryEntry) (requests : List IntegrationActivationRequest)
    (tenantId : Id) {connectorKey : String} (filled : Text.trim connectorKey ≠ "") :
    UsesShown localeCompare rows requests tenantId connectorKey ↔
      (candidates rows tenantId (Text.trim connectorKey) = [] ∨
        NewestLeads rows requests tenantId (Text.trim connectorKey)) := by
  by_cases none : candidates rows tenantId (Text.trim connectorKey) = []
  · refine iff_of_true ?_ (.inl none)
    rw [UsesShown, listVisibleSupplierConnectorsTx_filled filled, none]
    show (requireSupplierConnectorTx rows tenantId (Text.trim connectorKey)).toOption = Option.none
    rw [requireSupplierConnectorTx, none]
    rfl
  · obtain ⟨earlier, newest, later, parts, isNewest⟩ := exists_newest _ none
    obtain ⟨shown, first, isLeading⟩ := shown_newest filled parts isNewest
    have used := requireSupplierConnectorTx_newest parts isNewest
    rw [UsesShown, first, used]
    constructor
    · intro same
      change some newest = if isActiveFor requests tenantId shown then some shown else Option.none
        at same
      split at same
      · rename_i active
        obtain rfl := Option.some.inj same
        exact .inr ⟨earlier, newest, later, parts, isNewest, active, isLeading.mp rfl⟩
      · cases same
    · rintro (empty | ⟨earlier', newest', later', parts', isNewest', active, unbeaten⟩)
      · exact absurd empty none
      · have used' := requireSupplierConnectorTx_newest parts' isNewest'
        obtain rfl := Except.ok.inj (used.symm.trans used')
        show some newest = if isActiveFor requests tenantId shown then some shown else Option.none
        rw [isLeading.mpr unbeaten, if_pos active]

end

def globalConnector (createdAt : Instant) : IntegrationRegistryEntry :=
  ⟨1, none, "dairy", "1", "ACTIVE", .null, createdAt, createdAt⟩

def ownConnector (createdAt : Instant) : IntegrationRegistryEntry :=
  ⟨2, some 7, "dairy", "1", "ACTIVE", .null, createdAt, createdAt⟩

def ownApplied : List IntegrationActivationRequest :=
  [⟨3, 7, "SUPPLIER_CONNECTOR", "dairy", "1", "APPLIED", 5⟩]

/-- The tenant's own row is the newer one: it is shown and used. -/
theorem uses_shown_own_newer :
    UsesShown (fun _ _ => 0) [globalConnector 1, ownConnector 2] ownApplied 7 "dairy" := by
  have trimmed : Text.trim "dairy" = "dairy" := by decide +kernel
  have offered : candidates [globalConnector 1, ownConnector 2] 7 (Text.trim "dairy") =
      [globalConnector 1] ++ ownConnector 2 :: [] := by
    simp [trimmed, candidates, isOffered, globalConnector, ownConnector]
  have filled : Text.trim "dairy" ≠ "" := by
    rw [trimmed]
    decide
  refine (uses_shown_iff (fun _ _ => 0) [globalConnector 1, ownConnector 2] ownApplied 7
    filled).mpr (Or.inr ?_)
  have isNewest : IsNewest (ownConnector 2) [globalConnector 1] [] :=
    ⟨by simp [globalConnector, ownConnector], by simp⟩
  have active : isActiveFor ownApplied 7 (ownConnector 2) = true := by decide +kernel
  rw [NewestLeads, offered]
  refine ⟨[globalConnector 1], ownConnector 2, [], rfl, isNewest, active, ?_⟩
  intro row listed _ precedes
  have owned : row = globalConnector 1 ∨ row = ownConnector 2 := by
    simpa using listed
  rcases owned with rfl | rfl <;> revert precedes <;> decide

/-- The global row is the newer one: the tenant's own is shown, and the global one is used. -/
theorem global_newer_not_shown :
    ¬UsesShown (fun _ _ => 0) [ownConnector 1, globalConnector 2] ownApplied 7 "dairy" := by
  have shownId : (listVisibleSupplierConnectorsTx (fun _ _ => 0)
      [ownConnector 1, globalConnector 2] 7 (some "dairy")).head?.map IntegrationRegistryEntry.id =
        some 2 := by decide +kernel
  have usedId : (requireSupplierConnectorTx [ownConnector 1, globalConnector 2] 7
      (Text.trim "dairy")).toOption.map IntegrationRegistryEntry.id = some 1 := by decide +kernel
  intro uses
  rw [UsesShown] at uses
  cases first : (listVisibleSupplierConnectorsTx (fun _ _ => 0)
      [ownConnector 1, globalConnector 2] 7 (some "dairy")).head? with
  | none =>
    rw [first] at shownId
    cases shownId
  | some shown =>
    rw [first] at shownId uses
    have ids := congrArg (Option.map IntegrationRegistryEntry.id) uses
    rw [usedId] at ids
    split at ids
    · exact absurd (ids.trans shownId) (by decide)
    · cases ids

end Exetron.Replenishment
