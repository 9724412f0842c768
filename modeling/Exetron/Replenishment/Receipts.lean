import Exetron.Replenishment.Recommended

/-!
# Receipts

A job is received into its warehouse once, and brings what was recommended. Its statuses follow
each other.
-/

namespace Exetron.Replenishment

open Lib Inventory Inventory.Service InventoryReplenishmentJob Tx Record Option

variable {job' : InventoryReplenishmentJob} {patch : InventoryRecord}

/-- What a receipt reads of a job is kept; its status may be changed. -/
structure Keeps (job job' : InventoryReplenishmentJob) : Prop where
  row : job' = { job with
    status := job'.status, artifact := job'.artifact, updatedAt := job'.updatedAt }
  items : recommendedItems job' = recommendedItems job
  existing : existingReceiving job' = existingReceiving job

theorem keeps_refl (job : InventoryReplenishmentJob) : Keeps job job := ⟨rfl, rfl, rfl⟩

theorem keeps_of_supplierOnly {job : InventoryReplenishmentJob} (only : SupplierOnly job job') :
    Keeps job job' where
  row := by rw [only.row]
  items := by rw [recommendedItems, recommendedItems, only.artifact _ (by decide)]
  existing := by rw [existingReceiving, existingReceiving, only.workflow _ (by decide)]

theorem existingReceiving_patchWorkflow (job : InventoryReplenishmentJob) (now : Instant)
    (status : ReplenishmentJobStatus) (distinct : (patch.map Prod.fst).Nodup) :
    existingReceiving (job.patchWorkflow now status patch) =
      textOf ((patch.get "receivingRecordId").or
        (job.getReplenishmentWorkflow.get "receivingRecordId")) := by
  have workflow : (job.patchWorkflow now status patch).getReplenishmentWorkflow =
      job.getReplenishmentWorkflow.spread patch := by
    show asRecord (get (set _ "workflow" _) "workflow") = _
    rw [get_set, if_pos rfl]
    rfl
  rw [existingReceiving, workflow, get_spread distinct]

theorem recommendedItems_patchWorkflow (job : InventoryReplenishmentJob) (now : Instant)
    (status : ReplenishmentJobStatus) (patch : InventoryRecord) :
    recommendedItems (job.patchWorkflow now status patch) = recommendedItems job := by
  have kept : (asRecord (some (job.patchWorkflow now status patch).artifact)).get "recommendations" =
      (asRecord (some job.artifact)).get "recommendations" := by
    show get (set _ "workflow" _) "recommendations" = _
    rw [get_set, if_neg (by decide)]
  rw [recommendedItems, recommendedItems, kept]

theorem keeps_patchWorkflow (job : InventoryReplenishmentJob) (now : Instant)
    (status : ReplenishmentJobStatus) (distinct : (patch.map Prod.fst).Nodup)
    (other : patch.get "receivingRecordId" = none) :
    Keeps job (job.patchWorkflow now status patch) where
  row := rfl
  items := recommendedItems_patchWorkflow job now status patch
  existing := by
    rw [existingReceiving_patchWorkflow job now status distinct, other]
    rfl

/-- How a status moves apart from receipts. -/
inductive StatusMove : ReplenishmentJobStatus → ReplenishmentJobStatus → Prop
  | stays (status : ReplenishmentJobStatus) : StatusMove status status
  | approved : StatusMove .generated .approved
  | dispatched : StatusMove .approved .dispatched
  | archived (status : ReplenishmentJobStatus) : StatusMove status .archived

/-- An update of one job that is no receipt. -/
structure WorkflowUpdate (s t : Supply) : Prop where
  exists_update : ∃ jobId current f, jobOf s jobId = some current ∧
    (∀ job, Keeps job (f job)) ∧ StatusMove current.status (f current).status ∧
    t = inventoryReplenishmentJobs.put (Rows.modify InventoryReplenishmentJob.id jobId f s.jobs) s

section
variable {now : Instant} {context : RequestContext} {id : Id} {s t : Supply}
  {job : InventoryReplenishmentJob}

theorem update_workflowUpdate (status : InventoryReplenishmentJob → ReplenishmentJobStatus)
    (distinct : (patch.map Prod.fst).Nodup) (other : patch.get "receivingRecordId" = none)
    (moves : ∀ current, jobOf s id = some current → StatusMove current.status (status current))
    (h : inventoryReplenishmentJobs.update id (fun row => row.patchWorkflow now (status row) patch) s =
      .ok (job, t)) : WorkflowUpdate s t := by
  obtain ⟨current, found, _, rfl⟩ := Table.update_ok_iff.mp h
  exact ⟨id, current, _, found, fun job => keeps_patchWorkflow job now _ distinct other,
    moves current found, rfl⟩

theorem admitJob_ok (h : admitJob context id s = .ok job) : jobOf s id = some job := by
  simp only [admitJob, getReplenishmentJobModelTx, except_bind_ok_iff, required_ok_iff,
    except_pure_ok_iff] at h
  obtain ⟨_, found, _, _, rfl⟩ := h
  exact found

theorem approveReplenishmentJobTx_update
    (h : approveReplenishmentJobTx now context id s = .ok (job, t)) : WorkflowUpdate s t := by
  simp only [approveReplenishmentJobTx, bind_ok_iff, read_ok_iff, lift_ok_iff, rejectIf_ok_iff] at h
  obtain ⟨current, _, ⟨admitted, rfl⟩, _, _, ⟨generated, rfl⟩, h⟩ := h
  refine update_workflowUpdate (fun _ => .approved) (by simp) (by simp [get_cons])
    (fun found stored => ?_) h
  obtain rfl := some.inj ((admitJob_ok admitted).symm.trans stored)
  rw [not_not.mp generated]
  exact .approved

theorem dispatchReplenishmentJobTx_update
    (h : dispatchReplenishmentJobTx now context id s = .ok (job, t)) : WorkflowUpdate s t := by
  simp only [dispatchReplenishmentJobTx, bind_ok_iff, read_ok_iff, lift_ok_iff,
    rejectIf_ok_iff] at h
  obtain ⟨current, _, ⟨admitted, rfl⟩, _, _, ⟨approved, rfl⟩, h⟩ := h
  refine update_workflowUpdate (fun _ => .dispatched) (by simp)
    (by simp [get_cons]) (fun found stored => ?_) h
  obtain rfl := some.inj ((admitJob_ok admitted).symm.trans stored)
  rw [not_not.mp approved]
  exact .dispatched

theorem exportReplenishmentJobTx_update {format : String}
    (h : exportReplenishmentJobTx now context id format s = .ok (job, t)) : WorkflowUpdate s t := by
  simp only [exportReplenishmentJobTx, bind_ok_iff, read_ok_iff] at h
  obtain ⟨_, _, ⟨_, rfl⟩, h⟩ := h
  exact update_workflowUpdate InventoryReplenishmentJob.status (by simp)
    (by simp [get_cons]) (fun _ _ => .stays _) h

theorem archiveReplenishmentJobTx_update
    (h : archiveReplenishmentJobTx now context id s = .ok (job, t)) : WorkflowUpdate s t := by
  simp only [archiveReplenishmentJobTx, bind_ok_iff, read_ok_iff] at h
  obtain ⟨_, _, ⟨_, rfl⟩, h⟩ := h
  exact update_workflowUpdate (fun _ => .archived) (by simp)
    (by simp [get_cons]) (fun _ _ => .archived _) h

end

/-- The keys stay in order, and what is completed stays so. -/
structure SupplyKept (s t : Supply) : Prop where
  catalogue : Catalogue s → Catalogue t
  stock : StockKeys (stockState s.db) → StockKeys (stockState t.db)
  receivings : ReceivingsKept s.db t.db

namespace SupplyKept

theorem refl (s : Supply) : SupplyKept s s := ⟨id, id, receivingsKept_refl _⟩

theorem trans (s t u : Supply) (hst : SupplyKept s t) (htu : SupplyKept t u) : SupplyKept s u :=
  ⟨htu.catalogue ∘ hst.catalogue, htu.stock ∘ hst.stock,
    receivingsKept_trans _ _ _ hst.receivings htu.receivings⟩

theorem jobs {s t : Supply} (db : t.db = { s.db with nextId := t.db.nextId })
    (ingredients : t.ingredients = s.ingredients) (grows : s.db.nextId ≤ t.db.nextId) :
    SupplyKept s t where
  catalogue catalogue := catalogue.mono ingredients grows
  stock keys := by
    rw [db]
    exact keys.later grows
  receivings := receivingsKept_of_same (by rw [db]; rfl) grows

end SupplyKept

theorem createIngredientTx_kept {context : RequestContext} {dto : CreateIngredientDto}
    {s t : Supply} {row : Ingredient} (h : createIngredientTx context dto s = .ok (row, t)) :
    SupplyKept s t := by
  have catalogue := createIngredientTx_catalogue h
  simp only [createIngredientTx, bind_ok_iff, lift_ok_iff, read_ok_iff, onDb_ok_iff,
    freshId_ok_iff, Table.create_ok_iff] at h
  obtain ⟨_, _, ⟨_, rfl⟩, _, _, ⟨_, ⟨rfl, rfl⟩, rfl⟩, _, _, ⟨_, rfl⟩, rfl, rfl⟩ := h
  exact ⟨catalogue, fun keys => keys.later (Nat.le_succ _),
    receivingsKept_of_same rfl (Nat.le_succ _)⟩

theorem updateIngredientTx_kept {context : RequestContext} {id : Id} {dto : UpdateIngredientDto}
    {s t : Supply} {row : Ingredient} (h : updateIngredientTx context id dto s = .ok (row, t)) :
    SupplyKept s t := by
  have catalogue := updateIngredientTx_catalogue h
  simp only [updateIngredientTx, bind_ok_iff, lift_ok_iff, read_ok_iff, Table.update_ok_iff] at h
  obtain ⟨_, _, ⟨_, rfl⟩, _, _, ⟨_, rfl⟩, _, _, ⟨_, rfl⟩, _, _, _, rfl⟩ := h
  exact ⟨catalogue, fun keys => keys, receivingsKept_refl _⟩

theorem createReplenishmentJobTx_kept {now : Instant} {context : RequestContext}
    {query : ReplenishmentReportQuery} {s t : Supply} {job : InventoryReplenishmentJob}
    (h : createReplenishmentJobTx now context query s = .ok (job, t)) : SupplyKept s t := by
  obtain ⟨_, _, _, rfl⟩ := createReplenishmentJobTx_ok h
  exact .jobs rfl rfl (Nat.le_succ _)

theorem completeReceivingRecordTx_supplyKept {now : Instant} {id : Id} {receivedBy : Option String}
    {s t : Supply} {received : ReceivingRecord × List ReceivingLine}
    (h : onDb (completeReceivingRecordTx now id receivedBy) s = .ok (received, t)) :
    SupplyKept s t := by
  have grows := (completeReceivingRecordTx_dbOnly h).grows
  obtain ⟨db, done, rfl⟩ := onDb_ok_iff.mp h
  refine ⟨fun catalogue => catalogue.mono rfl grows, fun keys => ?_,
    completeReceivingRecordTx_kept done⟩
  rcases completeReceivingRecordTx_ok done with ⟨_, rfl⟩ | ⟨record, m, f, _, _, loop, _, rfl, _⟩
  · exact keys
  · have counted : StockKeys (stockState s.db) → StockKeys (stockState m) := by
      refine forM_related (R := fun (a b : Db) => StockKeys (stockState a) →
        StockKeys (stockState b)) (fun _ keys => keys) (fun _ _ _ => fun hab hbc => hbc ∘ hab) ?_ loop
      intro line _ a b u step keys
      have shows_ : Concurrent.Shows a (0, 0) ⟨onHandAt a (0, 0), reservedAt a (0, 0), []⟩ :=
        ⟨rfl, rfl⟩
      exact (Concurrent.applyStockDeltaTx_shows keys shows_ step).1
    exact counted keys

theorem receiveReplenishmentJobTx_kept {now : Instant} {context : RequestContext} {id : Id}
    {input : ReceiveReplenishmentJobDto} {s t : Supply}
    {received : ReceivingRecord × List ReceivingLine}
    (h : receiveReplenishmentJobTx now context id input s = .ok (received, t)) : SupplyKept s t := by
  obtain ⟨current, warehouseId, _, ⟨_, rfl⟩ | ⟨_, record, m, n, opening, completed, rfl⟩⟩ :=
    receiveReplenishmentJobTx_ok h
  · exact .refl _
  · obtain ⟨lines, opened⟩ := openReceiptTx_ok opening
    have first : SupplyKept s m := by
      refine ⟨fun catalogue => catalogue.mono (by rw [opened.only.rest]) opened.only.grows,
        fun keys => ?_, opened.kept⟩
      rw [stockState, opened.stock]
      exact keys.later opened.only.grows
    have both : SupplyKept s n := by
      rcases completed with ⟨_, rfl⟩ | ⟨_, completed⟩
      · exact first
      · exact .trans _ _ _ first (completeReceivingRecordTx_supplyKept completed)
    exact .trans _ _ _ both (.jobs rfl rfl (le_refl _))

theorem step_supplyKept (s : Supply) (r : SupplyRequest) : SupplyKept s (step s r) := by
  obtain ⟨env, context, call⟩ := r
  have related {α : Type} {x : SupplyTransaction α}
      (body : ∀ a t, x s = .ok (a, t) → SupplyKept s t) : SupplyKept s (after x s) :=
    Call.transact_related (.refl s) body
  have updated {x : SupplyTransaction InventoryReplenishmentJob}
      (body : ∀ a t, x s = .ok (a, t) → WorkflowUpdate s t) : SupplyKept s (after x s) := by
    refine related fun a t done => ?_
    obtain ⟨_, _, _, _, _, _, rfl⟩ := (body a t done).exists_update
    exact .jobs rfl rfl (le_refl _)
  cases call with
  | inventory call =>
    have moved : Moved (fun _ _ => True) (stockState s.db)
        (stockState (perform env.now context call s.db)) := by
      refine perform_moved ⟨fun _ _ => trivial, fun _ _ => trivial⟩ ?_
      cases call <;> simp [CallMeets]
    exact ⟨fun catalogue => catalogue.mono rfl (perform_paymentsKept ..).grows,
      fun keys => (moved_invariant (P := fun _ => True) (fun _ _ _ _ _ _ => trivial) moved keys
        trivial).1, perform_receivingsKept ..⟩
  | createIngredient dto => exact related fun _ _ => createIngredientTx_kept
  | updateIngredient ingredientId dto => exact related fun _ _ => updateIngredientTx_kept
  | generate query => exact related fun _ _ => createReplenishmentJobTx_kept
  | approve jobId => exact updated fun _ _ => approveReplenishmentJobTx_update
  | dispatch jobId => exact updated fun _ _ => dispatchReplenishmentJobTx_update
  | exportJob jobId format => exact updated fun _ _ => exportReplenishmentJobTx_update
  | archive jobId => exact updated fun _ _ => archiveReplenishmentJobTx_update
  | receive jobId dto => exact related fun _ _ => receiveReplenishmentJobTx_kept
  | supplier jobId call | queueRetrySweep dto | runDueRetries dto => exact .jobs rfl rfl (le_refl _)

/-- What a request that does not receive a job makes of it. -/
inductive JobTurn (id : Id) (s t : Supply) : Prop
  | unborn (before : jobOf s id = none) (after : jobOf t id = none)
  | generated (job : InventoryReplenishmentJob) (before : jobOf s id = none)
      (after : jobOf t id = some job) (status : job.status = .generated)
      (unreceived : existingReceiving job = none) (recommended : ∃ rows, Recommended job rows)
  | carried (job job' : InventoryReplenishmentJob) (before : jobOf s id = some job)
      (after : jobOf t id = some job') (keeps : Keeps job job')
      (moves : StatusMove job.status job'.status)

theorem jobTurn_of_same {id : Id} {s t : Supply} (same : jobOf t id = jobOf s id) :
    JobTurn id s t := by
  cases before : jobOf s id with
  | none => exact .unborn before (same.trans before)
  | some job => exact .carried job job before (same.trans before) (keeps_refl job) (.stays _)

/-- The keys of the jobs, the stock, the receivings and the catalogue are in order. -/
structure Stocked (s : Supply) : Prop where
  jobs : JobKeys s
  stock : StockKeys (stockState s.db)
  receivings : ReceivingsOld s.db
  catalogue : Catalogue s

theorem step_stocked {s : Supply} (stocked : Stocked s) (r : SupplyRequest) : Stocked (step s r) :=
  have kept := step_supplyKept s r
  ⟨step_jobKeys stocked.jobs r, kept.stock stocked.stock, kept.receivings.old stocked.receivings,
    kept.catalogue stocked.catalogue⟩

section
variable {s t : Supply} {id : Id}

theorem WorkflowUpdate.turn (update : WorkflowUpdate s t) (id : Id) : JobTurn id s t := by
  obtain ⟨jobId, current, f, found, keeps, moves, rfl⟩ := update.exists_update
  have ids : ∀ job, (f job).id = job.id := fun job => by rw [(keeps job).row]
  have after : jobOf (inventoryReplenishmentJobs.put
      (Rows.modify InventoryReplenishmentJob.id jobId f s.jobs) s) id =
        if id = jobId then (jobOf s id).map f else jobOf s id :=
    Rows.find_modify ids s.jobs id
  by_cases here : id = jobId
  · rw [if_pos here, here, found] at after
    rw [here]
    exact .carried current (f current) found after (keeps current) moves
  · exact jobTurn_of_same (by rw [after, if_neg here])

theorem createReplenishmentJobTx_turn {now : Instant} {context : RequestContext}
    {query : ReplenishmentReportQuery} {job : InventoryReplenishmentJob} (stocked : Stocked s)
    (h : createReplenishmentJobTx now context query s = .ok (job, t)) : JobTurn id s t := by
  have recommended := createReplenishmentJobTx_recommended stocked.stock stocked.catalogue h
  obtain ⟨_, _, is, rfl⟩ := createReplenishmentJobTx_ok h
  have fresh : job.id = s.db.nextId := by rw [is]
  have others : ∀ job' ∈ s.jobs, job'.id ≠ job.id := fun job' stored =>
    ne_of_lt (fresh ▸ stocked.jobs.given job' stored)
  by_cases here : job.id = id
  · have before : jobOf s id = none := by
      rw [jobOf, Rows.find, List.find?_eq_none]
      intro job' stored
      simpa [← here] using others job' stored
    refine .generated job before ?_ (by rw [is]) ?_ recommended
    · rw [jobOf, ← here]
      exact Rows.find_append_new others
    · rw [is]
      simp [existingReceiving, getReplenishmentWorkflow, asRecord, get_cons, textOf]
  · refine jobTurn_of_same ?_
    rw [jobOf]
    exact Rows.find_append_old here

/-- A receipt, which is of another job or finds a record, or opens the first record of the job. -/
inductive ReceiptTurn (now : Instant) (context : RequestContext) (id : Id)
    (dto : ReceiveReplenishmentJobDto) (s t : Supply) : Prop
  | same (is : t = s)
  | received (job : InventoryReplenishmentJob) (warehouseId : Id) (before : jobOf s id = some job)
      (status : job.status = .dispatched ∨ job.status = .receiving ∨ job.status = .received)
      (place : job.warehouseId = some warehouseId) (first : existingReceiving job = none)
      (record : ReceivingRecord) (lines : List ReceivingLine) (m n : Supply)
      (result : ReceivingRecord × List ReceivingLine)
      (opened : ReceiptOpened s m job warehouseId record lines)
      (completed : dto.autoComplete = some false ∧ n = m ∨
        dto.autoComplete ≠ some false ∧
          onDb (completeReceivingRecordTx now record.id dto.receivedBy) m = .ok (result, n))
      (is : t = inventoryReplenishmentJobs.put (Rows.modify InventoryReplenishmentJob.id id
        (fun row => row.patchWorkflow now
          (if dto.autoComplete = some false then .receiving else .received)
          (receiptPatch now context result.1)) s.jobs) n)

theorem receive_turn (now : Instant) (context : RequestContext) (id : Id)
    (dto : ReceiveReplenishmentJobDto) (s : Supply) :
    ReceiptTurn now context id dto s (after (receiveReplenishmentJobTx now context id dto) s) := by
  refine Call.transact_related (R := ReceiptTurn now context id dto) (.same rfl) fun result t h => ?_
  obtain ⟨current, warehouseId, admitted, ⟨_, rfl⟩ | ⟨first, record, m, n, opening, completed, is⟩⟩ :=
    receiveReplenishmentJobTx_ok h
  · exact .same rfl
  · simp only [admitReceipt, except_bind_ok_iff, required_ok_iff, rejectIf_ok_iff,
      except_pure_ok_iff] at admitted
    obtain ⟨job, found, place, stored, _, status, _, _, same⟩ := admitted
    obtain ⟨rfl, rfl⟩ := Prod.mk.inj same
    obtain ⟨lines, opened⟩ := openReceiptTx_ok opening
    have jobs : n.jobs = s.jobs := by
      rcases completed with ⟨_, rfl⟩ | ⟨_, completed⟩
      · rw [opened.only.rest]
      · rw [(completeReceivingRecordTx_dbOnly completed).rest, opened.only.rest]
    rw [jobs] at is
    exact .received job place (admitJob_ok found) (by tauto) stored first record lines m n result
      opened completed is

theorem jobOf_receipt {now : Instant} {status : ReplenishmentJobStatus}
    {job : InventoryReplenishmentJob} (before : jobOf s id = some job) (n : Supply) :
    jobOf (inventoryReplenishmentJobs.put (Rows.modify InventoryReplenishmentJob.id id
      (fun row => row.patchWorkflow now status patch) s.jobs) n) id =
        some (job.patchWorkflow now status patch) := by
  have ids : ∀ row : InventoryReplenishmentJob, (row.patchWorkflow now status patch).id = row.id :=
    fun _ => rfl
  refine (Rows.find_modify ids s.jobs id).trans ?_
  rw [if_pos rfl, show Rows.find _ s.jobs id = _ from before]
  rfl

theorem ReceiptTurn.other {now : Instant} {context : RequestContext} {jobId : Id}
    {dto : ReceiveReplenishmentJobDto} (turn : ReceiptTurn now context jobId dto s t)
    (elsewhere : id ≠ jobId) : jobOf t id = jobOf s id := by
  cases turn with
  | same is => rw [is]
  | received job warehouseId before status place first record lines m n result opened completed is =>
    rw [is]
    refine (Rows.find_modify (fun job => ?_) s.jobs id).trans (if_neg elsewhere)
    rfl

theorem step_jobTurn (stocked : Stocked s) {r : SupplyRequest}
    (other : ∀ dto, r.call ≠ .receive id dto) : JobTurn id s (step s r) := by
  cases handles : r.call.handles with
  | true =>
    obtain ⟨listed, unique⟩ := handled_unique stocked.jobs.unique r
    have after := find_handleEach (handler_id r) unique s.jobs id
    rw [step_handles s handles]
    cases found : Rows.find InventoryReplenishmentJob.id (r.handled s.jobs) id with
    | none =>
      rw [found] at after
      exact jobTurn_of_same after
    | some job =>
      obtain ⟨mem, keyed⟩ := Rows.find_some found
      have before : jobOf s id = some job := by
        rw [jobOf, ← keyed]
        exact Rows.find_of_mem stocked.jobs.unique (listed job mem)
      rw [found, show Rows.find _ s.jobs id = _ from before] at after
      have only := handler_only r job
      exact .carried job _ before after (keeps_of_supplierOnly only) (only.status_eq ▸ .stays _)
  | false =>
    obtain ⟨env, context, call⟩ := r
    have related {α : Type} {x : SupplyTransaction α}
        (body : ∀ a t, x s = .ok (a, t) → JobTurn id s t) : JobTurn id s (after x s) :=
      Call.transact_related (jobTurn_of_same rfl) body
    cases call with
    | inventory call => exact jobTurn_of_same rfl
    | createIngredient dto =>
      refine related fun row t h => jobTurn_of_same ?_
      simp only [createIngredientTx, bind_ok_iff, lift_ok_iff, read_ok_iff, onDb_ok_iff,
        Table.create_ok_iff] at h
      obtain ⟨_, _, ⟨_, rfl⟩, _, _, ⟨_, _, rfl⟩, _, _, ⟨_, rfl⟩, _, rfl⟩ := h
      rfl
    | updateIngredient ingredientId dto =>
      refine related fun row t h => jobTurn_of_same ?_
      simp only [updateIngredientTx, bind_ok_iff, lift_ok_iff, read_ok_iff,
        Table.update_ok_iff] at h
      obtain ⟨_, _, ⟨_, rfl⟩, _, _, ⟨_, rfl⟩, _, _, ⟨_, rfl⟩, _, _, _, rfl⟩ := h
      rfl
    | generate query => exact related fun _ _ => createReplenishmentJobTx_turn stocked
    | approve jobId => exact related fun _ _ h => (approveReplenishmentJobTx_update h).turn id
    | dispatch jobId => exact related fun _ _ h => (dispatchReplenishmentJobTx_update h).turn id
    | exportJob jobId format => exact related fun _ _ h => (exportReplenishmentJobTx_update h).turn id
    | archive jobId => exact related fun _ _ h => (archiveReplenishmentJobTx_update h).turn id
    | receive jobId dto =>
      have elsewhere : id ≠ jobId := fun same => other dto (by rw [same])
      exact jobTurn_of_same ((receive_turn env.now context jobId dto s).other elsewhere)
    | supplier jobId call => cases handles
    | queueRetrySweep dto => cases handles
    | runDueRetries dto => cases handles

end

/-- The request receives the job, or completes the receiving record that the job names. -/
def isReceiptOf (id : Id) (s : Supply) (r : SupplyRequest) : Bool :=
  match r.call with
  | .receive jobId _ => jobId = id
  | .inventory (.completeReceivingRecord recordId _) =>
    (jobOf s id).bind existingReceiving = some (toString recordId)
  | _ => false

def creditsAt (id : Id) (place : Place) (s : Supply) (r : SupplyRequest) : List Quantity :=
  let credit := onHandAt (step s r).db place - onHandAt s.db place
  if isReceiptOf id s r ∧ credit ≠ 0 then [credit] else []

def credits (id : Id) (place : Place) (s : Supply) (rs : List SupplyRequest) : List Quantity :=
  Trace.recorded step (creditsAt id place) [] s rs

/-- The record of a job that has been received is completed; one that is still to come brought
nothing. -/
structure JobReceipt (db : Db) (h : List Quantity) (job : InventoryReplenishmentJob) : Prop where
  recommended : ∃ rows, Recommended job rows
  waiting : job.status = .generated ∨ job.status = .approved ∨ job.status = .dispatched →
    existingReceiving job = none ∧ h = []
  opened : job.status = .receiving → existingReceiving job ≠ none
  received : job.status = .received → job.warehouseId.isSome ∧
    ∃ recordId, existingReceiving job = some (toString recordId) ∧ IsCompleted recordId db

/-- The state of a run and what the job has brought by then. -/
structure Received (id : Id) (h : List Quantity) (s : Supply) : Prop where
  stocked : Stocked s
  unborn : jobOf s id = none → h = []
  job : ∀ job, jobOf s id = some job → JobReceipt s.db h job

section
variable {id : Id} {place : Place} {s : Supply} {r : SupplyRequest} {h : List Quantity}

theorem creditsAt_other (other : isReceiptOf id s r = false) : creditsAt id place s r = [] := by
  simp [creditsAt, other]

theorem creditsAt_same (same : (step s r).db = s.db) : creditsAt id place s r = [] := by
  simp [creditsAt, same]

theorem isReceiptOf_record (other : ∀ dto, r.call ≠ .receive id dto)
    (receipt : isReceiptOf id s r = true) : ∃ recordId receivedBy,
      r.call = .inventory (.completeReceivingRecord recordId receivedBy) ∧
        (jobOf s id).bind existingReceiving = some (toString recordId) := by
  obtain ⟨env, context, call⟩ := r
  cases call with
  | receive jobId dto => exact absurd (of_decide_eq_true receipt) fun same => other dto (by rw [same])
  | inventory call =>
    cases call with
    | completeReceivingRecord recordId receivedBy =>
      exact ⟨recordId, receivedBy, rfl, of_decide_eq_true receipt⟩
    | _ => cases receipt
  | _ => cases receipt

theorem creditsAt_unreceived (other : ∀ dto, r.call ≠ .receive id dto)
    (none : (jobOf s id).bind existingReceiving = none) : creditsAt id place s r = [] := by
  refine creditsAt_other (Bool.eq_false_iff.mpr fun receipt => ?_)
  obtain ⟨recordId, _, _, named⟩ := isReceiptOf_record other receipt
  rw [none] at named
  cases named

theorem creditsAt_completed (other : ∀ dto, r.call ≠ .receive id dto) {recordId : Id}
    (named : (jobOf s id).bind existingReceiving = some (toString recordId))
    (completed : IsCompleted recordId s.db) : creditsAt id place s r = [] := by
  cases receipt : isReceiptOf id s r with
  | false => exact creditsAt_other receipt
  | true =>
    obtain ⟨recordId', receivedBy, call, named'⟩ := isReceiptOf_record other receipt
    have same : recordId' = recordId := by
      have texts := congrArg wholeOf? (some.inj (named'.symm.trans named))
      simpa only [wholeOf?_toString, some.injEq] using texts
    refine creditsAt_same ?_
    obtain ⟨env, context, _⟩ := r
    obtain rfl : _ = SupplyCall.inventory _ := call
    rw [same]
    exact perform_completed completed

theorem existingReceiving_receipt (job : InventoryReplenishmentJob) (now : Instant)
    (context : RequestContext) (status : ReplenishmentJobStatus) (record : ReceivingRecord) :
    existingReceiving (job.patchWorkflow now status (receiptPatch now context record)) =
      some (toString record.id) := by
  rw [existingReceiving_patchWorkflow job now status (by simp [receiptPatch])]
  simp [receiptPatch, get_cons, idText]

theorem Recommended.keeps {job : InventoryReplenishmentJob} {rows : List Recommendation}
    (recommended : Recommended job rows) (items : recommendedItems job' = recommendedItems job)
    (place : job'.warehouseId = job.warehouseId) : Recommended job' rows where
  items := items.trans recommended.items
  ingredients := place ▸ recommended.ingredients
  codes := place ▸ recommended.codes
  short := recommended.short

theorem Keeps.warehouseId {job : InventoryReplenishmentJob} (keeps : Keeps job job') :
    job'.warehouseId = job.warehouseId := by rw [keeps.row]

/-- A job that is carried on brings nothing, unless its record is open. -/
theorem JobReceipt.carried {db : Db} {job : InventoryReplenishmentJob} {credit : List Quantity}
    (receipt : JobReceipt s.db h job) (kept : ReceivingsKept s.db db) (keeps : Keeps job job')
    (moves : StatusMove job.status job'.status)
    (waits : existingReceiving job = none → credit = []) : JobReceipt db (credit ++ h) job' where
  recommended := by
    obtain ⟨rows, recommended⟩ := receipt.recommended
    exact ⟨rows, recommended.keeps keeps.items keeps.warehouseId⟩
  waiting status := by
    have before : job.status = .generated ∨ job.status = .approved ∨ job.status = .dispatched := by
      generalize job.status = old at moves
      generalize job'.status = new at moves status
      cases moves <;> simp_all
    obtain ⟨unreceived, nothing⟩ := receipt.waiting before
    rw [keeps.existing, waits unreceived, nothing]
    exact ⟨unreceived, rfl⟩
  opened status := by
    have before : job.status = .receiving := by
      generalize job.status = old at moves
      generalize job'.status = new at moves status
      cases moves <;> simp_all
    rw [keeps.existing]
    exact receipt.opened before
  received status := by
    have before : job.status = .received := by
      generalize job.status = old at moves
      generalize job'.status = new at moves status
      cases moves <;> simp_all
    obtain ⟨placed, recordId, named, completed⟩ := receipt.received before
    rw [keeps.existing, keeps.warehouseId]
    exact ⟨placed, recordId, named, kept.completed recordId completed⟩

theorem step_received (received : Received id h s) (r : SupplyRequest) :
    Received id (creditsAt id place s r ++ h) (step s r) := by
  have stocked := step_stocked received.stocked r
  have kept := (step_supplyKept s r).receivings
  by_cases receives : ∃ dto, r.call = .receive id dto
  · obtain ⟨dto, call⟩ := receives
    obtain ⟨env, context, _⟩ := r
    obtain rfl : _ = SupplyCall.receive id dto := call
    cases receive_turn env.now context id dto s with
    | same is =>
      have stays : step s ⟨env, context, .receive id dto⟩ = s := is
      rw [creditsAt_same (by rw [stays]), stays]
      exact received
    | received job warehouseId before status place' first record lines m n result opened completed is =>
      have stepped : step s ⟨env, context, .receive id dto⟩ = _ := is
      have after : jobOf (step s ⟨env, context, .receive id dto⟩) id = _ :=
        stepped ▸ jobOf_receipt before n
      refine ⟨stocked, fun none => absurd (after.symm.trans none) (by simp), fun job' after' => ?_⟩
      obtain rfl := some.inj (after.symm.trans after')
      obtain ⟨rows, recommended⟩ := (received.job job before).recommended
      refine ⟨⟨rows, recommended.keeps (recommendedItems_patchWorkflow ..) rfl⟩, fun waits => ?_,
        fun _ => ?_, fun done => ?_⟩
      · by_cases kept : dto.autoComplete = some false <;>
          simp [patchWorkflow, kept] at waits
      · rw [existingReceiving_receipt]
        simp
      · rcases completed with ⟨unfinished, _⟩ | ⟨_, completed⟩
        · simp [patchWorkflow, unfinished] at done
        · obtain ⟨same, finished, _⟩ := opened.completed received.stocked.receivings
            received.stocked.stock completed
          refine ⟨isSome_iff_exists.mpr ⟨warehouseId, place'⟩, record.id, ?_, ?_⟩
          · rw [existingReceiving_receipt, same]
          · rw [stepped]
            exact finished
  · have other : ∀ dto, r.call ≠ .receive id dto := fun dto same => receives ⟨dto, same⟩
    cases (step_jobTurn received.stocked other : JobTurn id s (step s r)) with
    | unborn before after =>
      rw [creditsAt_unreceived other (by rw [before]; rfl), received.unborn before]
      refine ⟨stocked, fun _ => rfl, fun job after' => ?_⟩
      rw [after] at after'
      cases after'
    | generated job before after status unreceived recommended =>
      rw [creditsAt_unreceived other (by rw [before]; rfl), received.unborn before]
      refine ⟨stocked, fun _ => rfl, fun job' after' => ?_⟩
      obtain rfl := some.inj (after.symm.trans after')
      exact ⟨recommended, fun _ => ⟨unreceived, rfl⟩, by simp [status], by simp [status]⟩
    | carried job job' before after keeps moves =>
      refine ⟨stocked, fun none => absurd (after.symm.trans none) (by simp), fun job'' after' => ?_⟩
      obtain rfl := some.inj (after.symm.trans after')
      refine (received.job job before).carried kept keeps moves fun unreceived => ?_
      exact creditsAt_unreceived other (by rw [before]; exact unreceived)

/-- How a status follows another: a receipt is of a dispatched job. -/
inductive Follows : ReplenishmentJobStatus → ReplenishmentJobStatus → Prop
  | moved {status status' : ReplenishmentJobStatus} (moves : StatusMove status status') :
      Follows status status'
  | receiving : Follows .dispatched .receiving
  | received : Follows .dispatched .received

def JobFollows (id : Id) (s t : Supply) : Prop :=
  match jobOf s id, jobOf t id with
  | none, none => True
  | none, some job => job.status = .generated
  | some job, some job' => Follows job.status job'.status
  | some _, none => False

theorem JobReceipt.first {db : Db} {job : InventoryReplenishmentJob} (receipt : JobReceipt db h job)
    (status : job.status = .dispatched ∨ job.status = .receiving ∨ job.status = .received)
    (first : existingReceiving job = none) : job.status = .dispatched ∧ h = [] := by
  rcases status with status | status | status
  · exact ⟨status, (receipt.waiting (.inr (.inr status))).2⟩
  · exact absurd first (receipt.opened status)
  · obtain ⟨_, recordId, named, _⟩ := receipt.received status
    rw [first] at named
    cases named

theorem step_follows (received : Received id h s) (r : SupplyRequest) :
    JobFollows id s (step s r) := by
  by_cases receives : ∃ dto, r.call = .receive id dto
  · obtain ⟨dto, call⟩ := receives
    obtain ⟨env, context, _⟩ := r
    obtain rfl : _ = SupplyCall.receive id dto := call
    cases receive_turn env.now context id dto s with
    | same is =>
      have stays : step s ⟨env, context, .receive id dto⟩ = s := is
      rw [stays, JobFollows]
      cases jobOf s id with
      | none => trivial
      | some job => exact .moved (.stays _)
    | received job warehouseId before status place first record lines m n result opened completed is =>
      obtain ⟨dispatched, _⟩ := (received.job job before).first status first
      have stepped : step s ⟨env, context, .receive id dto⟩ = _ := is
      have after : jobOf (step s ⟨env, context, .receive id dto⟩) id = _ :=
        stepped ▸ jobOf_receipt before n
      rw [JobFollows, before, after]
      show Follows job.status (if dto.autoComplete = some false then .receiving else .received)
      rw [dispatched]
      split
      · exact .receiving
      · exact .received
  · have other : ∀ dto, r.call ≠ .receive id dto := fun dto same => receives ⟨dto, same⟩
    rw [JobFollows]
    cases (step_jobTurn received.stocked other : JobTurn id s (step s r)) with
    | unborn before after => rw [before, after]; trivial
    | generated job before after status => rw [before, after]; exact status
    | carried job job' before after keeps moves => rw [before, after]; exact .moved moves

def FindsRecommended (id ingredientId : Id) (s : Supply) (r : SupplyRequest) : Prop :=
  match r.call with
  | .receive jobId _ => jobId = id → ∀ job ∈ jobOf s id, job.status = .dispatched →
      ∀ item ∈ recommendedItems job, ingredientOf item = some ingredientId →
        FindsOwn s job.tenantId item
  | _ => True

instance (id ingredientId : Id) (s : Supply) (r : SupplyRequest) :
    Decidable (FindsRecommended id ingredientId s r) := by
  unfold FindsRecommended
  split <;> infer_instance

def Credited (id : Id) (place : Place) (h : List Quantity) (s : Supply) : Prop :=
  ∀ job, jobOf s id = some job → job.status = .received → job.warehouseId = some place.1 →
    ∀ item ∈ recommendedItems job, ingredientOf item = some place.2 → h = [quantityOf item]

theorem creditsAt_receipt {job : InventoryReplenishmentJob} {record : ReceivingRecord}
    {lines : List ReceivingLine} {m n : Supply} {now : Instant} {receivedBy : Option String}
    {result : ReceivingRecord × List ReceivingLine} (receives : isReceiptOf id s r = true)
    (stocked : Stocked s) {rows : List Recommendation} (recommended : Recommended job rows)
    (stored : job.warehouseId = some place.1) (opened : ReceiptOpened s m job place.1 record lines)
    (completed : onDb (completeReceivingRecordTx now record.id receivedBy) m = .ok (result, n))
    (db : (step s r).db = n.db) {item : InventoryRecord} (listed : item ∈ recommendedItems job)
    (about : ingredientOf item = some place.2) (finds : FindsOwn s job.tenantId item) :
    creditsAt id place s r = [quantityOf item] := by
  rw [recommended.items] at listed
  obtain ⟨row, kept, rfl⟩ := List.mem_map.mp listed
  rw [ingredientOf_toRecord] at about
  have there : (record.warehouseId, row.ingredientId) = place :=
    Prod.ext opened.place (some.inj about)
  have placed : job.warehouseId.isSome := isSome_iff_exists.mpr ⟨_, stored⟩
  have made := opened.made
  rw [mapReplenishmentExportRows_eq, recommended.items, List.map_map] at made
  have brought := receivedAt_recommended stocked.catalogue (recommended.ingredients placed)
    (recommended.codes placed) made kept finds
  obtain ⟨_, _, counted⟩ := opened.completed stocked.receivings stocked.stock completed
  have credit : onHandAt (step s r).db place - onHandAt s.db place =
      row.recommendedOrderQuantity := by
    rw [db, counted place, ← there, brought]
    exact add_sub_cancel_left _ _
  have some' : row.recommendedOrderQuantity ≠ 0 := ne_of_gt (recommended.short row kept)
  simp only [creditsAt, credit, quantityOf_toRecord]
  rw [if_pos ⟨receives, some'⟩]

theorem step_credited (received : Received id h s) (credited : Credited id place h s)
    {r : SupplyRequest} (finds : FindsRecommended id place.2 s r) :
    Credited id place (creditsAt id place s r ++ h) (step s r) := by
  intro job' after status stored item listed about
  by_cases receives : ∃ dto, r.call = .receive id dto
  · obtain ⟨dto, call⟩ := receives
    obtain ⟨env, context, _⟩ := r
    obtain rfl : _ = SupplyCall.receive id dto := call
    cases receive_turn env.now context id dto s with
    | same is =>
      have stays : step s ⟨env, context, .receive id dto⟩ = s := is
      rw [stays] at after
      rw [creditsAt_same (by rw [stays])]
      exact credited job' after status stored item listed about
    | received job warehouseId before live placed first record lines m n result opened completed is =>
      have stepped : step s ⟨env, context, .receive id dto⟩ = _ := is
      obtain ⟨dispatched, nothing⟩ := (received.job job before).first live first
      obtain ⟨rows, recommended⟩ := (received.job job before).recommended
      have moved : jobOf (step s ⟨env, context, .receive id dto⟩) id = _ :=
        stepped ▸ jobOf_receipt before n
      obtain rfl := some.inj (moved.symm.trans after)
      replace stored : job.warehouseId = some place.1 := stored
      rw [recommendedItems_patchWorkflow] at listed
      obtain rfl : warehouseId = place.1 := some.inj (placed.symm.trans stored)
      rcases completed with ⟨unfinished, _⟩ | ⟨_, completed⟩
      · simp [patchWorkflow, unfinished] at status
      · have own := finds rfl job before dispatched item listed about
        have receipt : isReceiptOf id s ⟨env, context, .receive id dto⟩ = true := decide_eq_true rfl
        rw [creditsAt_receipt receipt received.stocked recommended stored opened
          completed (by rw [stepped]; rfl) listed about own, nothing]
        rfl
  · have other : ∀ dto, r.call ≠ .receive id dto := fun dto same => receives ⟨dto, same⟩
    cases (step_jobTurn received.stocked other : JobTurn id s (step s r)) with
    | unborn before after' =>
      rw [after'] at after
      cases after
    | generated job before after' generated =>
      obtain rfl := some.inj (after'.symm.trans after)
      rw [generated] at status
      cases status
    | carried job job' before after' keeps moves =>
      obtain rfl := some.inj (after'.symm.trans after)
      have done : job.status = .received := by
        generalize job.status = old at moves
        generalize job'.status = new at moves status
        cases moves <;> simp_all
      obtain ⟨_, recordId, named, completed⟩ := (received.job job before).received done
      rw [creditsAt_completed other (by rw [before]; exact named) completed]
      rw [keeps.warehouseId] at stored
      rw [keeps.items] at listed
      exact credited job before done stored item listed about

end

theorem received_start {s : Supply} (stocked : Stocked s) (start : s.jobs = []) (id : Id) :
    Received id [] s := by
  have unborn : jobOf s id = none := by
    rw [jobOf, start]
    rfl
  refine ⟨stocked, fun _ => rfl, fun job found => ?_⟩
  rw [unborn] at found
  cases found

theorem dairy_stocked : Stocked dairy where
  jobs := ⟨by simp [dairy], by simp [dairy]⟩
  stock := shop_stockStart.keys
  receivings := ⟨by decide, by decide⟩
  catalogue := ⟨by decide, by decide, by decide⟩

def dairyCall (call : SupplyCall) : SupplyRequest := dairyAt [] 1 (.failed "") call

def milkReceived (meanwhile : List SupplyCall) : List SupplyRequest :=
  let ordered : List SupplyCall :=
    [.generate { tenantId := some 1, warehouseId := some 30 }, .approve 100, .dispatch 100]
  (ordered ++ meanwhile ++ [SupplyCall.receive 100 {}]).map dairyCall

end Exetron.Replenishment
