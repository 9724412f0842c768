import Exetron.Replenishment.Messages

/-!
# File drops and replays

A dropped file becomes an import: its content is parsed for the payload, and its text goes along as
the text to be hashed. A replay marks what was processed last as processed again.
-/

namespace Exetron.Replenishment

open Lib Inventory.Service InventoryReplenishmentJob

structure DropSupplierFileDto where
  importId : String
  supplierStatus : SupplierStatus
  externalReference : Option String := none
  fileName : Option String := none
  contentType : Option String := none
  checksum : Option String := none
  content : Option String := none
  note : Option String := none
  payload : Option InventoryRecord := none

def csvRecord (header row : String) : InventoryRecord :=
  let values := (row.splitOn ",").map Text.trim
  ((header.splitOn ",").map Text.trim).zipIdx.foldl
    (fun record column => record.set column.1 (ofText values[column.2]?)) []

def parseSupplierFileDropPayload (env : SupplierEnv) (content : Option String)
    (contentType importFormat : String) : Except ApiException (Option InventoryRecord) :=
  match content with
  | none => .ok none
  | some content =>
    let normalizedContentType := Text.toLowerCase (Text.trim contentType)
    let normalizedFormat := Text.toLowerCase (Text.trim importFormat)
    if contains normalizedContentType "json" ∨ normalizedFormat = "json" then do
      let parsed ← required (env.parseJson content) .typeError
      pure (some (asRecord (some parsed)))
    else if contains normalizedContentType "csv" ∨ normalizedFormat = "csv" then
      match ((content.splitOn "\n").map Text.trim).filter (· ≠ "") with
      | header :: row :: _ => .ok (some (csvRecord header row))
      | _ => .ok (some [("rawContent", .str content)])
    else .ok (some [("rawContent", .str content), ("contentType", .str normalizedContentType)])

def prepareFileDrop (env : SupplierEnv) (context : RequestContext) (input : DropSupplierFileDto)
    (current : InventoryReplenishmentJob) : Except ApiException ImportSupplierUpdateDto := do
  let _ ← Inventory.Service.resolveTenantId context current.tenantId
  let (connector, runtime) ← connectorOf env current
    "Supplier connector handoff is required before file drop."
  rejectIf (runtime.mode ≠ .fileImport)
    (.badRequest "This supplier connector does not use file pickup/drop transport.")
  let deliveryArtifact := asRecord (current.supplier "deliveryArtifact")
  let artifactText (key : String) : Option String := textOf (deliveryArtifact.get key)
  let fileName := ((filled input.fileName).or ((artifactText "fileName").filter (· ≠ ""))).getD
    "supplier-drop.json"
  let contentType :=
    ((filled input.contentType).or ((artifactText "contentType").filter (· ≠ ""))).getD
      (if runtime.importFormat = some "csv" then "text/csv" else "application/json")
  let content := filled input.content
  let importFormat := runtime.importFormat.getD "json"
  let payload ← match input.payload with
    | some payload => pure (some payload)
    | none => parseSupplierFileDropPayload env content contentType importFormat
  let fields := payload.getD []
  let externalReference := ((filled input.externalReference).or
    ((textOf (fields.get "externalReference")).filter (· ≠ ""))).or (currentReference current)
  let checksum := (filled input.checksum).or
    (if runtime.requireChecksum then
      some (env.createHash (content.getD (buildSupplierImportChecksumPayload
        { importId := Text.trim input.importId
          supplierStatus := input.supplierStatus
          externalReference
          fileName := some fileName
          payload })))
    else none)
  let staging := stageMetadata connector.connectorKey current.id runtime fileName contentType
    ((artifactText "pickupPath").or runtime.pickupPath)
    ((artifactText "dropPath").or runtime.dropPath) externalReference
  pure
    { importId := Text.trim input.importId
      supplierStatus := input.supplierStatus
      externalReference
      fileName := some fileName
      checksum
      note := input.note
      payload := some ((fields.set "_staging" (.obj staging)).set "_checksumPayload"
        (.str (content.getD (Json.stringifyIndented (.obj fields))))) }

def dropReplenishmentSupplierFile (env : SupplierEnv) (context : RequestContext)
    (input : DropSupplierFileDto) (current : InventoryReplenishmentJob) : Handled :=
  match prepareFileDrop env context input current with
  | .error e => ⟨.error e, current⟩
  | .ok prepared => importReplenishmentSupplierUpdate env context prepared current

structure ReplayReconciliationDto where
  source : Option SupplierSource := none
  replayId : Option String := none
  note : Option String := none

def processedKey : SupplierSource → String × String
  | .webhook => ("callbackDeliveryId", "deliveryId")
  | .fileImport | .httpPush => ("importId", "importId")

def replaySource (runtime : SupplierConnectorRuntime) (requested : Option SupplierSource) :
    Option SupplierSource :=
  (requested.filter (· ≠ .httpPush)).or (match runtime.mode with
    | .webhook => some .webhook
    | .fileImport => some .fileImport
    | .simulated | .httpPush => none)

def admitReplay (env : SupplierEnv) (context : RequestContext) (input : ReplayReconciliationDto)
    (current : InventoryReplenishmentJob) :
    Except ApiException (SupplierConnectorRuntime × SupplierSource × String) := do
  let _ ← Inventory.Service.resolveTenantId context current.tenantId
  let (_, runtime) ← connectorOf env current
    "Supplier connector handoff is required before reconciliation replay."
  let source ← required (replaySource runtime input.source)
    (.badRequest "Supplier replay is supported only for webhook or file-import connectors.")
  rejectIf (runtime.mode.text ≠ source.text)
    (.badRequest "Requested replay source does not match supplier transport mode.")
  let processed ← required (filledTextOf (current.supplier (processedKey source).1))
    (.badRequest (if source = .webhook then
        "No processed supplier webhook callback is available for replay."
      else "No processed supplier import is available for replay."))
  pure (runtime, source, processed)

def pendingKey : SupplierSource → String
  | .webhook => "pendingCallback"
  | .fileImport => "pendingImport"
  | .httpPush => "pendingPush"

def replayReplenishmentSupplierReconciliation (env : SupplierEnv) (context : RequestContext)
    (input : ReplayReconciliationDto) (current : InventoryReplenishmentJob) :
    Except ApiException InventoryReplenishmentJob := do
  let (runtime, source, processed) ← admitReplay env context input current
  let replayId := (filled input.replayId).getD ("replay-" ++ env.randomUUID)
  let replay := replayOf current
  pure (current.patchSupplier env.now
    [(pendingKey source, .bool false),
      ("lastReplayAt", isoText env.now),
      ("lastReplaySource", .str source.text),
      ("replayCount", .num (max 0 (toNumber (current.supplier "replayCount")) + 1)),
      ("lastStatusNote", Json.orElse (some (ofText input.note))
        (Json.orElse (current.supplier "lastStatusNote") .null)),
      ("replay", .obj (replay.set "operatorReplays"
        (appendReplayMarker (replay.get "operatorReplays")
          [("replayId", .str replayId),
            ("source", .str source.text),
            ("processedAt", isoText env.now),
            ((processedKey source).2, .str processed)]
          runtime.replayWindowSize))),
      ("reconciliation", .obj
        [("source", .str source.text),
          ("status", .str "REPLAYED"),
          ("processedAt", isoText env.now),
          ("replayId", .str replayId),
          ((processedKey source).2, .str processed)])])

end Exetron.Replenishment
