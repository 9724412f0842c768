import Exetron.Localization.Locales
import Exetron.Replenishment.Checksums

/-!
# The checksum of a dropped file

A drop that brings no checksum is given one by the service, which the import then verifies. With a
content both hash the content. Without one the drop hashes the canonical text of the import, and
the import the indented text of the payload.
-/

namespace Exetron.Replenishment

open Lib Inventory.Service InventoryReplenishmentJob

variable {runtime : SupplierConnectorRuntime} {text : String} {connector : IntegrationRegistryEntry}

theorem filled_some {value : Option String} (given : filled value = some text) :
    Text.trim text = text ∧ text ≠ "" := by
  obtain ⟨trimmed, some⟩ := (Option.filter_eq_some_iff).mp given
  obtain ⟨raw, _, rfl⟩ := Option.map_eq_some_iff.mp trimmed
  exact ⟨Text.trim_trim raw, by simpa using some⟩

theorem hashedText_of_text {input : ImportSupplierUpdateDto}
    (brought : input.payloadRecord.get "_checksumPayload" = some (.str text))
    (written : Text.trim text ≠ "") : input.hashedText = text := by
  rw [ImportSupplierUpdateDto.hashedText, ImportSupplierUpdateDto.rawChecksumPayload, brought,
    textOf_str, Option.filter_some, if_pos (by simpa using written)]
  rfl

theorem toList_stringifyIndented (fields : InventoryRecord) :
    ∃ c rest, (Json.stringifyIndented (.obj fields)).toList = '{' :: c :: rest ∧ c ≠ '"' := by
  rw [Json.stringifyIndented, String.toList_ofList]
  cases fields with
  | nil => exact ⟨'}', [], rfl, by decide⟩
  | cons field fields => exact ⟨'\n', _, rfl, by decide⟩

theorem stringifyIndented_ne (fields : InventoryRecord) (content : ChecksumContent) :
    Json.stringifyIndented (.obj fields) ≠ buildSupplierImportChecksumPayload content := by
  intro same
  obtain ⟨c, rest, indented, notQuote⟩ := toList_stringifyIndented fields
  have canonical : (buildSupplierImportChecksumPayload content).toList.tail.head? = some '"' := by
    rw [buildSupplierImportChecksumPayload, stableJson, Json.stringify, String.toList_ofList]
    rfl
  rw [← same, indented] at canonical
  exact notQuote (Option.some.inj canonical)

section
variable {env : SupplierEnv} {context : RequestContext} {input : DropSupplierFileDto}
  {job : InventoryReplenishmentJob} {dto : ImportSupplierUpdateDto}

/-- What a drop hands to the import: a checksum, and the text to verify it with. -/
theorem prepareFileDrop_hands
    (found : ∀ missing, connectorOf env job missing = .ok (connector, runtime))
    (left : filled input.checksum = none) (requires : runtime.requireChecksum = true)
    (prepared : prepareFileDrop env context input job = .ok dto) :
    ∃ fields content, dto.payloadRecord.get "_checksumPayload" = some (.str
        ((filled input.content).getD (Json.stringifyIndented (.obj fields)))) ∧
      dto.checksum = some (env.createHash
        ((filled input.content).getD (buildSupplierImportChecksumPayload content))) := by
  have both {payload : Option InventoryRecord} {content : ChecksumContent}
      {staging : InventoryRecord} {importId : String} {supplierStatus : SupplierStatus}
      {externalReference fileName note : Option String}
      (is : dto =
        { importId
          supplierStatus
          externalReference
          fileName
          checksum := (filled input.checksum).or (if runtime.requireChecksum then
            some (env.createHash ((filled input.content).getD
              (buildSupplierImportChecksumPayload content))) else none)
          note
          payload := some (((payload.getD []).set "_staging" (.obj staging)).set "_checksumPayload"
            (.str ((filled input.content).getD
              (Json.stringifyIndented (.obj (payload.getD [])))))) }) :
      ∃ fields content, dto.payloadRecord.get "_checksumPayload" = some (.str
          ((filled input.content).getD (Json.stringifyIndented (.obj fields)))) ∧
        dto.checksum = some (env.createHash
          ((filled input.content).getD (buildSupplierImportChecksumPayload content))) := by
    refine ⟨payload.getD [], content, ?_, ?_⟩
    · rw [is]
      exact (Record.get_set ..).trans (if_pos rfl)
    · rw [is, left, requires]
      rfl
  simp only [prepareFileDrop, except_bind_ok_iff] at prepared
  obtain ⟨_, _, ⟨connector', runtime'⟩, found', _, _, prepared⟩ := prepared
  obtain ⟨rfl, rfl⟩ := Prod.mk.inj (Except.ok.inj ((found _).symm.trans found'))
  split at prepared
  all_goals
    simp only [except_bind_ok_iff, except_pure_ok_iff] at prepared
    obtain ⟨_, _, is⟩ := prepared
    exact both is.symm

def PassesVerification (env : SupplierEnv) (runtime : SupplierConnectorRuntime)
    (dto : ImportSupplierUpdateDto) : Prop :=
  ∃ verified, verifyImport env runtime dto = .accepted verified

theorem passes_iff
    (digest : ∀ text, filled (some (env.createHash text)) = some (env.createHash text))
    (requires : runtime.requireChecksum = true)
    (given : dto.checksum = some (env.createHash text)) :
    PassesVerification env runtime dto ↔ env.createHash dto.hashedText = env.createHash text := by
  unfold PassesVerification verifyImport
  rw [if_pos requires, given, digest text]
  dsimp only
  split
  · rename_i differs
    simp [differs]
  · rename_i same
    simpa using same

theorem passes_content
    (digest : ∀ text, filled (some (env.createHash text)) = some (env.createHash text))
    (found : ∀ missing, connectorOf env job missing = .ok (connector, runtime))
    (left : filled input.checksum = none) (requires : runtime.requireChecksum = true)
    (prepared : prepareFileDrop env context input job = .ok dto) {content : String}
    (brought : filled input.content = some content) : PassesVerification env runtime dto := by
  obtain ⟨_, _, handed, given⟩ := prepareFileDrop_hands found left requires prepared
  rw [brought, Option.getD_some] at handed given
  obtain ⟨trimmed, written⟩ := filled_some brought
  refine (passes_iff digest requires given).mpr ?_
  rw [hashedText_of_text handed (by rwa [trimmed])]

theorem fails_payload (injective : Function.Injective env.createHash)
    (digest : ∀ text, filled (some (env.createHash text)) = some (env.createHash text))
    (found : ∀ missing, connectorOf env job missing = .ok (connector, runtime))
    (left : filled input.checksum = none) (requires : runtime.requireChecksum = true)
    (prepared : prepareFileDrop env context input job = .ok dto)
    (none : filled input.content = none) : ¬PassesVerification env runtime dto := by
  obtain ⟨fields, canonical, handed, given⟩ := prepareFileDrop_hands found left requires prepared
  rw [none, Option.getD_none] at handed given
  obtain ⟨_, _, written, _⟩ := toList_stringifyIndented fields
  have solid : Text.trim (Json.stringifyIndented (.obj fields)) ≠ "" :=
    Text.trim_ne_empty (c := '{') (by simp [written]) (by decide)
  rw [passes_iff digest requires given, hashedText_of_text handed solid]
  exact fun same => stringifyIndented_ne fields canonical (injective same)

/-- A drop that leaves the checksum to the service passes the verification just when the connector
requires none, or the file comes as a content. -/
theorem dropped_passes_iff {connector : IntegrationRegistryEntry}
    {runtime : SupplierConnectorRuntime} (injective : Function.Injective env.createHash)
    (digest : ∀ text, filled (some (env.createHash text)) = some (env.createHash text))
    (found : ∀ missing, connectorOf env job missing = .ok (connector, runtime))
    (left : filled input.checksum = none)
    (prepared : prepareFileDrop env context input job = .ok dto) :
    PassesVerification env runtime dto ↔
      runtime.requireChecksum = false ∨ (filled input.content).isSome = true := by
  cases requires : runtime.requireChecksum with
  | false =>
    refine iff_of_true ⟨false, ?_⟩ (.inl rfl)
    rw [verifyImport, requires]
    rfl
  | true =>
    cases brought : filled input.content with
    | none =>
      refine iff_of_false ?_ (by simp)
      exact fails_payload injective digest found left requires prepared brought
    | some content =>
      refine iff_of_true ?_ (by simp)
      exact passes_content digest found left requires prepared brought

end

/-- A hash that no blank text has. -/
def boxed (text : String) : String := "(" ++ text ++ ")"

theorem boxed_injective : Function.Injective boxed := by
  intro a b same
  have texts : ("(" ++ a ++ ")").toList = ("(" ++ b ++ ")").toList := congrArg String.toList same
  simp only [String.toList_append] at texts
  exact String.toList_inj.mp (List.append_cancel_left (List.append_cancel_right texts))

theorem boxed_digest (text : String) : filled (some (boxed text)) = some (boxed text) := by
  have trimmed : Text.trim (boxed text) = boxed text := by
    rw [Text.trim_eq_self_iff, boxed, String.toList_append, String.toList_append]
    refine ⟨fun c first => ?_, fun c last => ?_⟩
    · obtain rfl : '(' = c := by simpa using first
      decide
    · obtain rfl : ')' = c := Option.some.inj ((List.getLast?_concat ..).symm.trans last)
      decide
  have written : boxed text ≠ "" := by
    intro blank
    have none := congrArg String.toList blank
    simp [boxed] at none
  simp [filled, trimmed, written]

def boxedEnv : SupplierEnv := { filesEnv with createHash := boxed }

def countDrop : DropSupplierFileDto where
  importId := "i1"
  supplierStatus := .delivered
  payload := some [("units", .num 2)]

def filesRuntime : SupplierConnectorRuntime := resolveSupplierConnectorRuntime filesConnector

theorem boxedEnv_found (missing : String) :
    connectorOf boxedEnv filesJob missing = .ok (filesConnector, filesRuntime) :=
  filesConnector_found missing

theorem countDrop_prepared :
    ∃ dto, prepareFileDrop boxedEnv filesClerk countDrop filesJob = .ok dto := by
  have seen : Inventory.Service.resolveTenantId filesClerk filesJob.tenantId = .ok 7 := rfl
  have mode : filesRuntime.mode = .fileImport := by decide +kernel
  apply Exists.intro
  simp only [prepareFileDrop, except_bind_ok_iff, rejectIf_ok_iff]
  exact ⟨_, seen, _, boxedEnv_found _, (), not_not.mpr mode, rfl⟩

theorem countDrop_passes_iff : ∃ dto,
    prepareFileDrop boxedEnv filesClerk countDrop filesJob = .ok dto ∧
      (PassesVerification boxedEnv filesRuntime dto ↔
        filesRuntime.requireChecksum = false ∨ (filled countDrop.content).isSome = true) := by
  obtain ⟨dto, prepared⟩ := countDrop_prepared
  exact ⟨dto, prepared, dropped_passes_iff boxed_injective boxed_digest boxedEnv_found (by decide)
    prepared⟩

/-- The service refuses the checksum that it computed itself. -/
theorem countDrop_fails : ∃ dto, prepareFileDrop boxedEnv filesClerk countDrop filesJob = .ok dto ∧
    ¬PassesVerification boxedEnv filesRuntime dto := by
  obtain ⟨dto, prepared⟩ := countDrop_prepared
  exact ⟨dto, prepared, fails_payload boxed_injective boxed_digest boxedEnv_found (by decide)
    (by decide +kernel) prepared (by decide)⟩

end Exetron.Replenishment
