import Exetron.Types

/-!
# Access control

The checks of `AccessControlService` that every call makes on the rows it addresses.
-/

namespace Exetron

def requirePlatformAdmin (context : RequestContext) : Except ApiException Unit :=
  rejectIf (context.scope ≠ .platformAdmin) (.forbidden "Platform admin scope is required.")

def resolveTenantId (context : RequestContext) (tenantId : Option Id) : Except ApiException Id :=
  if context.scope = .platformAdmin then
    required tenantId (.forbidden "Tenant id is required for this operation.")
  else
    match context.tenantId with
    | none => .error (.forbidden "Tenant context is missing.")
    | some own =>
      match tenantId with
      | none => .ok own
      | some asked =>
        if asked = own then .ok own
        else .error (.forbidden "Cross-tenant access is not allowed.")

def enforceStoreAccess (context : RequestContext) (storeId : Id) : Except ApiException Unit :=
  if context.scope = .platformAdmin then .ok ()
  else rejectIf (context.storeIds ≠ [] ∧ storeId ∉ context.storeIds)
    (.forbidden "Store access is not allowed.")

def storeFilter (context : RequestContext) : Option (List Id) :=
  if context.scope = .platformAdmin ∨ context.storeIds = [] then none else some context.storeIds

def authorize (context : RequestContext) (tenantId storeId : Id) : Except ApiException Unit := do
  let _ ← resolveTenantId context (some tenantId)
  enforceStoreAccess context storeId

end Exetron
