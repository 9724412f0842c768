import Exetron.Payments.Adapter

/-!
# The environment of a call

What a service call takes from outside the database: the clock, the generated order number, the
payment adapters, the decryption of stored secrets and the upper case of any text. `Env.shipped`
has the adapters of the repository; the services' theorems hold for any.
-/

namespace Exetron

open Payments

structure Env where
  now : Instant
  orderNumber : String
  executePaymentProviderAttempt :
    PaymentAdapterConfig → Except ApiException PaymentAdapterExecutionResult
  executePaymentOperation :
    PaymentAdapterConfig → PaymentOperationKind → Money →
      Except ApiException PaymentAdapterExecutionResult
  decryptSecrets : Json → Except ApiException (List (String × String))
  toUpperCase : String → String := Text.toUpperCase

def Env.shipped (now : Instant) (random orderNumber : String)
    (decryptSecrets : Json → Except ApiException (List (String × String))) : Env where
  now := now
  orderNumber := orderNumber
  executePaymentProviderAttempt := Payments.executePaymentProviderAttempt now random
  executePaymentOperation := Payments.executePaymentOperation now random
  decryptSecrets := decryptSecrets

end Exetron
