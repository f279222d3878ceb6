import Crowdlending.Json.Shape
import Crowdlending.Number.Numeral

/-!
# What callers ask about accounts

The requests and their shapes in JSON.
-/
namespace Crowdlending.Account
open Json

structure RegisterRequest where
  name : String
  email : String
  phoneNumber : String
  password : String
  roleNumber : Nat
deriving Repr, DecidableEq

structure LoginRequest where
  identifier : String
  password : String
  rememberMe : Bool
deriving Repr, DecidableEq

structure RefreshRequest where
  token : String
deriving Repr, DecidableEq

structure ExistenceRequest where
  email : String
  phoneNumber : String
deriving Repr, DecidableEq

def asRoleNumber : Doc → Except Fault Nat := Doc.asNat Number.maxU8

namespace RegisterRequest

def ofUserDoc (d : Doc) : Except Fault RegisterRequest := do
  let found : Found ← Field.collect
    [.required "name" Doc.asText, .required "email" Doc.asText,
      .required "phone_number" Doc.asText, .required "password" Doc.asText,
      .defaulted "role_id" asRoleNumber] d
  .ok {
    name := ← found.value "name" Doc.asText
    email := ← found.value "email" Doc.asText
    phoneNumber := ← found.value "phone_number" Doc.asText
    password := ← found.value "password" Doc.asText
    roleNumber := ← found.valueD "role_id" asRoleNumber 0 }

def ofDoc (d : Doc) : Except Fault RegisterRequest := do
  let found : Found ← Field.collect [.required "user" ofUserDoc] d
  found.value "user" ofUserDoc

end RegisterRequest

def LoginRequest.ofDoc (d : Doc) : Except Fault LoginRequest := do
  let found : Found ← Field.collect
    [.required "user_id" Doc.asText, .required "password" Doc.asText,
      .defaulted "remember_me" Doc.asBool] d
  .ok {
    identifier := ← found.value "user_id" Doc.asText
    password := ← found.value "password" Doc.asText
    rememberMe := ← found.valueD "remember_me" Doc.asBool false }

def RefreshRequest.ofDoc (d : Doc) : Except Fault RefreshRequest := do
  let found : Found ← Field.collect [.required "refresh_token" Doc.asText] d
  .ok ⟨← found.value "refresh_token" Doc.asText⟩

def ExistenceRequest.ofDoc (d : Doc) : Except Fault ExistenceRequest := do
  let found : Found ← Field.collect
    [.defaulted "email" Doc.asText, .defaulted "phone_number" Doc.asText] d
  .ok ⟨← found.valueD "email" Doc.asText "", ← found.valueD "phone_number" Doc.asText ""⟩

end Crowdlending.Account
