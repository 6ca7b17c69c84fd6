import Mathlib.Tactic.TypeStar

/-!
# Shared enumerations and identities

The enumerations of the API contract that the modelled services read, and the
identities the database generates. An identity prints as 24 lower-case hexadecimal
digits; a text casts to an identity in either case, as the ODM casts it. Where a record names
another, it holds what it was given, a text or an identity.
-/

namespace CoachingApi

/-- The digits an identity prints with. -/
def hexDigits : List Char := "0123456789abcdef".toList

/-- A generated document identity, as `toString` prints it. -/
structure ObjectId where
  hex : String
  length_hex : hex.length = 24
  digits_hex : ∀ digit ∈ hex.toList, digit ∈ hexDigits
  deriving DecidableEq

namespace ObjectId

/-- The identity written with one repeated digit, zero for what is no digit. -/
def repeated (digit : Char) : ObjectId :=
  ⟨String.ofList (List.replicate 24 (if digit ∈ hexDigits then digit else '0')), by simp, by
    intro printed member
    rw [String.toList_ofList, List.mem_replicate] at member
    rw [member.2]
    split
    · assumption
    · decide⟩

/-- The identity a text casts to: 24 hexadecimal digits in either case. -/
def cast (text : String) : Option ObjectId :=
  let digits := text.toList.map Char.toLower
  if valid : digits.length = 24 ∧ digits.all (fun digit => decide (digit ∈ hexDigits)) = true then
    some ⟨String.ofList digits, by simpa using valid.1, by simpa using valid.2⟩
  else none

/-- A digit is its own lower case. -/
theorem lower_digit {digit : Char} (member : digit ∈ hexDigits) : digit.toLower = digit := by
  have each : hexDigits.all (fun digit => decide (digit.toLower = digit)) = true := by decide
  exact of_decide_eq_true (List.all_eq_true.mp each digit member)

/-- What an identity prints casts back to it. -/
@[simp] theorem cast_hex (id : ObjectId) : cast id.hex = some id := by
  have lowered : id.hex.toList.map Char.toLower = id.hex.toList := by
    rw [List.map_congr_left (fun digit member => lower_digit (id.digits_hex digit member))]
    exact List.map_id' _
  have length : id.hex.toList.length = 24 := String.length_toList.trans id.length_hex
  simp only [cast, lowered]
  have digits : id.hex.toList.all (fun digit => decide (digit ∈ hexDigits)) = true := by
    simpa using id.digits_hex
  rw [dif_pos ⟨length, digits⟩]
  obtain ⟨hex, _, _⟩ := id
  simp

/-- An identity prints at least one digit. -/
theorem hex_nonempty (id : ObjectId) : id.hex ≠ "" := by
  intro empty
  have length := id.length_hex
  simp [empty] at length

/-- Identities that print alike are one. -/
theorem hex_injective {first second : ObjectId} (same : first.hex = second.hex) :
    first = second := by
  have casts : some first = some second := by rw [← cast_hex first, same, cast_hex]
  exact Option.some.inj casts

end ObjectId

/-- A stored reference to a document: the value that was given, which the path does not cast. A
posted text is not the identity it prints. -/
inductive Reference where
  | text (given : String)
  | id (given : ObjectId)
  deriving DecidableEq

namespace Reference

/-- The identity that a reference casts to where a query of an identity is given it. -/
def cast : Reference → Option ObjectId
  | .text given => ObjectId.cast given
  | .id given => some given

@[simp] theorem cast_text (given : String) : cast (.text given) = ObjectId.cast given := rfl

@[simp] theorem cast_id (given : ObjectId) : cast (.id given) = some given := rfl

end Reference

/-- Which surface a token belongs to. -/
inductive Realm where
  | tenant | platform
  deriving DecidableEq

/-- Institute roles. -/
inductive UserRole where
  | admin | teacher | student | parent
  deriving DecidableEq

/-- Roles of the platform's own staff. -/
inductive SuperRole where
  | owner | support
  deriving DecidableEq

/-- The life of an institute. -/
inductive TenantStatus where
  | active | suspended | pending
  deriving DecidableEq

/-- The life of an institute's user. -/
inductive UserStatus where
  | active | invited | disabled
  deriving DecidableEq

/-- The standing of an invoice. -/
inductive InvoiceStatus where
  | pending | partial_ | paid | overdue
  deriving DecidableEq

/-- The life of a gateway payment. -/
inductive PaymentStatus where
  | created | captured | failed
  deriving DecidableEq

/-- A student's presence in a class. -/
inductive AttendanceStatus where
  | present | absent | late
  deriving DecidableEq

/-- Where an attendance record comes from. -/
inductive AttendanceSource where
  | manual | biometric
  deriving DecidableEq

/-- How a notification is delivered. -/
inductive NotificationChannel where
  | push | sms
  deriving DecidableEq

/-- The life of a notification. -/
inductive NotificationStatus where
  | queued | sent | failed
  deriving DecidableEq

/-- The life of a prospective admission. -/
inductive LeadStatus where
  | new | contacted | qualified | converted | lost
  deriving DecidableEq

/-- The text of a status in a query. -/
def LeadStatus.value : LeadStatus → String
  | .new => "new"
  | .contacted => "contacted"
  | .qualified => "qualified"
  | .converted => "converted"
  | .lost => "lost"

/-- What kind of file a study material is. -/
inductive MaterialType where
  | video | pdf | doc
  deriving DecidableEq

/-- The tiers that the platform sells. -/
inductive PlanTier where
  | free | starter | pro | enterprise
  deriving DecidableEq

/-- The life of an institute's subscription. -/
inductive SubscriptionStatus where
  | trialing | active | pastDue | canceled
  deriving DecidableEq

end CoachingApi
