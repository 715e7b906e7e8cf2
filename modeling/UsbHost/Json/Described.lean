import UsbHost.Json.Schema

/-!
# Types described by a schema

A type is `Described` by a schema whose values stand for its values. A reader and a printer of the
type then come with the schema.
-/

namespace UsbHost.Json

/-- A type whose values are written as the values of a schema. -/
class Described (α : Type) where
  schema : Schema
  ofCarrier : schema.Carrier → α
  toCarrier : α → schema.Carrier
  /-- Nothing of a value is lost. -/
  ofCarrier_toCarrier : ∀ a, ofCarrier (toCarrier a) = a

namespace Described

attribute [simp] ofCarrier_toCarrier

/-- The JSON form of a value. -/
def toJson [Described α] (a : α) : Json :=
  (schema α).toJson (toCarrier a)

instance unit : Described Unit where
  schema := .unit
  ofCarrier a := a
  toCarrier a := a
  ofCarrier_toCarrier _ := rfl

instance list [Described α] : Described (List α) where
  schema := .list (schema α)
  ofCarrier vs := vs.map ofCarrier
  toCarrier as := as.map toCarrier
  ofCarrier_toCarrier as := by simp [Function.comp_def]

instance option [Described α] : Described (Option α) where
  schema := .optional (schema α)
  ofCarrier v := v.map ofCarrier
  toCarrier a := a.map toCarrier
  ofCarrier_toCarrier a := by cases a <;> simp

end Described

end UsbHost.Json
