import SessionSquash.Record.Shared

namespace SessionSquash

structure OpenWindow where
  windowId : UInt8
  windowType : String
  title : String
  slots : UInt8
deriving Inhabited

namespace OpenWindow

def decoder : Decoder OpenWindow :=
  Decoder.record "OpenWindowData" 4 do
    let windowId ← Fields.required "window_id" Decoder.uint8
    let windowType ← Fields.required "window_type" Decoder.string
    let title ← Fields.required "title" Decoder.string
    let slots ← Fields.required "slots" Decoder.uint8
    return { windowId, windowType, title, slots }

def toJson (r : OpenWindow) : Json :=
  .object [("window_id", Json.ofNat r.windowId.toNat),
    ("window_type", .string r.windowType),
    ("title", .string r.title),
    ("slots", Json.ofNat r.slots.toNat)]

end OpenWindow

structure CloseWindow where
  windowId : UInt8
deriving Inhabited

namespace CloseWindow

def decoder : Decoder CloseWindow :=
  Decoder.record "CloseWindowData" 1 do
    let windowId ← Fields.required "window_id" Decoder.uint8
    return { windowId }

def toJson (r : CloseWindow) : Json :=
  .object [("window_id", Json.ofNat r.windowId.toNat)]

end CloseWindow

structure WindowProperty where
  windowId : UInt8
  property : Int16
  value : Int16
deriving Inhabited

namespace WindowProperty

def decoder : Decoder WindowProperty :=
  Decoder.record "WindowPropertyData" 3 do
    let windowId ← Fields.required "window_id" Decoder.uint8
    let property ← Fields.required "property" Decoder.int16
    let value ← Fields.required "value" Decoder.int16
    return { windowId, property, value }

def toJson (r : WindowProperty) : Json :=
  .object [("window_id", Json.ofNat r.windowId.toNat),
    ("property", Json.ofInt r.property.toInt),
    ("value", Json.ofInt r.value.toInt)]

end WindowProperty

structure WindowItems where
  windowId : UInt8
  items : List (Option ItemStack)
deriving Inhabited

namespace WindowItems

def decoder : Decoder WindowItems :=
  Decoder.record "WindowItemsData" 2 do
    let windowId ← Fields.required "window_id" Decoder.uint8
    let items ← Fields.required "items" (Decoder.list (Decoder.option ItemStack.decoder))
    return { windowId, items }

def toJson (r : WindowItems) : Json :=
  .object [("window_id", Json.ofNat r.windowId.toNat),
    ("items", .array (r.items.map (Json.ofOption ItemStack.toJson)))]

end WindowItems

/-- One slot of a window; window `-1` is the cursor. -/
structure SetSlot where
  windowId : Int8
  slot : Int16
  item : Option ItemStack
deriving Inhabited

namespace SetSlot

def decoder : Decoder SetSlot :=
  Decoder.record "SetSlotData" 3 do
    let windowId ← Fields.required "window_id" Decoder.int8
    let slot ← Fields.required "slot" Decoder.int16
    let item ← Fields.optional "item" ItemStack.decoder
    return { windowId, slot, item }

def toJson (r : SetSlot) : Json :=
  .object [("window_id", Json.ofInt r.windowId.toInt),
    ("slot", Json.ofInt r.slot.toInt),
    ("item", Json.ofOption ItemStack.toJson r.item)]

end SetSlot

structure ConfirmTransaction where
  windowId : UInt8
  actionId : Int16
  accepted : Bool
deriving Inhabited

namespace ConfirmTransaction

def decoder : Decoder ConfirmTransaction :=
  Decoder.record "ConfirmTransactionData" 3 do
    let windowId ← Fields.required "window_id" Decoder.uint8
    let actionId ← Fields.required "action_id" Decoder.int16
    let accepted ← Fields.required "accepted" Decoder.bool
    return { windowId, actionId, accepted }

def toJson (r : ConfirmTransaction) : Json :=
  .object [("window_id", Json.ofNat r.windowId.toNat),
    ("action_id", Json.ofInt r.actionId.toInt),
    ("accepted", .bool r.accepted)]

end ConfirmTransaction

def WindowItems.isMainInventory (w : WindowItems) : Bool := w.windowId == 0

def SetSlot.isMainInventory (s : SetSlot) : Bool := s.windowId == 0

end SessionSquash
