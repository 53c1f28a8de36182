import SessionSquash.Record.Shared

namespace SessionSquash

structure Chat where
  message : String
  position : UInt8
deriving Inhabited

namespace Chat

def decoder : Decoder Chat :=
  Decoder.record "ChatData" 2 do
    let message ← Fields.required "message" Decoder.string
    let position ← Fields.withDefault "position" Decoder.uint8 0
    return { message, position }

def toJson (r : Chat) : Json :=
  .object [("message", .string r.message),
    ("position", Json.ofNat r.position.toNat)]

end Chat

structure PluginMessage where
  channel : String
  data : List UInt8
deriving Inhabited

namespace PluginMessage

def decoder : Decoder PluginMessage :=
  Decoder.record "PluginMessageData" 2 do
    let channel ← Fields.required "channel" Decoder.string
    let data ← Fields.withDefault "data" Decoder.bytes []
    return { channel, data }

def toJson (r : PluginMessage) : Json :=
  .object [("channel", .string r.channel),
    ("data", Json.ofBytes r.data)]

end PluginMessage

end SessionSquash
