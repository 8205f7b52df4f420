import Nrf7002.Protocol

/-! # Data events

The receive, transmit-done and carrier events of the data path, parsed from one
host message.  Every length is checked before a field is read. -/

set_option autoImplicit false

namespace Nrf7002
open Foundation

def rxEventFixedLen : Nat := 20
def rxInfoLen : Nat := 17
def txDoneFixedLen : Nat := 22

inductive DataProtocolError where
  | wrongMessageType
  | invalidLength
  | invalidCommand (command : UInt32)
  | invalidDescriptor (descriptor : UInt16)
  | invalidPacketIndex
  | invalidRxPayloadType (value : UInt8)
  | frameTooShort
  | frameTooLarge
  deriving DecidableEq, Repr

/-- The declared length of a data event of the expected kind. -/
def validatedDataPayload (message : HostMessage) (expected : DataCommand) (minimumLen : Nat) :
    Except DataProtocolError (Bytes × Nat) := do
  if message.messageType ≠ .data then throw .wrongMessageType
  let payload := message.payload
  if payload.length < minimumLen then throw .invalidLength
  let command := readU32 payload 0
  if command ≠ expected.number then throw (.invalidCommand command)
  let declared := (readU32 payload 4).toNat
  if declared < minimumLen ∨ payload.length < declared then throw .invalidLength
  return (payload, declared)

/-! ## Receive events -/

inductive RxPayloadType where
  | mpdu
  | msduWithMac
  | msdu
  deriving DecidableEq, Repr

def RxPayloadType.fromU8 (value : UInt8) : Except DataProtocolError RxPayloadType :=
  if value = 0 then .ok mpdu
  else if value = 1 then .ok msduWithMac
  else if value = 2 then .ok msdu
  else .error (.invalidRxPayloadType value)

structure RxPacketInfo where
  descriptorId : UInt16
  packetLen : UInt16
  payloadType : RxPayloadType
  deriving DecidableEq

structure RxEvent where
  payload : Bytes
  rxPacketType : Int16
  rateFlags : UInt8
  rate : UInt8
  wdevId : UInt8
  packetCount : UInt8
  macHeaderLen : UInt8
  frequencyMhz : UInt16
  signalDbm : Int16
  deriving DecidableEq

def validateRxPacketArray (declared : Nat) (packetCount : UInt8) :
    Except DataProtocolError Unit :=
  if declared < rxEventFixedLen + packetCount.toNat * rxInfoLen then .error .invalidLength
  else .ok ()

namespace RxEvent

def parse (message : HostMessage) : Except DataProtocolError RxEvent := do
  let (payload, declared) ← validatedDataPayload message .receiveBuffer rxEventFixedLen
  let packetCount := byteAt payload 13
  validateRxPacketArray declared packetCount
  return {
    payload := payload.take declared
    rxPacketType := (readU16 payload 8).toInt16
    rateFlags := byteAt payload 10
    rate := byteAt payload 11
    wdevId := byteAt payload 12
    packetCount
    macHeaderLen := byteAt payload 15
    frequencyMhz := readU16 payload 16
    signalDbm := (readU16 payload 18).toInt16 }

/-- The descriptor that a packet of the event names. -/
def descriptorAt (event : RxEvent) (index : Nat) : UInt16 :=
  readU16 event.payload (rxEventFixedLen + index * rxInfoLen)

def payloadTypeAt (event : RxEvent) (index : Nat) : UInt8 :=
  byteAt event.payload (rxEventFixedLen + index * rxInfoLen + 4)

def packet (event : RxEvent) (index : Nat) : Except DataProtocolError RxPacketInfo := do
  if event.packetCount.toNat ≤ index then throw .invalidPacketIndex
  let offset := rxEventFixedLen + index * rxInfoLen
  let payloadType ← RxPayloadType.fromU8 (byteAt event.payload (offset + 4))
  return {
    descriptorId := readU16 event.payload offset
    packetLen := readU16 event.payload (offset + 2)
    payloadType }

end RxEvent

/-! ## Transmit-done events -/

structure TxDoneEvent where
  token : UInt8
  statuses : Bytes
  deriving DecidableEq

namespace TxDoneEvent

def parse (message : HostMessage) : Except DataProtocolError TxDoneEvent := do
  let (payload, declared) ← validatedDataPayload message .transmitDone txDoneFixedLen
  let required := txDoneFixedLen + (byteAt payload 9).toNat
  if declared ≠ required then throw .invalidLength
  return { token := byteAt payload 8, statuses := slice payload txDoneFixedLen required }

def allSucceeded (event : TxDoneEvent) : Bool :=
  !event.statuses.isEmpty && event.statuses.all (· = 0)

end TxDoneEvent

/-! ## Classification -/

inductive DataEvent where
  | transmitDone (token statusCount : UInt8)
  | carrierOn (wdevId : UInt32)
  | carrierOff (wdevId : UInt32)
  | receive
  | other (command : UInt32)
  deriving DecidableEq

def classifyTransmitDone (message : HostMessage) : Except DataProtocolError DataEvent := do
  let event ← TxDoneEvent.parse message
  return .transmitDone event.token (UInt8.ofNat event.statuses.length)

def classifyCarrier (payload : Bytes) (declared : Nat) (on : Bool) :
    Except DataProtocolError DataEvent :=
  if declared < 12 then .error .invalidLength
  else if on then .ok (.carrierOn (readU32 payload 8))
  else .ok (.carrierOff (readU32 payload 8))

def classifyDataCommand (message : HostMessage) (command : UInt32) (declared : Nat) :
    Except DataProtocolError DataEvent :=
  if command = 2 then classifyTransmitDone message
  else if command = 3 then .ok .receive
  else if command = 4 then classifyCarrier message.payload declared true
  else if command = 5 then classifyCarrier message.payload declared false
  else .ok (.other command)

def classifyDataEvent (message : HostMessage) : Except DataProtocolError DataEvent := do
  if message.messageType ≠ .data then throw .wrongMessageType
  if message.payload.length < 8 then throw .invalidLength
  let command := readU32 message.payload 0
  let declared := (readU32 message.payload 4).toNat
  if declared < 8 ∨ message.payload.length < declared then throw .invalidLength
  classifyDataCommand message command declared

end Nrf7002
