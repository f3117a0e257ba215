import MtpRs.Mtp.ObjectBytes
import MtpRs.Ptp.Fields

set_option autoImplicit false

/- Property values and property lists as bytes. -/
namespace Ptp

open Readers (Delimited Reader Writes field many)

def ObjectPropertyCode.toCode : ObjectPropertyCode → UInt16
  | storageId => 0xDC01
  | objectFormat => 0xDC02
  | protectionStatus => 0xDC03
  | objectSize => 0xDC04
  | objectFileName => 0xDC07
  | dateCreated => 0xDC08
  | dateModified => 0xDC09
  | parentObject => 0xDC0B
  | name => 0xDC44
  | unknown code => code

/-- `{:?}`. -/
def ObjectPropertyCode.debug : ObjectPropertyCode → String
  | storageId => "StorageId"
  | objectFormat => "ObjectFormat"
  | protectionStatus => "ProtectionStatus"
  | objectSize => "ObjectSize"
  | objectFileName => "ObjectFileName"
  | dateCreated => "DateCreated"
  | dateModified => "DateModified"
  | parentObject => "ParentObject"
  | name => "Name"
  | unknown code => "Unknown(" ++ toString code.toNat ++ ")"

inductive PropertyDataType where
  | undefined
  | int8
  | uint8
  | int16
  | uint16
  | int32
  | uint32
  | int64
  | uint64
  | int128
  | uint128
  | unknown (code : UInt16)
  | string
deriving DecidableEq, Repr

namespace PropertyDataType

def ofCode (code : UInt16) : PropertyDataType :=
  match code with
  | 0x0000 => undefined
  | 0x0001 => int8
  | 0x0002 => uint8
  | 0x0003 => int16
  | 0x0004 => uint16
  | 0x0005 => int32
  | 0x0006 => uint32
  | 0x0007 => int64
  | 0x0008 => uint64
  | 0x0009 => int128
  | 0x000A => uint128
  | 0xFFFF => string
  | code => unknown code

def toCode : PropertyDataType → UInt16
  | undefined => 0x0000
  | int8 => 0x0001
  | uint8 => 0x0002
  | int16 => 0x0003
  | uint16 => 0x0004
  | int32 => 0x0005
  | uint32 => 0x0006
  | int64 => 0x0007
  | uint64 => 0x0008
  | int128 => 0x0009
  | uint128 => 0x000A
  | unknown code => code
  | string => 0xFFFF

def byteSize : PropertyDataType → Option Nat
  | int8 | uint8 => some 1
  | int16 | uint16 => some 2
  | int32 | uint32 => some 4
  | int64 | uint64 => some 8
  | int128 | uint128 => some 16
  | string | undefined | unknown _ => none

/-- `{:?}`. -/
def debug : PropertyDataType → String
  | undefined => "Undefined"
  | int8 => "Int8"
  | uint8 => "Uint8"
  | int16 => "Int16"
  | uint16 => "Uint16"
  | int32 => "Int32"
  | uint32 => "Uint32"
  | int64 => "Int64"
  | uint64 => "Uint64"
  | int128 => "Int128"
  | uint128 => "Uint128"
  | unknown code => "Unknown(" ++ toString code.toNat ++ ")"
  | string => "String"

end PropertyDataType

namespace PropertyValue

def dataType : PropertyValue → PropertyDataType
  | int8 _ => .int8
  | uint8 _ => .uint8
  | int16 _ => .int16
  | uint16 _ => .uint16
  | int32 _ => .int32
  | uint32 _ => .uint32
  | int64 _ => .int64
  | uint64 _ => .uint64
  | string _ => .string

def toBytes : PropertyValue → Except PtpError Bytes
  | int8 value => .ok (packI8 value)
  | uint8 value => .ok (packU8 value)
  | int16 value => .ok (packI16 value)
  | uint16 value => .ok (packU16 value)
  | int32 value => .ok (packI32 value)
  | uint32 value => .ok (packU32 value)
  | int64 value => .ok (packI64 value)
  | uint64 value => .ok (packU64 value)
  | string value => packString value

def fromBytes (dataType : PropertyDataType) : Reader UInt8 PtpError PropertyValue :=
  match dataType with
  | .int8 => do return int8 (← field 1 unpackI8)
  | .uint8 => do return uint8 (← field 1 unpackU8)
  | .int16 => do return int16 (← field 2 unpackI16)
  | .uint16 => do return uint16 (← field 2 unpackU16)
  | .int32 => do return int32 (← field 4 unpackI32)
  | .uint32 => do return uint32 (← field 4 unpackU32)
  | .int64 => do return int64 (← field 8 unpackI64)
  | .uint64 => do return uint64 (← field 8 unpackU64)
  | .string => do return string (← (unpackString : Reader UInt8 PtpError String))
  | dataType =>
      Readers.refuse (.invalidData ("unsupported property data type: " ++ dataType.debug))

theorem writes {value : PropertyValue} {bytes : Bytes} (packed : value.toBytes = .ok bytes)
    (free : ∀ s, value = string s → '\x00' ∉ s.toList) :
    Writes (fromBytes value.dataType) bytes value := by
  rw [← List.append_nil bytes]
  cases value with
  | int8 value =>
      cases packed
      exact (writes_i8 value).bind (.pure _)
  | uint8 value =>
      cases packed
      exact (writes_u8 value).bind (.pure _)
  | int16 value =>
      cases packed
      exact (writes_i16 value).bind (.pure _)
  | uint16 value =>
      cases packed
      exact (writes_u16 value).bind (.pure _)
  | int32 value =>
      cases packed
      exact (writes_i32 value).bind (.pure _)
  | uint32 value =>
      cases packed
      exact (writes_u32 value).bind (.pure _)
  | int64 value =>
      cases packed
      exact (writes_i64 value).bind (.pure _)
  | uint64 value =>
      cases packed
      exact (writes_u64 value).bind (.pure _)
  | string s =>
      have whole : Writes unpackString bytes s := by
        intro rest
        rw [unpackString_packString packed, receivedText_eq_iff.mpr (free s rfl)]
      exact whole.bind (.pure _)

theorem delimited (dataType : PropertyDataType) : Delimited (fromBytes dataType) := by
  cases dataType with
  | int8 => exact delimited_i8.bind fun _ => .pure _
  | uint8 => exact delimited_u8.bind fun _ => .pure _
  | int16 => exact delimited_i16.bind fun _ => .pure _
  | uint16 => exact delimited_u16.bind fun _ => .pure _
  | int32 => exact delimited_i32.bind fun _ => .pure _
  | uint32 => exact delimited_u32.bind fun _ => .pure _
  | int64 => exact delimited_i64.bind fun _ => .pure _
  | uint64 => exact delimited_u64.bind fun _ => .pure _
  | string => exact delimited_string.bind fun _ => .pure _
  | undefined | int128 | uint128 | unknown code => exact .refuse _

end PropertyValue

/-- An element as the parser gives it, with the data type the device declared. -/
structure DecodedElement extends ObjectPropListElement where
  dataType : PropertyDataType
deriving DecidableEq

namespace ObjectPropListElement

variable (usizeBits : Nat)

/-- What a value is decoded to, and the bytes to step over for it. -/
def decodeValue (typeCode : UInt16) (rest : Bytes) :
    Except PtpError (Option PropertyValue × Nat) :=
  if 0x4001 ≤ typeCode ∧ typeCode ≤ 0x400A then
    match (PropertyDataType.ofCode (typeCode &&& 0x00FF)).byteSize with
    | none => .error (.invalidData
        ("unsupported array type 0x" ++ String.ofList (Nat.toDigits 16 typeCode.toNat)))
    | some size => do
        let count ← unpackU32 rest
        if count.toNat * size + 4 < 2 ^ usizeBits then .ok (none, count.toNat * size + 4)
        else .error (.invalidData "array property too long")
  else
    match PropertyDataType.ofCode typeCode with
    | .int128 | .uint128 => .ok (none, 16)
    | .undefined => .ok (none, 0)
    | dataType => (PropertyValue.fromBytes dataType rest).map fun result =>
        (some result.1, result.2)

def readValue (typeCode : UInt16) (property : ObjectPropertyCode) :
    Reader UInt8 PtpError (Option PropertyValue) := fun rest => do
  let (value, consumed) ← decodeValue usizeBits typeCode rest
  if rest.length < consumed then
    .error (.invalidData ("truncated " ++ (PropertyDataType.ofCode typeCode).debug ++
      " property " ++ property.debug))
  else .ok (value, consumed)

def readElement : Reader UInt8 PtpError DecodedElement := do
  let handle ← field 4 unpackU32
  let property ← field 2 unpackU16
  let typeCode ← field 2 unpackU16
  let value ← readValue usizeBits typeCode (.ofCode property)
  return ⟨⟨handle, .ofCode property, value⟩, .ofCode typeCode⟩

def readList : Reader UInt8 PtpError (List DecodedElement) := do
  let count ← field 4 unpackU32
  many (readElement usizeBits) count.toNat

def listFromBytes (buf : Bytes) : Except PtpError (List DecodedElement) :=
  (readList usizeBits buf).map Prod.fst

end ObjectPropListElement

end Ptp
