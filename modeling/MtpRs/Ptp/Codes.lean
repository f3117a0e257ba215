import Mathlib.Algebra.Order.Ring.Nat
import Mathlib.Data.List.Infix

set_option autoImplicit false

/- The operation and response codes of the wire, with the catch-all the source
keeps for vendor codes. -/
namespace Ptp

/-- PTP operation codes (commands sent to device). -/
inductive OperationCode where
  | getDeviceInfo
  | openSession
  | closeSession
  | getStorageIds
  | getStorageInfo
  | getNumObjects
  | getObjectHandles
  | getObjectInfo
  | getObject
  | getThumb
  | deleteObject
  | sendObjectInfo
  | sendObject
  | initiateCapture
  | formatStore
  | resetDevice
  | selfTest
  | setObjectProtection
  | powerDown
  | getDevicePropDesc
  | getDevicePropValue
  | setDevicePropValue
  | resetDevicePropValue
  | terminateOpenCapture
  | moveObject
  | copyObject
  | getPartialObject
  | initiateOpenCapture
  | getObjectPropsSupported
  | getObjectPropDesc
  | getObjectPropValue
  | setObjectPropValue
  | getObjectPropList
  | setObjectPropList
  | getObjectReferences
  | setObjectReferences
  | getPartialObject64
  | unknown (code : UInt16)
deriving DecidableEq, Repr

/-- PTP response codes (status returned by device). -/
inductive ResponseCode where
  | ok
  | generalError
  | sessionNotOpen
  | invalidTransactionId
  | operationNotSupported
  | parameterNotSupported
  | incompleteTransfer
  | invalidStorageId
  | invalidObjectHandle
  | devicePropNotSupported
  | invalidObjectFormatCode
  | storeFull
  | objectWriteProtected
  | storeReadOnly
  | accessDenied
  | noThumbnailPresent
  | deviceBusy
  | invalidParentObject
  | invalidDevicePropFormat
  | invalidDevicePropValue
  | invalidParameter
  | sessionAlreadyOpen
  | transactionCancelled
  | objectTooLarge
  | unknown (code : UInt16)
deriving DecidableEq, Repr

namespace OperationCode

def ofCode (code : UInt16) : OperationCode :=
  match code with
  | 0x1001 => getDeviceInfo
  | 0x1002 => openSession
  | 0x1003 => closeSession
  | 0x1004 => getStorageIds
  | 0x1005 => getStorageInfo
  | 0x1006 => getNumObjects
  | 0x1007 => getObjectHandles
  | 0x1008 => getObjectInfo
  | 0x1009 => getObject
  | 0x100A => getThumb
  | 0x100B => deleteObject
  | 0x100C => sendObjectInfo
  | 0x100D => sendObject
  | 0x100E => initiateCapture
  | 0x100F => formatStore
  | 0x1010 => resetDevice
  | 0x1011 => selfTest
  | 0x1012 => setObjectProtection
  | 0x1013 => powerDown
  | 0x1014 => getDevicePropDesc
  | 0x1015 => getDevicePropValue
  | 0x1016 => setDevicePropValue
  | 0x1017 => resetDevicePropValue
  | 0x1018 => terminateOpenCapture
  | 0x1019 => moveObject
  | 0x101A => copyObject
  | 0x101B => getPartialObject
  | 0x101C => initiateOpenCapture
  | 0x9801 => getObjectPropsSupported
  | 0x9802 => getObjectPropDesc
  | 0x9803 => getObjectPropValue
  | 0x9804 => setObjectPropValue
  | 0x9805 => getObjectPropList
  | 0x9806 => setObjectPropList
  | 0x9810 => getObjectReferences
  | 0x9811 => setObjectReferences
  | 0x95C1 => getPartialObject64
  | code => unknown code

def toCode : OperationCode → UInt16
  | getDeviceInfo => 0x1001
  | openSession => 0x1002
  | closeSession => 0x1003
  | getStorageIds => 0x1004
  | getStorageInfo => 0x1005
  | getNumObjects => 0x1006
  | getObjectHandles => 0x1007
  | getObjectInfo => 0x1008
  | getObject => 0x1009
  | getThumb => 0x100A
  | deleteObject => 0x100B
  | sendObjectInfo => 0x100C
  | sendObject => 0x100D
  | initiateCapture => 0x100E
  | formatStore => 0x100F
  | resetDevice => 0x1010
  | selfTest => 0x1011
  | setObjectProtection => 0x1012
  | powerDown => 0x1013
  | getDevicePropDesc => 0x1014
  | getDevicePropValue => 0x1015
  | setDevicePropValue => 0x1016
  | resetDevicePropValue => 0x1017
  | terminateOpenCapture => 0x1018
  | moveObject => 0x1019
  | copyObject => 0x101A
  | getPartialObject => 0x101B
  | initiateOpenCapture => 0x101C
  | getObjectPropsSupported => 0x9801
  | getObjectPropDesc => 0x9802
  | getObjectPropValue => 0x9803
  | setObjectPropValue => 0x9804
  | getObjectPropList => 0x9805
  | setObjectPropList => 0x9806
  | getObjectReferences => 0x9810
  | setObjectReferences => 0x9811
  | getPartialObject64 => 0x95C1
  | unknown code => code

/-- Reading a code and writing it back gives the same sixteen bits. -/
@[simp] theorem toCode_ofCode (code : UInt16) : (ofCode code).toCode = code := by
  unfold ofCode
  split <;> rfl

end OperationCode

namespace ResponseCode

def ofCode (code : UInt16) : ResponseCode :=
  match code with
  | 0x2001 => ok
  | 0x2002 => generalError
  | 0x2003 => sessionNotOpen
  | 0x2004 => invalidTransactionId
  | 0x2005 => operationNotSupported
  | 0x2006 => parameterNotSupported
  | 0x2007 => incompleteTransfer
  | 0x2008 => invalidStorageId
  | 0x2009 => invalidObjectHandle
  | 0x200A => devicePropNotSupported
  | 0x200B => invalidObjectFormatCode
  | 0x200C => storeFull
  | 0x200D => objectWriteProtected
  | 0x200E => storeReadOnly
  | 0x200F => accessDenied
  | 0x2010 => noThumbnailPresent
  | 0x2019 => deviceBusy
  | 0x201A => invalidParentObject
  | 0x201B => invalidDevicePropFormat
  | 0x201C => invalidDevicePropValue
  | 0x201D => invalidParameter
  | 0x201E => sessionAlreadyOpen
  | 0x201F => transactionCancelled
  | 0xA809 => objectTooLarge
  | code => unknown code

def toCode : ResponseCode → UInt16
  | ok => 0x2001
  | generalError => 0x2002
  | sessionNotOpen => 0x2003
  | invalidTransactionId => 0x2004
  | operationNotSupported => 0x2005
  | parameterNotSupported => 0x2006
  | incompleteTransfer => 0x2007
  | invalidStorageId => 0x2008
  | invalidObjectHandle => 0x2009
  | devicePropNotSupported => 0x200A
  | invalidObjectFormatCode => 0x200B
  | storeFull => 0x200C
  | objectWriteProtected => 0x200D
  | storeReadOnly => 0x200E
  | accessDenied => 0x200F
  | noThumbnailPresent => 0x2010
  | deviceBusy => 0x2019
  | invalidParentObject => 0x201A
  | invalidDevicePropFormat => 0x201B
  | invalidDevicePropValue => 0x201C
  | invalidParameter => 0x201D
  | sessionAlreadyOpen => 0x201E
  | transactionCancelled => 0x201F
  | objectTooLarge => 0xA809
  | unknown code => code

def name : ResponseCode → String
  | .ok => "Ok"
  | .generalError => "GeneralError"
  | .sessionNotOpen => "SessionNotOpen"
  | .invalidTransactionId => "InvalidTransactionId"
  | .operationNotSupported => "OperationNotSupported"
  | .parameterNotSupported => "ParameterNotSupported"
  | .incompleteTransfer => "IncompleteTransfer"
  | .invalidStorageId => "InvalidStorageId"
  | .invalidObjectHandle => "InvalidObjectHandle"
  | .devicePropNotSupported => "DevicePropNotSupported"
  | .invalidObjectFormatCode => "InvalidObjectFormatCode"
  | .storeFull => "StoreFull"
  | .objectWriteProtected => "ObjectWriteProtected"
  | .storeReadOnly => "StoreReadOnly"
  | .accessDenied => "AccessDenied"
  | .noThumbnailPresent => "NoThumbnailPresent"
  | .deviceBusy => "DeviceBusy"
  | .invalidParentObject => "InvalidParentObject"
  | .invalidDevicePropFormat => "InvalidDevicePropFormat"
  | .invalidDevicePropValue => "InvalidDevicePropValue"
  | .invalidParameter => "InvalidParameter"
  | .sessionAlreadyOpen => "SessionAlreadyOpen"
  | .transactionCancelled => "TransactionCancelled"
  | .objectTooLarge => "ObjectTooLarge"
  | .unknown code => "Unknown(" ++ toString code.toNat ++ ")"

/-- Reading a code and writing it back gives the same sixteen bits. -/
@[simp] theorem toCode_ofCode (code : UInt16) : (ofCode code).toCode = code := by
  unfold ofCode
  split <;> rfl

end ResponseCode

inductive EventCode where
  | cancelTransaction
  | objectAdded
  | objectRemoved
  | storeAdded
  | storeRemoved
  | devicePropChanged
  | objectInfoChanged
  | deviceInfoChanged
  | storageInfoChanged
  | captureComplete
  | unknown (code : UInt16)
deriving DecidableEq, Repr

def EventCode.toCode : EventCode → UInt16
  | cancelTransaction => 0x4001
  | objectAdded => 0x4002
  | objectRemoved => 0x4003
  | storeAdded => 0x4004
  | storeRemoved => 0x4005
  | devicePropChanged => 0x4006
  | objectInfoChanged => 0x4007
  | deviceInfoChanged => 0x4008
  | storageInfoChanged => 0x400C
  | captureComplete => 0x400D
  | unknown code => code

namespace EventCode

def ofCode (code : UInt16) : EventCode :=
  match code with
  | 0x4001 => cancelTransaction
  | 0x4002 => objectAdded
  | 0x4003 => objectRemoved
  | 0x4004 => storeAdded
  | 0x4005 => storeRemoved
  | 0x4006 => devicePropChanged
  | 0x4007 => objectInfoChanged
  | 0x4008 => deviceInfoChanged
  | 0x400C => storageInfoChanged
  | 0x400D => captureComplete
  | code => unknown code

@[simp] theorem toCode_ofCode (code : UInt16) : (ofCode code).toCode = code := by
  unfold ofCode
  split <;> rfl

end EventCode

end Ptp
