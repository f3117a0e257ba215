import MtpRs.Mtp.Objects
import MtpRs.Ptp.Strings

set_option autoImplicit false

/- Object datasets and codes as bytes. -/
namespace Ptp

def AssociationType.ofCode (code : UInt16) : AssociationType :=
  match code with
  | 0 => regular
  | 1 => genericFolder
  | code => unknown code

def ObjectPropertyCode.ofCode (code : UInt16) : ObjectPropertyCode :=
  match code with
  | 0xDC01 => storageId
  | 0xDC02 => objectFormat
  | 0xDC03 => protectionStatus
  | 0xDC04 => objectSize
  | 0xDC07 => objectFileName
  | 0xDC08 => dateCreated
  | 0xDC09 => dateModified
  | 0xDC0B => parentObject
  | 0xDC44 => name
  | code => unknown code

/-- The format a file name's extension stands for, in any case. -/
def ObjectFormatCode.fromExtension (ext : String) : ObjectFormatCode :=
  match String.ofList (ext.toList.map Char.toLower) with
  | "txt" => text
  | "html" | "htm" => html
  | "dpof" => dpof
  | "aiff" | "aif" => aiff
  | "wav" => wav
  | "mp3" => mp3
  | "wma" => wmaAudio
  | "ogg" | "oga" => oggAudio
  | "aac" => aacAudio
  | "flac" => flacAudio
  | "m4a" => m4aAudio
  | "avi" => avi
  | "mpg" | "mpeg" => mpeg
  | "asf" => asf
  | "wmv" => wmvVideo
  | "mp4" | "m4v" => mp4Container
  | "jpg" | "jpeg" => jpeg
  | "tif" | "tiff" => tiff
  | "gif" => gif
  | "bmp" => bmp
  | "pict" | "pct" => pict
  | "png" => png
  | "exe" | "dll" | "bin" => executable
  | "sh" | "bat" | "cmd" | "ps1" => script
  | _ => undefined

def unpackDatetime (buf : Bytes) : Except PtpError (Option DateTime × Nat) := do
  let (s, consumed) ← unpackString buf
  return (DateTime.parse s, consumed)

/-- `ObjectInfo::from_bytes`. Fields no one reads are checked to be there. -/
def ObjectDataset.fromBytes (buf : Bytes) : Except PtpError ObjectDataset := do
  let storageId ← unpackU32 buf
  let format ← unpackU16 (buf.drop 4)
  let protectionStatus ← unpackU16 (buf.drop 6)
  let size ← unpackU32 (buf.drop 8)
  let _thumbFormat ← unpackU16 (buf.drop 12)
  let _thumbSize ← unpackU32 (buf.drop 14)
  let _thumbWidth ← unpackU32 (buf.drop 18)
  let _thumbHeight ← unpackU32 (buf.drop 22)
  let imageWidth ← unpackU32 (buf.drop 26)
  let imageHeight ← unpackU32 (buf.drop 30)
  let _imageBitDepth ← unpackU32 (buf.drop 34)
  let parent ← unpackU32 (buf.drop 38)
  let associationType ← unpackU16 (buf.drop 42)
  let _associationDesc ← unpackU32 (buf.drop 44)
  let _sequenceNumber ← unpackU32 (buf.drop 48)
  let (filename, consumed) ← unpackString (buf.drop 52)
  let afterName := buf.drop (52 + consumed)
  let (created, consumed) ← unpackDatetime afterName
  let afterCreated := afterName.drop consumed
  let (modified, consumed) ← unpackDatetime afterCreated
  let _keywords ← unpackString (afterCreated.drop consumed)
  return {
    handle := 0
    size := size.toNat
    storageId
    format := .ofCode format
    protectionStatus := .ofCode protectionStatus
    imageWidth
    imageHeight
    parent
    associationType := .ofCode associationType
    filename
    created
    modified }

end Ptp
