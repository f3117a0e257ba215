import Mathlib.Data.Nat.Find
import MtpRs.Mtp.WholeFile

set_option autoImplicit false

/- Exactly which paced downloads are downloads in windows. A device may end each
window behind its first byte, so any offset of the range can come to start one. -/
namespace Mtp

open Ptp (Bytes)

open DownloadEvent (bytes Stopped)

namespace Reader

variable {ρ : Type} (rates : Rates ρ) (backend : Backend) (object : Bytes)

/-- A download between two windows, at an offset. -/
structure Stands (started : FileDownload ρ) (offset : Nat) (download : FileDownload ρ) : Prop where
  unfinished : download.done = false
  between : download.current = none
  paced : download.pacer.heldOpen = false
  offset : download.offset = offset
  bounds : download.bounds = started.bounds

variable {started download : FileDownload ρ} {offset : Nat}

end Reader

section Started

variable {ρ : Type} (rates : Rates ρ) {backend : Backend} {handle : UInt32} {size : Nat}
  {range : ByteRange} {pacing : DownloadPacing} {download : FileDownload ρ} {object : Bytes}

end Started

end Mtp
