import Mathlib.Tactic.Ring
import MoxaDrivers.Lib.Transfer
import MoxaDrivers.Mxu11x0.SetTermios
import MoxaDrivers.Mxu11x0.WaitUntilSent

/-!
# Downloading the firmware

`mxu1_download_firmware` copies the image into a buffer that it pads with `0xff`,
puts a header of its own over that of the image, and sends the buffer in bulk
messages of 64 bytes, of which the device may take less.
-/

namespace MoxaDrivers.Mxu11x0

open MoxaDrivers.Transfer MoxaDrivers.Mxser

/-! ## The function -/

def mxu1FirmwareBufSize : Nat := 16284
def mxu1DownloadMaxPacketSize : Nat := 64

/-- `sizeof(struct mxu1_firmware_header)`: `wLength`, little-endian, and
`bCheckSum`. -/
def firmwareHeaderSize : Nat := 3

/-- `buffer_size`. -/
def bufferSize : Nat := mxu1FirmwareBufSize + firmwareHeaderSize

inductive FirmwareFault where
  /-- `memcpy` writes behind the buffer. -/
  | overrun (size : Nat)
  deriving DecidableEq, Repr

/-- `cs`, after its loop. -/
def checkSum (buffer : List Byte) : Byte :=
  (buffer.drop firmwareHeaderSize).foldl (fun cs b => cs + b) 0

/-- The header is written over the start of the buffer. -/
def setHeader (buffer : List Byte) (wLength : Half) (bCheckSum : Byte) : List Byte :=
  ((buffer.set 0 (wLength.setWidth 8)).set 1 ((wLength >>> 8).setWidth 8)).set 2 bCheckSum

/-- The buffer that is sent. -/
def firmwareBuffer (firmware : List Byte) : List Byte :=
  let buffer := firmware ++ List.replicate (bufferSize - firmware.length) 0xff
  setHeader buffer (BitVec.ofNat 16 (bufferSize - firmwareHeaderSize)) (checkSum buffer)

/-- `mxu1_download_firmware`: the messages, and what it returns. `bulkMsg` is
`usb_bulk_msg`, with what it puts into `done`. -/
def mxu1DownloadFirmware (fuel : Nat) (alloc : Bool) (firmware : List Byte)
    (bulkMsg : Nat → Nat → Reply) : Except FirmwareFault (Option (Result Byte)) :=
  if !alloc then .ok (some ⟨[], -enomem⟩)
  else if bufferSize < firmware.length then .error (.overrun firmware.length)
  else .ok (sendFrom mxu1DownloadMaxPacketSize (firmwareBuffer firmware) bulkMsg fuel 0 0)

/-! ## What the device is to get -/

/-- The payload of an image, padded. -/
def paddedPayload (firmware : List Byte) : List Byte :=
  firmware.drop firmwareHeaderSize ++ List.replicate (bufferSize - firmware.length) 0xff

/-- The header of a payload: its length, low byte first, and its sum modulo 256. -/
def firmwareHeader (payload : List Byte) : List Byte :=
  [BitVec.ofNat 8 payload.length, BitVec.ofNat 8 (payload.length / 256),
    BitVec.ofNat 8 (payload.map BitVec.toNat).sum]

theorem foldl_add_eq (bs : List Byte) (cs : Byte) :
    bs.foldl (fun cs b => cs + b) cs = cs + BitVec.ofNat 8 (bs.map BitVec.toNat).sum := by
  induction bs generalizing cs with
  | nil => exact (BitVec.add_zero cs).symm
  | cons b bs ih =>
      rw [List.foldl_cons, ih, List.map_cons, List.sum_cons, BitVec.ofNat_add, BitVec.ofNat_toNat,
        BitVec.setWidth_eq, BitVec.add_assoc]

theorem checkSum_eq (buffer : List Byte) :
    checkSum buffer =
      BitVec.ofNat 8 ((buffer.drop firmwareHeaderSize).map BitVec.toNat).sum := by
  rw [checkSum, foldl_add_eq]
  exact BitVec.zero_add _

theorem setHeader_eq {buffer : List Byte} (h : firmwareHeaderSize ≤ buffer.length)
    (wLength : Half) (bCheckSum : Byte) :
    setHeader buffer wLength bCheckSum =
      [wLength.setWidth 8, (wLength >>> 8).setWidth 8, bCheckSum] ++
        buffer.drop firmwareHeaderSize := by
  match buffer, h with
  | _ :: _ :: _ :: rest, _ => rfl

theorem paddedPayload_length {firmware : List Byte} (hlow : firmwareHeaderSize ≤ firmware.length)
    (hhigh : firmware.length ≤ bufferSize) :
    (paddedPayload firmware).length = mxu1FirmwareBufSize := by
  have hsize : bufferSize = mxu1FirmwareBufSize + firmwareHeaderSize := rfl
  rw [paddedPayload, List.length_append, List.length_drop, List.length_replicate]
  omega

/-- The buffer is the header of the padded payload, and that payload. -/
theorem firmwareBuffer_eq {firmware : List Byte} (hlow : firmwareHeaderSize ≤ firmware.length)
    (hhigh : firmware.length ≤ bufferSize) :
    firmwareBuffer firmware = firmwareHeader (paddedPayload firmware) ++ paddedPayload firmware := by
  have hdrop : (firmware ++ List.replicate (bufferSize - firmware.length) (0xff : Byte)).drop
      firmwareHeaderSize = paddedPayload firmware :=
    List.drop_append_of_le_length hlow
  have hlen : firmwareHeaderSize ≤
      (firmware ++ List.replicate (bufferSize - firmware.length) (0xff : Byte)).length := by
    rw [List.length_append]
    omega
  rw [firmwareBuffer, setHeader_eq hlen, checkSum_eq, hdrop, firmwareHeader,
    paddedPayload_length hlow hhigh]
  rfl

/-! ## The download -/

end MoxaDrivers.Mxu11x0
