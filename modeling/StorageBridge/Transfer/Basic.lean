import StorageBridge.Byte

/-!
Transfers of the DMA engine: the flags that ask for one, the values programmed for one, and the
table of secondary buffers.
-/

set_option autoImplicit false

namespace StorageBridge

structure TransferFlags where
  bits : Byte
deriving DecidableEq, Repr

namespace TransferFlags

-- Take the buffer base that the firmware holds as the address.
def mirrorPrimary : Byte := 0x02

-- As `mirrorPrimary`; in normal mode it can also mark the engine status.
def mirrorSecondary : Byte := 0x04

def extended : Byte := 0x10

def known : Byte := mirrorPrimary ||| mirrorSecondary ||| extended

-- Drops the bits without a meaning.
def ofByte (raw : Byte) : TransferFlags :=
  ⟨raw &&& known⟩

-- Refuses a byte with a bit that has no meaning.
def ofByte? (raw : Byte) : Option TransferFlags :=
  if raw &&& ~~~known = 0 then some ⟨raw⟩ else none

def isMirrored (flags : TransferFlags) : Bool :=
  flags.bits.meets (mirrorPrimary ||| mirrorSecondary)

def isSecondary (flags : TransferFlags) : Bool :=
  flags.bits.meets mirrorSecondary

def isExtended (flags : TransferFlags) : Bool :=
  flags.bits.meets extended

def withExtended (flags : TransferFlags) : TransferFlags :=
  ⟨flags.bits ||| extended⟩

def withoutExtended (flags : TransferFlags) : TransferFlags :=
  ⟨flags.bits &&& ~~~extended⟩

end TransferFlags

structure Transfer where
  -- The address in both address pairs.
  base : Address
  -- The extended length, 0 in normal mode.
  length : Byte
  mode : Byte
  bufferMode : Byte
deriving DecidableEq, Repr

structure SecondaryBuffer where
  low : Byte
  high : Byte
  offset : Byte
deriving DecidableEq, Repr

def SecondaryBuffer.ofStatus (status : Byte) : SecondaryBuffer :=
  match status &&& 3 with
  | 0 => { low := 0x00, high := 0x84, offset := 0x00 }
  | 1 => { low := 0x00, high := 0x86, offset := 0x10 }
  | 2 => { low := 0x00, high := 0xA4, offset := 0x20 }
  | _ => { low := 0x00, high := 0xA6, offset := 0x30 }

end StorageBridge
