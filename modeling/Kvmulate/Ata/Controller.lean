import Kvmulate.Ata.Device

/-!
# The ATA controller

The functions of `devices/x86/ata/controller.c` that serve the I/O ports.  The
outcome of the host calls made on the way is the argument `host`.
-/

namespace Kvmulate.Ata

open DeviceLib

/-! ## Reset and the identify block -/

/-- `memset(buffer, 0, 512)` -/
def clearedBlock (buffer : List Uint8) : List Uint8 :=
  List.replicate 512 0 ++ buffer.drop 512

/-- `do_softreset(pCont, pCont->pCurrDev)`; the cleared buffer is not checked
for `NULL`. -/
def doSoftreset (cont : AtaController) : Outcome AtaController := do
  let dev := cont.currDev
  match dev.readBuffer with
  | none => .error .fault
  | some buffer => do
      Outcome.guard (512 ≤ buffer.length)
      let cleared : Regs := fun _ => 0
      let reg :=
        Function.update (Function.update cleared .sectorCount 0x01)
          .sectorNumber 0x01
      let reset :=
        { dev with
          readBuffer := some (clearedBlock buffer)
          reg := Regs.setStatus reg bitStatusDrdy }
      pure (({ cont.setCurrDev reset with
        pCurrDev := .master }).irqSet false)

def devNumSectors (dev : AtaDev) : Uint32 :=
  BitVec.ofNat 32 (dev.backingfile.data.length / 512)

/-- Consecutive words from `index`. -/
def setWords (identify : Vector Uint16 256) (index : Nat) :
    List Uint16 → Vector Uint16 256
  | [] => identify
  | word :: rest =>
      setWords (identify.setIfInBounds index word) (index + 1) rest

/-- `strncpy((char *)&identify[index], text, 2 * words)` -/
def strncpyWords (identify : Vector Uint16 256) (index : Nat)
    (text : List Char) (words : Nat) : Vector Uint16 256 :=
  let bytes : List Uint8 := text.map fun c => BitVec.ofNat 8 c.toNat
  setWords identify index (windowWords bytes 0 words)

/-- Heads of the geometry stored in the identify block. -/
def identifyHeads (sectors : Uint32) : Uint16 :=
  if sectors.toNat ≤ 8257536 then 16
  else if sectors.toNat > 16514064 then 15
  else 16

/-- Sectors per track of that geometry; both branches of the code agree. -/
def identifySectors (sectors : Uint32) : Uint16 :=
  if sectors.toNat > 1032192 then 63 else 63

/-- Cylinders of that geometry, cut to 16 bits. -/
def identifyCylinders (sectors : Uint32) : Uint16 :=
  BitVec.ofNat 16
    (sectors.toNat /
      ((identifyHeads sectors).toNat * (identifySectors sectors).toNat))

/-- Swap the bytes of the `count` words from `index`. -/
def swapWords (identify : Vector Uint16 256) (index : Nat) :
    Nat → Vector Uint16 256
  | 0 => identify
  | count + 1 =>
      let word := identify.toArray.getD index 0
      let swapped :=
        ((word &&& 0xFF) <<< 8) ||| ((word &&& 0xFF00) >>> 8)
      swapWords (identify.setIfInBounds index swapped) (index + 1) count

def buildIdentifyData (dev : AtaDev) : AtaDev :=
  let sectors := devNumSectors dev
  let low := (sectors &&& 0x0000FFFF).setWidth 16
  let high := ((sectors &&& 0xFFFF0000) >>> 16).setWidth 16
  let cleared : Vector Uint16 256 := Vector.replicate 256 0
  let named :=
    strncpyWords
      (strncpyWords
        (strncpyWords
          (cleared.setIfInBounds 0 ((1 <<< 6) ||| (1 <<< 1)))
          10 "Serial Number".toList 10)
        23 "FW".toList 3)
      27 "KVMulate VirtuHD".toList 20
  let sized :=
    ((((((named.setIfInBounds 50 (1 <<< 14)).setIfInBounds 53
      (1 <<< 0)).setIfInBounds 57 low).setIfInBounds 58
        high).setIfInBounds 60 low).setIfInBounds 61 high)
  let geometry :=
    ((sized.setIfInBounds 3 (identifyHeads sectors)).setIfInBounds 6
      (identifySectors sectors)).setIfInBounds 1
        (identifyCylinders sectors)
  { dev with
    backingfile :=
      { dev.backingfile with pos := dev.backingfile.data.length }
    identify := swapWords geometry 27 20 }

/-! ## Commands -/

/-- The LBA of the task file in LBA mode. -/
def lbaAddress (reg : Regs) : Uint32 :=
  ((reg .deviceHead &&& 0xF).setWidth 32 <<< 24) |||
    ((reg .cylinderHigh).setWidth 32 <<< 16) |||
    ((reg .cylinderLow).setWidth 32 <<< 8) |||
    (reg .sectorNumber).setWidth 32

/-- `(reg[REG_DEVICE_HEAD] >> 6) & 1`, the LBA bit. -/
def isLba (reg : Regs) : Bool :=
  (reg .deviceHead >>> 6) &&& 1 = 1

def chsCylinder (reg : Regs) : Uint32 :=
  ((reg .cylinderHigh).setWidth 32 <<< 8) |||
    (reg .cylinderLow).setWidth 32

def chsHead (reg : Regs) : Uint32 :=
  (reg .deviceHead &&& 0xF).setWidth 32

def chsSector (reg : Regs) : Uint32 :=
  (reg .sectorNumber).setWidth 32

/-- The address that `cmd_read_sectors` translates the task file to. -/
def readSectorsLba (reg : Regs) : Uint32 :=
  if isLba reg then lbaAddress reg
  else ((chsCylinder reg * 255 + chsHead reg) * 63) + chsSector reg - 1

/-- `(uint64)lba * 512LL` -/
def sectorOffset (lba : Uint64) : Nat := (lba * 512).toNat

/-- The number of sectors to read, where the count 0 stands for 256. -/
def readSectorsCount (reg : Regs) : Nat :=
  if reg .sectorCount = 0 then 256 else (reg .sectorCount).toNat

def cmdIdentifyPacketDevice (cont : AtaController) :
    Outcome AtaController :=
  if cont.currDev.type ≠ .dvdRom then
    pure ((cont.setReg .error bitErrorAbrt).setReg .status
      (bitStatusErr ||| bitStatusDrdy))
  else .error .abort

def cmdWriteSectors (cont : AtaController) : Outcome AtaController := do
  let dev := cont.currDev
  Outcome.assert (isLba dev.reg = true)
  let count := (dev.reg .sectorCount).toNat
  Outcome.assert (dev.reg .sectorCount ≠ 0)
  let ready :=
    Regs.setStatus (Function.update dev.reg .error 0) bitStatusDrdy
  pure (cont.setCurrDev
    { dev with
      writeBufferOffset := 0
      writeBufferSize := count * 512
      writeBuffer := some (List.replicate (count * 512) 0)
      writeBufferLBA := (lbaAddress dev.reg).setWidth 64
      reg := Regs.setStatus ready (bitStatusDrdy ||| bitStatusDrq) })

def cmdReadSectors (host : HostCalls) (cont : AtaController) :
    AtaController :=
  let dev := cont.currDev
  let lba := readSectorsLba dev.reg
  let size := readSectorsCount dev.reg * 512
  let sought :=
    dev.backingfile.seek host (sectorOffset (lba.setWidth 64))
  let (delivered, file) := sought.read host size
  (cont.setCurrDev
    { dev with
      backingfile := file
      readBufferSize := size
      -- `calloc` clears what the file does not fill.
      readBuffer :=
        some (delivered ++ List.replicate (size - delivered.length) 0)
      readBufferOffset := 0
      reg :=
        Regs.setStatus (Function.update dev.reg .error 0)
          (bitStatusDrdy ||| bitStatusDrq) }).irqSet true

def cmdIdentifyDevice (cont : AtaController) : Outcome AtaController :=
  let dev := cont.currDev
  if dev.type = .dvdRom then doSoftreset cont
  else
    pure (cont.setCurrDev
      { dev with
        readBuffer := some (dev.identify.toList.flatMap wordBytes)
        readBufferOffset := 0
        readBufferSize := 512
        reg :=
          Regs.setStatus (Function.update dev.reg .error 0)
            (bitStatusDrdy ||| bitStatusDrq) })

/-- `cmd_recalibrate` and `cmd_initialize_device_parameters`, which differ in
their log lines only. -/
def acknowledgeCommand (cont : AtaController) : AtaController :=
  let dev := cont.currDev
  (cont.setCurrDev
    { dev with
      reg :=
        Regs.setStatus (Function.update dev.reg .error 0)
          bitStatusDrdy }).irqSet true

def cmdInitializeDeviceParameters (cont : AtaController) :
    AtaController :=
  acknowledgeCommand cont

def cmdRecalibrate (cont : AtaController) : AtaController :=
  acknowledgeCommand cont

def doCommand (host : HostCalls) (cont : AtaController) (cmd : Uint8) :
    Outcome AtaController :=
  let cont := cont.irqSet false
  if cmd = cmdRecalibrateCode then pure (cmdRecalibrate cont)
  else if cmd = cmdWriteSectorsCode then cmdWriteSectors cont
  else if cmd = cmdReadSectorsCode then pure (cmdReadSectors host cont)
  else if cmd = cmdIdentifyDeviceCode then cmdIdentifyDevice cont
  else if cmd = cmdIdentifyPacketDeviceCode then
    cmdIdentifyPacketDevice cont
  else if cmd = cmdInitializeDevParamsCode then
    pure (cmdInitializeDeviceParameters cont)
  else .error .abort

/-! ## Port accesses -/

/-- The selection that bit 4 of a Device/Head byte makes. -/
def selectedBy (val : Uint8) : CurrDev :=
  if (val >>> 4) &&& 1 ≠ 0 then .slave else .master

def pioOutb (host : HostCalls) (cont : AtaController) (address : Uint16)
    (val : Uint8) : Outcome AtaController :=
  if address = portFloppy0 then pure cont
  else if address = portRwDeviceHead then
    pure (({ cont with pCurrDev := selectedBy val }).setReg
      .deviceHead val)
  else if cont.currDev.bIsPresent = false then pure cont
  else if address = portWCommand then
    doCommand host ((cont.setReg .command val).irqSet false) val
  else if address = portWDeviceControl then do
    let cont ←
      if val &&& bitDeviceControlSrst ≠ 0 then doSoftreset cont
      else pure cont
    -- The case falls through to the Features register.
    pure ((cont.setReg .deviceControl val).setReg .features val)
  else if address = portWFeatures then pure (cont.setReg .features val)
  else if address = portRwCylinderHigh then
    pure (cont.setReg .cylinderHigh val)
  else if address = portRwCylinderLow then
    pure (cont.setReg .cylinderLow val)
  else if address = portRwSectorCount then
    pure (cont.setReg .sectorCount val)
  else if address = portRwSectorNumber then
    pure (cont.setReg .sectorNumber val)
  else .error .abort

def pioInb (cont : AtaController) (address : Uint16) :
    Outcome (Uint8 × AtaController) :=
  if address = portFloppy0 then pure (0x00, cont)
  -- `handler->base + address == 0x3F4` with the base `0x1F0`
  else if 0x1F0 + address.toNat = 0x3F4 then pure (0x00, cont)
  else if address = portRwDeviceHead then
    match cont.pCurrDev with
    | .slave => pure (0xB0, cont)
    | .master => pure (0xA0, cont)
  else if cont.currDev.bIsPresent = false then pure (0x00, cont)
  else if address = portRError then pure (cont.currDev.reg .error, cont)
  else if address = portRwSectorCount then
    pure (cont.currDev.reg .sectorCount, cont)
  else if address = portRwSectorNumber then
    pure (cont.currDev.reg .sectorNumber, cont)
  else if address = portRStatus then
    pure (cont.currDev.reg .status, cont.irqSet false)
  else if address = portRAlternateStatus then
    pure (cont.currDev.reg .alternateStatus, cont)
  else .error .abort

/-- A two-byte access at `offset` stays inside an allocated buffer. -/
def insideBuffer (buffer : Option (List Uint8)) (offset : Int) : Prop :=
  buffer.isSome = true ∧ 0 ≤ offset ∧
    offset + 2 ≤ (buffer.getD []).length

instance (buffer : Option (List Uint8)) (offset : Int) :
    Decidable (insideBuffer buffer offset) :=
  inferInstanceAs (Decidable (_ ∧ _ ∧ _))

def pioInw (cont : AtaController) (address : Uint16) :
    Outcome (Uint16 × AtaController) := do
  Outcome.assert (address = 0)
  let dev := cont.currDev
  Outcome.guard (insideBuffer dev.readBuffer dev.readBufferOffset)
  let val :=
    loadWord (dev.readBuffer.getD []) dev.readBufferOffset.toNat
  let offset := dev.readBufferOffset + 2
  let reg :=
    if offset ≥ dev.readBufferSize then
      Regs.setStatus dev.reg bitStatusDrdy
    -- `offset & 0x1FF`, the last word of a block
    else if offset % 512 = 0 then
      Regs.setStatus (Function.update dev.reg .error 0)
        (bitStatusDrdy ||| bitStatusDrq)
    else dev.reg
  pure (val, cont.setCurrDev
    { dev with readBufferOffset := offset, reg := reg })

def pioOutw (host : HostCalls) (cont : AtaController) (address : Uint16)
    (val : Uint16) : Outcome AtaController := do
  Outcome.assert (address = 0)
  let dev := cont.currDev
  Outcome.guard (insideBuffer dev.writeBuffer dev.writeBufferOffset)
  let buffer :=
    storeWord (dev.writeBuffer.getD []) dev.writeBufferOffset.toNat val
  let offset := dev.writeBufferOffset + 2
  let stored :=
    { dev with writeBuffer := some buffer, writeBufferOffset := offset }
  if offset = dev.writeBufferSize then
    let sought :=
      dev.backingfile.seek host (sectorOffset dev.writeBufferLBA)
    let file :=
      sought.write host (buffer.take dev.writeBufferSize.toNat)
    pure ((cont.setCurrDev
      { stored with
        backingfile := file
        reg := Regs.setStatus dev.reg bitStatusDrdy }).irqSet true)
  else pure (cont.setCurrDev stored)

/-! ## Guest accesses -/

/-- An access of the guest to a port of the controller; the address is
relative to the base of the handler. -/
inductive Access where
  | outb (address : Uint16) (val : Uint8)
  | inb (address : Uint16)
  | outw (address : Uint16) (val : Uint16)
  | inw (address : Uint16)
deriving DecidableEq, Repr

inductive Response where
  | none
  | byte (val : Uint8)
  | word (val : Uint16)
deriving DecidableEq, Repr

/-- Serve one access. -/
def access : Call AtaController (HostCalls × Access) Response
  | cont, (host, .outb address val) => do
      pure (.none, ← pioOutb host cont address val)
  | cont, (_, .inb address) => do
      let (val, next) ← pioInb cont address
      pure (.byte val, next)
  | cont, (host, .outw address val) => do
      pure (.none, ← pioOutw host cont address val)
  | cont, (_, .inw address) => do
      let (val, next) ← pioInw cont address
      pure (.word val, next)

/-- The controller that `x86_ata_init` builds over the image `hdd.img`. -/
def x86AtaInit (image : List Uint8) : AtaController where
  master :=
    buildIdentifyData
      { AtaDev.zeroed with
        bIsPresent := true
        type := .disk
        backingfile := ⟨image, 0⟩
        reg := Function.update (fun _ => 0) .status bitStatusDrdy }
  slave := AtaDev.zeroed
  pCurrDev := .master
  irq14 := false

end Kvmulate.Ata
