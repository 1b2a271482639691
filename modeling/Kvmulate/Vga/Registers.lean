import Kvmulate.Vga.Context
import Kvmulate.Lib.Indexed

/-!
# The VGA registers

The port handlers of `devices/x86/vga/registers.c`.  The argument `port` is
the port of the access after `port += hdl->base`.
-/

namespace Kvmulate.Vga

open DeviceLib

def miscOutputWrite (ctx : VgaCtx) (val : Uint8) : Outcome VgaCtx := do
  Outcome.assert (val &&& 1 ≠ 0)
  pure { ctx with miscOutputReg := val }

def sequencerRead (ctx : VgaCtx) : Outcome Uint8 :=
  if ctx.seqNdx = 0x02 then load ctx.seqReg ctx.seqNdx
  else if ctx.seqNdx = 0x04 then load ctx.seqReg ctx.seqNdx
  else if ctx.seqNdx = -1 then pure 0x00
  else .error .abort

def sequencerWrite (ctx : VgaCtx) (val : Uint8) : Outcome VgaCtx :=
  if ctx.seqNdx = 0x04 then
    pure { ctx with seqReg := ctx.seqReg.set 4 val }
  else if ctx.seqNdx = 0x00 then pure ctx
  else if ctx.seqNdx = 0x01 then
    pure { ctx with seqReg := ctx.seqReg.set 1 val }
  else if ctx.seqNdx = 0x02 then
    pure { ctx with seqReg := ctx.seqReg.set 2 (val &&& 0xF) }
  else if ctx.seqNdx = 0x03 then
    pure { ctx with seqReg := ctx.seqReg.set 3 val }
  else if ctx.seqNdx = -1 then pure ctx
  else .error .abort

def paletteWrite (ctx : VgaCtx) (val : Uint8) : Outcome VgaCtx := do
  let pel ← store ctx.pel ctx.pelWriteAddr.toNat val
  pure { ctx with pel := pel, pelWriteAddr := ctx.pelWriteAddr + 1 }

/-- `pVGA->pel[ pVGA->pel_read_addr++ ]` -/
def paletteRead (ctx : VgaCtx) : Outcome (Uint8 × VgaCtx) := do
  let val ← load ctx.pel ctx.pelReadAddr.toNat
  pure (val, { ctx with pelReadAddr := ctx.pelReadAddr + 1 })

def graphicsControllerWrite (ctx : VgaCtx) (val : Uint8) :
    Outcome VgaCtx :=
  if ctx.gcontNdx ≠ -1 then do
    let gcontReg ← store ctx.gcontReg ctx.gcontNdx val
    pure { ctx with gcontReg := gcontReg }
  else pure ctx

def graphicsControllerRead (ctx : VgaCtx) : Outcome Uint8 :=
  if ctx.gcontNdx ≠ -1 then load ctx.gcontReg ctx.gcontNdx
  else pure 0x00

def modeSelectRead (_ : VgaCtx) : Uint8 := 0x00

/-- The comparison of the unsigned index with -1 never holds. -/
def crtcRead (ctx : VgaCtx) : Outcome Uint8 :=
  if (ctx.crtcNdx.toNat : Int) = -1 then pure 0x00
  else load ctx.crtcReg ctx.crtcNdx.toNat

def crtcWrite (ctx : VgaCtx) (val : Uint8) : Outcome VgaCtx := do
  let crtcReg ← store ctx.crtcReg ctx.crtcNdx.toNat val
  pure { ctx with crtcReg := crtcReg }

def attributeRead (ctx : VgaCtx) : Outcome Uint8 :=
  if ctx.attrNdx = 0x10 then load ctx.attrReg ctx.attrNdx.toNat
  else if ctx.attrNdx = 0x14 then load ctx.attrReg ctx.attrNdx.toNat
  else if 0x14 < ctx.attrNdx.toNat then pure 0x00
  else .error .abort

/-- A read that leaves the context as it is. -/
def unchanged (ctx : VgaCtx) (read : Outcome Uint8) :
    Outcome (Uint8 × VgaCtx) := do
  pure (← read, ctx)

def vgaregInb (ctx : VgaCtx) (port : Uint16) :
    Outcome (Uint8 × VgaCtx) :=
  if port = 0x3B4 then pure (ctx.crtcNdx, ctx)
  else if port = 0x3C0 then pure (ctx.attrNdx, ctx)
  else if port = 0x3C1 then unchanged ctx (attributeRead ctx)
  else if port = 0x3C4 then pure (BitVec.ofInt 8 ctx.seqNdx, ctx)
  else if port = 0x3C5 then unchanged ctx (sequencerRead ctx)
  else if port = 0x3C9 then paletteRead ctx
  else if port = 0x3CA then pure (0x00, ctx)
  else if port = 0x3CC then pure (ctx.miscOutputReg, ctx)
  else if port = 0x3CE then pure (BitVec.ofInt 8 ctx.gcontNdx, ctx)
  else if port = 0x3D3 then unchanged ctx (crtcRead ctx)
  else if port = 0x3D5 then unchanged ctx (crtcRead ctx)
  else if port = 0x3D8 then pure (modeSelectRead ctx, ctx)
  else if port = 0x3DA then
    let b := !ctx.retrace
    pure (if b then 0x08 else 0x00, { ctx with retrace := b })
  else if port = 0x3CF then unchanged ctx (graphicsControllerRead ctx)
  else .error .abort

/-- `vgareg_inw`; like `vgareg_inl` it only stops the process. -/
def vgaregInw (_ : VgaCtx) (_ : Uint16) : Outcome (Uint16 × VgaCtx) :=
  .error .abort

def vgaregOutb (ctx : VgaCtx) (port : Uint16) (val : Uint8) :
    Outcome VgaCtx :=
  if port = 0x3C0 then pure { ctx with attrNdx := val }
  else if port = 0x3C2 then miscOutputWrite ctx val
  else if port = 0x3C4 then
    pure { ctx with
      seqNdx := if val.toNat ≤ 0x4 then val.toNat else -1 }
  else if port = 0x3C5 then sequencerWrite ctx val
  else if port = 0x3C6 then do
    Outcome.assert (val = 0xFF)
    pure ctx
  else if port = 0x3C7 then
    pure { ctx with pelReadAddr := val.setWidth 16 * 3 }
  else if port = 0x3C8 then
    pure { ctx with pelWriteAddr := val.setWidth 16 * 3 }
  else if port = 0x3C9 then paletteWrite ctx val
  else if port = 0x3CE then
    pure { ctx with
      gcontNdx := if val.toNat ≤ 8 then val.toNat else -1 }
  else if port = 0x3CF then graphicsControllerWrite ctx val
  else if port = 0x3D4 then do
    Outcome.assert (val.toNat ≤ 0x18)
    pure { ctx with crtcNdx := val }
  else if port = 0x3D5 then crtcWrite ctx val
  else if port = 0x3D8 then pure { ctx with miscOutputReg := val }
  else .error .abort

/-- An index and its data, in one word. -/
def vgaregOutw (ctx : VgaCtx) (port : Uint16) (val : Uint16) :
    Outcome VgaCtx :=
  if port = 0x3C4 ∨ port = 0x3D4 ∨ port = 0x3CE then do
    let next ← vgaregOutb ctx port ((val &&& 0xFF).setWidth 8)
    vgaregOutb next (port + 1) ((val >>> 8).setWidth 8)
  else .error .abort

/-! ## Guest accesses -/

inductive VgaAccess where
  | inb (port : Uint16)
  | outb (port : Uint16) (val : Uint8)
  | inw (port : Uint16)
  | outw (port : Uint16) (val : Uint16)
deriving DecidableEq, Repr

/-- The value that a read delivers. -/
abbrev VgaResponse := Option Uint16

def vgaAccess : Call VgaCtx VgaAccess VgaResponse
  | ctx, .inb port => do
      let (val, next) ← vgaregInb ctx port
      pure (some (val.setWidth 16), next)
  | ctx, .outb port val => do
      pure (none, ← vgaregOutb ctx port val)
  | ctx, .inw port => do
      let (val, next) ← vgaregInw ctx port
      pure (some val, next)
  | ctx, .outw port val => do
      pure (none, ← vgaregOutw ctx port val)

/-! ## What a byte read leaves alone -/

/-- A byte read moves at most the read address of the DAC and the retrace. -/
theorem ensures_vgaregInb (ctx : VgaCtx) (port : Uint16) :
    Outcome.Ensures
      (fun result => result.2 = { ctx with
        pelReadAddr := result.2.pelReadAddr
        retrace := result.2.retrace })
      (vgaregInb ctx port) := by
  have loaded : ∀ read : Outcome Uint8,
      Outcome.Ensures
        (fun result => result.2 = { ctx with
          pelReadAddr := result.2.pelReadAddr
          retrace := result.2.retrace })
        (unchanged ctx read) :=
    fun read => Outcome.ensures_bind fun _ _ => Outcome.ensures_ok rfl
  unfold vgaregInb
  refine Outcome.ensures_ite (Outcome.ensures_ok rfl) ?_
  refine Outcome.ensures_ite (Outcome.ensures_ok rfl) ?_
  refine Outcome.ensures_ite (loaded _) ?_
  refine Outcome.ensures_ite (Outcome.ensures_ok rfl) ?_
  refine Outcome.ensures_ite (loaded _) ?_
  refine Outcome.ensures_ite ?_ ?_
  · exact Outcome.ensures_bind fun _ _ => Outcome.ensures_ok rfl
  refine Outcome.ensures_ite (Outcome.ensures_ok rfl) ?_
  refine Outcome.ensures_ite (Outcome.ensures_ok rfl) ?_
  refine Outcome.ensures_ite (Outcome.ensures_ok rfl) ?_
  refine Outcome.ensures_ite (loaded _) ?_
  refine Outcome.ensures_ite (loaded _) ?_
  refine Outcome.ensures_ite (Outcome.ensures_ok rfl) ?_
  refine Outcome.ensures_ite (Outcome.ensures_ok rfl) ?_
  exact Outcome.ensures_ite (loaded _) Outcome.ensures_error

end Kvmulate.Vga
