/-
# The OSPI firmware interface

`ulOspiWrite`, `ulOspiRead` and `ulValidateAddressRange` of `fw_if_ospi_amc.c`, down to the calls of
the flash driver.
-/
import Mathlib

namespace Amr.Ospi

inductive FW_IF_OSPI_STATE
  | INIT
  | OPENED
  | CLOSED
  | ERROR
  deriving DecidableEq, Repr

inductive FW_IF_ERRORS
  | NONE
  | PARAMS
  | INVALID_STATE
  | DRIVER_FAILURE
  | DRIVER_INVALID_ADDRESS
  deriving DecidableEq, Repr

structure FWIfOspiCfg where
  ulBaseAddress : UInt32
  ulLength : UInt32
  ucEraseBeforeWriteFlag : Bool
  xState : FW_IF_OSPI_STATE

inductive DriverFunction
  | iOSPI_FlashErase
  | iOSPI_FlashWrite
  | iOSPI_FlashRead
  deriving DecidableEq, Repr

/-- A call of the driver: the function, the address and the length. -/
structure DriverCall where
  function : DriverFunction
  ulAddr : UInt32
  ulLength : UInt32
  deriving DecidableEq, Repr

/-- The sum of the offset and the length is one of 32 bits. -/
def ulValidateAddressRange (cfg : FWIfOspiCfg) (ulAddrOffset ulLength : UInt32) : FW_IF_ERRORS :=
  if ulAddrOffset + ulLength ≤ cfg.ulLength then .NONE else .DRIVER_INVALID_ADDRESS

/-- The status, and the calls that were made; `erased` and `written` say how these go. -/
def ulOspiWrite (cfg : FWIfOspiCfg) (ullAddrOffset : UInt64) (pucData : Bool) (ulLength : UInt32)
    (erased written : Bool) : FW_IF_ERRORS × List DriverCall :=
  let ulAddrOffset := ullAddrOffset.toUInt32
  if pucData then
    if cfg.xState = .OPENED then
      let ulAddr := cfg.ulBaseAddress + ulAddrOffset
      let xRet := ulValidateAddressRange cfg ulAddrOffset ulLength
      if xRet = .NONE then
        let write := [⟨.iOSPI_FlashWrite, ulAddr, ulLength⟩]
        if cfg.ucEraseBeforeWriteFlag then
          if erased then
            (if written then .NONE else .DRIVER_FAILURE,
              ⟨.iOSPI_FlashErase, ulAddr, ulLength⟩ :: write)
          else (.DRIVER_FAILURE, [⟨.iOSPI_FlashErase, ulAddr, ulLength⟩])
        else (if written then .NONE else .DRIVER_FAILURE, write)
      else (xRet, [])
    else (.INVALID_STATE, [])
  else (.PARAMS, [])

def ulOspiRead (cfg : FWIfOspiCfg) (ullAddrOffset : UInt64) (pucData : Bool)
    (pulLength : Option UInt32) (done : Bool) : FW_IF_ERRORS × List DriverCall :=
  let ulAddrOffset := ullAddrOffset.toUInt32
  match pucData, pulLength with
  | true, some ulLength =>
    if cfg.xState = .OPENED then
      let ulAddr := cfg.ulBaseAddress + ulAddrOffset
      let xRet := ulValidateAddressRange cfg ulAddrOffset ulLength
      if xRet = .NONE then
        (if done then .NONE else .DRIVER_FAILURE, [⟨.iOSPI_FlashRead, ulAddr, ulLength⟩])
      else (xRet, [])
    else (.INVALID_STATE, [])
  | _, _ => (.PARAMS, [])

end Amr.Ospi
