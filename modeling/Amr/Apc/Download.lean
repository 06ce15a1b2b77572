/-
# Downloads of images

The state that `iDownloadImage` and `iVerifyDownload` of
`fw/AMC/src/proxy_drivers/apc/apc_proxy_driver.c` run over, and the offset of a packet. Addresses in
flash are `uint32_t` and wrap. A read that fails in a verification is tried again without end, so
that a verification may be still under way.
-/
import Amr.Apc.Proxy

namespace Amr.Apc

open ByteStore

def APC_BASE_PACKET_SIZE : UInt32 := 1024

def APC_COPY_CHUNK_LEN : UInt32 := 0x1000

/-- The private data, RAM, and the contents that the devices went through. -/
structure Bench where
  data : Data
  ram : Store
  seen : List (APC_BOOT_DEVICES × Store)

inductive Status
  | OK
  | ERROR
  | running
  deriving DecidableEq, Repr

namespace Bench

def packetOffset (x : APCMboxDownloadImage) : UInt32 :=
  x.usPacketNum.toUInt32 * (x.ulPacketSize * APC_BASE_PACKET_SIZE)

end Bench

end Amr.Apc
