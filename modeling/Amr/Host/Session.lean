/-
# Setting up and tearing down an AMC session

`setup_amc`, `unset_amc` and `release_amc_mem` of `ami_amc_control.c` with `map_amc_endpoints`, and
`amc_proxy_init`, `amc_proxy_bind_callback` and `amc_proxy_close` of `amc_proxy.c`. A session is
named by its control context; the proxy entries of all sessions are on one list, and found there by
the queue handle that the context holds. The resources of all sessions are in one book.

A thread that is stopped before it has run returns `-EINTR` to `kthread_stop` and never runs. The
commands that are drained before the response thread is stopped are left out.
-/
import Amr.Lib.Holdings

namespace Amr.Host.Session

open Holdings

/-! ### Resources and outcomes -/

inductive Kind where
  | ctxt
  | region (bar : ℕ)
  | mapping
  | service
  | gcq
  | entry
  | proxy_thread
  | logging_thread
  | version_buf
  | heartbeat_thread
  deriving DecidableEq, Repr

/-- Those of a session that use a resource while they are there. -/
def Kind.users : Kind → List Kind
  | .ctxt => [.gcq, .proxy_thread, .logging_thread, .heartbeat_thread]
  | .region _ => [.mapping]
  | .mapping => [.gcq, .proxy_thread, .logging_thread, .heartbeat_thread]
  | .gcq => [.proxy_thread, .heartbeat_thread]
  | .entry => [.proxy_thread, .heartbeat_thread]
  | _ => []

/-- What each step comes to; `true` is success, and for a thread that it was created. -/
structure Outcomes where
  ctxt : Bool
  /-- The PCI device has its driver data. -/
  drvdata : Bool
  /-- The BAR of the endpoint. -/
  bar_num : ℕ
  /-- The region of the BAR is marked as requested before. -/
  requested : Bool
  region : Bool
  iomap : Bool
  device_ready : Bool
  gcq_open : Bool
  entry : Bool
  proxy_thread : Bool
  logging_thread : Bool
  version_buf : Bool
  get_version : Bool
  gcq_supported : Bool
  amc_supported : Bool
  heartbeat_thread : Bool
  /-- The logging thread has run when it is stopped in compatibility mode. -/
  logging_ran : Bool
  /-- The response thread has run when it is stopped. -/
  proxy_ran : Bool
  gcq_close : Bool
  deriving DecidableEq, Repr

/-- The resources of all sessions, and the list of the proxy entries by their sessions. -/
structure State where
  book : Book (ℕ × Kind)
  proxies : List ℕ

/-- The state afterwards, and whether the function returned `SUCCESS`. -/
abbrev Ran := State × Bool

section

variable (me : ℕ) (o : Outcomes)

def acquire (k : Kind) (s : State) : State := { s with book := s.book.acquire (me, k) }

/-- A resource is given back; none of its users may be there any more. -/
def giveBack (k : Kind) (s : State) : State :=
  { s with book := s.book.undoUnused (k.users.map (Prod.mk me)) (me, k) }

/-- A resource is given back when its pointer, or its flag, is set. -/
def giveBackIfSet (k : Kind) (s : State) : State :=
  if (me, k) ∈ s.book.ptr then giveBack me k s else s

/-! ### Set-up -/

def PCIE_BAR0 : ℕ := 0

def map_amc_endpoints (s : State) : Ran :=
  if o.drvdata = false then (s, false)
  else if o.requested then (s, false)
  else if o.region = false then (s, false)
  else
    let s := acquire me (.region o.bar_num) s
    if o.iomap = false then (s, false) else (acquire me .mapping s, true)

def start_gcq_services (s : State) : Ran :=
  if o.device_ready = false then (s, false) else (acquire me .service s, true)

/-- A failure after the queue is open leaves it open, and the entry off the list. -/
def amc_proxy_init (s : State) : Ran :=
  if o.gcq_open = false then (s, false)
  else
    let s := acquire me .gcq s
    if o.entry = false then (s, false)
    else
      let s := acquire me .entry s
      if o.proxy_thread = false then (s, false)
      else
        let s := acquire me .proxy_thread s
        ({ s with proxies := s.proxies ++ [me] }, true)

/-- The entry of the session is looked up on the list. -/
def amc_proxy_bind_callback (s : State) : Bool := s.proxies.contains me

/-! ### Tear-down -/

/-- The queue is closed when the response thread answers its stop with success. -/
def amc_proxy_close (s : State) : State :=
  if s.proxies.contains me then
    let s := giveBack me .proxy_thread s
    let s := if o.proxy_ran && o.gcq_close then giveBack me .gcq s else s
    giveBack me .entry { s with proxies := s.proxies.erase me }
  else s

def stop_gcq_services (s : State) : State := { s with book := s.book.discard (me, .service) }

def unset_amc (s : State) : State :=
  if (me, .ctxt) ∉ s.book.ptr then s
  else if o.drvdata = false then s
  else
    let s := giveBackIfSet me .heartbeat_thread s
    let s := giveBackIfSet me .logging_thread s
    let s := stop_gcq_services me s
    let s := amc_proxy_close me o s
    let s := giveBackIfSet me .mapping s
    -- whatever was requested, by whomever
    giveBack me (.region PCIE_BAR0) s

def release_amc_mem (s : State) : State := giveBackIfSet me .ctxt s

/-! ### The whole of a session -/

/-- The label `fail` of `setup_amc`. -/
def fail (s : State) : Ran :=
  (release_amc_mem me (unset_amc me o (giveBackIfSet me .version_buf s)), false)

/-- The end of `setup_amc`, in compatibility mode. A logging thread that has not run stays marked as
created, and the set-up fails. -/
def enter_compat_mode (s : State) : Ran :=
  if o.logging_ran then (giveBack me .version_buf (giveBack me .logging_thread s), true)
  else fail me o { s with book := s.book.free (me, .logging_thread) }

/-- The end of `setup_amc`, with a supported AMC. -/
def start_heartbeat (s : State) : Ran :=
  if o.heartbeat_thread = false then fail me o s
  else (giveBack me .version_buf (acquire me .heartbeat_thread s), true)

/-- `setup_amc` from the logging thread on. -/
def start_threads (s : State) : Ran :=
  if o.logging_thread = false then fail me o s
  else
    let s := acquire me .logging_thread s
    if o.version_buf = false then fail me o s
    else
      let s := acquire me .version_buf s
      if o.get_version = false then fail me o s
      else if o.gcq_supported = false then fail me o s
      else if o.amc_supported then start_heartbeat me o s
      else enter_compat_mode me o s

def setup_amc (s : State) : Ran :=
  if o.ctxt = false then fail me o s
  else
    let m := map_amc_endpoints me o (acquire me .ctxt s)
    if m.2 = false then fail me o m.1
    else
      let g := start_gcq_services me o m.1
      if g.2 = false then fail me o g.1
      else
        let p := amc_proxy_init me o g.1
        if p.2 = false then fail me o p.1
        else if amc_proxy_bind_callback me p.1 = false then fail me o p.1
        else start_threads me o p.1

/-- A set-up and, when it succeeds, the tear-down of the session. -/
def setup_and_unset (s : State) : State :=
  let r := setup_amc me o s
  if r.2 then release_amc_mem me (unset_amc me o r.1) else r.1

end

end Amr.Host.Session
