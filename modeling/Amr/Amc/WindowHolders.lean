/-
# Who uses a window

Each call takes at most the semaphore of its window, a semaphore is down while a call holds it, and
at most one call at a time uses a window: it holds the semaphore, or the firmware still has its
request. Every section of a call and every other step of the system keeps this, as long as a window
is taken only when the firmware has finished with the earlier requests to it.
-/
import Amr.Amc.WindowSections

namespace Amr.Amc.Window

open Proxy (Thread Request Pc KeepsIds Device)

/-! ### The invariant -/

/-- What holds of the windows of every device. -/
structure Holders (p : Proxy.State) : Prop where
  id : ∀ d, (p.devices d).ctxt.id = d
  layout : ∀ d, (p.devices d).ctxt.amcDataStart.toNat + AMC_LOG_PAGE_SIZE.toNat < 2 ^ 32
  base : ∀ k t, p.threads k = some t →
    t.call.ctxt.amcDataStart = (p.devices t.dev).ctxt.amcDataStart
  took : ∀ k t r, p.threads k = some t → acquired t r = true → semaOf t.cmdId = some r ∧
    t.call.payloadAddress.toNat = windowBase t.call.ctxt r ∧
    (r = .gcqLogPageSema → t.call.payloadSize ≤ AMC_LOG_PAGE_SIZE)
  carries : ∀ k t r, p.threads k = some t → carries t.pc = true ∨ atFirmware p t.dev k →
    semaOf t.cmdId = some r → acquired t r = true
  binary : ∀ d r, (p.devices d).sema r ≤ 1
  down : ∀ k t r, p.threads k = some t → acquired t r = true → t.pc ≠ .returned →
    (p.devices t.dev).sema r = 0
  sole : ∀ d r j k, Uses p d r j → Uses p d r k → j = k

variable {p : Proxy.State}

theorem Holders.start (h : p.IsStart)
    (hlayout : ∀ d, (p.devices d).ctxt.amcDataStart.toNat + AMC_LOG_PAGE_SIZE.toNat < 2 ^ 32) :
    Holders p where
  id := fun d => by
    obtain ⟨lo, hi, halted, ini, hd⟩ := h.devices d
    rw [hd]
    rfl
  layout := hlayout
  base := fun k t ht => by rw [h.threads k] at ht; cases ht
  took := fun k t r ht => by rw [h.threads k] at ht; cases ht
  carries := fun k t r ht => by rw [h.threads k] at ht; cases ht
  binary := fun d r => by
    obtain ⟨lo, hi, halted, ini, hd⟩ := h.devices d
    rw [hd]
    cases r
    exacts [Nat.zero_le _, le_rfl, le_rfl]
  down := fun k t r ht => by rw [h.threads k] at ht; cases ht
  sole := by
    rintro d r j k ⟨t, ht, -⟩ -
    rw [h.threads j] at ht
    cases ht

theorem thread_of_atFirmware (hp : Proxy.Inv p) {d k : ℕ}
    (h : atFirmware p d k) : ∃ t, p.threads k = some t ∧ t.dev = d ∧ t.pc.unwritten = false ∧
      t.answer = none := by
  obtain ⟨m, hm, rfl⟩ := h
  exact hp.outstanding d m (List.mem_append_left _ hm)

/-! ### Addresses -/

theorem windowBase_log (x : AmcControlCtxt) :
    windowBase x .gcqLogPageSema = x.amcDataStart.toNat := by
  change (x.amcDataStart + 0).toNat = _
  rw [UInt32.add_zero]

theorem windowBase_data {x : AmcControlCtxt}
    (h : x.amcDataStart.toNat + AMC_LOG_PAGE_SIZE.toNat < 2 ^ 32) :
    windowBase x .gcqDataSema = x.amcDataStart.toNat + AMC_LOG_PAGE_SIZE.toNat := by
  change (x.amcDataStart + AMC_LOG_PAGE_SIZE).toNat = _
  rw [UInt32.toNat_add, Nat.mod_eq_of_lt h]

theorem inWindow_inj {x : AmcControlCtxt} {r q : Resource} {addr : ℕ} (hr : inWindow x r addr)
    (hq : inWindow x q addr) : r = q := by
  cases r <;> cases q <;> simp only [inWindow] at hr hq <;> first | rfl | omega

theorem Holders.acquired_of_uses (hs : Holders p) {d : ℕ} {r : Resource} {k : ℕ}
    {t : Thread} (ht : p.threads k = some t) (h : Uses p d r k) :
    t.dev = d ∧ acquired t r = true := by
  obtain ⟨t', ht', hdev, hsema, hold⟩ := h
  rw [ht] at ht'
  cases ht'
  refine ⟨hdev, ?_⟩
  rcases hold with ⟨hacq, -⟩ | hfirm
  · exact hacq
  · exact hs.carries k t r ht (.inr (hdev ▸ hfirm)) hsema

theorem Holders.inWindow (hs : Holders p) {d : ℕ} {r : Resource} {k offset : ℕ}
    {t : Thread} (ht : p.threads k = some t) (h : Uses p d r k) (hoff : offset < payloadExtent t) :
    inWindow (p.devices d).ctxt r (t.call.payloadAddress.toNat + offset) := by
  obtain ⟨rfl, hacq⟩ := hs.acquired_of_uses ht h
  obtain ⟨-, hbase, hsize⟩ := hs.took k t r ht hacq
  have hstart := hs.base k t ht
  have hlayout := hs.layout t.dev
  rw [hbase]
  cases r with
  | gcqLogPageSema =>
    rw [windowBase_log, hstart]
    refine ⟨Nat.le_add_right .., Nat.add_lt_add_left (lt_of_lt_of_le hoff ?_) _⟩
    exact max_le (UInt32.le_iff_toNat_le.mp (hsize rfl)) (by decide)
  | gcqDataSema =>
    rw [windowBase_data (hstart ▸ hlayout), hstart]
    exact Nat.le_add_right ..
  | gcqCmdLock => cases hacq

/-! ### Steps that move no semaphore -/

/-- What a step that takes and gives back no semaphore does to the calls and devices. -/
structure Frame (p p' : Proxy.State) : Prop where
  ctxt : ∀ d, (p'.devices d).ctxt.id = (p.devices d).ctxt.id ∧
    (p'.devices d).ctxt.amcDataStart = (p.devices d).ctxt.amcDataStart
  sema : ∀ d r, (p'.devices d).sema r = (p.devices d).sema r
  threads : ∀ k u, p'.threads k = some u →
    (∃ t, p.threads k = some t ∧ Keeps t u ∧ (Window.carries u.pc = true →
      Window.carries t.pc = true ∨ semaOf t.cmdId = none) ∧
      (t.pc = .returned → u.pc = .returned)) ∨
    (p.threads k = none ∧ (∀ r, acquired u r = false) ∧ Window.carries u.pc = false ∧
      u.call.ctxt = (p.devices u.dev).ctxt)
  firmware : ∀ d k, atFirmware p' d k → atFirmware p d k ∨
    ∃ t, p.threads k = some t ∧ t.dev = d ∧ Window.carries t.pc = true

theorem carries_ne_returned {pc : Pc} (h : carries pc = true) : pc ≠ .returned := by
  rintro rfl
  cases h

variable {p p' : Proxy.State}

theorem Frame.uses (h : Frame p p') (hp : Proxy.Inv p) (hs : Holders p)
    {d : ℕ} {r : Resource} {k : ℕ} (hk : Uses p' d r k) : Uses p d r k := by
  obtain ⟨u, hu, hdev, hsema, hold⟩ := hk
  rcases h.threads k u hu with ⟨t, ht, hkeeps, -, hret⟩ | ⟨hnone, hacq, -, -⟩
  · rw [hkeeps.cmdId] at hsema
    rw [hkeeps.dev] at hdev
    refine ⟨t, ht, hdev, hsema, ?_⟩
    rcases hold with ⟨hacq, hpc⟩ | hfirm
    · exact .inl ⟨hkeeps.acquired r ▸ hacq, fun h => hpc (hret h)⟩
    · rcases h.firmware d k hfirm with hfirm | ⟨t', ht', -, hcar⟩
      · exact .inr hfirm
      · rw [ht] at ht'
        cases ht'
        exact .inl ⟨hs.carries k t r ht (.inl hcar) hsema, carries_ne_returned hcar⟩
  · rcases hold with ⟨hacq', -⟩ | hfirm
    · rw [hacq r] at hacq'
      cases hacq'
    · rcases h.firmware d k hfirm with hfirm | ⟨t', ht', -⟩
      · obtain ⟨t', ht', -⟩ := thread_of_atFirmware hp hfirm
        rw [hnone] at ht'
        cases ht'
      · rw [hnone] at ht'
        cases ht'

theorem Holders.frame (hs : Holders p) (hp : Proxy.Inv p)
    (h : Frame p p') : Holders p' where
  id := fun d => (h.ctxt d).1.trans (hs.id d)
  layout := fun d => by
    rw [(h.ctxt d).2]
    exact hs.layout d
  base := by
    intro k u hu
    rw [(h.ctxt _).2]
    rcases h.threads k u hu with ⟨t, ht, hkeeps, -⟩ | ⟨-, -, -, hctxt⟩
    · rw [hkeeps.ctxt, hkeeps.dev]
      exact hs.base k t ht
    · rw [hctxt]
  took := by
    intro k u r hu hacq
    rcases h.threads k u hu with ⟨t, ht, hkeeps, -⟩ | ⟨-, hnot, -⟩
    · rw [hkeeps.cmdId, hkeeps.ctxt, hkeeps.payloadAddress, hkeeps.payloadSize]
      exact hs.took k t r ht (hkeeps.acquired r ▸ hacq)
    · rw [hnot r] at hacq
      cases hacq
  carries := by
    intro k u r hu hcar hsema
    rcases h.threads k u hu with ⟨t, ht, hkeeps, hcar', -⟩ | ⟨hnone, -, hnot, -⟩
    · rw [hkeeps.acquired r]
      rw [hkeeps.cmdId] at hsema
      refine hs.carries k t r ht ?_ hsema
      rcases hcar with hcar | hfirm
      · exact .inl ((hcar' hcar).resolve_right (by rw [hsema]; nofun))
      · rw [hkeeps.dev] at hfirm
        rcases h.firmware _ k hfirm with hfirm | ⟨t', ht', -, hcar⟩
        · exact .inr hfirm
        · rw [ht] at ht'
          cases ht'
          exact .inl hcar
    · rcases hcar with hcar | hfirm
      · rw [hnot] at hcar
        cases hcar
      · rcases h.firmware _ k hfirm with hfirm | ⟨t', ht', -⟩
        · obtain ⟨t', ht', -⟩ := thread_of_atFirmware hp hfirm
          rw [hnone] at ht'
          cases ht'
        · rw [hnone] at ht'
          cases ht'
  binary := fun d r => by
    rw [h.sema]
    exact hs.binary d r
  down := by
    intro k u r hu hacq hpc
    rw [h.sema]
    rcases h.threads k u hu with ⟨t, ht, hkeeps, -, hret⟩ | ⟨-, hnot, -⟩
    · rw [hkeeps.dev]
      exact hs.down k t r ht (hkeeps.acquired r ▸ hacq) fun h => hpc (hret h)
    · rw [hnot r] at hacq
      cases hacq
  sole := fun d r j k hj hk => hs.sole d r j k (h.uses hp hs hj) (h.uses hp hs hk)

/-! ### Steps -/

theorem move_devices_self (p : Proxy.State) (k d : ℕ) (t : Thread) (dev : Device) (x : CidXarray) :
    (p.move k d t dev x).devices d = dev := Function.update_self ..

theorem move_devices_of_ne (p : Proxy.State) {k d e : ℕ} (t : Thread) (dev : Device)
    (x : CidXarray) (h : e ≠ d) : (p.move k d t dev x).devices e = p.devices e :=
  Function.update_of_ne h ..

theorem frame_move {k : ℕ} {t u : Thread} {dev : Device} {x : CidXarray}
    (ht : p.threads k = some t) (hkeeps : Keeps t u)
    (hcar : carries u.pc = true → carries t.pc = true ∨ semaOf t.cmdId = none)
    (hret : t.pc = .returned → u.pc = .returned) (hctxt : dev.ctxt = (p.devices t.dev).ctxt)
    (hsema : ∀ r, dev.sema r = (p.devices t.dev).sema r)
    (htaken : dev.taken = (p.devices t.dev).taken)
    (hsq : dev.sq = (p.devices t.dev).sq ∨ carries t.pc = true ∧
      ∃ cid, dev.sq = (p.devices t.dev).sq ++ [⟨cid, k⟩]) :
    Frame p (p.move k t.dev u dev x) where
  ctxt := by
    intro d
    by_cases hd : d = t.dev
    · subst hd
      rw [move_devices_self, hctxt]
      exact ⟨rfl, rfl⟩
    · rw [move_devices_of_ne p u dev x hd]
      exact ⟨rfl, rfl⟩
  sema := by
    intro d r
    by_cases hd : d = t.dev
    · subst hd
      rw [move_devices_self, hsema]
    · rw [move_devices_of_ne p u dev x hd]
  threads := by
    intro j v hv
    rcases Proxy.update_eq_some hv with ⟨rfl, rfl⟩ | ⟨-, hold⟩
    · exact .inl ⟨t, ht, hkeeps, hcar, hret⟩
    · exact .inl ⟨v, hold, .refl v, .inl, id⟩
  firmware := by
    rintro d j ⟨m, hm, rfl⟩
    by_cases hd : d = t.dev
    · subst hd
      rw [move_devices_self, htaken] at hm
      rcases hsq with hsq | ⟨hcar, cid, hsq⟩
      · rw [hsq] at hm
        exact .inl ⟨m, hm, rfl⟩
      · rw [hsq, List.append_assoc, List.mem_append, List.singleton_append, List.mem_cons] at hm
        rcases hm with hm | rfl | hm
        · exact .inl ⟨m, List.mem_append_left _ hm, rfl⟩
        · exact .inr ⟨t, ht, rfl, hcar⟩
        · exact .inl ⟨m, List.mem_append_right _ hm, rfl⟩
    · rw [move_devices_of_ne p u dev x hd] at hm
      exact .inl ⟨m, hm, rfl⟩

theorem uses_move_of_ne {k d j e : ℕ} {r : Resource} {u : Thread} {dev : Device}
    {x : CidXarray} (hj : j ≠ k) (hsq : dev.sq = (p.devices d).sq)
    (htaken : dev.taken = (p.devices d).taken) (h : Uses (p.move k d u dev x) e r j) :
    Uses p e r j := by
  obtain ⟨v, hv, hdev, hsema, hold⟩ := h
  refine ⟨v, (Function.update_of_ne hj ..).symm.trans hv, hdev, hsema, hold.imp_right ?_⟩
  rintro ⟨m, hm, hmj⟩
  refine ⟨m, ?_, hmj⟩
  by_cases he : e = d
  · subst he
    rwa [move_devices_self, hsq, htaken] at hm
  · rwa [move_devices_of_ne p u dev x he] at hm

theorem Holders.alone (hs : Holders p) {d : ℕ} {r : Resource}
    (hne : (p.devices d).sema r ≠ 0) (hfree : ∀ m ∈ (p.devices d).sq ++ (p.devices d).taken,
      ∀ u ∈ p.threads m.owner, semaOf u.cmdId ≠ some r) (j : ℕ) : ¬ Uses p d r j := by
  rintro ⟨u, hu, hudev, husema, hold | hfirm⟩
  · have := hs.down j u r hu hold.1 hold.2
    rw [hudev] at this
    exact hne this
  · obtain ⟨m, hm, rfl⟩ := hfirm
    exact hfree m hm u hu husema

/-- **A call takes a window** that no earlier request at the firmware uses. -/
theorem Holders.take (hs : Holders p) (hp : Proxy.Inv p) {k : ℕ} {t : Thread}
    (ht : p.threads k = some t) (hpc : t.pc = .payload) {r : Resource} {c : Call} {pc : Pc}
    (hsema : semaOf t.cmdId = some r) (hne : (p.devices t.dev).sema r ≠ 0)
    (htook : Took t.call c r) (hpc' : pc = .cid ∨ pc = .erase)
    (hfree : ∀ m ∈ (p.devices t.dev).sq ++ (p.devices t.dev).taken,
      ∀ u ∈ p.threads m.owner, semaOf u.cmdId ≠ semaOf t.cmdId) :
    Holders (p.move k t.dev { t with call := c, pc := pc } ((p.devices t.dev).down r) p.cids) := by
  obtain ⟨hctxt, hsq, htaken, -⟩ := down_same (p.devices t.dev) r
  have hlock := semaOf_ne_lock hsema
  have hdev : c.ctxt.id = t.dev := congrArg AmcControlCtxt.id htook.ctxt
  have hacq := fun q => acquired_of_took hlock htook pc q
  have halone : ∀ j, ¬ Uses p t.dev r j := hs.alone hne (hsema ▸ hfree)
  have hfirm : ∀ d, ¬ atFirmware p d k := by
    intro d h
    obtain ⟨u, hu, -, hw, -⟩ := thread_of_atFirmware hp h
    rw [ht] at hu
    cases hu
    rw [hpc] at hw
    cases hw
  have hfirm' : ∀ d, ¬ atFirmware (p.move k t.dev { t with call := c, pc := pc }
      ((p.devices t.dev).down r) p.cids) d k := by
    rintro d ⟨m, hm, hmk⟩
    refine hfirm d ⟨m, ?_, hmk⟩
    by_cases hd : d = t.dev
    · subst hd
      rwa [move_devices_self, hsq, htaken] at hm
    · rwa [move_devices_of_ne p _ _ _ hd] at hm
  have hdevices : ∀ d, ((p.move k t.dev { t with call := c, pc := pc }
      ((p.devices t.dev).down r) p.cids).devices d).ctxt = (p.devices d).ctxt := by
    intro d
    by_cases hd : d = t.dev
    · subst hd
      rw [move_devices_self, hctxt]
    · rw [move_devices_of_ne p _ _ _ hd]
  constructor
  · intro d
    rw [hdevices]
    exact hs.id d
  · intro d
    rw [hdevices]
    exact hs.layout d
  · intro j u hu
    rw [hdevices]
    rcases Proxy.update_eq_some hu with ⟨rfl, rfl⟩ | ⟨-, hu⟩
    · change c.ctxt.amcDataStart = (p.devices c.ctxt.id).ctxt.amcDataStart
      rw [htook.ctxt]
      exact hs.base j t ht
    · exact hs.base j u hu
  · intro j u q hu hq
    rcases Proxy.update_eq_some hu with ⟨rfl, rfl⟩ | ⟨-, hu⟩
    · obtain rfl := (hacq q).mp hq
      exact ⟨hsema, htook.base.trans (by rw [← htook.ctxt]), htook.size⟩
    · exact hs.took j u q hu hq
  · intro j u q hu hcar hq
    rcases Proxy.update_eq_some hu with ⟨rfl, rfl⟩ | ⟨hj, hold⟩
    · refine (hacq q).mpr ?_
      have hq' : semaOf t.cmdId = some q := hq
      rw [hsema] at hq'
      exact (Option.some.inj hq').symm
    · refine hs.carries j u q hold (hcar.imp_right ?_) hq
      rintro ⟨m, hm, hmj⟩
      refine ⟨m, ?_, hmj⟩
      by_cases hd : u.dev = t.dev
      · rw [hd] at hm ⊢
        rwa [move_devices_self, hsq, htaken] at hm
      · rwa [move_devices_of_ne p _ _ _ hd] at hm
  · intro d q
    by_cases hd : d = t.dev
    · subst hd
      rw [move_devices_self, sema_down]
      have := hs.binary t.dev q
      have := hs.binary t.dev r
      split_ifs <;> omega
    · rw [move_devices_of_ne p _ _ _ hd]
      exact hs.binary d q
  · intro j u q hu hq hret
    rcases Proxy.update_eq_some hu with ⟨rfl, rfl⟩ | ⟨hj, hold⟩
    · obtain rfl := (hacq q).mp hq
      change ((p.move j t.dev _ _ p.cids).devices c.ctxt.id).sema q = 0
      rw [hdev, move_devices_self, sema_down, if_pos rfl]
      have := hs.binary t.dev q
      omega
    · have hzero := hs.down j u q hold hq hret
      by_cases hd : u.dev = t.dev
      · rw [hd] at hzero ⊢
        rw [move_devices_self, sema_down]
        split_ifs with hqr
        · subst hqr
          omega
        · exact hzero
      · rwa [move_devices_of_ne p _ _ _ hd]
  · -- two calls that use one window: neither is new, or one is and nobody else was there
    have hnew : ∀ d q, Uses (p.move k t.dev { t with call := c, pc := pc }
        ((p.devices t.dev).down r) p.cids) d q k → d = t.dev ∧ q = r := by
      rintro d q ⟨u, hu, hd, hq, hold | h⟩
      · rcases Proxy.update_eq_some hu with ⟨-, rfl⟩ | ⟨hj, -⟩
        · exact ⟨hd.symm.trans hdev, (hacq q).mp hold.1⟩
        · exact (hj rfl).elim
      · exact (hfirm' d h).elim
    intro d q j j' hj hj'
    by_cases hjk : j = k
    · subst hjk
      obtain ⟨rfl, rfl⟩ := hnew d q hj
      by_contra hne'
      exact halone j' (uses_move_of_ne (Ne.symm hne') hsq htaken hj')
    · by_cases hjk' : j' = k
      · subst hjk'
        obtain ⟨rfl, rfl⟩ := hnew d q hj'
        exact (halone j (uses_move_of_ne hjk hsq htaken hj)).elim
      · exact hs.sole d q j j' (uses_move_of_ne hjk hsq htaken hj)
          (uses_move_of_ne hjk' hsq htaken hj')

theorem uses_release {k : ℕ} {t : Thread} (ht : p.threads k = some t) :
    ∀ d r j, Uses (p.move k t.dev (Proxy.releaseStep t (p.devices t.dev)).1
      (Proxy.releaseStep t (p.devices t.dev)).2 p.cids) d r j → Uses p d r j := by
  intro d r j h
  obtain ⟨hkeeps, hret, -, hsq, htaken, -⟩ := releaseStep_spec t (p.devices t.dev)
  by_cases hj : j = k
  · subst hj
    obtain ⟨u, hu, hd, hr, hold⟩ := h
    rcases Proxy.update_eq_some hu with ⟨-, rfl⟩ | ⟨hj, -⟩
    · refine ⟨t, ht, hkeeps.dev.symm.trans hd, hkeeps.cmdId ▸ hr, .inr ?_⟩
      obtain ⟨m, hm, hmj⟩ := hold.resolve_left fun h => h.2 hret
      refine ⟨m, ?_, hmj⟩
      by_cases he : d = t.dev
      · subst he
        rwa [move_devices_self, hsq, htaken] at hm
      · rwa [move_devices_of_ne p _ _ _ he] at hm
    · exact (hj rfl).elim
  · exact uses_move_of_ne hj hsq htaken h

/-- **A call gives its window back.** -/
theorem Holders.give (hs : Holders p) {k : ℕ} {t : Thread}
    (ht : p.threads k = some t) (hpc : t.pc = .release) :
    Holders (p.move k t.dev (Proxy.releaseStep t (p.devices t.dev)).1
      (Proxy.releaseStep t (p.devices t.dev)).2 p.cids) := by
  obtain ⟨hkeeps, hret, hctxt, hsq, htaken, -, hsema⟩ := releaseStep_spec t (p.devices t.dev)
  have huses := uses_release ht
  generalize (Proxy.releaseStep t (p.devices t.dev)).1 = u' at hkeeps hret huses ⊢
  generalize (Proxy.releaseStep t (p.devices t.dev)).2 = dev' at hctxt hsq htaken hsema huses ⊢
  have hdevices : ∀ d, ((p.move k t.dev u' dev' p.cids).devices d).ctxt = (p.devices d).ctxt := by
    intro d
    by_cases hd : d = t.dev
    · subst hd
      rw [move_devices_self, hctxt]
    · rw [move_devices_of_ne p _ _ _ hd]
  have hfirm : ∀ d j, atFirmware (p.move k t.dev u' dev' p.cids) d j → atFirmware p d j := by
    rintro d j ⟨m, hm, hmj⟩
    refine ⟨m, ?_, hmj⟩
    by_cases hd : d = t.dev
    · subst hd
      rwa [move_devices_self, hsq, htaken] at hm
    · rwa [move_devices_of_ne p _ _ _ hd] at hm
  constructor
  · intro d
    rw [hdevices]
    exact hs.id d
  · intro d
    rw [hdevices]
    exact hs.layout d
  · intro j u hu
    rw [hdevices]
    rcases Proxy.update_eq_some hu with ⟨rfl, rfl⟩ | ⟨-, hu⟩
    · rw [hkeeps.ctxt, hkeeps.dev]
      exact hs.base j t ht
    · exact hs.base j u hu
  · intro j u q hu hq
    rcases Proxy.update_eq_some hu with ⟨rfl, rfl⟩ | ⟨-, hu⟩
    · rw [hkeeps.cmdId, hkeeps.ctxt, hkeeps.payloadAddress, hkeeps.payloadSize]
      exact hs.took j t q ht (hkeeps.acquired q ▸ hq)
    · exact hs.took j u q hu hq
  · intro j u q hu hcar hq
    rcases Proxy.update_eq_some hu with ⟨rfl, rfl⟩ | ⟨-, hu⟩
    · rw [hkeeps.acquired q]
      refine hs.carries j t q ht (.inr ?_) (hkeeps.cmdId ▸ hq)
      rcases hcar with hcar | h
      · exact (carries_ne_returned hcar hret).elim
      · exact hkeeps.dev ▸ hfirm _ _ h
    · exact hs.carries j u q hu (hcar.imp_right (hfirm _ _)) hq
  · intro d q
    by_cases hd : d = t.dev
    · subst hd
      rw [move_devices_self, hsema]
      split_ifs with hq
      · have := hs.down k t q ht hq (by rw [hpc]; nofun)
        omega
      · exact hs.binary _ q
    · rw [move_devices_of_ne p _ _ _ hd]
      exact hs.binary d q
  · intro j u q hu hq hne
    rcases Proxy.update_eq_some hu with ⟨rfl, rfl⟩ | ⟨hj, hold⟩
    · exact (hne hret).elim
    · have hzero := hs.down j u q hold hq hne
      by_cases hd : u.dev = t.dev
      · rw [hd] at hzero ⊢
        rw [move_devices_self, hsema]
        split_ifs with hq'
        · -- both calls would use the window
          refine (hj (hs.sole t.dev q j k ⟨u, hold, hd, (hs.took j u q hold hq).1, .inl ⟨hq, hne⟩⟩
            ⟨t, ht, rfl, (hs.took k t q ht hq').1, .inl ⟨hq', by rw [hpc]; nofun⟩⟩)).elim
        · exact hzero
      · rwa [move_devices_of_ne p _ _ _ hd]
  · exact fun d r j j' hj hj' => hs.sole d r j j' (huses d r j hj) (huses d r j' hj')

theorem frame_of_devices (hctxt : ∀ d, (p'.devices d).ctxt.id = (p.devices d).ctxt.id ∧
      (p'.devices d).ctxt.amcDataStart = (p.devices d).ctxt.amcDataStart)
    (hsema : ∀ d r, (p'.devices d).sema r = (p.devices d).sema r)
    (hthreads : ∀ k u, p'.threads k = some u → ∃ t, p.threads k = some t ∧ Keeps t u ∧
      u.pc = t.pc)
    (hmem : ∀ d m, m ∈ (p'.devices d).sq ++ (p'.devices d).taken →
      m ∈ (p.devices d).sq ++ (p.devices d).taken) : Frame p p' where
  ctxt := hctxt
  sema := hsema
  threads := fun k u hu => by
    obtain ⟨t, ht, hkeeps, hpc⟩ := hthreads k u hu
    exact .inl ⟨t, ht, hkeeps, fun h => .inl (hpc ▸ h), fun h => hpc.trans h⟩
  firmware := fun d k ⟨m, hm, hmk⟩ => .inl ⟨m, hmem d m hm, hmk⟩

/-- What a step of another party does to a call: nothing, a timeout, or the completion of its
command by the response to its own request. -/
inductive Touched (p : Proxy.State) (k : ℕ) (t : Thread) : Thread → Prop
  | same : Touched p k t t
  | timedOut (hpc : t.pc.unwritten = false) : Touched p k t t.timeOut
  | completed (d : ℕ) (m : Proxy.Completion) (hm : m ∈ (p.devices d).cq)
      (howner : m.request.owner = k) : Touched p k t (t.completeWith m)

theorem Touched.keeps {k : ℕ} {t u : Thread} (h : Touched p k t u) :
    Keeps t u ∧ u.pc = t.pc ∧ u.call.ret = t.call.ret ∧ u.call.copies = t.call.copies := by
  cases h <;> exact ⟨⟨rfl, rfl, rfl, rfl, rfl, rfl, rfl⟩, rfl, rfl, rfl⟩

/-- The steps of the firmware, the response thread, the clock and the service. -/
def Passive : Proxy.Act → Prop
  | .call .. | .advance .. => False
  | _ => True

/-- **What a step of another party does** to calls, semaphores and entries. -/
structure Passes (p : Proxy.State) (a : Proxy.Act) (p' : Proxy.State) : Prop where
  threads : ∀ k u, p'.threads k = some u → ∃ t, p.threads k = some t ∧ Touched p k t u
  ctxt : ∀ d, (p'.devices d).ctxt.id = (p.devices d).ctxt.id ∧
    (p'.devices d).ctxt.amcDataStart = (p.devices d).ctxt.amcDataStart
  sema : ∀ d r, (p'.devices d).sema r = (p.devices d).sema r
  requests : ∀ d m, m ∈ (p'.devices d).sq ++ (p'.devices d).taken →
    m ∈ (p.devices d).sq ++ (p.devices d).taken
  entries : ∀ d, ∀ m ∈ (p'.devices d).cq, m ∈ (p.devices d).cq ∨
    ∃ i, a = .answer d i m.payload m.ret ∧ (p.devices d).taken[i]? = some m.request

theorem passes_setDevice {a : Proxy.Act} (d : ℕ) (dev : Device)
    (hctxt : dev.ctxt.id = (p.devices d).ctxt.id ∧
      dev.ctxt.amcDataStart = (p.devices d).ctxt.amcDataStart)
    (hsema : ∀ r, dev.sema r = (p.devices d).sema r)
    (hrequests : ∀ m ∈ dev.sq ++ dev.taken, m ∈ (p.devices d).sq ++ (p.devices d).taken)
    (hentries : ∀ m ∈ dev.cq, m ∈ (p.devices d).cq ∨
      ∃ i, a = .answer d i m.payload m.ret ∧ (p.devices d).taken[i]? = some m.request)
    {threads : ℕ → Option Thread}
    (hthreads : ∀ k u, threads k = some u → ∃ t, p.threads k = some t ∧ Touched p k t u) :
    Passes p a { p with threads := threads, devices := Function.update p.devices d dev } := by
  have hview : ∀ e, e = d ∧ Function.update p.devices d dev e = dev ∨
      Function.update p.devices d dev e = p.devices e := by
    intro e
    by_cases he : e = d
    · subst he
      exact .inl ⟨rfl, Function.update_self ..⟩
    · exact .inr (Function.update_of_ne he ..)
  refine ⟨hthreads, fun e => ?_, fun e r => ?_, fun e m hm => ?_, fun e m hm => ?_⟩
  · dsimp only
    rcases hview e with ⟨rfl, h⟩ | h
    · rw [h]
      exact hctxt
    · rw [h]
      exact ⟨rfl, rfl⟩
  · dsimp only
    rcases hview e with ⟨rfl, h⟩ | h
    · rw [h]
      exact hsema r
    · rw [h]
  · dsimp only at hm
    rcases hview e with ⟨rfl, h⟩ | h
    · rw [h] at hm
      exact hrequests m hm
    · rwa [h] at hm
  · dsimp only at hm
    rcases hview e with ⟨rfl, h⟩ | h
    · rw [h] at hm
      exact hentries m hm
    · rw [h] at hm
      exact .inl hm

theorem passes_of_step (hp : Proxy.Inv p) {a : Proxy.Act}
    (ha : Passive a) (h : Proxy.step p a = some p') : Passes p a p' := by
  have hsame : ∀ k u, p.threads k = some u → ∃ t, p.threads k = some t ∧ Touched p k t u :=
    fun k u hu => ⟨u, hu, .same⟩
  have htimeout : ∀ d k u,
      Proxy.timeOutListed p.threads (p.devices d).submittedCmds p.jiffies k = some u →
      ∃ t, p.threads k = some t ∧ Touched p k t u := by
    intro d k u hu
    obtain ⟨t, ht, ⟨rfl, -⟩ | ⟨rfl, hk, -⟩⟩ := Proxy.timeOutListed_eq_some hu
    · exact ⟨u, ht, .same⟩
    · refine ⟨t, ht, .timedOut ?_⟩
      obtain ⟨t', ht', -, -, hw, -⟩ := hp.listed d k hk
      rw [ht] at ht'
      cases ht'
      rcases hw with ⟨h | h, -⟩ | h <;> rw [h] <;> rfl
  cases a with
  | call | advance => exact ha.elim
  | take d =>
    cases hsq : (p.devices d).sq with
    | nil =>
      simp only [Proxy.step, hsq] at h
      cases h
    | cons m sq =>
      simp only [Proxy.step, hsq, Option.some.injEq] at h
      subst h
      refine passes_setDevice d
        { p.devices d with sq := sq, taken := (p.devices d).taken ++ [m] } ⟨rfl, rfl⟩
        (fun r => by cases r <;> rfl) (fun q hq => ?_) (fun q hq => .inl hq) hsame
      rw [hsq]
      simp only [List.mem_append, List.mem_cons, List.not_mem_nil, or_false] at hq ⊢
      tauto
  | answer d i payload ret =>
    obtain ⟨m, hm, h⟩ := Option.bind_eq_some_iff.mp h
    cases h
    refine passes_setDevice d
      { p.devices d with
        taken := (p.devices d).taken.eraseIdx i
        cq := (p.devices d).cq ++ [⟨m, payload, ret⟩] } ⟨rfl, rfl⟩
      (fun r => by cases r <;> rfl) (fun q hq => ?_) (fun q hq => ?_) hsame
    · exact (List.mem_append.mp hq).elim (List.mem_append_left _) fun hq =>
        List.mem_append_right _ (List.mem_of_mem_eraseIdx hq)
    · rcases List.mem_append.mp hq with hq | hq
      · exact .inl hq
      · obtain rfl := List.mem_singleton.mp hq
        exact .inr ⟨i, rfl, hm⟩
  | respond d =>
    cases hcq : (p.devices d).cq with
    | nil =>
      simp only [Proxy.step, hcq] at h
      cases h
    | cons m cq =>
      simp only [Proxy.step, hcq, Option.some.injEq] at h
      subst h
      refine passes_setDevice d
        { p.devices d with
          cq := cq
          submittedCmds :=
            (Proxy.cmdComplete p.threads (p.devices d).submittedCmds m).2 } ⟨rfl, rfl⟩
        (fun r => by cases r <;> rfl) (fun q hq => hq)
        (fun q hq => .inl (by rw [hcq]; exact List.mem_cons_of_mem _ hq)) ?_
      intro k u hu
      unfold Proxy.cmdComplete at hu
      cases hfind : (p.devices d).submittedCmds.find? (Proxy.hasCid p.threads m.request.cid) with
      | none =>
        rw [hfind] at hu
        exact hsame k u hu
      | some j =>
        rw [hfind] at hu
        obtain ⟨hj, t, ht, hdev, howned, -⟩ := Proxy.find_hasCid hp hfind
        have hmem : m.request ∈ (p.devices d).outstanding :=
          (Proxy.outstanding_of_cq hcq []).mem_iff.mpr (List.mem_cons_self ..)
        subst hdev
        have howner : m.request.owner = j := hp.own j t _ ht howned (.inl hj) m.request hmem rfl
        dsimp only at hu
        rw [ht] at hu
        rcases Proxy.update_eq_some hu with ⟨rfl, rfl⟩ | ⟨-, hu⟩
        · exact ⟨t, ht, .completed t.dev m (hcq ▸ List.mem_cons_self ..) howner⟩
        · exact hsame k u hu
  | checkTimeout d =>
    cases h
    have := passes_setDevice (p := p) (a := .checkTimeout d) d (p.devices d) ⟨rfl, rfl⟩
      (fun _ => rfl) (fun _ h => h) (fun _ h => .inl h) (htimeout d)
    rwa [Function.update_eq_self] at this
  | drain d =>
    cases h
    exact passes_setDevice d
      { p.devices d with
        submittedCmds :=
          (p.devices d).submittedCmds.filter fun k => !Proxy.expired p.threads p.jiffies k }
      ⟨rfl, rfl⟩ (fun r => by cases r <;> rfl) (fun _ h => h) (fun _ h => .inl h) (htimeout d)
  | tick =>
    cases h
    exact ⟨hsame, fun _ => ⟨rfl, rfl⟩, fun _ _ => rfl, fun _ _ h => h, fun _ _ h => .inl h⟩
  | halt d gcqHalted =>
    cases h
    exact passes_setDevice d
      { p.devices d with ctxt := { (p.devices d).ctxt with gcqHalted := gcqHalted } }
      ⟨rfl, rfl⟩ (fun r => by cases r <;> rfl) (fun _ h => h) (fun _ h => .inl h) hsame

theorem Passes.frame {a : Proxy.Act} (h : Passes p a p') : Frame p p' :=
  frame_of_devices h.ctxt h.sema
    (fun k u hu => by
      obtain ⟨t, ht, htouch⟩ := h.threads k u hu
      exact ⟨t, ht, htouch.keeps.1, htouch.keeps.2.1⟩)
    h.requests

theorem frame_call (hs : Holders p) {k : ℕ} (hk : p.threads k = none) (d : ℕ)
    (args : Args) (fails : Bool) :
    Frame p (p.setThread k (Proxy.enter (p.devices d) args fails)) where
  ctxt := fun _ => ⟨rfl, rfl⟩
  sema := fun _ _ => rfl
  threads := by
    have hentered := enter_entered (p.devices d) args fails
    intro j u hu
    rcases Proxy.update_eq_some hu with ⟨rfl, rfl⟩ | ⟨-, hu⟩
    · refine .inr ⟨hk, hentered.acquired, ?_, ?_⟩
      · rcases hentered.pc with h | ⟨h, -⟩ <;> rw [h] <;> rfl
      · rw [Thread.dev, hentered.ctxt, hs.id d]
    · exact .inl ⟨u, hu, .refl u, .inl, id⟩
  firmware := fun _ _ h => .inl h

/-- **Every step keeps the invariant**, if a window is taken only when the firmware has finished
with the earlier requests to it. -/
theorem Holders.step (hs : Holders p) (hp : Proxy.Inv p) {a : Proxy.Act}
    (hfree : TakesFree p a) (h : Proxy.step p a = some p') : Holders p' := by
  by_cases ha : Passive a
  · exact hs.frame hp (passes_of_step hp ha h).frame
  cases a with
  | call k d args fails =>
    cases hk : p.threads k with
    | some t =>
      simp only [Proxy.step, hk] at h
      cases h
    | none =>
      simp only [Proxy.step, hk, Option.some.injEq] at h
      subst h
      exact hs.frame hp (frame_call hs hk d args fails)
  | advance k fails early =>
    obtain ⟨t, ht, h⟩ := Option.bind_eq_some_iff.mp h
    obtain ⟨r, hr, h⟩ := Option.bind_eq_some_iff.mp h
    cases h
    change Holders (p.move k t.dev r.1 r.2.1 r.2.2)
    by_cases hpayload : t.pc = .payload
    · obtain ⟨hfresh, -⟩ := (hp.ok k t ht).entered hpayload
      have hpending : t.pc ≠ .returned := fun h => by cases hpayload.symm.trans h
      unfold Proxy.threadStep at hr
      rw [hpayload] at hr
      obtain ⟨q, hq, rfl⟩ := Option.map_eq_some_iff.mp hr
      rcases payloadStep_cases hfresh hq with ⟨hdev, ⟨hu, hnone⟩ | hu⟩ |
        ⟨r, c, pc, hsema, hfails, hne, hdev, hu, htook, hpc⟩
      · rw [hu, hdev]
        exact hs.frame hp (frame_move ht ⟨rfl, rfl, rfl, rfl, rfl, rfl, rfl⟩ (fun _ => .inr hnone)
          (fun h => (hpending h).elim) rfl (fun _ => rfl) rfl (.inl rfl))
      · rw [hu, hdev]
        exact hs.frame hp (frame_move ht ⟨rfl, rfl, rfl, rfl, rfl, rfl, rfl⟩
          (fun h => by cases h) (fun h => (hpending h).elim) rfl (fun _ => rfl) rfl (.inl rfl))
      · rw [hu, hdev]
        exact hs.take hp ht hpayload hsema hne htook (hpc.imp_right And.left)
          (hfree t ht hfails hpayload (by rw [hsema]; exact Option.some_ne_none r))
    · by_cases hrelease : t.pc = .release
      · unfold Proxy.threadStep at hr
        rw [hrelease] at hr
        cases hr
        exact hs.give ht hrelease
      · have hquiet := threadStep_quiet hr hpayload hrelease
        refine hs.frame hp (frame_move ht hquiet.keeps (fun h => .inl (hquiet.carries h))
          (fun h => (hquiet.going.1 h).elim) hquiet.ctxt hquiet.sema hquiet.taken ?_)
        exact hquiet.sq.imp_right fun h => ⟨by rw [h.1]; rfl, h.2⟩
  | _ => exact (ha trivial).elim

end Amr.Amc.Window
