/-
# Replacing what the flash holds

An interface that erases before it writes calls the two functions of the driver for one range. When
it reports success, and the flash has taken the commands, the data stand in the range whatever was
there, and no other sector has changed.
-/
import Amr.Ospi.FlashErase
import Amr.Ospi.FlashWrite
import Amr.Ospi.Interface

namespace Amr.Ospi

open ByteStore NorFlash

instance (ulSectSize a : ℕ) : ∀ e : Erasure, Decidable (e.Covers ulSectSize a)
  | .sector _ _ => inferInstanceAs (Decidable (_ = _))
  | .die _ | .bulk _ => inferInstanceAs (Decidable True)

/-- The flash after erase commands. -/
def erase (ulSectSize : ℕ) (m : Store) (erased : List Erasure) : Store := fun a =>
  if ∃ e ∈ erased, e.Covers ulSectSize a then 0xFF else m a

theorem EraseDriver.page_dvd (d : EraseDriver) : 256 ∣ d.info.ulSectSize := by
  have hall : ∀ info ∈ pxFlashConfigTable, 256 ∣ info.ulSectSize := by decide
  exact hall _ d.known

/-- An erase that reports success went sector by sector. -/
theorem erase_succeeds {fuel : ℕ} {d : EraseDriver} {o : EraseOutcomes} {A len : ℕ}
    {e : Bool × List Erasure} (h : iOSPI_FlashErase fuel d o A len = some e) (he : e.1 = true) :
    d.iInitialised = true ∧ o.taken = true ∧ len ≠ d.info.ululNumSect * d.info.ulSectSize := by
  unfold iOSPI_FlashErase at h
  split_ifs at h with hrun
  · obtain ⟨hinit, htaken⟩ := (Bool.and_eq_true _ _).mp hrun
    refine ⟨hinit, htaken, fun hwhole => ?_⟩
    rw [iFlashErase, if_pos hwhole, d.supported hinit] at h
    obtain rfl := Option.some.inj h
    cases he
  · obtain rfl := Option.some.inj h
    cases he

/-- A write that reports success has whole pages, and leaves them as its transfers did. -/
theorem write_succeeds {w : WriteOutcomes} {m : Store} {A : ℕ} {data : List UInt8}
    {r : Bool × Store} (h : iOSPI_FlashWrite w m A data = .ok r) (hr : r.1 = true) :
    data.length = data.length / 256 * 256 ∧ r.2 = written w m A data (data.length / 256) := by
  have htaken : w.taken = true := by
    by_contra hnot
    rw [iOSPI_FlashWrite, if_neg hnot] at h
    obtain rfl := Except.ok.inj h
    cases hr
  rw [iOSPI_FlashWrite_taken m A data htaken] at h
  by_cases hpart : data.length % 256 = 0
  · have hlen : data.length = data.length / 256 * 256 :=
      (Nat.div_mul_cancel (Nat.dvd_of_mod_eq_zero hpart)).symm
    rw [pageCount_whole hlen, writePages_eq w m A _ hlen.ge] at h
    refine ⟨hlen, ?_⟩
    cases hst : if data.length / 256 = 0 then false else (w.page (data.length / 256 - 1)).reports
    · rw [hst] at h
      obtain rfl := Except.ok.inj h
      cases hr
    · rw [hst] at h
      dsimp only at h
      split at h
      · obtain rfl := Except.ok.inj h
        rfl
      · cases h
  · have hcount : pageCount data.length = data.length / 256 + 1 := if_pos hpart
    rw [hcount, writePages_partial w m A data] at h
    split_ifs at h
    obtain rfl := Except.ok.inj h
    cases hr

theorem landed_of_programs {w : WriteOutcomes} {A n k : ℕ} {data : List UInt8} (hA : 256 ∣ A)
    (hlen : data.length = n * 256) (hk : k < n) (hprog : (w.page k).programs = true) :
    Landed w A data n k := by
  intro j hj
  have hpage : (A % FLASH_PAGE_SIZE_DEFAULT + (256 * k + j)) / FLASH_PAGE_SIZE_DEFAULT = k := by
    rw [FLASH_PAGE_SIZE_DEFAULT]
    omega
  have hoff : FLASH_PAGE_SIZE_DEFAULT * k + (256 * k + j) % FLASH_PAGE_SIZE_DEFAULT
      = 256 * k + j := by
    rw [FLASH_PAGE_SIZE_DEFAULT]
    omega
  have hin : 256 * k + j < data.length := by omega
  rw [lands, landing, hpage, if_pos ⟨hk, hprog⟩, hoff, List.getD_eq_getElem _ _ hin,
    List.getD_eq_getElem _ _ hin]

/-- The address in flash that `ulOspiWrite` passes on. -/
def FWIfOspiCfg.flashAddr (cfg : FWIfOspiCfg) (ullAddrOffset : UInt64) : ℕ :=
  (cfg.ulBaseAddress + ullAddrOffset.toUInt32).toNat

/-- **An erase and a write replace the contents of their range**, whatever these are, when the
interface reports success and no command was lost. -/
theorem update_replaces {fuel : ℕ} {d : EraseDriver} {o : EraseOutcomes} {w : WriteOutcomes}
    {m : Store} (cfg : FWIfOspiCfg) (off : UInt64) {data : List UInt8} {e : Bool × List Erasure} {r : Bool × Store} (hflag : cfg.ucEraseBeforeWriteFlag = true)
    (hA : d.info.ulSectSize ∣ cfg.flashAddr off)
    (hroom : cfg.flashAddr off + data.length ≤ d.info.ulFlashDeviceSize)
    (herase : iOSPI_FlashErase fuel d o (cfg.flashAddr off) data.length = some e)
    (hwrite : iOSPI_FlashWrite w (erase d.info.ulSectSize m e.2) (cfg.flashAddr off) data = .ok r)
    (hok : (ulOspiWrite cfg off true data.length.toUInt32 e.1 r.1).1 = .NONE)
    (hsectors : ∀ k, k * d.info.ulSectSize < data.length → (o.sector k).Taken)
    (hpages : ∀ k, k * 256 < data.length → (w.page k).programs = true) :
    (∀ i < data.length, r.2 (cfg.flashAddr off + i) = data.getD i 0) ∧
      ∀ x, (∀ b, cfg.flashAddr off ≤ b → b < cfg.flashAddr off + data.length →
        b / d.info.ulSectSize ≠ x / d.info.ulSectSize) → r.2 x = m x := by
  obtain ⟨he, hr⟩ : e.1 = true ∧ r.1 = true := by
    simp only [ulOspiWrite, hflag, if_true] at hok
    split_ifs at hok with h₁ h₂ h₃ h₄
    · exact ⟨h₃, h₄⟩
    · exact absurd hok h₂
  obtain ⟨hsize, -, -⟩ := d.sizes
  obtain ⟨hinit, htaken, hpart⟩ := erase_succeeds herase he
  have hright := (right_of_sectors hA hroom hinit htaken hpart).mpr fun _ _ _ _ _ k hk =>
    hsectors k ((lt_numSect_iff hsize).mp hk)
  obtain ⟨hcovers, honly, -⟩ := hright.2 fuel e herase
  obtain ⟨hlen, hafter⟩ := write_succeeds hwrite hr
  have hpage : 256 ∣ cfg.flashAddr off := d.page_dvd.trans hA
  rw [hafter]
  constructor
  · refine (written_eq_iff (fun i hi => ?_) hlen).mpr fun k hk =>
      landed_of_programs hpage hlen hk (hpages k (by omega))
    exact if_pos (hcovers he _ (Nat.le_add_right _ i) (Nat.add_lt_add_left hi _))
  · intro x hx
    have hout : x < cfg.flashAddr off ∨ cfg.flashAddr off + data.length ≤ x := by
      by_contra hin
      exact hx x (by omega) (by omega) rfl
    rw [(written_outside_iff w _ _ data hlen.ge).mpr (fun _ _ b hb hle => by omega) x hout]
    refine if_neg ?_
    rintro ⟨c, hc, hcover⟩
    obtain ⟨b, hlow, hhigh, hsame⟩ := honly c hc x hcover
    exact hx b hlow hhigh hsame

/-- A page replaces the zeros in the first sector. -/
theorem page_replaces_zeros : ∃ m : Store, (∀ i < 256, m i = 7) ∧ ∀ x, 0x10000 ≤ x → m x = 0 := by
  let w : WriteOutcomes := ⟨true, fun _ => .programmed true, fun _ => true, true⟩
  let m := erase gigadevice.info.ulSectSize (fun _ => 0) [.sector false 0]
  generalize hdata : List.replicate 256 (7 : UInt8) = data
  have hlen : data.length = 256 := by rw [← hdata, List.length_replicate]
  have herase : iOSPI_FlashErase 1 gigadevice readyOutcomes 0 data.length =
      some (true, [.sector false 0]) := by
    rw [hlen]
    decide +kernel
  have hdone : (iOSPI_FlashWrite w m 0 data).toOption.any Prod.fst = true := by
    subst hdata
    decide +kernel
  obtain ⟨r, hr, hok⟩ := (Option.any_eq_true _ _).mp hdone
  have hwrite : iOSPI_FlashWrite w m 0 data = .ok r := by
    cases h : iOSPI_FlashWrite w m 0 data with
    | error fault => rw [h] at hr; cases hr
    | ok s => rw [h] at hr; rw [Option.some.inj hr]
  obtain ⟨hin, hout⟩ := update_replaces ⟨0, 256, true, .OPENED⟩ 0 rfl (dvd_zero _)
    (by rw [hlen]; decide) herase hwrite (by rw [hlen, hok]; rfl) (fun _ _ => ⟨rfl, rfl⟩)
    fun _ _ => rfl
  refine ⟨r.2, fun i hi => ?_, fun x hx => hout x fun b _ hb => ?_⟩
  · have h := hin i (hlen ▸ hi)
    rwa [← hdata, List.getD_replicate _ hi, show FWIfOspiCfg.flashAddr _ 0 = 0 from rfl,
      Nat.zero_add] at h
  · have hlt : b < 0 + 256 := hlen ▸ hb
    change b / 0x10000 ≠ x / 0x10000
    omega

end Amr.Ospi
