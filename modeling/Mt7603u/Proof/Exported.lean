import Mt7603u.Proof.Builders
import Mt7603u.Rust.Lib

/-!
# Errors of the exported functions

`Entry` is a call of an exported builder or parser with its inputs, `Entry.Outs` what the caller
gets results in, and `Entry.call` the call. A negative return code leaves the outputs as they were
(`errors_change_nothing_iff`), with one exception: `build_txwi` clears the descriptor before it
checks the length of the header.
-/

namespace Rust

open Slice Slice.Out Word

/-- A call of an exported builder or parser. -/
inductive Entry
  | parseEeprom (buf : Option (List U8))
  | parseRxFrame (data : Option (List U8)) (rssiOffset : Int)
  | parseBeacon (frameBuf : Option (List U8))
  | fwDlLen (fw : Option (List U8))
  | parseAssocReq (frameBuf : Option (List U8))
  | verifyFirmware (fw : Option (List U8))
  | getMacInitSequence
  | getChannelSequence (channel bw : U8)
  | buildOwnMacSequence (mac : Option MacAddr)
  | buildWtblStaSequence (bssid : Option MacAddr)
  | buildApBssSyncSequence (beaconPeriod : U16) (enable : Bool)
  | buildRxFilterSequence (promisc fcsFail : Bool)
  | buildBaSessionSequence (wcid tid baSize : U8) (enable : Bool) (prevDw15 : U32)
  | buildTxwi (params : Option TxParams)
  | buildAddrLenReq (address dlLen : U32) (seq : U8)
  | buildFwStartReq (override address : U32) (seq : U8)
  | buildRestartDlReq (seq : U8)
  | buildFwScatterFrame (chunk : Option (List U8))
  | buildProbeReq (ssid : Option (List U8)) (srcMac : Option MacAddr)
  | buildBeacon (ssid : Option (List U8)) (bssid : Option MacAddr) (channel : U8)
  | buildAssocResp (staMac bssid : Option MacAddr) (aid statusCode : U16)
  | buildChanSwitchCmd (ctrlCh centralCh bw txStreams rxStreams seq : U8)
  | buildTxPowerCtrlCmd (eeprom : Option (List U8)) (centralCh seq : U8)
  | buildEfuseBufferModeCmd (eeprom : Option (List U8)) (seq : U8)
  | buildRadioOnOffCmd (on : Bool) (seq : U8)
  | buildEdcaSetCmd (seq : U8)
  | buildChPrivilegeCmd (channel seq : U8)

/-- The output objects of a call: a struct, or a buffer with the place for the count. -/
def Entry.Outs : Entry → Type
  | .parseEeprom _ => Option EepromData
  | .parseRxFrame _ _ => Option RxInfo
  | .parseBeacon _ => Option StaBssInfo
  | .fwDlLen _ => Option U32
  | .parseAssocReq _ => Option MacAddr × Option U16 × Option U16
  | .verifyFirmware _ => Unit
  | .getMacInitSequence | .getChannelSequence _ _ | .buildOwnMacSequence _
  | .buildWtblStaSequence _ | .buildApBssSyncSequence _ _ | .buildRxFilterSequence _ _
  | .buildBaSessionSequence _ _ _ _ _ => OpsOut
  | .buildTxwi _ => Option (List U8)
  | _ => BytesOut

/-- The return code, and the output objects after the call. -/
def Entry.call : (e : Entry) → e.Outs → Rs Int × e.Outs
  | .parseEeprom buf => rustParseEeprom buf
  | .parseRxFrame data rssiOffset => rustParseRxFrame data rssiOffset
  | .parseBeacon frameBuf => rustParseBeacon frameBuf
  | .fwDlLen fw => rustFwDlLen fw
  | .parseAssocReq frameBuf => rustParseAssocReq frameBuf
  | .verifyFirmware fw => fun _ => (rustVerifyFirmware fw, ())
  | .getMacInitSequence => rustGetMacInitSequence
  | .getChannelSequence channel bw => rustGetChannelSequence channel bw
  | .buildOwnMacSequence mac => rustBuildOwnMacSequence mac
  | .buildWtblStaSequence bssid => rustBuildWtblStaSequence bssid
  | .buildApBssSyncSequence beaconPeriod enable => rustBuildApBssSyncSequence beaconPeriod enable
  | .buildRxFilterSequence promisc fcsFail => rustBuildRxFilterSequence promisc fcsFail
  | .buildBaSessionSequence wcid tid baSize enable prevDw15 =>
    rustBuildBaSessionSequence wcid tid baSize enable prevDw15
  | .buildTxwi params => rustBuildTxwi params
  | .buildAddrLenReq address dlLen seq => rustBuildAddrLenReq address dlLen seq
  | .buildFwStartReq override address seq => rustBuildFwStartReq override address seq
  | .buildRestartDlReq seq => rustBuildRestartDlReq seq
  | .buildFwScatterFrame chunk => rustBuildFwScatterFrame chunk
  | .buildProbeReq ssid srcMac => rustBuildProbeReq ssid srcMac
  | .buildBeacon ssid bssid channel => rustBuildBeacon ssid bssid channel
  | .buildAssocResp staMac bssid aid statusCode => rustBuildAssocResp staMac bssid aid statusCode
  | .buildChanSwitchCmd ctrlCh centralCh bw txStreams rxStreams seq =>
    rustBuildChanSwitchCmd ctrlCh centralCh bw txStreams rxStreams seq
  | .buildTxPowerCtrlCmd eeprom centralCh seq => rustBuildTxPowerCtrlCmd eeprom centralCh seq
  | .buildEfuseBufferModeCmd eeprom seq => rustBuildEfuseBufferModeCmd eeprom seq
  | .buildRadioOnOffCmd on seq => rustBuildRadioOnOffCmd on seq
  | .buildEdcaSetCmd seq => rustBuildEdcaSetCmd seq
  | .buildChPrivilegeCmd channel seq => rustBuildChPrivilegeCmd channel seq

/-- A negative code leaves the outputs as they were. -/
def ErrorKeeps {ω : Type} (call : ω → Rs Int × ω) (outs : ω) : Prop :=
  ∀ code < 0, (call outs).1 = .ok code → (call outs).2 = outs

/-! ## The shapes of calls -/

section
variable {α β : Type}

theorem keeps_parseInto {parsed : Option (Rs α)} (out : Option α) :
    ErrorKeeps (parseInto parsed) out := by
  intro code hneg h
  unfold parseInto at h ⊢
  split at h
  · split at h
    · cases h
      omega
    · rfl
    · rfl
  · rfl

theorem keeps_buildInto {build : Option (Out β Nat)} (hB : ∀ B ∈ build, B.Atomic)
    (outs : Option (List β) × Option Nat) :
    ErrorKeeps (fun outs => buildInto build outs.1 outs.2) outs := by
  obtain ⟨buf, written⟩ := outs
  intro code hneg h
  cases build with
  | none => rfl
  | some B =>
    cases buf with
    | none => rfl
    | some b =>
      cases written with
      | none => rfl
      | some n =>
        have hat := hB B rfl b code
        simp only [buildInto] at h ⊢
        rcases hb : B b with ⟨r, b'⟩
        rw [hb] at h hat
        cases r with
        | ok k =>
          cases h
          omega
        | error e =>
          cases e with
          | errno c =>
            obtain rfl : c = code := by simpa using h
            obtain rfl : b' = b := hat rfl
            rfl
          | _ => cases h

theorem keeps_build {B : Out β Nat} (hB : B.Atomic) (outs : Option (List β) × Option Nat) :
    ErrorKeeps (fun outs => buildInto (some B) outs.1 outs.2) outs :=
  keeps_buildInto (fun _ h => Option.some.inj h ▸ hB) outs

theorem keeps_map {γ : Type} {f : γ → Out β Nat} (hf : ∀ c, (f c).Atomic) (input : Option γ)
    (outs : Option (List β) × Option Nat) :
    ErrorKeeps (fun outs => buildInto (input.map f) outs.1 outs.2) outs := by
  refine keeps_buildInto (fun B hB => ?_) outs
  obtain ⟨c, -, rfl⟩ := Option.map_eq_some_iff.1 hB
  exact hf c

end

/-! ## The builders -/

theorem atomic_fwTxdFrame {cid : U8} {pqId : U16} {setQuery extCid seq : U8} {needRsp : Bool}
    {hdrSize : Nat} {payload : List U8} :
    (buildFwTxdFrame cid pqId setQuery extCid seq needRsp hdrSize payload).Atomic :=
  atomic_sized (codeless_bind codeless_writeVolatileFrom fun _ =>
    codeless_bind codeless_setFrom fun _ => codeless_copyBytes)

theorem atomic_setSeq {n : Nat} {code : Int} {seq : List RegWriteOp} :
    (sized n code (setFrom 0 seq)).Atomic := atomic_sized codeless_setFrom

theorem atomic_channelSequence (channel bw : U8) : (buildChannelSequence channel bw).Atomic := by
  unfold buildChannelSequence
  split
  · exact atomic_fail
  · exact atomic_sized codeless_copyFromSlice

theorem atomic_baSessionSequence (wcid tid baSize : U8) (enable : Bool) (prevDw15 : U32) :
    (buildBaSessionSequence wcid tid baSize enable prevDw15).Atomic := by
  unfold buildBaSessionSequence
  split
  · exact atomic_fail
  · exact atomic_setSeq

theorem atomic_fwScatterFrame (chunk : List U8) : (buildFwScatterFrame chunk).Atomic := by
  unfold buildFwScatterFrame
  split
  · exact atomic_fail
  · exact atomic_fwTxdFrame

theorem atomic_probeRequest (ssid : List U8) (srcMac : MacAddr) :
    (buildProbeRequest ssid srcMac).Atomic := by
  refine atomic_sized ?_
  repeat refine codeless_bind (by simp) fun _ => ?_
  exact codeless_copyBytes

theorem atomic_beacon (ssid : List U8) (bssid : MacAddr) (channel : U8) :
    (buildBeacon ssid bssid channel).Atomic := by
  refine atomic_sized ?_
  repeat refine codeless_bind (by simp) fun _ => ?_
  exact codeless_set

theorem atomic_assocResp (staMac bssid : MacAddr) (aid statusCode : U16) :
    (buildAssocResp staMac bssid aid statusCode).Atomic := by
  refine atomic_sized ?_
  repeat refine codeless_bind (by simp) fun _ => ?_
  exact codeless_copyFromSlice

theorem keeps_assocResp (staMac bssid : Option MacAddr) (aid statusCode : U16) (outs : BytesOut) :
    ErrorKeeps (rustBuildAssocResp staMac bssid aid statusCode) outs := by
  refine keeps_buildInto (fun B hB => ?_) outs
  obtain ⟨sta, -, hB⟩ := Option.bind_eq_some_iff.1 hB
  obtain ⟨b, -, rfl⟩ := Option.map_eq_some_iff.1 hB
  exact atomic_assocResp sta b aid statusCode

theorem keeps_assocReq (frameBuf : Option (List U8))
    (outs : Option MacAddr × Option U16 × Option U16) :
    ErrorKeeps (rustParseAssocReq frameBuf) outs := by
  intro code hneg h
  unfold rustParseAssocReq at h ⊢
  split at h
  · split at h
    · cases h
      omega
    · rfl
    · rfl
  · rfl

/-! ## TX descriptors -/

/-- `build_txwi` gets past its first two checks with an odd header length. -/
def TxParams.RefusedLate (p : TxParams) (buf : List U8) : Prop :=
  TXWI_SIZE ≤ buf.length ∧ p.pktLen.toNat + TXWI_SIZE ≤ 0xffff ∧ p.hdrLen.toNat % 2 = 1

theorem odd_hdrLen (p : TxParams) :
    p.hdrLen.setWidth 32 &&& 1 ≠ (0 : U32) ↔ p.hdrLen.toNat % 2 = 1 := by
  rw [Ne, ← BitVec.toNat_inj, BitVec.toNat_and, BitVec.toNat_setWidth]
  have h := p.hdrLen.isLt
  rw [Nat.mod_eq_of_lt (by omega), show (1 : U32).toNat = 1 from rfl, Nat.and_one_is_mod,
    show (0 : U32).toNat = 0 from rfl]
  omega

/-- The late refusal has cleared the descriptor. -/
theorem buildTxwi_late {p : TxParams} {buf : List U8} (h : p.RefusedLate buf) :
    buildTxwi p buf =
      (.error (.errno (-EINVAL)), List.replicate TXWI_SIZE 0 ++ buf.drop TXWI_SIZE) := by
  obtain ⟨hb, hl, ho⟩ := h
  rw [buildTxwi, len_bind, if_neg (by omega), if_neg (by omega), fill_bind (by omega) hb,
    if_pos ((odd_hdrLen p).2 ho), overwrite_zero, List.length_replicate]
  rfl

/-- Every other refusal comes before the first store. -/
theorem buildTxwi_early {p : TxParams} {buf : List U8} {code : Int} (h : ¬p.RefusedLate buf)
    (he : (buildTxwi p buf).1 = .error (.errno code)) : (buildTxwi p buf).2 = buf := by
  by_cases hb : buf.length < TXWI_SIZE
  · rw [buildTxwi, len_bind, if_pos hb]
    rfl
  by_cases hl : 0xffff < p.pktLen.toNat + TXWI_SIZE
  · rw [buildTxwi, len_bind, if_neg hb, if_pos hl]
    rfl
  have heven : p.hdrLen.setWidth 32 &&& 1 = (0 : U32) :=
    Classical.not_not.1 fun ho => h ⟨by omega, by omega, (odd_hdrLen p).1 ho⟩
  rw [buildTxwi_eq p buf (by omega) (by omega) heven] at he
  cases hr : txwiRate p with
  | ok r =>
    rw [hr] at he
    cases he
  | error e =>
    -- the rate tables panic, they return no code
    rw [hr, txRateToTmi_error hr] at he
    cases he

/-- The descriptor the caller passed is all zeros already. -/
def Cleared (buf : List U8) : Prop := buf.take TXWI_SIZE = List.replicate TXWI_SIZE 0

theorem keeps_txwi_iff (p : TxParams) (buf : List U8) :
    ErrorKeeps (rustBuildTxwi (some p)) (some buf) ↔ ¬p.RefusedLate buf ∨ Cleared buf := by
  by_cases hlate : p.RefusedLate buf
  · have hcall : rustBuildTxwi (some p) (some buf) =
        (.ok (-EINVAL), some (List.replicate TXWI_SIZE 0 ++ buf.drop TXWI_SIZE)) := by
      simp only [rustBuildTxwi, buildTxwi_late hlate]
    have hsplit : List.replicate TXWI_SIZE 0 ++ buf.drop TXWI_SIZE = buf ↔ Cleared buf := by
      constructor
      · intro h
        rw [Cleared, ← h, List.take_left' (List.length_replicate ..)]
      · intro h
        rw [← h, List.take_append_drop]
    constructor
    · intro h
      have hkept := h (-EINVAL) (by decide) (by rw [hcall])
      rw [hcall] at hkept
      exact .inr (hsplit.1 (Option.some.inj hkept))
    · rintro (h | h)
      · exact absurd hlate h
      · intro code _ _
        rw [hcall]
        exact congrArg some (hsplit.2 h)
  · refine ⟨fun _ => .inl hlate, fun _ code hneg h => ?_⟩
    have hearly := @buildTxwi_early p buf code hlate
    simp only [rustBuildTxwi] at h ⊢
    rcases hb : buildTxwi p buf with ⟨r, buf'⟩
    rw [hb] at h hearly
    cases r with
    | ok n =>
      cases h
      omega
    | error e =>
      cases e with
      | errno c =>
        obtain rfl : c = code := by simpa using h
        obtain rfl : buf' = buf := hearly rfl
        rfl
      | _ => cases h

/-! ## All of them -/

/-- A call that changes nothing if it is refused: every call but a `build_txwi` that is refused for
its header length with something in the descriptor. -/
def Entry.Keeps : (e : Entry) → e.Outs → Prop
  | .buildTxwi (some p), some buf => ¬p.RefusedLate buf ∨ Cleared buf
  | _, _ => True

/-- **Errors change nothing**, except that `build_txwi` clears the descriptor before it refuses an
odd header length. -/
theorem errors_change_nothing_iff (e : Entry) (outs : e.Outs) :
    ErrorKeeps e.call outs ↔ e.Keeps outs := by
  cases e with
  | parseEeprom buf => exact iff_of_true (keeps_parseInto outs) trivial
  | parseRxFrame data rssiOffset => exact iff_of_true (keeps_parseInto outs) trivial
  | parseBeacon frameBuf => exact iff_of_true (keeps_parseInto outs) trivial
  | fwDlLen fw => exact iff_of_true (keeps_parseInto outs) trivial
  | parseAssocReq frameBuf => exact iff_of_true (keeps_assocReq frameBuf outs) trivial
  | verifyFirmware fw => exact iff_of_true (fun _ _ _ => rfl) trivial
  | getMacInitSequence =>
    exact iff_of_true (keeps_build (atomic_sized codeless_copyFromSlice) outs) trivial
  | getChannelSequence channel bw =>
    exact iff_of_true (keeps_build (atomic_channelSequence channel bw) outs) trivial
  | buildOwnMacSequence mac =>
    exact iff_of_true (keeps_map (fun _ => atomic_setSeq) mac outs) trivial
  | buildWtblStaSequence bssid =>
    exact iff_of_true (keeps_map (fun _ => atomic_setSeq) bssid outs) trivial
  | buildApBssSyncSequence beaconPeriod enable =>
    exact iff_of_true (keeps_build atomic_setSeq outs) trivial
  | buildRxFilterSequence promisc fcsFail =>
    exact iff_of_true (keeps_build atomic_setSeq outs) trivial
  | buildBaSessionSequence wcid tid baSize enable prevDw15 =>
    exact iff_of_true
      (keeps_build (atomic_baSessionSequence wcid tid baSize enable prevDw15) outs) trivial
  | buildTxwi params =>
    cases params with
    | none => exact iff_of_true (fun _ _ _ => rfl) trivial
    | some p =>
      cases outs with
      | none => exact iff_of_true (fun _ _ _ => rfl) trivial
      | some buf => exact keeps_txwi_iff p buf
  | buildAddrLenReq address dlLen seq =>
    exact iff_of_true (keeps_build atomic_fwTxdFrame outs) trivial
  | buildFwStartReq override address seq =>
    exact iff_of_true (keeps_build atomic_fwTxdFrame outs) trivial
  | buildRestartDlReq seq => exact iff_of_true (keeps_build atomic_fwTxdFrame outs) trivial
  | buildFwScatterFrame chunk =>
    exact iff_of_true (keeps_map atomic_fwScatterFrame chunk outs) trivial
  | buildProbeReq ssid srcMac =>
    exact iff_of_true (keeps_map (atomic_probeRequest _) srcMac outs) trivial
  | buildBeacon ssid bssid channel =>
    exact iff_of_true (keeps_map (fun b => atomic_beacon _ b channel) bssid outs) trivial
  | buildAssocResp staMac bssid aid statusCode =>
    exact iff_of_true (keeps_assocResp staMac bssid aid statusCode outs) trivial
  | buildChanSwitchCmd ctrlCh centralCh bw txStreams rxStreams seq =>
    exact iff_of_true (keeps_build atomic_fwTxdFrame outs) trivial
  | buildTxPowerCtrlCmd eeprom centralCh seq =>
    exact iff_of_true (keeps_map (fun _ => atomic_fwTxdFrame) eeprom outs) trivial
  | buildEfuseBufferModeCmd eeprom seq =>
    exact iff_of_true (keeps_map (fun _ => atomic_fwTxdFrame) eeprom outs) trivial
  | buildRadioOnOffCmd on seq => exact iff_of_true (keeps_build atomic_fwTxdFrame outs) trivial
  | buildEdcaSetCmd seq => exact iff_of_true (keeps_build atomic_fwTxdFrame outs) trivial
  | buildChPrivilegeCmd channel seq =>
    exact iff_of_true (keeps_build atomic_fwTxdFrame outs) trivial

/-- A header of 23 bytes is refused, and the 32 bytes of the descriptor are gone. -/
theorem txwi_odd_header_clears :
    (Entry.buildTxwi (some { hdrLen := 23 })).call (some (List.replicate 32 0xFF)) =
        (.ok (-22), some (List.replicate 32 0)) ∧
      ¬ErrorKeeps (Entry.buildTxwi (some { hdrLen := 23 })).call
        (some (List.replicate 32 0xFF)) := by
  have hlate : ({ hdrLen := 23 } : TxParams).RefusedLate (List.replicate 32 0xFF) := by
    refine ⟨?_, by decide, by decide⟩
    rw [List.length_replicate]
    exact Nat.le_refl _
  have hcall : rustBuildTxwi (some { hdrLen := 23 }) (some (List.replicate 32 0xFF)) =
      (.ok (-22), some (List.replicate 32 0)) := by
    simp only [rustBuildTxwi, buildTxwi_late hlate]
    rfl
  refine ⟨hcall, fun hkeeps => ?_⟩
  have hsame := hkeeps (-22) (by decide) (congrArg Prod.fst hcall)
  exact absurd ((congrArg Prod.snd hcall).symm.trans hsame) (by decide)

end Rust
