import Mt7603u.Proof.Download

/-!
# The length an image declares

The last four bytes of an image declare the length of its code, and the download is to upload that
many bytes and the four of the CRC. `fw_dl_len` adds the four in 32 bits and the size check compares
the sum, so what the download honours is the sum modulo 2^32. `download_length`: an exchange ends
before its start request, or it has uploaded the first `dlLen` bytes of the image.
`fwLength_honoured_iff` compares that with the declared length.
-/

namespace Driver

open Effect Slice Word Rust

/-! ## What is uploaded -/

/-- The transfer of a request, if it went out. -/
def sentTransfer : (e : Req) → e.Resp → Option (List U8)
  | .bulkOut _ buf, (r : Int) => if 0 ≤ r then some buf else none
  | _, _ => none

/-- The transfers that went out, in order. -/
def transferred (tr : List (Event sig)) : List (List U8) :=
  tr.filterMap fun ev => sentTransfer ev.req ev.resp

/-- The bytes that were uploaded: the payloads of the scatter commands that went out. -/
def uploaded (tr : List (Event sig)) : List U8 :=
  (((transferred tr).map decodeCmd).filter (·.cid = MT_FW_SCATTER)).flatMap Cmd.payload

section
variable {tr t t' : List (Event sig)}

theorem uploaded_append : uploaded (t ++ t') = uploaded t ++ uploaded t' := by
  simp only [uploaded, transferred, List.filterMap_append, List.map_append, List.filter_append,
    List.flatMap_append]

@[simp] theorem cmds_append : cmds (t ++ t') = cmds t ++ cmds t' := by
  rw [cmds, sends_append, List.map_append]
  rfl

theorem cmds_eq_nil (h : sends tr = []) : cmds tr = [] := by
  rw [cmds, h, List.map_nil]

theorem mem_sends_of_transferred {buf : List U8} (h : buf ∈ transferred tr) : buf ∈ sends tr := by
  obtain ⟨⟨e, r⟩, hev, hs⟩ := List.mem_filterMap.1 h
  refine List.mem_filterMap.2 ⟨⟨e, r⟩, hev, ?_⟩
  cases e with
  | bulkOut ep b =>
    dsimp only [sentTransfer] at hs
    split at hs
    · exact hs
    · cases hs
  | _ => cases hs

theorem uploaded_eq_nil (h : ∀ c ∈ cmds tr, c.cid ≠ MT_FW_SCATTER) : uploaded tr = [] := by
  unfold uploaded
  rw [List.filter_eq_nil_iff.2, List.flatMap_nil]
  intro c hc
  obtain ⟨buf, hb, rfl⟩ := List.mem_map.1 hc
  have hne := h _ (List.mem_map_of_mem (mem_sends_of_transferred hb))
  simpa using hne

theorem cmds_of_sends {F : List (List U8)} (h : sends tr <+: F) :
    ∀ c ∈ cmds tr, c ∈ F.map decodeCmd :=
  fun _ hc => (h.map decodeCmd).subset hc

end

/-- What succeeds has sent what it tried to send. -/
def SendsAll (p : P Int) : Prop := ∀ tr ret, Trace p tr ret → 0 ≤ ret → transferred tr = sends tr

section
variable {p q : P Int}

theorem sendsAll_ret {ret : Int} : SendsAll (return ret) := by
  intro tr r ht _
  obtain ⟨rfl, rfl⟩ := trace_ret.1 ht
  rfl

theorem SendsAll.next (hp : SendsAll p) (hq : SendsAll q) :
    SendsAll (p >>= fun ret => if ret < 0 then return ret else q) := by
  intro tr ret ht hr
  rcases trace_next ht with ⟨hneg, -⟩ | ⟨r, t₁, t₂, rfl, hr₁, h1, h2⟩
  · omega
  · rw [transferred, List.filterMap_append, ← transferred, ← transferred, hp t₁ r h1 hr₁,
      hq t₂ ret h2 hr, sends_append]

theorem sendsAll_withFrame {B : Out U8 Nat} {x : List U8 → P Int} (hx : ∀ cmd, SendsAll (x cmd)) :
    SendsAll (withFrame B x) := by
  unfold withFrame
  split
  · exact hx _
  · exact sendsAll_ret
  · exact sendsAll_ret

theorem sendsAll_usbSendCmd (frame : List U8) : SendsAll (usbSendCmd frame) := by
  intro tr ret ht hret
  rcases trace_usbSendCmd ht with ⟨rfl, -⟩ | ⟨r, rfl, rfl⟩
  · exact absurd hret (by decide)
  · have hr : 0 ≤ r := by
      split at hret <;> omega
    have hs : sentTransfer (.bulkOut MT7603_CMD_BULK_OUT (padded frame)) r = some (padded frame) :=
      if_pos hr
    exact (List.filterMap_cons_none rfl).trans (List.filterMap_cons_some hs)

/-- No response URB is submitted. -/
def NoRsp : Req → Prop
  | .submitRsp _ => False
  | _ => True

/-- The upload loop stops at a transfer that fails. -/
theorem sendsAll_scatterLoop (fw : List U8) (dlLen offset : Nat) :
    SendsAll (scatterLoop fw dlLen offset) := by
  induction offset using scatterLoop.induct dlLen with
  | case1 offset h chunkLen ih =>
    unfold scatterLoop
    rw [if_pos h]
    exact sendsAll_withFrame fun cmd => (sendsAll_usbSendCmd cmd).next ih
  | case2 offset h =>
    unfold scatterLoop
    rw [if_neg h]
    exact sendsAll_ret

/-- And it waits for no response. -/
theorem noRsp_scatterLoop {fw : List U8} {dlLen offset : Nat} :
    All (S := sig) NoRsp (scatterLoop fw dlLen offset) :=
  all_scatterLoop (fun _ => trivial) fun _ _ => trivial

end

/-- A whole upload. -/
theorem uploaded_scatterLoop {fw : List U8} {dlLen : Nat} (hd : dlLen ≤ fw.length)
    {tr : List (Event sig)} {ret : Int} (h : Trace (scatterLoop fw dlLen 0) tr ret) :
    (∀ c ∈ cmds tr, c.cid = MT_FW_SCATTER) ∧ (0 ≤ ret → uploaded tr = fw.take dlLen) := by
  obtain ⟨ps, hps, hdo⟩ := does_scatterLoop fw dlLen 0 hd (Nat.zero_le _)
  have hmap : (ps.map scatterTransfer).map decodeCmd = ps.map scatterCmd := by
    rw [List.map_map]
    exact List.map_congr_left fun _ _ => decodeCmd_cmdTransfer
  refine ⟨fun c hc => ?_, fun hr => ?_⟩
  · have hm := cmds_of_sends (hdo.sends_le h) c hc
    rw [hmap] at hm
    obtain ⟨p, -, rfl⟩ := List.mem_map.1 hm
    rfl
  · rcases hdo tr ret h with ⟨hneg, -⟩ | ⟨-, hs, -⟩
    · omega
    have hall : (ps.map scatterCmd).filter (·.cid = MT_FW_SCATTER) = ps.map scatterCmd := by
      simp [scatterCmd]
    rw [uploaded, sendsAll_scatterLoop fw dlLen 0 tr ret h hr, hs, hmap, hall, List.flatMap_map]
    exact List.flatMap_id'.trans hps.flatten

/-! ## How far a download gets -/

/-- An exchange that ends before its start request: at most the restart request is sent before a
part that waits for no response, where the address/length request and scatter commands go out. -/
def Early (tr : List (Event sig)) : Prop :=
  ∃ a b, tr = a ++ b ∧ (∀ c ∈ cmds a, c.cid = MT_RESTART_DL_REQ) ∧ (∀ ev ∈ b, NoRsp ev.req) ∧
    ∀ c ∈ cmds b, c.cid = MT_TARGET_ADDRESS_LEN_REQ ∨ c.cid = MT_FW_SCATTER

section
variable {tr pre t post : List (Event sig)} {ret : Int}

theorem early_of_restart (h : ∀ c ∈ cmds tr, c.cid = MT_RESTART_DL_REQ) : Early tr :=
  ⟨tr, [], (List.append_nil tr).symm, h, by simp, by simp [cmds]⟩

theorem early_of_sends_nil (h : sends tr = []) : Early tr :=
  early_of_restart (by simp [cmds_eq_nil h])

theorem Early.before (h : Early t) (hp : ∀ c ∈ cmds pre, c.cid = MT_RESTART_DL_REQ) :
    Early (pre ++ t) := by
  obtain ⟨a, b, rfl, ha, hb, hc⟩ := h
  refine ⟨pre ++ a, b, by simp, ?_, hb, hc⟩
  rw [cmds_append]
  exact List.forall_mem_append.2 ⟨hp, ha⟩

theorem Early.behind (h : Early t) (hn : ∀ ev ∈ post, NoRsp ev.req)
    (hp : ∀ c ∈ cmds post, c.cid = MT_FW_SCATTER) : Early (t ++ post) := by
  obtain ⟨a, b, rfl, ha, hb, hc⟩ := h
  refine ⟨a, b ++ post, by simp, ha, List.forall_mem_append.2 ⟨hb, hn⟩, ?_⟩
  rw [cmds_append]
  exact List.forall_mem_append.2 ⟨hc, fun c hm => .inr (hp c hm)⟩

/-- The address/length request, as far as it gets. -/
theorem early_addrLen {cmd : List U8} {dlLen : U32} {seq : U8}
    (hf : padded cmd = waitTransfer (addrLenCmd dlLen seq)) (h : Trace (sendWaiting cmd) tr ret) :
    Early tr ∧ ∀ c ∈ cmds tr, c.cid = MT_TARGET_ADDRESS_LEN_REQ := by
  have hcmd : ∀ {t : List (Event sig)}, sends t <+: [padded cmd] →
      ∀ c ∈ cmds t, c.cid = MT_TARGET_ADDRESS_LEN_REQ := by
    intro t ht c hc
    have hm := cmds_of_sends ht c hc
    rw [hf, List.map_singleton, waitTransfer, decodeCmd_cmdTransfer] at hm
    rw [List.mem_singleton.1 hm]
    rfl
  refine ⟨?_, hcmd ((does_sendWaiting cmd).sends_le h)⟩
  rcases trace_next h with ⟨-, h1⟩ | ⟨s, t₁, t₂, rfl, -, h1, h2⟩
  · obtain rfl := trace_submitRsp h1
    exact early_of_sends_nil rfl
  · obtain rfl := trace_submitRsp h1
    have hd := (does_usbSendCmd cmd).next fun _ => does_quiet (all_waitDone trivial)
    refine ⟨_, t₂, rfl, by simp [cmds, sends], trace_all ?_ h2, fun c hc => ?_⟩
    · exact all_next (all_usbSendCmd (fun _ => trivial) fun _ _ => trivial) (all_waitDone trivial)
    · exact .inl (hcmd (hd.sends_le h2) c hc)

end

/-- **From the upload to the end**: an upload that fails waits for no response and sends nothing but
scatter commands; one that succeeds has sent all it was to send. -/
theorem upload_length {fw : List U8} {seq : U8} {dlLen : Nat} (hle : dlLen ≤ fw.length)
    {tr : List (Event sig)} {ret : Int}
    (h : Trace (do
      let ret ← scatterLoop fw dlLen 0
      if ret < 0 then return ret
      else
        withFrame (buildFwStartReq 1 MT7603_FW_CODE_START_ADDRESS1 seq) fun cmd => do
          let ret ← sendWaiting cmd
          if ret < 0 then return ret
          else pollTopMisc2 0x02 0x02 MT7603_ROM_READY_POLL_MAX) tr ret) :
    uploaded tr = fw.take dlLen ∨
      (ret < 0 ∧ (∀ ev ∈ tr, NoRsp ev.req) ∧ ∀ c ∈ cmds tr, c.cid = MT_FW_SCATTER) := by
  rcases trace_next h with ⟨hneg, h1⟩ | ⟨r, t₁, t₂, rfl, hr, h1, h2⟩
  · exact .inr ⟨hneg, trace_all noRsp_scatterLoop h1,
      (uploaded_scatterLoop hle h1).1⟩
  obtain ⟨g, hg, hw⟩ := withFrame_start seq
  rw [hw] at h2
  have hstart : ∀ c ∈ cmds t₂, c.cid ≠ MT_FW_SCATTER := by
    intro c hc
    have hd := (does_sendWaiting g).next fun _ =>
      does_quiet (@all_pollTopMisc2 Quiet 0x02 0x02 MT7603_ROM_READY_POLL_MAX trivial)
    have hm := cmds_of_sends (hd.sends_le h2) c hc
    rw [hg, List.append_nil, List.map_singleton, waitTransfer, decodeCmd_cmdTransfer] at hm
    rw [List.mem_singleton.1 hm]
    exact show MT_FW_START_REQ ≠ MT_FW_SCATTER by decide
  rw [uploaded_append, (uploaded_scatterLoop hle h1).2 hr, uploaded_eq_nil hstart, List.append_nil]
  exact .inl rfl

/-- **How far the body gets.** Before its start request, and then not to the upload if the length
does not fit, or all through the upload. -/
theorem downloadBody_length {fw : List U8} {seq : U8} {dlLen : U32} (hd : fwDlLen fw = some dlLen)
    {tr : List (Event sig)} {ret : Int} (h : Trace (downloadBody fw seq) tr ret) :
    (dlLen.toNat ≤ fw.length ∧ uploaded tr = fw.take dlLen.toNat) ∨
      (ret < 0 ∧ Early tr ∧ (fw.length < dlLen.toNat → ∀ c ∈ cmds tr, c.cid ≠ MT_FW_SCATTER)) := by
  unfold downloadBody at h
  obtain ⟨r₀, t₀, t, rfl, h0, h⟩ := trace_bind.1 h
  have hs0 : sends t₀ = [] := sends_quiet (all_pollTopMisc2 trivial) h0
  have hc0 : cmds t₀ = [] := cmds_eq_nil hs0
  have hpre : ∀ c ∈ cmds t₀, c.cid = MT_RESTART_DL_REQ := by simp [hc0]
  split at h
  · obtain ⟨x, t₁, t₂, rfl, h1, h2⟩ := trace_bind.1 h
    obtain ⟨rfl, rfl⟩ := trace_ret.1 h2
    have hs1 : sends t₁ = [] := sends_quiet (all_usbReadReg trivial) h1
    have hs : sends (t₀ ++ (t₁ ++ [])) = [] := by simp [hs0, hs1]
    refine .inr ⟨by assumption, early_of_sends_nil hs, fun _ => ?_⟩
    rw [cmds_eq_nil hs]
    nofun
  rw [hd] at h
  dsimp only at h
  obtain ⟨f, hf, hw⟩ := withFrame_addrLen dlLen (nextCmdSeq seq)
  rw [hw] at h
  have hne : MT_TARGET_ADDRESS_LEN_REQ ≠ MT_FW_SCATTER := by decide
  rcases trace_next h with ⟨hneg, h1⟩ | ⟨r₁, t₁, t₂, rfl, -, h1, h2⟩
  · obtain ⟨he, hc⟩ := early_addrLen hf h1
    refine .inr ⟨hneg, he.before hpre, fun _ c hm => ?_⟩
    rw [cmds_append, hc0, List.nil_append] at hm
    rw [hc c hm]
    exact hne
  obtain ⟨he, hc1⟩ := early_addrLen hf h1
  split at h2
  · obtain ⟨rfl, rfl⟩ := trace_ret.1 h2
    rw [List.append_nil, cmds_append, hc0, List.nil_append]
    refine .inr ⟨by decide, he.before hpre, fun _ c hm => ?_⟩
    rw [hc1 c hm]
    exact hne
  rename_i hlen
  have hle : dlLen.toNat ≤ fw.length := Nat.not_lt.1 hlen
  rcases upload_length hle h2 with hu | ⟨hneg, hn, hc⟩
  · have hu1 : uploaded t₁ = [] := uploaded_eq_nil fun c hm => by
      rw [hc1 c hm]
      exact hne
    rw [uploaded_append, uploaded_append, uploaded_eq_nil (by simp [hc0]), hu1, hu]
    exact .inl ⟨hle, by simp⟩
  · exact .inr ⟨hneg, (he.behind hn hc).before hpre, fun hlt => absurd hlt hlen⟩

/-- **How far a download gets**, whatever it is answered. -/
theorem download_length {fw : List U8} {dlLen : U32} (hd : fwDlLen fw = some dlLen)
    {tr : List (Event sig)} {ret : Int} (h : Trace (downloadFirmware fw) tr ret) :
    (dlLen.toNat ≤ fw.length ∧ uploaded tr = fw.take dlLen.toNat) ∨
      (ret < 0 ∧ Early tr ∧ (fw.length < dlLen.toNat → ∀ c ∈ cmds tr, c.cid ≠ MT_FW_SCATTER)) := by
  rcases download_cases h with ⟨hr, hs⟩ | ⟨seq, pre, body, post, rfl, hpre, hpost, hbody⟩
  · exact .inr ⟨hr, early_of_sends_nil hs, fun _ => by simp [cmds_eq_nil hs]⟩
  obtain ⟨rs, hst, hrs⟩ := starts_of_prepared (t := body ++ post) hpre
  have hcpre : ∀ c ∈ cmds pre, c.cid = MT_RESTART_DL_REQ := by
    intro c hc
    rw [cmds, hrs, decodeCmd_waitTransfers] at hc
    rw [hst.eq_restartCmd c hc]
    rfl
  have hcpost : cmds post = [] := cmds_eq_nil (sends_regAccess hpost)
  have hnpost : ∀ ev ∈ post, NoRsp ev.req := by
    intro ev hev
    have hr := hpost ev hev
    revert hr
    cases ev.req <;> simp [RegAccess, NoRsp]
  have hne : MT_RESTART_DL_REQ ≠ MT_FW_SCATTER := by decide
  have hpreNe : ∀ c ∈ cmds pre, c.cid ≠ MT_FW_SCATTER := fun c hc => by
    rw [hcpre c hc]
    exact hne
  rcases hbody with hb | ⟨hneg, rfl⟩
  · rcases downloadBody_length hd hb with ⟨hle, hu⟩ | ⟨hneg, he, hsc⟩
    · refine .inl ⟨hle, ?_⟩
      rw [uploaded_append, uploaded_append, uploaded_eq_nil hpreNe, hu,
        uploaded_eq_nil (by simp [hcpost]), List.append_nil, List.nil_append]
    · refine .inr ⟨hneg, (he.behind hnpost (by simp [hcpost])).before hcpre, fun hlt => ?_⟩
      rw [cmds_append, cmds_append, hcpost, List.append_nil]
      exact List.forall_mem_append.2 ⟨hpreNe, hsc hlt⟩
  · refine .inr ⟨hneg, early_of_restart ?_, fun _ => ?_⟩
    · rw [cmds_append, List.nil_append, hcpost, List.append_nil]
      exact hcpre
    · rw [cmds_append, List.nil_append, hcpost, List.append_nil]
      exact hpreNe

/-- The start request is reached: it is sent, or at least a response URB is submitted for it, the
only one behind the address/length request. -/
def StartReached (tr : List (Event sig)) : Prop :=
  (∃ c ∈ cmds tr, c.cid = MT_FW_START_REQ) ∨
    ∃ t₁ t₂, tr = t₁ ++ t₂ ∧ (∃ c ∈ cmds t₁, c.cid = MT_TARGET_ADDRESS_LEN_REQ) ∧
      ∃ ev ∈ t₂, ev.req = .submitRsp MT7603_DATA_BULK_IN

theorem Early.not_startReached {tr : List (Event sig)} (h : Early tr) : ¬StartReached tr := by
  obtain ⟨a, b, rfl, ha, hb, hc⟩ := h
  rintro (⟨c, hm, hcid⟩ | ⟨t₁, t₂, he, ⟨c, hm, hcid⟩, ev, hev, hreq⟩)
  · rw [cmds_append] at hm
    rcases List.mem_append.1 hm with hm | hm
    · rw [ha c hm] at hcid
      exact absurd hcid (by decide)
    · rcases hc c hm with h' | h' <;> rw [h'] at hcid <;> exact absurd hcid (by decide)
  · rcases List.append_eq_append_iff.1 he with ⟨u, rfl, rfl⟩ | ⟨u, rfl, rfl⟩
    · have hn := hb ev (List.mem_append_right u hev)
      rw [hreq] at hn
      exact hn
    · rw [ha c (by rw [cmds_append]; exact List.mem_append_left _ hm)] at hcid
      exact absurd hcid (by decide)

/-! ## The declared length -/

/-- The last four bytes, read little-endian as an integer. -/
def declaredLen (fw : List U8) : Nat :=
  (fw.drop (fw.length - 4)).foldr (fun b n => b.toNat + 256 * n) 0

theorem le32_toNat (b0 b1 b2 b3 : U8) :
    (le32 b0 b1 b2 b3).toNat = [b0, b1, b2, b3].foldr (fun b n => b.toNat + 256 * n) 0 := by
  have happ : ∀ {w : Nat} (x : BitVec w) (b : U8), (x ++ b).toNat = b.toNat + 256 * x.toNat := by
    intro w x b
    rw [BitVec.toNat_append, ← Nat.shiftLeft_add_eq_or_of_lt b.isLt, Nat.shiftLeft_eq]
    omega
  rw [le32, happ, happ, happ]
  rfl

/-- `fw_dl_len` adds in 32 bits. -/
theorem fwDlLen_declared {fw : List U8} (h : 4 ≤ fw.length) :
    ∃ dlLen, fwDlLen fw = some dlLen ∧ dlLen.toNat = (declaredLen fw + 4) % 2 ^ 32 ∧
      declaredLen fw < 2 ^ 32 := by
  have hl : (fw.drop (fw.length - 4)).length = 4 := by
    rw [List.length_drop]
    omega
  obtain ⟨b0, b1, b2, b3, hb⟩ := List.length_eq_four.1 hl
  refine ⟨le32 b0 b1 b2 b3 + 4, by rw [fwDlLen, hb], ?_⟩
  rw [BitVec.toNat_add, declaredLen, hb, ← le32_toNat]
  exact ⟨rfl, (le32 b0 b1 b2 b3).isLt⟩

/-- The declared length is honoured: a download that reaches the start request has uploaded that
many bytes and the CRC, and an image that is too short for them is refused before the upload. -/
structure LengthHonoured (fw : List U8) : Prop where
  exact : ∀ tr ret, Trace (downloadFirmware fw) tr ret → StartReached tr →
    (uploaded tr).length = declaredLen fw + 4 ∧ uploaded tr = fw.take (declaredLen fw + 4)
  refused : fw.length < declaredLen fw + 4 → ∀ tr ret, Trace (downloadFirmware fw) tr ret →
    ret < 0 ∧ ¬StartReached tr ∧ ∀ c ∈ cmds tr, c.cid ≠ MT_FW_SCATTER

theorem honoured_of_fits {fw : List U8} (hl : 4 ≤ fw.length) (h : declaredLen fw + 4 < 2 ^ 32) :
    LengthHonoured fw := by
  obtain ⟨dlLen, hd, hn, -⟩ := fwDlLen_declared hl
  rw [Nat.mod_eq_of_lt h] at hn
  refine ⟨fun tr ret ht hst => ?_, fun hlt tr ret ht => ?_⟩
  · rcases download_length hd ht with ⟨hle, hu⟩ | ⟨-, he, -⟩
    · rw [hn] at hle hu
      exact ⟨by rw [hu, List.length_take, Nat.min_eq_left hle], hu⟩
    · exact absurd hst he.not_startReached
  · rcases download_length hd ht with ⟨hle, -⟩ | ⟨hneg, he, hsc⟩
    · omega
    · exact ⟨hneg, he.not_startReached, hsc (by omega)⟩

/-! ## A device that answers -/

/-- A device that does all it is asked for; every register reads 3, RAM firmware running and ROM
ready. -/
def readyDevice : (e : Req) → e.Resp
  | .readReg _ => ((4 : Int), (3 : U32))
  | .writeReg _ _ => (4 : Int)
  | .bulkOut _ _ => (0 : Int)
  | .submitRsp _ => (0 : Int)
  | .waitRsp => (0 : Int)
  | .alloc _ => true
  | .getBss _ => none
  | .scheduleBeacon => ()
  | .cancelBeacon => ()
  | .stopTxBaCb _ _ => ()

theorem eval_next {p q : P Int} (hp : p.eval (S := sig) readyDevice = 0) :
    (p >>= fun ret => if ret < 0 then return ret else q).eval (S := sig) readyDevice =
      q.eval (S := sig) readyDevice := by
  rw [eval_bind, hp]
  rfl

theorem eval_scatterLoop (fw : List U8) (dlLen offset : Nat) :
    (scatterLoop fw dlLen offset).eval (S := sig) readyDevice = 0 := by
  induction offset using scatterLoop.induct dlLen with
  | case1 offset h chunkLen ih =>
    obtain ⟨f, -, hw⟩ := withFrame_scatter ((fw.drop offset).take chunkLen)
      ((List.length_take_le _ _).trans (Nat.min_le_right _ _))
    unfold scatterLoop
    rw [if_pos h]
    dsimp only
    rw [hw, eval_next rfl]
    exact ih
  | case2 offset h =>
    unfold scatterLoop
    rw [if_neg h]
    rfl

theorem eval_downloadBody {fw : List U8} {dlLen : U32} (hd : fwDlLen fw = some dlLen)
    (hle : dlLen.toNat ≤ fw.length) (seq : U8) :
    (downloadBody fw seq).eval (S := sig) readyDevice = 0 := by
  obtain ⟨f, -, hw⟩ := withFrame_addrLen dlLen (nextCmdSeq seq)
  obtain ⟨g, -, hw'⟩ := withFrame_start (nextCmdSeq (nextCmdSeq seq))
  have hpoll : (pollTopMisc2 0x01 0x01 MT7603_ROM_READY_POLL_MAX).eval (S := sig) readyDevice = 0 :=
    rfl
  unfold downloadBody
  rw [eval_bind, hpoll, if_neg (by decide), hd]
  dsimp only
  rw [hw, eval_next rfl, if_neg (Nat.not_lt.2 hle), eval_next (eval_scatterLoop ..), hw',
    eval_next rfl]
  rfl

/-- Such a device lets the download of an image through if it holds `dlLen` bytes. -/
theorem download_succeeds {fw : List U8} {dlLen : U32} (hd : fwDlLen fw = some dlLen)
    (hle : dlLen.toNat ≤ fw.length) : ∃ tr, Trace (downloadFirmware fw) tr 0 := by
  obtain ⟨tr, ht, -⟩ := trace_eval (S := sig) readyDevice (downloadFirmware fw)
  have hz : (downloadFirmware fw).eval (S := sig) readyDevice = 0 := by
    unfold downloadFirmware
    rw [eval_next rfl, eval_bind]
    have hread : (usbReadReg MT7603_TOP_MISC2 0).eval (S := sig) readyDevice = (0, 3) := rfl
    rw [hread]
    dsimp only
    rw [if_neg (by decide), eval_bind, eval_next rfl, eval_bind]
    have halloc : (alloc (MT7603_FW_SCATTER_MAX_PAYLOAD + 32)).eval (S := sig) readyDevice = true :=
      rfl
    rw [halloc, eval_bind, if_pos rfl, eval_downloadBody hd hle]
    rfl
  rw [hz] at ht
  exact ⟨tr, ht⟩

theorem not_honoured_of_wraps {fw : List U8} (hl : 4 ≤ fw.length)
    (h : 2 ^ 32 ≤ declaredLen fw + 4) : ¬LengthHonoured fw := by
  obtain ⟨dlLen, hd, hn, hlt⟩ := fwDlLen_declared hl
  have hle : dlLen.toNat ≤ fw.length := by omega
  obtain ⟨tr, ht⟩ := download_succeeds hd hle
  intro hh
  rcases download_length hd ht with ⟨-, hu⟩ | ⟨hneg, -, -⟩
  · have hst : StartReached tr := by
      obtain ⟨rs, d, ps, seq, -, -, -, hz⟩ := download_transfers ht
      refine .inl ⟨startCmd (nextCmdSeq seq), ?_, rfl⟩
      rw [cmds, (hz rfl).1, List.map_append, cmds_bodyTransfers]
      simp
    have hlen := (hh.exact tr 0 ht hst).1
    rw [hu, List.length_take] at hlen
    omega
  · omega

theorem verifyFirmware_length {fw : List U8} (h : verifyFirmware fw = .ok ()) :
    1024 ≤ fw.length := by
  unfold verifyFirmware at h
  split at h
  · cases h
  · omega

/-- **When the declared length is honoured.** Of the images that are accepted, those whose length
does not wrap. -/
theorem fwLength_honoured_iff (fw : List U8) (hv : verifyFirmware fw = .ok ()) :
    LengthHonoured fw ↔ declaredLen fw + 4 < 2 ^ 32 := by
  have hl := verifyFirmware_length hv
  constructor
  · intro h
    by_contra hc
    exact not_honoured_of_wraps (by omega) (Nat.not_lt.1 hc) h
  · exact honoured_of_fits (by omega)

theorem fwLength_honoured_small : LengthHonoured smallFw :=
  (fwLength_honoured_iff smallFw smallFw_verified).2 (by decide +kernel)

/-- An accepted image that declares 4294967292 bytes. -/
def wrappedFw : List U8 :=
  [0x46, 0x00, 0x01, 0x00] ++ List.replicate 1016 0 ++ [0xFC, 0xFF, 0xFF, 0xFF]

/-- It is neither refused nor uploaded: the start request follows the address/length request, which
announces no bytes. -/
theorem fwLength_wraps : verifyFirmware wrappedFw = .ok () ∧ ¬LengthHonoured wrappedFw ∧
    ((downloadFirmware wrappedFw).logRun (scriptedDevice [0, 1, 2] 0)).1 = 0 ∧
    cmds ((downloadFirmware wrappedFw).logRun (scriptedDevice [0, 1, 2] 0)).2 =
      [addrLenCmd 0 1, startCmd 2] := by
  refine ⟨by decide +kernel, ?_, by decide +kernel, by decide +kernel⟩
  exact not_honoured_of_wraps (by decide +kernel) (by decide +kernel)

end Driver
