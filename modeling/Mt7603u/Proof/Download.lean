import Mt7603u.Proof.Exchange

/-!
# What a firmware download sends

The transfers of `downloadFirmware`, read back as commands (`decodeCmd`). The upload loop sends a
`Chunking` of the image from its offset on (`does_scatterLoop`, an induction on what is left);
with the requests around it that is `does_downloadBody`. `download_cases` takes an exchange of
`downloadFirmware` apart into its preparation, its body and the way back, and `download_uploads`
puts the transfers together: in any exchange a prefix of one list, and the whole list if the
download succeeds.
-/

namespace Driver

open Effect Slice Word Rust

/-! ## Commands -/

/-- A download command as the device reads it. -/
structure Cmd where
  cid : U8
  seq : U8
  payload : List U8
  deriving DecidableEq, Repr

/-- The command in a transfer: 12 bytes of header, the payload, the padding. -/
def decodeCmd (buf : List U8) : Cmd :=
  ⟨buf.getD 4 0, buf.getD 7 0, (buf.drop FW_TXD_HDR_SIZE).take
    (buf.length - FW_TXD_HDR_SIZE - MT7603_USB_END_PADDING)⟩

/-- The 16-bit length field of a transfer. -/
def lenField (buf : List U8) : Nat := (le16 (buf.getD 0 0) (buf.getD 1 0)).toNat

/-- The length field counts header and payload, and the transfer is at most one upload unit. -/
structure WellFramed (buf : List U8) : Prop where
  len : lenField buf = FW_TXD_HDR_SIZE + (decodeCmd buf).payload.length
  transfer : buf.length = FW_TXD_HDR_SIZE + (decodeCmd buf).payload.length + MT7603_USB_END_PADDING
  unit : buf.length ≤ MT_UPLOAD_FW_UNIT

/-- The transfer of a download command. -/
def cmdTransfer (pqId : U16) (needRsp : Bool) (c : Cmd) : List U8 :=
  padded (fwTxdImage c.cid pqId CMD_NA EXT_CMD_NA c.seq needRsp FW_TXD_HDR_SIZE c.payload)

section
variable {pqId : U16} {needRsp : Bool} {c : Cmd}

theorem length_cmdTransfer : (cmdTransfer pqId needRsp c).length =
    FW_TXD_HDR_SIZE + c.payload.length + MT7603_USB_END_PADDING := by
  simp only [cmdTransfer, padded, List.length_append, length_fwTxdImage, List.length_replicate]
  omega

@[simp] theorem decodeCmd_cmdTransfer : decodeCmd (cmdTransfer pqId needRsp c) = c := by
  unfold decodeCmd
  rw [length_cmdTransfer]
  have h : FW_TXD_HDR_SIZE + c.payload.length + MT7603_USB_END_PADDING - FW_TXD_HDR_SIZE -
      MT7603_USB_END_PADDING = c.payload.length := by omega
  rw [h]
  obtain ⟨cid, seq, payload⟩ := c
  simp [cmdTransfer, padded, fwTxdImage, fwTxdHeader, FW_TXD_HDR_SIZE, toLe16]

theorem wellFramed_cmdTransfer (h : c.payload.length ≤ MT7603_FW_SCATTER_MAX_PAYLOAD) :
    WellFramed (cmdTransfer pqId needRsp c) := by
  have hu : FW_TXD_HDR_SIZE + MT7603_FW_SCATTER_MAX_PAYLOAD + MT7603_USB_END_PADDING ≤
    MT_UPLOAD_FW_UNIT := by decide
  refine ⟨?_, ?_, ?_⟩
  · rw [decodeCmd_cmdTransfer]
    have hl : lenField (cmdTransfer pqId needRsp c) =
        (le16 ((BitVec.ofNat 16 (c.payload.length + FW_TXD_HDR_SIZE)).extractLsb' 0 8)
          ((BitVec.ofNat 16 (c.payload.length + FW_TXD_HDR_SIZE)).extractLsb' 8 8)).toNat := rfl
    rw [hl, le16_toLe16, BitVec.toNat_ofNat, Nat.mod_eq_of_lt, Nat.add_comm]
    unfold MT_UPLOAD_FW_UNIT at hu
    omega
  · rw [decodeCmd_cmdTransfer, length_cmdTransfer]
  · rw [length_cmdTransfer]
    omega

/-- A download command is built and sent on. -/
theorem withFrame_cmd {x : List U8 → P Int}
    (h : c.payload.length ≤ MT7603_FW_SCATTER_MAX_PAYLOAD) :
    withFrame (buildFwTxdFrame c.cid pqId CMD_NA EXT_CMD_NA c.seq needRsp FW_TXD_HDR_SIZE c.payload)
      x = x (fwTxdImage c.cid pqId CMD_NA EXT_CMD_NA c.seq needRsp FW_TXD_HDR_SIZE c.payload) := by
  have hm : FW_TXD_HDR_SIZE ≤ 32 := by decide
  have h64 : MT7603_FW_SCATTER_MAX_PAYLOAD + 32 < 2 ^ 64 := by decide
  unfold withFrame
  rw [rustCall_of_fills (fills_buildFwTxdFrame (by omega) (by omega))
    (by rw [length_fwTxdImage]; omega)]

end

/-- The commands of a download, with the queue and response flag they are framed with. -/
def restartCmd : Cmd := ⟨MT_RESTART_DL_REQ, 1, []⟩
def addrLenCmd (dlLen : U32) (seq : U8) : Cmd :=
  ⟨MT_TARGET_ADDRESS_LEN_REQ, seq, addrLenPayload MT7603_FW_CODE_START_ADDRESS1 dlLen⟩
def scatterCmd (chunk : List U8) : Cmd := ⟨MT_FW_SCATTER, 0, chunk⟩
def startCmd (seq : U8) : Cmd :=
  ⟨MT_FW_START_REQ, seq, fwStartPayload 1 MT7603_FW_CODE_START_ADDRESS1⟩

/-- The transfer of a command that is waited for, and that of a scatter command. -/
def waitTransfer (c : Cmd) : List U8 := cmdTransfer P1_Q0 true c
def scatterTransfer (chunk : List U8) : List U8 :=
  cmdTransfer FW_SCATTER_PQ_ID false (scatterCmd chunk)

theorem withFrame_restart : ∃ f, padded f = waitTransfer restartCmd ∧
    ∀ x, withFrame (buildRestartDlReq 1) x = x f :=
  ⟨_, rfl, fun _ => withFrame_cmd (c := restartCmd) (by decide)⟩

theorem withFrame_addrLen (dlLen : U32) (seq : U8) :
    ∃ f, padded f = waitTransfer (addrLenCmd dlLen seq) ∧
      ∀ x, withFrame (buildAddrLenReq MT7603_FW_CODE_START_ADDRESS1 dlLen seq) x = x f :=
  ⟨_, rfl, fun _ => withFrame_cmd (c := addrLenCmd dlLen seq) (show 12 ≤ 4064 by decide)⟩

theorem withFrame_start (seq : U8) :
    ∃ f, padded f = waitTransfer (startCmd seq) ∧
      ∀ x, withFrame (buildFwStartReq 1 MT7603_FW_CODE_START_ADDRESS1 seq) x = x f :=
  ⟨_, rfl, fun _ => withFrame_cmd (c := startCmd seq) (show 8 ≤ 4064 by decide)⟩

theorem withFrame_scatter (chunk : List U8) (h : chunk.length ≤ MT7603_FW_SCATTER_MAX_PAYLOAD) :
    ∃ f, padded f = scatterTransfer chunk ∧ ∀ x, withFrame (buildFwScatterFrame chunk) x = x f := by
  have hb : buildFwScatterFrame chunk = buildFwTxdFrame MT_FW_SCATTER FW_SCATTER_PQ_ID CMD_NA
      EXT_CMD_NA 0 false FW_TXD_HDR_SIZE chunk := if_neg (Nat.not_lt.2 h)
  rw [hb]
  exact ⟨_, rfl, fun _ => withFrame_cmd (c := scatterCmd chunk) h⟩

/-! ## The upload loop -/

/-- `ps` cuts `bytes` into pieces of 1 to 4064 bytes, all but the last of them full. -/
structure Chunking (ps : List (List U8)) (bytes : List U8) : Prop where
  flatten : ps.flatten = bytes
  size : ∀ p ∈ ps, 1 ≤ p.length ∧ p.length ≤ MT7603_FW_SCATTER_MAX_PAYLOAD
  full : ∀ p ∈ ps.dropLast, p.length = MT7603_FW_SCATTER_MAX_PAYLOAD

theorem chunking_nil : Chunking [] [] := ⟨rfl, by simp, by simp⟩

/-- A piece that is full, or the last one, in front. -/
theorem Chunking.cons {p bytes : List U8} {ps : List (List U8)} (h : Chunking ps bytes)
    (hp : 1 ≤ p.length) (hle : p.length ≤ MT7603_FW_SCATTER_MAX_PAYLOAD)
    (hf : bytes ≠ [] → p.length = MT7603_FW_SCATTER_MAX_PAYLOAD) :
    Chunking (p :: ps) (p ++ bytes) := by
  refine ⟨by rw [List.flatten_cons, h.flatten], ?_, ?_⟩
  · intro x hx
    rcases List.mem_cons.1 hx with rfl | hx
    · exact ⟨hp, hle⟩
    · exact h.size x hx
  · intro x hx
    cases ps with
    | nil => simp at hx
    | cons q qs =>
      rw [List.dropLast_cons_of_ne_nil (by simp)] at hx
      rcases List.mem_cons.1 hx with rfl | hx
      · refine hf fun hn => ?_
        have hq := (h.size q List.mem_cons_self).1
        have := congrArg List.length h.flatten
        rw [hn, List.flatten_cons, List.length_append, List.length_nil] at this
        omega
      · exact h.full x hx

/-- **The upload loop** sends what is left of the image, in pieces. -/
theorem does_scatterLoop (fw : List U8) (dlLen offset : Nat) (hd : dlLen ≤ fw.length)
    (ho : offset ≤ dlLen) :
    ∃ ps, Chunking ps ((fw.take dlLen).drop offset) ∧
      Does (scatterLoop fw dlLen offset) (ps.map scatterTransfer) True := by
  induction offset using scatterLoop.induct dlLen with
  | case1 offset h len ih =>
    have hpos : 0 < MT7603_FW_SCATTER_MAX_PAYLOAD := by decide
    have hlen : len = min (dlLen - offset) MT7603_FW_SCATTER_MAX_PAYLOAD := rfl
    set chunk := (fw.drop offset).take len with hc
    have hcl : chunk.length = len := by
      rw [hc, List.length_take, List.length_drop]
      omega
    obtain ⟨ps, hps, hdo⟩ := ih (by omega)
    -- the chunk, and behind it what the recursive call sends
    have hsplit : (fw.take dlLen).drop offset = chunk ++ (fw.take dlLen).drop (offset + len) := by
      have hc' : chunk = ((fw.take dlLen).drop offset).take len := by
        rw [hc, List.drop_take, List.take_take, Nat.min_eq_left (by omega)]
      rw [hc', ← List.drop_drop, List.take_append_drop]
    refine ⟨chunk :: ps, ?_, ?_⟩
    · rw [hsplit]
      refine hps.cons (by omega) (by omega) fun hne => ?_
      rw [hcl]
      have := List.length_pos_iff.2 hne
      rw [List.length_drop, List.length_take] at this
      omega
    · obtain ⟨f, hf, hw⟩ := withFrame_scatter chunk (by omega)
      unfold scatterLoop
      rw [if_pos h]
      dsimp only
      rw [hw, List.map_cons, ← hf]
      exact (does_usbSendCmd f).next fun _ => hdo
  | case2 offset h =>
    unfold scatterLoop
    rw [if_neg h, List.drop_of_length_le (by simp; omega)]
    exact ⟨[], chunking_nil, does_done⟩

/-! ## The body -/

/-- The transfers from the address/length request on; `seq` is its sequence number. -/
def bodyTransfers (dlLen : U32) (ps : List (List U8)) (seq : U8) : List (List U8) :=
  [waitTransfer (addrLenCmd dlLen seq)] ++
    (ps.map scatterTransfer ++ [waitTransfer (startCmd (nextCmdSeq seq))])

/-- What a whole upload is known to have sent. -/
structure Uploads (fw : List U8) (dlLen : U32) (ps : List (List U8)) : Prop where
  announced : fwDlLen fw = some dlLen
  inside : dlLen.toNat ≤ fw.length
  chunks : Chunking ps (fw.take dlLen.toNat)

/-- The wait for the ROM sends nothing, also when it fails. -/
theorem does_romReady {q : P Int} {G : List (List U8)} {R : Prop} (hq : Does q G R) :
    Does (do
      let ret ← pollTopMisc2 0x01 0x01 MT7603_ROM_READY_POLL_MAX
      if ret < 0 then do
        let _ ← usbReadReg MT7603_TOP_MISC2 0
        return ret
      else q) G R := by
  have hpoll : Does (pollTopMisc2 0x01 0x01 MT7603_ROM_READY_POLL_MAX) [] True :=
    does_quiet (all_pollTopMisc2 trivial)
  rw [← List.nil_append G]
  refine hpoll.andThen (fun ret hr tr ret' ht => ?_) fun _ ret hr => ?_
  · rw [if_pos hr] at ht
    obtain ⟨x, t₁, t₂, rfl, h1, h2⟩ := trace_bind.1 ht
    obtain ⟨rfl, rfl⟩ := trace_ret.1 h2
    rw [List.append_nil]
    exact ⟨hr, sends_quiet (all_usbReadReg trivial) h1⟩
  · rw [if_neg (by omega)]
    exact hq

theorem does_downloadBody (fw : List U8) (seq : U8) :
    ∃ dlLen ps, (∀ d, fwDlLen fw = some d → dlLen = d) ∧
      (∀ p ∈ ps, p.length ≤ MT7603_FW_SCATTER_MAX_PAYLOAD) ∧
      Does (downloadBody fw seq) (bodyTransfers dlLen ps (nextCmdSeq seq))
        (Uploads fw dlLen ps) := by
  unfold downloadBody
  cases hdl : fwDlLen fw with
  | none => exact ⟨0, [], by simp, by simp, does_romReady (does_fail (by decide))⟩
  | some dlLen =>
    dsimp only
    obtain ⟨f, hf, hw⟩ := withFrame_addrLen dlLen (nextCmdSeq seq)
    rw [hw]
    have hsend := does_sendWaiting f
    rw [hf] at hsend
    by_cases hlen : fw.length < dlLen.toNat
    · rw [if_pos hlen]
      exact ⟨dlLen, [], by simp, by simp,
        does_romReady (hsend.next fun _ => does_fail (by decide))⟩
    · rw [if_neg hlen]
      obtain ⟨ps, hps, hdo⟩ := does_scatterLoop fw dlLen.toNat 0 (by omega) (by omega)
      obtain ⟨g, hg, hw'⟩ := withFrame_start (nextCmdSeq (nextCmdSeq seq))
      have hend : Does (pollTopMisc2 0x02 0x02 MT7603_ROM_READY_POLL_MAX) []
          (Uploads fw dlLen ps) :=
        (does_quiet (all_pollTopMisc2 trivial)).mono fun _ => ⟨hdl, by omega, by simpa using hps⟩
      refine ⟨dlLen, ps, by simp, fun p hp => (hps.size p hp).2, does_romReady ?_⟩
      refine hsend.next fun _ => hdo.next fun _ => ?_
      rw [hw', ← hg]
      exact (does_sendWaiting g).next fun _ => hend

theorem downloadBody_prefix {fw : List U8} {seq : U8} {body : List (Event sig)} {ret : Int}
    (h : Trace (downloadBody fw seq) body ret) :
    ∃ dlLen ps, sends body <+: bodyTransfers dlLen ps (nextCmdSeq seq) := by
  obtain ⟨dlLen, ps, -, -, hdo⟩ := does_downloadBody fw seq
  exact ⟨dlLen, ps, hdo.sends_le h⟩

/-! ## Preparation -/

/-- A response URB or memory was refused. -/
def Refused (tr : List (Event sig)) : Prop :=
  (∃ ep, ∃ r : Int, (⟨.submitRsp ep, r⟩ : Event sig) ∈ tr ∧ r < 0) ∨
    ∃ size, (⟨.alloc size, false⟩ : Event sig) ∈ tr

theorem Refused.mono {t t' : List (Event sig)} (h : Refused t) (hs : ∀ ev ∈ t, ev ∈ t') :
    Refused t' := by
  rcases h with ⟨ep, r, hm, hr⟩ | ⟨size, hm⟩
  · exact .inl ⟨ep, r, hs _ hm, hr⟩
  · exact .inr ⟨size, hs _ hm⟩

/-- The restart request goes out, unless a response URB or memory is refused. -/
theorem trace_restartDlRsp {cmd : List U8} {tr : List (Event sig)} {ret : Int}
    (h : Trace (restartDlRsp cmd) tr ret) :
    sends tr = [padded cmd] ∨ (sends tr = [] ∧ Refused tr) := by
  rcases trace_next h with ⟨hr, h1⟩ | ⟨r, t₁, t₂, rfl, -, h1, h2⟩
  · obtain rfl := trace_submitRsp h1
    exact .inr ⟨rfl, .inl ⟨_, ret, List.mem_cons_self, hr⟩⟩
  obtain rfl := trace_submitRsp h1
  rcases trace_next h2 with ⟨hr, h3⟩ | ⟨r', t₃, t₄, rfl, -, h3, h4⟩
  · obtain rfl := trace_submitRsp h3
    exact .inr ⟨rfl, .inl ⟨_, ret, List.mem_append_right _ List.mem_cons_self, hr⟩⟩
  obtain rfl := trace_submitRsp h3
  rcases trace_next h4 with ⟨-, h5⟩ | ⟨r'', t₅, t₆, rfl, hr, h5, h6⟩
  · rcases trace_usbSendCmd h5 with ⟨-, rfl⟩ | ⟨x, rfl, -⟩
    · exact .inr ⟨rfl, .inr ⟨_, List.mem_append_right _ (List.mem_append_right _
        List.mem_cons_self)⟩⟩
    · exact .inl rfl
  · rcases trace_usbSendCmd h5 with ⟨rfl, -⟩ | ⟨x, rfl, -⟩
    · exact absurd hr (by decide)
    have hq : sends t₆ = [] := sends_quiet (all_waitDone trivial) h6
    rw [sends_append, sends_append, sends_append, hq]
    exact .inl rfl

theorem misc2Reads_restartDlRsp {cmd : List U8} {tr : List (Event sig)} {ret : Int}
    (h : Trace (restartDlRsp cmd) tr ret) : misc2Reads tr = [] := by
  refine misc2Reads_eq_nil (all_restartDlRsp ?_ ?_ ?_ ?_) h
  · exact fun _ => nofun
  · exact fun _ _ => nofun
  · exact fun _ => nofun
  · exact nofun

theorem trace_restartIfRunning {v : U32} {tr : List (Event sig)} {seq : U8}
    (h : Trace (restartIfRunning v) tr seq) : misc2Reads tr = [] ∧
      ((v &&& 0x02 ≠ 0x02 ∧ seq = 0 ∧ sends tr = []) ∨
        (v &&& 0x02 = 0x02 ∧ seq = 1 ∧
          (sends tr = [waitTransfer restartCmd] ∨ (sends tr = [] ∧ Refused tr)))) := by
  unfold restartIfRunning at h
  split at h
  · rename_i hv
    obtain ⟨f, hf, hw⟩ := withFrame_restart
    obtain ⟨ret, t₁, t₂, rfl, h1, h2⟩ := trace_bind.1 h
    obtain ⟨rfl, rfl⟩ := trace_ret.1 h2
    replace h1 : Trace (withFrame (buildRestartDlReq 1) restartDlRsp) t₁ ret := h1
    rw [hw] at h1
    rw [List.append_nil, ← hf]
    exact ⟨misc2Reads_restartDlRsp h1, .inr ⟨hv, rfl, trace_restartDlRsp h1⟩⟩
  · rename_i hv
    obtain ⟨rfl, rfl⟩ := trace_ret.1 h
    exact ⟨rfl, .inl ⟨hv, rfl, rfl⟩⟩

theorem silent_usbEnableUdma {rxAgg : Bool} :
    All (S := sig) (fun e => Quiet e ∧ NoMisc2 e) (usbEnableUdma rxAgg) := by
  have hr : NoMisc2 (.readReg MT7603_UDMA_WLCFG_0) :=
    fun h => absurd (Req.readReg.inj h) (by decide +kernel)
  exact all_usbEnableUdma ⟨trivial, hr⟩ fun _ => ⟨trivial, nofun⟩

theorem noMisc2_sch : NoMisc2 (.readReg (physicalAddrMap MT7603_SCH_REG4)) :=
  fun h => absurd (Req.readReg.inj h) (by decide +kernel)

theorem all_enterBypass : All (S := sig) (fun e => Quiet e ∧ NoMisc2 e) enterBypass := by
  refine all_bind (all_usbReadReg ⟨trivial, noMisc2_sch⟩) fun ⟨ret, val⟩ => ?_
  dsimp only
  split
  · trivial
  · exact all_next (all_usbWriteReg ⟨trivial, nofun⟩)
      (all_bind (all_usbReadReg ⟨trivial, noMisc2_sch⟩) fun _ => trivial)

/-- A request that reads or writes a register. -/
def RegAccess : Req → Prop
  | .readReg _ => True
  | .writeReg _ _ => True
  | _ => False

theorem sends_regAccess {tr : List (Event sig)} (h : ∀ ev ∈ tr, RegAccess ev.req) :
    sends tr = [] := by
  refine List.filterMap_eq_nil_iff.2 fun ev hev => ?_
  have hr := h ev hev
  revert hr
  cases ev.req <;> simp [RegAccess]

theorem all_leaveBypass : All (S := sig) RegAccess leaveBypass := by
  have hw : ∀ {val : U32}, All (S := sig) RegAccess (usbWriteReg MT7603_SCH_REG4 val) :=
    all_usbWriteReg trivial
  refine all_bind (all_usbReadReg trivial) fun ⟨ret, val⟩ => ?_
  dsimp only
  split
  · exact all_bind hw fun _ => all_bind hw fun _ => all_bind hw fun _ => trivial
  · trivial

/-- **Before the ROM is polled**: `TOP_MISC2` was read, and if it showed running firmware the
restart request went out or what it needs was refused. `seq` is the sequence number used last. -/
def Prepared (pre : List (Event sig)) (seq : U8) : Prop :=
  ∃ t₀ r v t₁, pre = t₀ ++ readEvent MT7603_TOP_MISC2 r v :: t₁ ∧ 0 ≤ r ∧
    sends t₀ = [] ∧ misc2Reads t₀ = [] ∧ misc2Reads t₁ = [] ∧
    ((v &&& 0x02 ≠ 0x02 ∧ seq = 0 ∧ sends t₁ = []) ∨
      (v &&& 0x02 = 0x02 ∧ seq = 1 ∧
        (sends t₁ = [waitTransfer restartCmd] ∨ (sends t₁ = [] ∧ Refused t₁))))

theorem Prepared.append {pre t : List (Event sig)} {seq : U8} (h : Prepared pre seq)
    (hs : sends t = []) (hm : misc2Reads t = []) : Prepared (pre ++ t) seq := by
  obtain ⟨t₀, r, v, t₁, rfl, hr, h0, m0, m1, hv⟩ := h
  refine ⟨t₀, r, v, t₁ ++ t, by simp, hr, h0, m0, by simp [m1, hm], ?_⟩
  rw [sends_append, hs, List.append_nil]
  refine hv.imp_right fun ⟨h2, h3, h4⟩ => ⟨h2, h3, h4.imp_right fun ⟨h5, h6⟩ => ⟨h5, ?_⟩⟩
  exact h6.mono fun ev hev => List.mem_append_left t hev

/-- The part in bypass mode: the body, unless that is given up, between requests that send
nothing. -/
theorem trace_bypass {fw : List U8} {seq : U8} {tr : List (Event sig)} {ret : Int}
    (h : Trace (do
      let ret ← enterBypass
      if ret < 0 then return ret
      else do
        let ok ← alloc (MT7603_FW_SCATTER_MAX_PAYLOAD + 32)
        let ret ← (if ok then downloadBody fw seq else pure (-ENOMEM) : P Int)
        leaveBypass
        return ret) tr ret) :
    ∃ pre body post, tr = pre ++ (body ++ post) ∧ sends pre = [] ∧ misc2Reads pre = [] ∧
      (∀ ev ∈ post, RegAccess ev.req) ∧
      (Trace (downloadBody fw seq) body ret ∨ (ret < 0 ∧ body = [])) := by
  rcases trace_next h with ⟨hneg, h1⟩ | ⟨r, t₁, t₂, rfl, -, h1, h2⟩
  · obtain ⟨hs, hm⟩ := trace_silent all_enterBypass h1
    exact ⟨tr, [], [], by simp, hs, hm, by simp, .inr ⟨hneg, rfl⟩⟩
  obtain ⟨hs1, hm1⟩ := trace_silent all_enterBypass h1
  obtain ⟨ok, t₃, t₄, rfl, h3, h4⟩ := trace_bind.1 h2
  obtain ⟨hs3, hm3⟩ := trace_silent (all_alloc ⟨trivial, nofun⟩) h3
  obtain ⟨ret', body, t₅, rfl, h5, h6⟩ := trace_bind.1 h4
  obtain ⟨u, post, t₆, rfl, h7, h8⟩ := trace_bind.1 h6
  obtain ⟨rfl, rfl⟩ := trace_ret.1 h8
  have hpost := trace_all all_leaveBypass h7
  refine ⟨t₁ ++ t₃, body, post, by simp, by simp [hs1, hs3], by simp [hm1, hm3], hpost, ?_⟩
  cases ok with
  | true => exact .inl h5
  | false =>
    obtain ⟨rfl, rfl⟩ := trace_ret.1 h5
    exact .inr ⟨by decide, rfl⟩

/-- **An exchange of a download**: it fails before anything is sent, or it is a preparation, then
the body unless that is given up, then the way back, which only accesses registers. -/
theorem download_cases {fw : List U8} {tr : List (Event sig)} {ret : Int}
    (h : Trace (downloadFirmware fw) tr ret) :
    (ret < 0 ∧ sends tr = []) ∨
      ∃ seq pre body post, tr = pre ++ (body ++ post) ∧ Prepared pre seq ∧
        (∀ ev ∈ post, RegAccess ev.req) ∧
        (Trace (downloadBody fw seq) body ret ∨ (ret < 0 ∧ body = [])) := by
  rcases trace_next h with ⟨hr, h1⟩ | ⟨r₀, t₀, t, rfl, -, h1, h2⟩
  · exact .inl ⟨hr, (trace_silent silent_usbEnableUdma h1).1⟩
  obtain ⟨hs0, hm0⟩ := trace_silent silent_usbEnableUdma h1
  rcases trace_readNext h2 (fun r v hr => ⟨r, hr, if_pos hr⟩)
    (fun v => if_neg (Int.lt_irrefl 0)) with ⟨hneg, r, v, rfl⟩ | ⟨r, v, t₁, rfl, hr, h4⟩
  · exact .inl ⟨hneg, by simp [hs0]⟩
  obtain ⟨seq, t₃, t₄, rfl, h5, h6⟩ := trace_bind.1 h4
  obtain ⟨hm3, hv⟩ := trace_restartIfRunning h5
  obtain ⟨pre, body, post, rfl, hs, hm, hpost, hb⟩ := trace_bypass h6
  have hpre : Prepared (t₀ ++ readEvent MT7603_TOP_MISC2 r v :: t₃) seq :=
    ⟨t₀, r, v, t₃, rfl, hr, hs0, hm0, hm3, hv⟩
  exact .inr ⟨seq, _, body, post, by simp, hpre.append hs hm, hpost, hb⟩

/-! ## Whole downloads -/

/-- The commands of an exchange. -/
def cmds (tr : List (Event sig)) : List Cmd := (sends tr).map decodeCmd

/-- The sequence numbers of the commands that are waited for. -/
def waitSeqs (cs : List Cmd) : List U8 := (cs.filter (·.cid ≠ MT_FW_SCATTER)).map Cmd.seq

/-- RAM firmware was seen running before anything was sent. -/
def RamSeen (tr : List (Event sig)) : Prop :=
  ∃ t₀ r v t₁, tr = t₀ ++ readEvent MT7603_TOP_MISC2 r v :: t₁ ∧ sends t₀ = [] ∧ 0 ≤ r ∧
    v &&& 0x02 = 0x02

/-- The restart requests of an exchange, and the sequence number of the request behind them. -/
inductive Starts (tr : List (Event sig)) : List Cmd → U8 → Prop
  | cold : Starts tr [] 1
  | warm (h : RamSeen tr) : Starts tr [restartCmd] 2
  | refused (h : RamSeen tr) (hr : Refused tr) : Starts tr [] 2

/-- The commands of a download that goes through. -/
def downloadCmds (restart : List Cmd) (dlLen : U32) (ps : List (List U8)) (seq : U8) : List Cmd :=
  restart ++ ([addrLenCmd dlLen seq] ++ (ps.map scatterCmd ++ [startCmd (seq + 1)]))

theorem Starts.eq_restartCmd {tr : List (Event sig)} {rs : List Cmd} {seq : U8}
    (h : Starts tr rs seq) : ∀ c ∈ rs, c = restartCmd := by
  cases h with
  | warm _ => simp
  | _ => simp

theorem decodeCmd_waitTransfers (cs : List Cmd) : (cs.map waitTransfer).map decodeCmd = cs := by
  have hw : decodeCmd ∘ waitTransfer = id := by
    funext c
    exact decodeCmd_cmdTransfer
  rw [List.map_map, hw, List.map_id]

theorem starts_of_prepared {pre t : List (Event sig)} {seq : U8} (h : Prepared pre seq) :
    ∃ rs, Starts (pre ++ t) rs (nextCmdSeq seq) ∧ sends pre = rs.map waitTransfer := by
  obtain ⟨t₀, r, v, t₁, rfl, hr, h0, -, -, hv⟩ := h
  have hs : sends (t₀ ++ readEvent MT7603_TOP_MISC2 r v :: t₁) = sends t₁ := by simp [h0]
  rw [hs]
  rcases hv with ⟨-, rfl, hs1⟩ | ⟨hv, rfl, hs1⟩
  · exact ⟨[], .cold, by simpa using hs1⟩
  have hram : RamSeen (t₀ ++ readEvent MT7603_TOP_MISC2 r v :: t₁ ++ t) :=
    ⟨t₀, r, v, t₁ ++ t, by simp, h0, hr, hv⟩
  rcases hs1 with hs1 | ⟨hs1, href⟩
  · exact ⟨[restartCmd], .warm hram, hs1⟩
  · refine ⟨[], .refused hram (href.mono fun ev hev => ?_), by simpa using hs1⟩
    exact List.mem_append_left t (List.mem_append_right t₀ (List.mem_cons_of_mem _ hev))

theorem nextCmdSeq_of_starts {tr : List (Event sig)} {rs : List Cmd} {seq : U8}
    (h : Starts tr rs seq) : nextCmdSeq seq = seq + 1 := by
  cases h <;> rfl

theorem cmds_bodyTransfers {dlLen : U32} {ps : List (List U8)} {seq : U8} :
    (bodyTransfers dlLen ps seq).map decodeCmd =
      [addrLenCmd dlLen seq] ++ (ps.map scatterCmd ++ [startCmd (nextCmdSeq seq)]) := by
  have hsc : decodeCmd ∘ scatterTransfer = scatterCmd := by
    funext p
    exact decodeCmd_cmdTransfer
  simp [bodyTransfers, waitTransfer, hsc]

theorem wellFramed_bodyTransfers {dlLen : U32} {ps : List (List U8)} {seq : U8}
    (h : ∀ p ∈ ps, p.length ≤ MT7603_FW_SCATTER_MAX_PAYLOAD) :
    ∀ buf ∈ bodyTransfers dlLen ps seq, WellFramed buf := by
  intro buf hb
  rcases List.mem_append.1 hb with hb | hb
  · rw [List.mem_singleton.1 hb]
    exact wellFramed_cmdTransfer (show 12 ≤ 4064 by decide)
  rcases List.mem_append.1 hb with hb | hb
  · obtain ⟨p, hp, rfl⟩ := List.mem_map.1 hb
    exact wellFramed_cmdTransfer (h p hp)
  · rw [List.mem_singleton.1 hb]
    exact wellFramed_cmdTransfer (show 8 ≤ 4064 by decide)

/-- The transfers of a download, and the whole list if it succeeds. -/
theorem download_transfers {fw : List U8} {tr : List (Event sig)} {ret : Int}
    (h : Trace (downloadFirmware fw) tr ret) :
    ∃ rs dlLen ps seq, Starts tr rs seq ∧
      (∀ p ∈ ps, p.length ≤ MT7603_FW_SCATTER_MAX_PAYLOAD) ∧
      sends tr <+: rs.map waitTransfer ++ bodyTransfers dlLen ps seq ∧
      (ret = 0 → sends tr = rs.map waitTransfer ++ bodyTransfers dlLen ps seq ∧
        Uploads fw dlLen ps) := by
  rcases download_cases h with ⟨hr, hs⟩ | ⟨seq, pre, body, post, rfl, hpre, hpost, hbody⟩
  · refine ⟨[], 0, [], 1, .cold, by simp, ?_, fun h0 => by omega⟩
    rw [hs]
    exact List.nil_prefix
  obtain ⟨rs, hst, hrs⟩ := starts_of_prepared (t := body ++ post) hpre
  obtain ⟨dlLen, ps, -, hle, hdo⟩ := does_downloadBody fw seq
  refine ⟨rs, dlLen, ps, nextCmdSeq seq, hst, hle, ?_⟩
  rw [sends_append, sends_append, hrs, sends_regAccess hpost, List.append_nil]
  rcases hbody with hb | ⟨hneg, rfl⟩
  · rcases hdo body ret hb with ⟨hneg, hp⟩ | ⟨-, hs, hup⟩
    · exact ⟨(List.prefix_append_right_inj _).2 hp, fun h0 => by omega⟩
    · rw [hs]
      exact ⟨List.prefix_refl _, fun _ => ⟨rfl, hup⟩⟩
  · exact ⟨(List.prefix_append_right_inj _).2 List.nil_prefix, fun h0 => by omega⟩

/-- **A download sends the announced bytes, in order.** Whatever the device answers, its commands
are a prefix of: the restart request (only after RAM firmware was seen running), the
address/length request, scatter commands, the start request. If it returns 0 they are that whole
list, and the scatter payloads cut the first `dlLen` bytes of the image into full pieces. -/
theorem download_uploads {fw : List U8} {tr : List (Event sig)} {ret : Int}
    (h : Trace (downloadFirmware fw) tr ret) :
    (∀ buf ∈ sends tr, WellFramed buf) ∧
      ∃ rs dlLen ps seq, Starts tr rs seq ∧ cmds tr <+: downloadCmds rs dlLen ps seq ∧
        (ret = 0 → cmds tr = downloadCmds rs dlLen ps seq ∧ Uploads fw dlLen ps ∧
          waitSeqs (cmds tr) = rs.map Cmd.seq ++ [seq, seq + 1]) := by
  obtain ⟨rs, dlLen, ps, seq, hst, hle, hp, hz⟩ := download_transfers h
  have hmap : (rs.map waitTransfer ++ bodyTransfers dlLen ps seq).map decodeCmd =
      downloadCmds rs dlLen ps seq := by
    rw [List.map_append, cmds_bodyTransfers, decodeCmd_waitTransfers, nextCmdSeq_of_starts hst]
    rfl
  refine ⟨fun buf hb => ?_, rs, dlLen, ps, seq, hst, ?_, fun h0 => ?_⟩
  · rcases List.mem_append.1 (hp.subset hb) with hb | hb
    · obtain ⟨c, hc, rfl⟩ := List.mem_map.1 hb
      rw [hst.eq_restartCmd c hc]
      exact wellFramed_cmdTransfer (Nat.zero_le _)
    · exact wellFramed_bodyTransfers hle buf hb
  · rw [← hmap]
    exact hp.map decodeCmd
  · obtain ⟨hs, hup⟩ := hz h0
    have hc : cmds tr = downloadCmds rs dlLen ps seq := by rw [cmds, hs, hmap]
    refine ⟨hc, hup, ?_⟩
    have hsc : (ps.map scatterCmd).filter (·.cid ≠ MT_FW_SCATTER) = [] := by
      simp [List.filter_map, scatterCmd, Function.comp_def]
    have hrs : rs.filter (·.cid ≠ MT_FW_SCATTER) = rs := by
      cases hst <;> rfl
    rw [hc, waitSeqs, downloadCmds, List.filter_append, List.filter_append, List.filter_append, hsc,
      hrs, List.map_append]
    rfl

/-! ## Concrete downloads -/

/-- A device that answers the reads of `TOP_MISC2` from a list and accepts everything but, if
`rsp85` is negative, a response URB on the command endpoint. -/
def scriptedDevice (misc2 : List U32) (rsp85 : Int) (tr : List (Event sig)) : (e : Req) → e.Resp
  | .readReg addr =>
    (4, if addr = physicalAddrMap MT7603_TOP_MISC2 then misc2.getD (misc2Reads tr).length 0 else 0)
  | .writeReg _ _ => (4 : Int)
  | .bulkOut _ _ => (0 : Int)
  | .submitRsp ep => if ep = MT7603_CMD_RSP_BULK_IN then rsp85 else (0 : Int)
  | .waitRsp => (0 : Int)
  | .alloc _ => true
  | .getBss _ => none
  | .scheduleBeacon => ()
  | .cancelBeacon => ()
  | .stopTxBaCb _ _ => ()

/-- An image `verifyFirmware` accepts, whose trailer announces no code, so that the CRC alone is
uploaded. -/
def smallFw : List U8 := [0x46, 0x00, 0x01, 0x00] ++ List.replicate 1020 0

theorem smallFw_verified : verifyFirmware smallFw = .ok () := by
  have hl : smallFw.length = 1024 := by
    rw [smallFw, List.length_append, List.length_replicate]
    rfl
  have hp : smallFw.take 4 = [0x46, 0x00, 0x01, 0x00] := rfl
  rw [verifyFirmware, if_neg (by omega), if_neg (not_not_intro hp)]

/-- The exchange of a download with such a device. -/
def downloadRun (misc2 : List U32) (rsp85 : Int) : Int × List (Event sig) :=
  (downloadFirmware smallFw).logRun (scriptedDevice misc2 rsp85)

theorem trace_downloadRun (misc2 : List U32) (rsp85 ret : Int)
    (h : (downloadRun misc2 rsp85).1 = ret) :
    Trace (downloadFirmware smallFw) (downloadRun misc2 rsp85).2 ret := by
  rw [← h]
  exact trace_logRun _ _

/-- A warm start: restart, address/length, one scatter command, start. -/
theorem download_uploads_warm :
    ∃ tr, Trace (downloadFirmware smallFw) tr 0 ∧ waitSeqs (cmds tr) = [1, 2, 3] ∧
      (∀ buf ∈ sends tr, WellFramed buf) ∧ ∃ rs dlLen ps seq, Starts tr rs seq ∧
        cmds tr = downloadCmds rs dlLen ps seq ∧ Uploads smallFw dlLen ps := by
  have ht := trace_downloadRun [2, 1, 2] 0 0 (by decide +kernel)
  obtain ⟨hw, rs, dlLen, ps, seq, hst, -, hz⟩ := download_uploads ht
  obtain ⟨hc, hup, -⟩ := hz rfl
  exact ⟨_, ht, by decide +kernel, hw, rs, dlLen, ps, seq, hst, hc, hup⟩

/-- RAM firmware is running and the response URB on the command endpoint is refused: the restart
request has its sequence number but is not sent, and the first request sent has number 2. -/
theorem download_refused_seqs :
    ¬∀ fw tr, verifyFirmware fw = .ok () → Trace (downloadFirmware fw) tr 0 →
      ∃ n, waitSeqs (cmds tr) = (List.range' 1 n).map (BitVec.ofNat 8) := by
  intro hall
  have ht := trace_downloadRun [2, 1, 2] (-ENOMEM) 0 (by decide +kernel)
  obtain ⟨n, hn⟩ := hall _ _ smallFw_verified ht
  have hs : waitSeqs (cmds (downloadRun [2, 1, 2] (-ENOMEM)).2) = [2, 3] := by decide +kernel
  rw [hs] at hn
  cases n with
  | zero => cases hn
  | succ n => simp [List.range'_succ] at hn

end Driver
