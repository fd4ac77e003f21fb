import Mt7603u.Proof.Download

/-!
# When a download starts

The address/length request is meant to follow a poll that saw the ROM ready and the RAM firmware
stopped. `download_startsAt` takes an exchange that sends the request apart: the first read of
`TOP_MISC2`, the polls, of which only the last one saw the ROM ready, the request, and what follows.
The poll looks at bit 0 alone, so what it saw of bit 1 is up to the device (`download_romPolled`).
-/

namespace Driver

open Effect Slice Word Rust

/-! ## The request in an exchange -/

/-- An address/length request. -/
def isAddrLen (ev : Event sig) : Bool :=
  match ev.req with
  | .bulkOut _ buf => (decodeCmd buf).cid = MT_TARGET_ADDRESS_LEN_REQ
  | _ => false

/-- No address/length request. -/
def NoAddrLen (tr : List (Event sig)) : Prop := ∀ ev ∈ tr, isAddrLen ev = false

theorem noAddrLen_of_sends {tr : List (Event sig)}
    (h : ∀ buf ∈ sends tr, (decodeCmd buf).cid ≠ MT_TARGET_ADDRESS_LEN_REQ) : NoAddrLen tr := by
  rintro ⟨e, r⟩ hev
  cases e with
  | bulkOut ep buf =>
    have hb : buf ∈ sends tr := List.mem_filterMap.2 ⟨_, hev, rfl⟩
    exact decide_eq_false (h buf hb)
  | _ => rfl

theorem noAddrLen_quiet {tr : List (Event sig)} (h : sends tr = []) : NoAddrLen tr :=
  noAddrLen_of_sends (by simp [h])

theorem NoAddrLen.append {t t' : List (Event sig)} (h : NoAddrLen t) (h' : NoAddrLen t') :
    NoAddrLen (t ++ t') := by
  intro ev hev
  rcases List.mem_append.1 hev with hev | hev
  · exact h ev hev
  · exact h' ev hev

theorem noAddrLen_prepared {pre : List (Event sig)} {seq : U8} (h : Prepared pre seq) :
    NoAddrLen pre := by
  obtain ⟨rs, hst, hs⟩ := starts_of_prepared (t := []) h
  refine noAddrLen_of_sends fun buf hb => ?_
  rw [hs] at hb
  obtain ⟨c, hc, rfl⟩ := List.mem_map.1 hb
  rw [waitTransfer, decodeCmd_cmdTransfer]
  generalize nextCmdSeq seq = seq' at hst
  cases hst with
  | warm _ =>
    rw [List.mem_singleton.1 hc]
    decide
  | _ => simp at hc

/-- Behind the address/length request there is no second one. -/
theorem noAddrLen_rest {ps : List (List U8)} {seq : U8} {tr : List (Event sig)}
    (h : sends tr <+: ps.map scatterTransfer ++ [waitTransfer (startCmd seq)]) : NoAddrLen tr := by
  refine noAddrLen_of_sends fun buf hb => ?_
  rcases List.mem_append.1 (h.subset hb) with hb | hb
  · obtain ⟨p, -, rfl⟩ := List.mem_map.1 hb
    rw [scatterTransfer, decodeCmd_cmdTransfer]
    exact (by decide : MT_FW_SCATTER ≠ MT_TARGET_ADDRESS_LEN_REQ)
  · rw [List.mem_singleton.1 hb, waitTransfer, decodeCmd_cmdTransfer]
    exact (by decide : MT_FW_START_REQ ≠ MT_TARGET_ADDRESS_LEN_REQ)

/-- Running firmware was seen. -/
def SawRam (tr : List (Event sig)) : Prop := ∃ v ∈ misc2Reads tr, v &&& 0x02 = 0x02

theorem SawRam.behind {t t' : List (Event sig)} (h : SawRam t') : SawRam (t ++ t') := by
  obtain ⟨v, hv, h2⟩ := h
  exact ⟨v, by rw [misc2Reads_append]; exact List.mem_append_right _ hv, h2⟩

theorem SawRam.before {t t' : List (Event sig)} (h : SawRam t) : SawRam (t ++ t') := by
  obtain ⟨v, hv, h2⟩ := h
  exact ⟨v, by rw [misc2Reads_append]; exact List.mem_append_left _ hv, h2⟩

/-- A part that ends with such a part. -/
theorem sawRam_next {p q : P Int} {tr : List (Event sig)} (hq : ∀ t, Trace q t 0 → SawRam t)
    (h : Trace (p >>= fun ret => if ret < 0 then return ret else q) tr 0) : SawRam tr := by
  rcases trace_next h with ⟨h0, -⟩ | ⟨r, t₁, t₂, rfl, -, -, h2⟩
  · omega
  · exact (hq t₂ h2).behind

theorem sawRam_poll {n : Nat} {tr : List (Event sig)} (h : Trace (pollTopMisc2 0x02 0x02 n) tr 0) :
    SawRam tr := by
  rcases trace_pollTopMisc2 h with h0 | ⟨ws, w, hr, hw, -⟩
  · omega
  · exact ⟨w, by simp [hr], hw⟩

/-- What follows the address/length request succeeds only if the new firmware is seen running. -/
theorem sawRam_upload {fw : List U8} {dlLen : U32} {seq : U8} {tr : List (Event sig)}
    (h : Trace (if fw.length < dlLen.toNat then return -EINVAL
      else do
        let ret ← scatterLoop fw dlLen.toNat 0
        if ret < 0 then return ret
        else
          withFrame (buildFwStartReq 1 MT7603_FW_CODE_START_ADDRESS1 seq) fun cmd => do
            let ret ← sendWaiting cmd
            if ret < 0 then return ret
            else pollTopMisc2 0x02 0x02 MT7603_ROM_READY_POLL_MAX) tr 0) : SawRam tr := by
  split at h
  · exact absurd (trace_ret.1 h).1 (by decide)
  · refine sawRam_next (fun t h1 => ?_) h
    obtain ⟨g, -, hw⟩ := withFrame_start seq
    rw [hw] at h1
    exact sawRam_next (fun t' h2 => sawRam_poll h2) h1

/-! ## The parts of an exchange -/

/-- An exchange that sends the address/length request `ev`: behind the first read `v₀` of
`TOP_MISC2` there are polls, which answered `ws` and then `v`, and nothing is sent before `ev`. -/
structure StartsAt (tr : List (Event sig)) (ret : Int) (pre polls : List (Event sig))
    (ev : Event sig) (post : List (Event sig)) (ws : List U32) (v : U32) : Prop where
  split : tr = pre ++ polls ++ ev :: post
  first : ∃ v₀, misc2Reads pre = [v₀]
  answers : misc2Reads polls = ws ++ [v]
  quiet : sends polls = []
  before : NoAddrLen (pre ++ polls)
  request : isAddrLen ev = true
  after : NoAddrLen post
  last : v &&& 0x01 = 0x01
  others : ∀ w ∈ ws, w &&& 0x01 ≠ 0x01
  success : ret = 0 → SawRam post

/-- A body that sends the address/length request. -/
theorem body_startsAt {fw : List U8} {seq : U8} {body : List (Event sig)} {ret : Int}
    (h : Trace (downloadBody fw seq) body ret) :
    (ret < 0 ∧ sends body = []) ∨ ∃ polls ev post ws v, body = polls ++ ev :: post ∧
      misc2Reads polls = ws ++ [v] ∧ sends polls = [] ∧ isAddrLen ev = true ∧ NoAddrLen post ∧
      v &&& 0x01 = 0x01 ∧ (∀ w ∈ ws, w &&& 0x01 ≠ 0x01) ∧ (ret = 0 → SawRam post) := by
  obtain ⟨dlLen', ps, hp⟩ := downloadBody_prefix h
  unfold downloadBody at h
  obtain ⟨r, t₁, t₂, rfl, h1, h2⟩ := trace_bind.1 h
  have hq1 : sends t₁ = [] := sends_quiet (all_pollTopMisc2 trivial) h1
  by_cases hr : r < 0
  · rw [if_pos hr] at h2
    obtain ⟨x, t₃, t₄, rfl, h3, h4⟩ := trace_bind.1 h2
    obtain ⟨rfl, rfl⟩ := trace_ret.1 h4
    have hq3 : sends t₃ = [] := sends_quiet (all_usbReadReg trivial) h3
    exact .inl ⟨hr, by simp [hq1, hq3]⟩
  rw [if_neg hr] at h2
  obtain ⟨ws, v, hws, hv, hne⟩ := (trace_pollTopMisc2 h1).resolve_left hr
  cases hdl : fwDlLen fw with
  | none =>
    rw [hdl] at h2
    obtain ⟨rfl, rfl⟩ := trace_ret.1 h2
    exact .inl ⟨by decide, by simp [hq1]⟩
  | some dlLen =>
    rw [hdl] at h2
    obtain ⟨f, hf, hw⟩ := withFrame_addrLen dlLen (nextCmdSeq seq)
    dsimp only at h2
    rw [hw] at h2
    rcases trace_sendWaiting_next h2 with ⟨hneg, hs⟩ | ⟨s, x, t, t', rfl, hrest⟩
    · exact .inl ⟨hneg, by simp [hq1, hs]⟩
    refine .inr ⟨t₁ ++ [_, _], _, t ++ t', ws, v, (List.append_assoc _ _ _).symm, ?_, ?_, ?_, ?_,
      hv, hne, fun h0 => ?_⟩
    · rw [misc2Reads_append, hws]
      exact List.append_nil _
    · rw [sends_append, hq1]
      rfl
    · refine decide_eq_true ?_
      rw [hf, waitTransfer, decodeCmd_cmdTransfer]
      rfl
    · rw [sends_append, hq1, List.nil_append] at hp
      exact noAddrLen_rest (List.cons_prefix_cons.1 hp).2
    · have h3 := hrest.resolve_left (by omega)
      rw [h0] at h3
      exact (sawRam_upload h3).behind

/-- **An exchange of a download** sends no address/length request, or it has these parts. -/
theorem download_startsAt {fw : List U8} {tr : List (Event sig)} {ret : Int}
    (h : Trace (downloadFirmware fw) tr ret) :
    (ret < 0 ∧ NoAddrLen tr) ∨
      ∃ pre polls ev post ws v, StartsAt tr ret pre polls ev post ws v := by
  rcases download_cases h with ⟨hr, hs⟩ | ⟨seq, pre, body, post, rfl, hpre, hpost, hbody⟩
  · exact .inl ⟨hr, noAddrLen_quiet hs⟩
  have hb : (ret < 0 ∧ sends body = []) ∨ _ := hbody.elim body_startsAt fun ⟨hr, hb⟩ =>
    .inl ⟨hr, by rw [hb]; rfl⟩
  rcases hb with ⟨hr, hs⟩ | ⟨polls, ev, rest, ws, v, rfl, hws, hq, hev, hno, hv, hne, hsaw⟩
  · refine .inl ⟨hr, (noAddrLen_prepared hpre).append (noAddrLen_quiet ?_)⟩
    rw [sends_append, hs, sends_regAccess hpost]
    rfl
  refine .inr ⟨pre, polls, ev, rest ++ post, ws, v, ?_⟩
  refine ⟨by simp, ?_, hws, hq, ?_, hev, ?_, hv, hne, fun h0 => (hsaw h0).before⟩
  · obtain ⟨t₀, r, v₀, t₁, rfl, hr, -, hm0, hm1, -⟩ := hpre
    exact ⟨v₀, by rw [misc2Reads_append, misc2Reads_cons hr, hm0, hm1]; rfl⟩
  · exact (noAddrLen_prepared hpre).append (noAddrLen_quiet hq)
  · exact hno.append (noAddrLen_quiet (sends_regAccess hpost))

/-! ## The handshake -/

/-- Every address/length request follows a poll, taken after all that was sent before it, that saw
the ROM ready and the RAM firmware stopped. The first read of `TOP_MISC2` is no poll. -/
def RomPolled (tr : List (Event sig)) : Prop :=
  ∀ pre ev post, tr = pre ++ ev :: post → isAddrLen ev = true →
    ∃ t₁ t₂, pre = t₁ ++ t₂ ∧ misc2Reads t₁ ≠ [] ∧ sends t₂ = [] ∧
      ∃ v ∈ misc2Reads t₂, v &&& 0x03 = 0x01

/-- The RAM firmware was seen stopped and later running. -/
def RamRises (tr : List (Event sig)) : Prop :=
  ∃ t₁ t₂, tr = t₁ ++ t₂ ∧ (∃ v ∈ misc2Reads t₁, v &&& 0x02 = 0) ∧ SawRam t₂

/-- What `TOP_MISC2` answered between its first read and the address/length request. -/
def pollAnswers (tr : List (Event sig)) : List U32 :=
  (misc2Reads (tr.takeWhile fun ev => !isAddrLen ev)).tail

/-- Whenever a poll is told that the ROM is ready, the RAM firmware has stopped. -/
def ReadyMeansStopped (tr : List (Event sig)) : Prop :=
  ∀ v ∈ pollAnswers tr, v &&& 0x01 = 0x01 → v &&& 0x02 = 0

theorem and_three_iff {v : U32} : v &&& 0x03 = 0x01 ↔ v &&& 0x01 = 0x01 ∧ v &&& 0x02 = 0 := by
  have h3 : v &&& 0x03 = (v &&& 0x01) ||| (v &&& 0x02) := by
    rw [← BitVec.and_or_distrib_left]
    rfl
  constructor
  · intro h
    have h1 : v &&& 0x01 = (v &&& 0x03) &&& 0x01 := by rw [BitVec.and_assoc]; rfl
    have h2 : v &&& 0x02 = (v &&& 0x03) &&& 0x02 := by rw [BitVec.and_assoc]; rfl
    rw [h1, h2, h]
    decide
  · rintro ⟨h1, h2⟩
    rw [h3, h1, h2]
    decide

section
variable {tr : List (Event sig)} {ret : Int} {pre polls : List (Event sig)} {ev : Event sig}
  {post : List (Event sig)} {ws : List U32} {v : U32}

theorem StartsAt.pollAnswers_eq (h : StartsAt tr ret pre polls ev post ws v) :
    pollAnswers tr = ws ++ [v] := by
  obtain ⟨v₀, hv₀⟩ := h.first
  have ht : tr.takeWhile (fun ev => !isAddrLen ev) = pre ++ polls := by
    rw [h.split, List.takeWhile_append_of_pos fun e he => by simp [h.before e he],
      List.takeWhile_cons_of_neg (by simp [h.request]), List.append_nil]
  rw [pollAnswers, ht, misc2Reads_append, hv₀, h.answers]
  rfl

/-- The request stands at one place only. -/
theorem StartsAt.unique (h : StartsAt tr ret pre polls ev post ws v) {a b : List (Event sig)}
    {e : Event sig} (hs : tr = a ++ e :: b) (he : isAddrLen e = true) : a = pre ++ polls := by
  have hnot : ∀ {t}, NoAddrLen t → e ∉ t := fun hn hm => by simp [hn e hm] at he
  rw [h.split] at hs
  rcases List.append_eq_append_iff.1 hs with ⟨c, hc, hc'⟩ | ⟨c, hc, hc'⟩
  · cases c with
    | nil => simpa using hc
    | cons x c =>
      refine absurd ?_ (hnot h.after)
      rw [(List.cons.inj hc').2]
      simp
  · cases c with
    | nil => simpa using hc.symm
    | cons x c =>
      refine absurd ?_ (hnot h.before)
      rw [hc, (List.cons.inj hc').1]
      simp

/-- The handshake is as good as the last answer of the polls. -/
theorem StartsAt.romPolled_iff (h : StartsAt tr ret pre polls ev post ws v) :
    RomPolled tr ↔ v &&& 0x02 = 0 := by
  obtain ⟨v₀, hv₀⟩ := h.first
  constructor
  · intro hp
    obtain ⟨t₁, t₂, ht, hne, -, w, hw, h3⟩ := hp _ _ _ h.split h.request
    obtain ⟨h1, h2⟩ := and_three_iff.1 h3
    -- the answers behind the first one are `ws ++ [v]`, and only `v` has the ROM ready
    have hm : v₀ :: (ws ++ [v]) = misc2Reads t₁ ++ misc2Reads t₂ := by
      rw [← misc2Reads_append, ← ht, misc2Reads_append, hv₀, h.answers]
      rfl
    obtain ⟨x, xs, hx⟩ := List.exists_cons_of_ne_nil hne
    rw [hx, List.cons_append] at hm
    have hmem : w ∈ ws ++ [v] := by
      rw [(List.cons.inj hm).2]
      exact List.mem_append_right _ hw
    rcases List.mem_append.1 hmem with hws | hv
    · exact absurd h1 (h.others w hws)
    · rw [← List.mem_singleton.1 hv]
      exact h2
  · intro h2 a e b hs he
    refine ⟨pre, polls, h.unique hs he, by simp [hv₀], h.quiet, v, ?_, and_three_iff.2 ⟨h.last, h2⟩⟩
    rw [h.answers]
    simp

theorem StartsAt.ready_iff (h : StartsAt tr ret pre polls ev post ws v) :
    ReadyMeansStopped tr ↔ v &&& 0x02 = 0 := by
  unfold ReadyMeansStopped
  rw [h.pollAnswers_eq]
  constructor
  · exact fun hr => hr v (by simp) h.last
  · intro h2 w hw h1
    rcases List.mem_append.1 hw with hws | hv
    · exact absurd h1 (h.others w hws)
    · rw [List.mem_singleton.1 hv]
      exact h2

/-- If the last of the polls saw the old firmware stopped, success means that a new one went up. -/
theorem StartsAt.ramRises (h : StartsAt tr ret pre polls ev post ws v) (h2 : v &&& 0x02 = 0)
    (h0 : ret = 0) : RamRises tr := by
  refine ⟨pre ++ polls, ev :: post, h.split, ⟨v, ?_, h2⟩, (h.success h0).behind (t := [ev])⟩
  rw [misc2Reads_append, h.answers]
  simp

end

/-- **A download starts after the old firmware has stopped** in every exchange in which `TOP_MISC2`
shows the ROM ready only once the RAM firmware has stopped; then success means that the RAM
firmware was seen going up. In an exchange that sends the address/length request there is no other
way. -/
theorem download_romPolled {fw : List U8} {tr : List (Event sig)} {ret : Int}
    (h : Trace (downloadFirmware fw) tr ret) :
    (ReadyMeansStopped tr → RomPolled tr ∧ (ret = 0 → RamRises tr)) ∧
      ((∃ ev ∈ tr, isAddrLen ev = true) → RomPolled tr → ReadyMeansStopped tr) := by
  rcases download_startsAt h with ⟨hr, hno⟩ | ⟨pre, polls, ev, post, ws, v, hst⟩
  · refine ⟨fun _ => ⟨fun a e b hs he => ?_, fun h0 => by omega⟩, fun ⟨e, he, hr⟩ => ?_⟩
    · have := hno e (by rw [hs]; simp)
      simp [this] at he
    · simp [hno e he] at hr
  · rw [hst.ready_iff, hst.romPolled_iff]
    exact ⟨fun h2 => ⟨h2, hst.ramRises h2⟩, fun _ h2 => h2⟩

/-- A warm start: running, then in ROM, then running again. -/
theorem download_romPolled_warm :
    ∃ tr, Trace (downloadFirmware smallFw) tr 0 ∧ (∃ ev ∈ tr, isAddrLen ev = true) ∧
      ReadyMeansStopped tr ∧ RomPolled tr ∧ RamRises tr := by
  have ht := trace_downloadRun [2, 1, 2] 0 0 (by decide +kernel)
  have ha : pollAnswers (downloadRun [2, 1, 2] 0).2 = [1] := by decide +kernel
  have hr : ReadyMeansStopped (downloadRun [2, 1, 2] 0).2 := by
    unfold ReadyMeansStopped
    rw [ha]
    simp
  have hex : (downloadRun [2, 1, 2] 0).2.any isAddrLen = true := by decide +kernel
  obtain ⟨hp, hrise⟩ := (download_romPolled ht).1 hr
  exact ⟨_, ht, List.any_eq_true.1 hex, hr, hp, hrise rfl⟩

/-- The device keeps answering that the ROM is ready and the RAM firmware running: the download
goes through and reports success, though the old firmware was never seen to stop. -/
theorem download_stale_firmware :
    verifyFirmware smallFw = .ok () ∧
      ∃ tr, Trace (downloadFirmware smallFw) tr 0 ∧ ¬RomPolled tr ∧ ¬RamRises tr := by
  have ht := trace_downloadRun [3, 3, 3] 0 0 (by decide +kernel)
  have hall : misc2Reads (downloadRun [3, 3, 3] 0).2 = [3, 3, 3] := by decide +kernel
  have hex : (downloadRun [3, 3, 3] 0).2.any isAddrLen = true := by decide +kernel
  have h3 : ∀ v ∈ misc2Reads (downloadRun [3, 3, 3] 0).2, v = 3 := by
    rw [hall]
    simp
  refine ⟨smallFw_verified, _, ht, fun hp => ?_, fun ⟨t₁, t₂, hs, ⟨v, hv, h2⟩, _⟩ => ?_⟩
  · obtain ⟨ev, hev, he⟩ := List.any_eq_true.1 hex
    obtain ⟨a, b, hs⟩ := List.append_of_mem hev
    obtain ⟨t₁, t₂, rfl, -, -, v, hv, h1⟩ := hp a ev b hs he
    have := h3 v (by rw [hs]; simp [hv])
    rw [this] at h1
    exact absurd h1 (by decide)
  · have := h3 v (by rw [hs]; simp [hv])
    rw [this] at h2
    exact absurd h2 (by decide)

end Driver
