import Mt7603u.Base.Counter
import Mt7603u.Proof.TunedChannel

/-!
# Command numbers

Every command of the running firmware takes the next number of a counter that runs through 1..15.
`issued` lists the commands of an exchange in order, each with the number it was sent with, or none
if there was no memory for its transfer: such a command has taken its number all the same.
`radio_draws`: an exchange with the radio draws the numbers of its commands from the counter. So of
any 15 commands in a row those that are sent carry different numbers (`calls_numbered`), but 15
commands *sent* in a row need not: `numbers_repeat` loses every second one.
-/

namespace Driver

open Effect Slice Word Rust Counter

/-! ## The counter -/

theorem toNat_iterate_nextSeq (seq : U8) (i : Nat) :
    (nextSeq^[i] (nextSeq seq)).toNat = (seq.toNat + i) % 15 + 1 := by
  induction i with
  | zero => exact toNat_nextSeq seq
  | succ i ih =>
    rw [Function.iterate_succ_apply', toNat_nextSeq, ih]
    omega

/-- No number comes back within 15 draws. -/
theorem iterate_nextSeq_ne (seq : U8) (i : Nat) (h0 : 0 < i) (h15 : i < 15) :
    nextSeq^[i] (nextSeq seq) ≠ nextSeq seq := by
  intro h
  have hnat := congrArg BitVec.toNat h
  rw [toNat_iterate_nextSeq, toNat_nextSeq] at hnat
  omega

theorem nextSeq_le (seq : U8) : nextSeq seq ≤ 15 := by
  rw [BitVec.le_def, toNat_nextSeq]
  have h15 : (15 : U8).toNat = 15 := rfl
  omega

/-- The rule of the running firmware and the one of the download. -/
theorem nextSeq_eq_nextCmdSeq {seq : U8} (h : seq ≤ 15) : nextSeq seq = nextCmdSeq seq := by
  have h15 : (15 : U8).toNat = 15 := rfl
  have hle : seq.toNat ≤ 15 := h15 ▸ BitVec.le_def.1 h
  refine BitVec.eq_of_toNat_eq ?_
  rw [toNat_nextSeq]
  unfold nextCmdSeq
  split
  · rename_i hge
    have hge' : 15 ≤ seq.toNat := h15 ▸ BitVec.le_def.1 hge
    have hone : (1 : U8).toNat = 1 := rfl
    omega
  · rename_i hlt
    have hlt' : seq.toNat < 15 := h15 ▸ BitVec.lt_def.1 (BitVec.not_le.1 hlt)
    have hone : (1 : U8).toNat = 1 := rfl
    rw [BitVec.toNat_add, hone]
    omega

/-! ## Commands of an exchange -/

/-- The number of a command, as the device reads it (0 if it reads none). -/
def cmdNumber (buf : List U8) : U8 := ((decodeRun buf).map (·.seq)).getD 0

/-- The device reads a command with a number in 1..15 that asks for an acknowledgement. -/
def Acked (buf : List U8) : Prop :=
  ∃ f, decodeRun buf = some f ∧ 1 ≤ f.seq ∧ f.seq ≤ 15 ∧ f.option = EXT_CID_OPTION_NEED_ACK

/-- There was no memory for the transfer of a command. -/
def lostCommand : (e : Req) → e.Resp → Bool
  | .alloc n, ok => decide (CommandAlloc n) && !ok
  | _, _ => false

/-- How many commands of an exchange were not sent. -/
def lost (tr : List (Event sig)) : Nat := tr.countP fun ev => lostCommand ev.req ev.resp

/-- The command an event is about: its number if it is sent. -/
def issuedBy : (e : Req) → e.Resp → Option (Option U8)
  | .bulkOut _ buf, _ => some (some (cmdNumber buf))
  | e, r => if lostCommand e r then some none else none

/-- The commands of an exchange, in order. -/
def issued (tr : List (Event sig)) : List (Option U8) :=
  tr.filterMap fun ev => issuedBy ev.req ev.resp

theorem issued_append (t t' : List (Event sig)) : issued (t ++ t') = issued t ++ issued t' :=
  List.filterMap_append

/-- The numbers in the list are those of the transfers. -/
theorem issued_sent (tr : List (Event sig)) :
    (issued tr).filterMap id = (sends tr).map cmdNumber := by
  unfold issued sends
  rw [List.filterMap_filterMap, List.map_filterMap]
  refine List.filterMap_congr fun ev _ => ?_
  obtain ⟨e, r⟩ := ev
  cases e with
  | bulkOut ep buf => rfl
  | alloc n =>
    show (if lostCommand (.alloc n) r then some none else none : Option (Option U8)).bind id = _
    split <;> rfl
  | _ => rfl

theorem length_issued (tr : List (Event sig)) :
    (issued tr).length = (sends tr).length + lost tr := by
  induction tr with
  | nil => rfl
  | cons ev tr ih =>
    obtain ⟨e, r⟩ := ev
    have hlost : lost (⟨e, r⟩ :: tr) = lost tr + if lostCommand e r then 1 else 0 :=
      List.countP_cons
    rw [hlost]
    cases e with
    | bulkOut ep buf =>
      show (some (cmdNumber buf) :: issued tr).length = (buf :: sends tr).length + (lost tr + 0)
      rw [List.length_cons, List.length_cons, ih]
      omega
    | alloc n =>
      show (issued (⟨.alloc n, r⟩ :: tr)).length = (sends tr).length + _
      by_cases hl : lostCommand (.alloc n) r
      · have hone : issued (⟨.alloc n, r⟩ :: tr) = none :: issued tr :=
          List.filterMap_cons_some (if_pos hl)
        rw [hone, List.length_cons, ih, if_pos hl]
        omega
      · have hnone : issued (⟨.alloc n, r⟩ :: tr) = issued tr :=
          List.filterMap_cons_none (if_neg hl)
        rw [hnone, ih, if_neg hl]
        omega
    | _ => exact ih

/-- A part without a command issues none. -/
theorem issued_noCommand {tr : List (Event sig)} (h : ∀ ev ∈ tr, NoCommand ev.req) :
    issued tr = [] ∧ sends tr = [] := by
  constructor
  · refine List.filterMap_eq_nil_iff.2 fun ev hev => ?_
    have hno := h ev hev
    obtain ⟨e, r⟩ := ev
    cases e with
    | bulkOut ep buf => exact hno.elim
    | alloc n =>
      have hl : lostCommand (.alloc n) r = false := by
        simp only [lostCommand, decide_eq_false hno, Bool.false_and]
      exact if_neg (by rw [hl]; exact Bool.false_ne_true)
    | _ => rfl
  · refine List.filterMap_eq_nil_iff.2 fun ev hev => ?_
    have hno := h ev hev
    obtain ⟨e, r⟩ := ev
    cases e with
    | bulkOut ep buf => exact hno.elim
    | _ => rfl

theorem cmdNumber_padded {extCid seq : U8} {payload : List U8} :
    cmdNumber (padded (cmdImage extCid seq payload)) = seq := by
  rw [cmdNumber, decodeRun_padded]
  rfl

theorem acked_padded {extCid seq : U8} {payload : List U8} :
    Acked (padded (cmdImage extCid (nextSeq seq) payload)) := by
  refine ⟨_, decodeRun_padded, ?_, nextSeq_le seq, ?_⟩
  · rw [BitVec.le_def, toNat_nextSeq]
    exact Nat.le_add_left ..
  · exact if_pos ⟨rfl, .inl rfl, rfl, nextSeq_ne_zero seq⟩

/-- A command with the next number draws it, sent or not. -/
theorem draws_sent {extCid seq : U8} {payload : List U8} {tr : List (Event sig)}
    (hn : CommandAlloc (payload.length + 36))
    (h : Sent (cmdImage extCid (nextSeq seq) payload) tr) :
    Draws nextSeq seq (issued tr) (nextSeq seq) ∧ ∀ buf ∈ sends tr, Acked buf := by
  have hsize : (cmdImage extCid (nextSeq seq) payload).length + MT7603_USB_END_PADDING =
      payload.length + 36 := by rw [length_cmdImage]; rfl
  rcases h with rfl | ⟨r, rfl⟩
  · have hlost : lostCommand (.alloc (payload.length + 36)) false = true := by
      simp only [lostCommand, decide_eq_true hn, Bool.not_false, Bool.and_true]
    have hone : issued [⟨.alloc (payload.length + 36), false⟩] = [none] :=
      List.filterMap_cons_some (if_pos hlost)
    rw [hsize, hone]
    exact ⟨draws_none, by simp [sends]⟩
  · have hone : issued [⟨.alloc (payload.length + 36), true⟩, ⟨.bulkOut MT7603_CMD_BULK_OUT
        (padded (cmdImage extCid (nextSeq seq) payload)), r⟩] =
        [some (cmdNumber (padded (cmdImage extCid (nextSeq seq) payload)))] :=
      List.filterMap_cons_none (if_neg (by simp [lostCommand]))
    rw [hsize, hone, cmdNumber_padded]
    exact ⟨draws_some, List.forall_mem_singleton.2 acked_padded⟩

theorem seq_of_radio {d : Dev} {t : U8 × U8} {seq : U8} (h : d.radio = (t, seq)) :
    d.cmdSeq = seq := congrArg Prod.snd h

/-- **An exchange with the radio draws its numbers from the counter**, unless `start` takes one and
gets no buffer. -/
theorem radio_draws {d d' : Dev} {tr : List (Event sig)} (h : Radio d tr d') :
    (⟨.alloc (MT7603_EEPROM_SIZE + 64), false⟩ : Event sig) ∉ tr →
      Draws nextSeq d.cmdSeq (issued tr) d'.cmdSeq ∧ ∀ buf ∈ sends tr, Acked buf := by
  induction h with
  | still hq hr =>
    intro _
    obtain ⟨hissued, hsends⟩ := issued_noCommand hq
    rw [hissued, hsends]
    exact ⟨congrArg Prod.snd hr, by simp⟩
  | startRefused => exact fun hm => absurd (List.mem_singleton.2 rfl) hm
  | command _ hn hs hr =>
    intro _
    rw [seq_of_radio hr]
    exact draws_sent hn hs
  | switch hsw hpw hr =>
    intro _
    rw [seq_of_radio hr, issued_append, sends_around]
    obtain ⟨hd₁, ha₁⟩ := @draws_sent _ _ (channelSwitchPayload ..) _
      (show CommandAlloc (36 + 36) by decide) hsw
    obtain ⟨hd₂, ha₂⟩ := draws_sent (by rw [length_txPowerCtrlPayload]; decide) hpw
    exact ⟨draws_append.2 ⟨_, hd₁, hd₂⟩, List.forall_mem_append.2 ⟨ha₁, ha₂⟩⟩
  | append _ _ ih₁ ih₂ =>
    intro hm
    obtain ⟨hd₁, ha₁⟩ := ih₁ fun h => hm (List.mem_append_left _ h)
    obtain ⟨hd₂, ha₂⟩ := ih₂ fun h => hm (List.mem_append_right _ h)
    rw [issued_append, sends_append]
    exact ⟨draws_append.2 ⟨_, hd₁, hd₂⟩, List.forall_mem_append.2 ⟨ha₁, ha₂⟩⟩

/-! ## Runs -/

/-- **Command numbers.** In every run from the registered device in which `start` gets its buffer:
every command sent has a number in 1..15 and asks for an acknowledgement; of any 15 commands issued
in a row those that are sent carry different numbers; and the counter only takes values on which
the download's rule gives the same next number. -/
theorem calls_numbered (macAddr : MacAddr) (eepromValid : Bool) (rssiOffset2g : Int)
    (eeprom : List U8) (acts : List Action) (h : Host) (tr : List (Event sig))
    (ht : Trace (runCalls acts (.registered macAddr eepromValid rssiOffset2g eeprom)) tr h)
    (hm : (⟨.alloc (MT7603_EEPROM_SIZE + 64), false⟩ : Event sig) ∉ tr) :
    (∀ buf ∈ sends tr, Acked buf) ∧
    (∀ t₁ t₂ t₃, tr = t₁ ++ t₂ ++ t₃ → (sends t₂).length + lost t₂ ≤ 15 →
      ((sends t₂).map cmdNumber).Nodup) ∧
    h.dev.cmdSeq ≤ 15 ∧ ∀ seq ≤ 15, nextSeq seq ≤ 15 ∧ nextSeq seq = nextCmdSeq seq := by
  obtain ⟨hdraws, hacked⟩ := radio_draws (operates_runCalls acts _ tr h ht) hm
  refine ⟨hacked, ?_, ?_, fun seq hseq => ⟨nextSeq_le seq, nextSeq_eq_nextCmdSeq hseq⟩⟩
  · rintro t₁ t₂ t₃ rfl hlen
    rw [issued_append, issued_append, draws_append] at hdraws
    obtain ⟨c₂, hdraws, -⟩ := hdraws
    obtain ⟨c₁, -, hdraws⟩ := draws_append.1 hdraws
    rw [← issued_sent]
    exact hdraws.nodup iterate_nextSeq_ne (by rw [length_issued]; exact hlen)
  · exact hdraws.inv (I := fun seq => seq ≤ 15) (fun seq _ => nextSeq_le seq)
      (show (0 : U8) ≤ 15 by decide)

/-- The run of `tuneCalls` on a host that refuses nothing. -/
theorem calls_numbered_channel6 :
    ∃ tr h, Trace (runCalls tuneCalls
        (.registered ⟨0x00, 0x0c, 0x43, 0x76, 0x03, 0x01⟩ false 0 [])) tr h ∧
      (⟨.alloc (MT7603_EEPROM_SIZE + 64), false⟩ : Event sig) ∉ tr ∧
      (∀ buf ∈ sends tr, Acked buf) ∧ h.dev.cmdSeq ≤ 15 := by
  obtain ⟨tr, ht, hresp⟩ := trace_eval (S := sig) willing
    (runCalls tuneCalls (.registered ⟨0x00, 0x0c, 0x43, 0x76, 0x03, 0x01⟩ false 0 []))
  have hm : (⟨.alloc (MT7603_EEPROM_SIZE + 64), false⟩ : Event sig) ∉ tr := fun h => by
    cases hresp _ h
  obtain ⟨hacked, -, hle, -⟩ := calls_numbered _ _ _ _ _ _ tr ht hm
  exact ⟨tr, _, ht, hm, hacked, hle⟩

/-- A host that has no memory for the transfers of TX power commands. -/
def noPower : (e : Req) → e.Resp
  | .alloc n => decide (n ≠ 80)
  | e => willing e

/-- The device is started and tuned twelve times. -/
def retuneCalls : List Action :=
  .start :: List.replicate 12 (.call ⟨0, .station, ⟨0x00, 0x0c, 0x43, 0x76, 0x03, 0x01⟩, none⟩
    (.config ⟨some 6, false, 2437⟩ IEEE80211_CONF_CHANGE_CHANNEL))

/-- Every second command is lost, so two of the fifteen that are sent carry the number 2. -/
theorem numbers_repeat :
    ∃ tr h, Trace (runCalls retuneCalls
        (.registered ⟨0x00, 0x0c, 0x43, 0x76, 0x03, 0x01⟩ false 0 [])) tr h ∧
      (⟨.alloc (MT7603_EEPROM_SIZE + 64), false⟩ : Event sig) ∉ tr ∧
      (sends tr).map cmdNumber = [1, 2, 3, 5, 7, 9, 11, 13, 15, 2, 4, 6, 8, 10, 12] ∧
      ¬((sends tr).map cmdNumber).Nodup := by
  have hnum : (sends ((runCalls retuneCalls
      (.registered ⟨0x00, 0x0c, 0x43, 0x76, 0x03, 0x01⟩ false 0 [])).logRun
        fun _ => noPower).2).map cmdNumber =
      [1, 2, 3, 5, 7, 9, 11, 13, 15, 2, 4, 6, 8, 10, 12] := by decide +kernel
  have ht := trace_logRun (S := sig) (fun _ => noPower) (runCalls retuneCalls
    (.registered ⟨0x00, 0x0c, 0x43, 0x76, 0x03, 0x01⟩ false 0 []))
  have hresp := resp_logRun (S := sig) noPower (runCalls retuneCalls
    (.registered ⟨0x00, 0x0c, 0x43, 0x76, 0x03, 0x01⟩ false 0 []))
  generalize (runCalls retuneCalls (.registered ⟨0x00, 0x0c, 0x43, 0x76, 0x03, 0x01⟩ false 0
    [])).logRun (fun _ => noPower) = run at hnum ht hresp
  refine ⟨run.2, run.1, ht, fun h => ?_, hnum, ?_⟩
  · have hr : false = decide (MT7603_EEPROM_SIZE + 64 ≠ 80) := hresp _ h
    exact absurd hr (by decide)
  · rw [hnum]
    decide

end Driver
