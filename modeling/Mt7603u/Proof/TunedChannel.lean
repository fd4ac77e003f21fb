import Mt7603u.Proof.RadioExchange

/-!
# The tuned channel

`delivered` reads off an exchange the channel switches that reached the device, and `tunedTo` what
the device is tuned to after it. Unless a switch is lost in it (`SwitchLost`), an exchange with the
radio leaves the device state noting what the device is tuned to (`radio_tuned`), and with it every
run (`calls_tuned`).
-/

namespace Driver

open Effect Slice Word Rust

/-! ## Delivered switches -/

/-- The channel and the bandwidth of a channel switch whose transfer was answered `r`. -/
def switchDone (buf : List U8) (r : Int) : Option (U8 × U8) :=
  if 0 ≤ r then (switchFields buf).map fun f => (f.1, f.2.2) else none

def switchAnswer : (e : Req) → e.Resp → Option (U8 × U8)
  | .bulkOut _ buf, r => switchDone buf r
  | _, _ => none

/-- The channel switches delivered in an exchange, in order. -/
def delivered (tr : List (Event sig)) : List (U8 × U8) :=
  tr.filterMap fun ev => switchAnswer ev.req ev.resp

/-- What the device is tuned to after an exchange. -/
def tunedTo (t : U8 × U8) (tr : List (Event sig)) : U8 × U8 := (delivered tr).getLast?.getD t

/-- A channel switch does not reach the device: its transfer fails, or there is no memory for it
when `RMAC_CHFREQ` is about to be written. -/
def SwitchLost (tr : List (Event sig)) : Prop :=
  (∃ ep buf fields, ∃ r : Int, (⟨.bulkOut ep buf, r⟩ : Event sig) ∈ tr ∧
    switchFields buf = some fields ∧ r < 0) ∨
  ∃ t₁ n r t₂, tr = t₁ ++ ⟨.alloc n, false⟩ :: writeEvent RMAC_CHFREQ 1 r :: t₂

@[simp] theorem tunedTo_nil {t : U8 × U8} : tunedTo t [] = t := rfl

theorem tunedTo_append {t : U8 × U8} {t₁ t₂ : List (Event sig)} :
    tunedTo t (t₁ ++ t₂) = tunedTo (tunedTo t t₁) t₂ := by
  unfold tunedTo delivered
  rw [List.filterMap_append, List.getLast?_append, Option.getD_or]

theorem SwitchLost.append_left {t₁ : List (Event sig)} (t₂ : List (Event sig))
    (h : SwitchLost t₁) : SwitchLost (t₁ ++ t₂) := by
  rcases h with ⟨ep, buf, fields, r, hm, hs, hr⟩ | ⟨s₁, n, r, s₂, rfl⟩
  · exact .inl ⟨ep, buf, fields, r, List.mem_append_left _ hm, hs, hr⟩
  · exact .inr ⟨s₁, n, r, s₂ ++ t₂, by simp⟩

theorem SwitchLost.append_right {t₂ : List (Event sig)} (t₁ : List (Event sig))
    (h : SwitchLost t₂) : SwitchLost (t₁ ++ t₂) := by
  rcases h with ⟨ep, buf, fields, r, hm, hs, hr⟩ | ⟨s₁, n, r, s₂, rfl⟩
  · exact .inl ⟨ep, buf, fields, r, List.mem_append_right _ hm, hs, hr⟩
  · exact .inr ⟨t₁ ++ s₁, n, r, s₂, by simp⟩

/-- A request that is no channel switch. -/
def NoSwitch : Req → Prop
  | .bulkOut _ buf => switchFields buf = none
  | _ => True

theorem switchAnswer_noSwitch {e : Req} {r : e.Resp} (h : NoSwitch e) :
    switchAnswer e r = none := by
  cases e with
  | bulkOut ep buf =>
    have hnone : switchFields buf = none := h
    simp only [switchAnswer, switchDone, hnone, Option.map_none, ite_self]
  | _ => rfl

theorem tunedTo_noSwitch {t : U8 × U8} {tr : List (Event sig)} (h : ∀ ev ∈ tr, NoSwitch ev.req) :
    tunedTo t tr = t := by
  have hnil : delivered tr = [] :=
    List.filterMap_eq_nil_iff.2 fun ev hev => switchAnswer_noSwitch (h ev hev)
  rw [tunedTo, hnil]
  rfl

/-- A switch that is delivered. -/
theorem tunedTo_switch {t out : U8 × U8} {n : Nat} {ep : U8} {buf : List U8} {r : Int}
    (h : switchDone buf r = some out) :
    tunedTo t [⟨.alloc n, true⟩, ⟨.bulkOut ep buf, r⟩] = out := by
  have hdel : delivered [⟨.alloc n, true⟩, ⟨.bulkOut ep buf, r⟩] = [out] := by
    simp only [delivered, List.filterMap_cons, switchAnswer, h, List.filterMap_nil]
  rw [tunedTo, hdel]
  rfl

/-! ## Programs that track the tuning -/

/-- From the tuning `t` on, the device state that `p` ends with notes what the device is tuned to,
unless a channel switch is lost. -/
def Tracks {α : Type} (dev : α → Dev) (t : U8 × U8) (p : P α) : Prop :=
  ∀ tr a, Trace p tr a → ¬SwitchLost tr → (dev a).tuning = tunedTo t tr

theorem noSwitch_of_noCommand {e : Req} (h : NoCommand e) : NoSwitch e := by
  cases e with
  | bulkOut ep buf => exact h.elim
  | _ => trivial

theorem noSwitch_cmd {extCid seq : U8} {payload : List U8} {ep : U8}
    (h : extCid ≠ EXT_CMD_CHANNEL_SWITCH) :
    NoSwitch (.bulkOut ep (padded (cmdImage extCid seq payload))) := by
  show switchFields _ = none
  unfold switchFields
  rw [decodeRun_padded]
  rcases payload with _ | ⟨_, _ | ⟨_, _ | ⟨_, _⟩⟩⟩
  · rfl
  · rfl
  · rfl
  · exact if_neg h

theorem noSwitch_sent {extCid seq : U8} {payload : List U8} {tr : List (Event sig)}
    (hx : extCid ≠ EXT_CMD_CHANNEL_SWITCH) (h : Sent (cmdImage extCid seq payload) tr) :
    ∀ ev ∈ tr, NoSwitch ev.req := by
  rcases h with rfl | ⟨r, rfl⟩
  · exact List.forall_mem_singleton.2 trivial
  · exact List.forall_mem_cons.2 ⟨trivial, List.forall_mem_singleton.2 (noSwitch_cmd hx)⟩

/-- **A channel switch tracks the tuning**, whatever it was before. -/
theorem tunedTo_setChannel {seq seq' channel bw centralCh : U8} {eeprom : List U8} {r : Int}
    {t₁ t₂ : List (Event sig)} {t : U8 × U8} (hsw : Sent (switchCmd seq channel bw centralCh) t₁)
    (hpw : Sent (powerCmd eeprom seq' channel) t₂)
    (hl : ¬SwitchLost (t₁ ++ writeEvent RMAC_CHFREQ 1 r :: t₂)) :
    tunedTo t (t₁ ++ writeEvent RMAC_CHFREQ 1 r :: t₂) = (clampChannel channel, clampBw bw) := by
  have hpower : ∀ ev ∈ writeEvent RMAC_CHFREQ 1 r :: t₂, NoSwitch ev.req :=
    List.forall_mem_cons.2 ⟨trivial, noSwitch_sent (by decide) hpw⟩
  rw [tunedTo_append, tunedTo_noSwitch hpower]
  rcases hsw with rfl | ⟨x, rfl⟩
  · exact absurd (.inr ⟨[], _, r, t₂, rfl⟩) hl
  · have hfields : switchFields (padded (switchCmd seq channel bw centralCh)) =
        some (clampChannel channel, clampCentral channel centralCh, clampBw bw) :=
      switchFields_switch
    by_cases hx : 0 ≤ x
    · have hdone : switchDone (padded (switchCmd seq channel bw centralCh)) x =
          some (clampChannel channel, clampBw bw) := by
        rw [switchDone, if_pos hx, hfields]
        rfl
      exact tunedTo_switch hdone
    · refine absurd (.inl ⟨MT7603_CMD_BULK_OUT, _, _, x, ?_, hfields, by omega⟩) hl
      exact List.mem_append_left _ (List.mem_cons_of_mem _ (List.mem_singleton.2 rfl))

/-- **The device state notes what the device is tuned to** after every exchange with the radio. -/
theorem radio_tuned {d d' : Dev} {tr : List (Event sig)} (h : Radio d tr d') :
    ¬SwitchLost tr → d'.tuning = tunedTo d.tuning tr := by
  induction h with
  | still hq hr =>
    intro _
    rw [tunedTo_noSwitch fun ev hev => noSwitch_of_noCommand (hq ev hev)]
    exact congrArg Prod.fst hr
  | startRefused hr => exact fun _ => congrArg Prod.fst hr
  | command hx _ hs hr =>
    intro _
    rw [tunedTo_noSwitch (noSwitch_sent hx hs)]
    exact congrArg Prod.fst hr
  | switch hsw hpw hr =>
    intro hl
    rw [tunedTo_setChannel hsw hpw hl]
    exact congrArg Prod.fst hr
  | append _ _ ih₁ ih₂ =>
    intro hl
    rw [ih₂ fun h => hl (h.append_right _), ih₁ fun h => hl (h.append_left _), tunedTo_append]

/-! ## Runs -/

theorem tracks_runCalls (acts : List Action) (h : Host) :
    Tracks (fun h' : Host => h'.dev) h.dev.tuning (runCalls acts h) :=
  fun tr h' ht => radio_tuned (operates_runCalls acts h tr h' ht)

/-- **The noted channel is the one the chip is on.** In every run of callbacks from the registered
device in which no channel switch is lost, the device state notes the channel and the bandwidth of
the last channel switch that was delivered (0 if there was none), so a retuning is only skipped
where that switch was to the wanted channel. -/
theorem calls_tuned (macAddr : MacAddr) (eepromValid : Bool) (rssiOffset2g : Int)
    (eeprom : List U8) (acts : List Action) (h : Host) (tr : List (Event sig))
    (ht : Trace (runCalls acts (.registered macAddr eepromValid rssiOffset2g eeprom)) tr h)
    (hl : ¬SwitchLost tr) :
    (h.dev.currentChannel, h.dev.currentBw) = (delivered tr).getLast?.getD (0, 0) ∧
      ∀ ch, ch ≠ 0 → ¬ch ≠ h.dev.currentChannel →
        ∃ bw, (delivered tr).getLast? = some (ch, bw) := by
  have htune : h.dev.tuning = (delivered tr).getLast?.getD (0, 0) :=
    tracks_runCalls acts _ tr h ht hl
  refine ⟨htune, fun ch hne hskip => ?_⟩
  have hch : ch = h.dev.currentChannel := by simpa using hskip
  cases hlast : (delivered tr).getLast? with
  | none =>
    rw [hlast] at htune
    exact absurd (hch.trans (congrArg Prod.fst htune)) hne
  | some t =>
    rw [hlast] at htune
    have hfst : h.dev.currentChannel = t.1 := congrArg Prod.fst htune
    exact ⟨t.2, by rw [hch, hfst]⟩

theorem not_switchLost {tr : List (Event sig)} (h : ∀ ev ∈ tr, ev.resp = willing ev.req) :
    ¬SwitchLost tr := by
  rintro (⟨ep, buf, fields, r, hm, -, hr⟩ | ⟨t₁, n, r, t₂, rfl⟩)
  · have hlen : r = buf.length := h _ hm
    omega
  · cases h ⟨.alloc n, false⟩ (by simp)

/-- The device is started and tuned to channel 6. -/
def tuneCalls : List Action :=
  [.start, .call ⟨0, .station, ⟨0x00, 0x0c, 0x43, 0x76, 0x03, 0x01⟩, none⟩
    (.config ⟨some 6, false, 2437⟩ IEEE80211_CONF_CHANGE_CHANNEL)]

theorem calls_tuned_channel6 :
    ∃ tr h, Trace (runCalls tuneCalls
        (.registered ⟨0x00, 0x0c, 0x43, 0x76, 0x03, 0x01⟩ false 0 [])) tr h ∧ ¬SwitchLost tr ∧
      (h.dev.currentChannel, h.dev.currentBw) = (delivered tr).getLast?.getD (0, 0) := by
  obtain ⟨tr, ht, hresp⟩ := trace_eval (S := sig) willing
    (runCalls tuneCalls (.registered ⟨0x00, 0x0c, 0x43, 0x76, 0x03, 0x01⟩ false 0 []))
  have hl := not_switchLost hresp
  exact ⟨tr, _, ht, hl, (calls_tuned _ _ _ _ _ _ tr ht hl).1⟩

/-- A host whose transfers to the device all time out. -/
def timedOut : (e : Req) → e.Resp
  | .bulkOut _ _ => (-110 : Int)
  | e => willing e

theorem delivered_timedOut {tr : List (Event sig)} (h : ∀ ev ∈ tr, ev.resp = timedOut ev.req) :
    delivered tr = [] := by
  refine List.filterMap_eq_nil_iff.2 fun ev hev => ?_
  have hr := h ev hev
  obtain ⟨e, r⟩ := ev
  cases e with
  | bulkOut ep buf =>
    have hneg : r = (-110 : Int) := hr
    show switchDone buf r = none
    rw [hneg]
    rfl
  | _ => rfl

/-- The channel is noted whether the switch goes out or not. -/
theorem channel_tuneCalls (h : Host) :
    Ends (S := sig) (fun h' : Host => h'.dev.currentChannel = 6) (runCalls tuneCalls h) := by
  refine ends_next fun h₁ => ?_
  have hconf : Ends (S := sig) (fun d : Dev => d.currentChannel = 6)
      (config h₁.dev ⟨some 6, false, 2437⟩ IEEE80211_CONF_CHANGE_CHANNEL) := by
    unfold config
    dsimp only
    rw [if_pos (.inl (by decide))]
    exact ends_next fun _ => ends_next fun _ => ends_next fun _ => rfl
  refine ends_bind (Q := fun h' : Host => h'.dev.currentChannel = 6) ?_ fun h₂ hh => hh
  exact ends_bind hconf fun d hd => hd

/-- With every transfer timing out, channel 6 is noted and no channel switch was delivered. -/
theorem calls_tuned_timedOut :
    ∃ tr h, Trace (runCalls tuneCalls
        (.registered ⟨0x00, 0x0c, 0x43, 0x76, 0x03, 0x01⟩ false 0 [])) tr h ∧
      h.dev.currentChannel = 6 ∧ delivered tr = [] ∧
      (h.dev.currentChannel, h.dev.currentBw) ≠ (delivered tr).getLast?.getD (0, 0) := by
  obtain ⟨tr, ht, hresp⟩ := trace_eval (S := sig) timedOut
    (runCalls tuneCalls (.registered ⟨0x00, 0x0c, 0x43, 0x76, 0x03, 0x01⟩ false 0 []))
  have hch := runs_ends (channel_tuneCalls _) ht
  have hnone := delivered_timedOut hresp
  refine ⟨tr, _, ht, hch, hnone, fun hsame => ?_⟩
  rw [hnone] at hsame
  exact absurd (hch.symm.trans (congrArg Prod.fst hsame)) (by decide)

end Driver
