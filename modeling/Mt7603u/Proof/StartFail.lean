import Mt7603u.Proof.ChannelSwitch
import Mt7603u.Proof.Lifecycle

/-!
# A start that fails

`start` sets `running` and submits the URBs of the receive rings before its last step that can fail,
the allocation of the command buffer, and takes nothing of it back. A failed start therefore never
leaves the device stopped (`start_failure_stops_iff`).
-/

namespace Driver

open Effect Slice Word Rust

/-- A URB for what the device sends was submitted. -/
def UrbSubmitted : (e : Req) → e.Resp → Prop
  | .submitRsp _, r => (0 : Int) ≤ r
  | _, _ => False

/-- The device is stopped as it was: nothing of the exchange is left running. -/
structure LeftStopped (dev : Dev) (ring ring' : RxRing) (tr : List (Event sig)) : Prop where
  running : dev.running = false
  urbs : ∀ ev ∈ tr, ¬UrbSubmitted ev.req ev.resp
  ring : ring' = ring

/-- Not the allocation of the command buffer, which no other allocation has the size of. -/
def NotCmdBuf : Req → Prop
  | .alloc n => n ≠ MT7603_EEPROM_SIZE + 64
  | _ => True

theorem notCmdBuf_alloc {n : Nat} (h : n ≠ MT7603_EEPROM_SIZE + 64) : NotCmdBuf (.alloc n) := h

/-- There is no memory for the command buffer. -/
def cmdBufRefused : Event sig := ⟨.alloc (MT7603_EEPROM_SIZE + 64), false⟩

theorem notCmdBuf_built {B : Out RegWriteOp Nat} {max : Nat} :
    All (S := sig) NotCmdBuf (executeBuilt B max) :=
  all_executeBuilt fun _ _ _ _ => trivial

theorem notCmdBuf_sendCmd {extCid seq : U8} {payload : List U8} {max : Nat}
    (h : payload.length ≤ 1000) (hm : payload.length + 32 ≤ max) :
    All (S := sig) NotCmdBuf (sendBuilt (extCmd extCid seq payload) max) := by
  refine all_sendCmd h hm (notCmdBuf_alloc ?_) trivial
  unfold MT7603_EEPROM_SIZE
  omega

theorem notCmdBuf_setChannel {dev : Dev} {channel : U8} :
    All (S := sig) NotCmdBuf (setChannel dev channel) := by
  unfold setChannel setChannelExt
  refine all_bind (notCmdBuf_sendCmd ?_ ?_) fun _ => ?_
  · exact Nat.le_of_ble_eq_true rfl
  · exact Nat.le_of_ble_eq_true rfl
  · refine all_bind (all_usbWriteReg trivial) fun _ => ?_
    refine all_bind (notCmdBuf_sendCmd ?_ ?_) fun _ => trivial
    · rw [length_txPowerCtrlPayload]
      decide
    · rw [length_txPowerCtrlPayload]
      decide

theorem notCmdBuf_uploadEfuse {dev : Dev} : All (S := sig) NotCmdBuf (uploadEfuse dev) := by
  unfold uploadEfuse
  split
  · refine all_bind (notCmdBuf_sendCmd ?_ ?_) fun _ => trivial
    · rw [List.length_replicate]
      decide
    · rw [List.length_replicate]
      decide
  · trivial

theorem cmdBuf_granted {tr : List (Event sig)} (h : ∀ ev ∈ tr, NotCmdBuf ev.req) :
    cmdBufRefused ∉ tr := fun hm => h _ hm rfl

theorem notCmdBuf_startRx {ring : RxRing} : All (S := sig) NotCmdBuf (startRx ring) :=
  all_startRx (notCmdBuf_alloc (by decide)) (notCmdBuf_alloc (by decide))
    (notCmdBuf_alloc (by decide)) fun _ => trivial

/-- **The outcomes of `start`**: with a command buffer it succeeds, and without one it fails with
`running` set. -/
theorem start_cases {dev dev' : Dev} {ring ring' : RxRing} {ret : Int} {tr : List (Event sig)}
    (h : Trace (start dev ring) tr (ret, dev', ring')) :
    (ret < 0 ∧ dev'.running = true ∧ cmdBufRefused ∈ tr) ∨ (0 ≤ ret ∧ cmdBufRefused ∉ tr) := by
  unfold start at h
  obtain ⟨_, t₁, t₂, rfl, h1, h2⟩ := trace_bind.1 h
  obtain ⟨⟨_, ring₁⟩, t₃, t₄, rfl, h3, h4⟩ := trace_bind.1 h2
  obtain ⟨ok, t₅, t₆, rfl, h5, h6⟩ := trace_bind.1 h4
  obtain rfl := (trace_request (S := sig) (e := .alloc (MT7603_EEPROM_SIZE + 64))).1 h5
  cases ok with
  | false =>
    obtain ⟨hres, rfl⟩ := trace_ret.1 h6
    cases hres
    exact .inl ⟨by decide, rfl, by simp [cmdBufRefused]⟩
  | true =>
    rw [if_pos rfl] at h6
    have hret : ret = 0 := by
      refine runs_ends (Q := fun r : Int × Dev × RxRing => r.1 = 0) ?_ h6
      refine ends_next fun _ => ends_next fun _ => ends_next fun _ => ends_next fun _ => ?_
      exact ends_next fun _ => ends_next fun _ => ends_next fun _ => ends_next fun _ => rfl
    have hrest : cmdBufRefused ∉ t₆ := by
      refine cmdBuf_granted (trace_all (P := NotCmdBuf) ?_ h6)
      refine all_bind notCmdBuf_uploadEfuse fun d => ?_
      refine all_bind notCmdBuf_built fun _ => all_bind notCmdBuf_built fun _ => ?_
      refine all_bind notCmdBuf_built fun _ => ?_
      refine all_bind (notCmdBuf_sendCmd (by decide) (by decide)) fun _ => ?_
      refine all_bind (notCmdBuf_sendCmd (by decide) (by decide)) fun _ => ?_
      refine all_bind (all_usbWriteReg trivial) fun _ => ?_
      exact all_bind notCmdBuf_setChannel fun _ => trivial
    have hudma : cmdBufRefused ∉ t₁ :=
      cmdBuf_granted (trace_all (all_usbEnableUdma trivial fun _ => trivial) h1)
    have hrx : cmdBufRefused ∉ t₃ := cmdBuf_granted (trace_all notCmdBuf_startRx h3)
    have hok : cmdBufRefused ≠ ⟨.alloc (MT7603_EEPROM_SIZE + 64), true⟩ := by
      intro he
      cases he
    refine .inr ⟨by omega, ?_⟩
    simp only [List.mem_append, List.mem_cons, List.not_mem_nil, hudma, hrx, hok, hrest, or_self,
      not_false_eq_true]

/-- **A failed start leaves the device stopped** only where it does not fail: exactly if there is
memory for the command buffer. -/
theorem start_failure_stops_iff (dev dev' : Dev) (ring ring' : RxRing) (ret : Int)
    (tr : List (Event sig)) (h : Trace (start dev ring) tr (ret, dev', ring')) :
    (ret < 0 → LeftStopped dev' ring ring' tr) ↔
      (⟨.alloc (MT7603_EEPROM_SIZE + 64), false⟩ : Event sig) ∉ tr := by
  rcases start_cases h with ⟨hneg, hrun, hm⟩ | ⟨hpos, hm⟩
  · refine ⟨fun hstop => ?_, fun hno => absurd hm hno⟩
    have hfalse := (hstop hneg).running
    rw [hrun] at hfalse
    cases hfalse
  · exact ⟨fun _ => hm, fun _ hneg => by omega⟩

/-- A start with all the memory it asks for. -/
theorem start_failure_stops_granted :
    ∃ tr ret dev' ring', Trace (start Dev.zeroed .empty) tr (ret, dev', ring') ∧
      (⟨.alloc (MT7603_EEPROM_SIZE + 64), false⟩ : Event sig) ∉ tr ∧
      (ret < 0 → LeftStopped dev' .empty ring' tr) := by
  obtain ⟨tr, ht, hresp⟩ := trace_eval (S := sig) willing (start Dev.zeroed .empty)
  have hm : (⟨.alloc (MT7603_EEPROM_SIZE + 64), false⟩ : Event sig) ∉ tr :=
    fun hm => not_memoryRefused hresp ⟨_, hm⟩
  exact ⟨tr, _, _, _, ht, hm, (start_failure_stops_iff _ _ _ _ _ tr ht).2 hm⟩

/-- A host without memory for the command buffer. -/
def noCmdBuf : (e : Req) → e.Resp
  | .alloc n => decide (n ≠ MT7603_EEPROM_SIZE + 64)
  | e => willing e

/-- Without memory for the command buffer, `start` returns -12 with `running` set, the four
RX URBs and the one for command responses submitted. -/
theorem start_failure_runs_on :
    ∃ tr dev' ring', Trace (start Dev.zeroed .empty) tr (-12, dev', ring') ∧
      dev'.running = true ∧ (tr.filter fun ev => ev.req matches .submitRsp _).length = 5 ∧
      ring' ≠ .empty ∧ ¬LeftStopped dev' .empty ring' tr := by
  have ht := trace_logRun (S := sig) (fun _ => noCmdBuf) (start Dev.zeroed .empty)
  refine ⟨_, _, _, ht, rfl, rfl, ?_, fun h => ?_⟩
  · decide
  · cases h.running

end Driver
