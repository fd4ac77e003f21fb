import Mt7603u.Driver.ControlMsg

/-!
# Control transfers carry register accesses

`control_refines`: whatever a driver function does, carried out by control transfers, it does to the
device's registers what it does with one request per access, and no buffer is left behind. On a
healthy bus it runs against `regEnv True` (`wp_handle_lower`), which the results about registers are
stated for.
-/

namespace Driver

open Effect Slice Word Rust

/-! ## The access functions -/

section
variable (addr val : U32)

theorem vendorReadMsg_eq : vendorReadMsg addr val =
    readMsg addr >>= fun r => .ret (if 0 ≤ r.1 then (0, r.2) else (r.1, val)) := by
  refine congrArg (Prog.op (S := msgSig) (.kmalloc 4)) (funext fun buf => ?_)
  cases buf with
  | none => rfl
  | some buf =>
    refine congrArg (Prog.op (S := msgSig) (.control (vendorRead addr) buf))
      (funext fun (ret : Int) => ?_)
    change (if 0 ≤ ret then _ else _) = (if 0 ≤ ret then _ else _) >>= _
    by_cases hr : 0 ≤ ret
    · rw [if_pos hr, if_pos hr]
      refine congrArg (Prog.op (S := msgSig) (.load buf)) (funext fun bytes => ?_)
      refine congrArg (Prog.op (S := msgSig) (.kfree buf)) (funext fun _ => ?_)
      exact congrArg Prog.ret (if_pos hr).symm
    · rw [if_neg hr, if_neg hr]
      refine congrArg (Prog.op (S := msgSig) (.kfree buf)) (funext fun _ => ?_)
      exact congrArg Prog.ret (if_neg hr).symm

theorem usbCfgReadMsg_eq : usbCfgReadMsg addr val = (usbCfgRead addr val).handle lower :=
  vendorReadMsg_eq addr val

theorem usbCfgWriteMsg_eq : usbCfgWriteMsg addr val = (usbCfgWrite addr val).handle lower := by
  refine congrArg (Prog.op (S := msgSig) (.kmalloc 4)) (funext fun buf => ?_)
  cases buf with
  | none => rfl
  | some buf => rfl

theorem usbReadRegMsg_eq : usbReadRegMsg addr val = (usbReadReg addr val).handle lower :=
  usbCfgReadMsg_eq (physicalAddrMap addr) val

theorem usbWriteRegMsg_eq : usbWriteRegMsg addr val = (usbWriteReg addr val).handle lower :=
  usbCfgWriteMsg_eq (physicalAddrMap addr) val

end

theorem executeRegOpsMsg_eq (ops : List RegWriteOp) :
    executeRegOpsMsg ops = (executeRegOps ops).handle lower := by
  induction ops with
  | nil => rfl
  | cons op ops ih =>
    unfold executeRegOpsMsg executeRegOps
    rw [handle_bind, ← usbWriteRegMsg_eq]
    refine congrArg (usbWriteRegMsg op.addr op.val >>= ·) (funext fun ret => ?_)
    split
    · rfl
    · exact ih

/-! ## One access -/

/-- The bus between two accesses: the registers, and nothing left behind in the heap `heap`. -/
structure AtRest (heap : Nat → Option (List U8)) (w : MsgState) (s : RegFile) : Prop where
  regs : w.regs = s
  heap : w.heap = heap
  intact : w.broken = false

theorem setBuf_setBuf (w : MsgState) (buf : Nat) (data data' : Option (List U8)) :
    (w.setBuf buf data).setBuf buf data' = w.setBuf buf data' := by
  unfold MsgState.setBuf
  rw [Function.update_idem]

theorem vendorSetup_addr (dir request : U8) (addr : U32) :
    (vendorSetup dir request addr).addr = addr := by
  unfold Setup.addr vendorSetup
  apply BitVec.eq_of_getLsbD_eq
  intro i hi
  simp only [BitVec.getLsbD_append, BitVec.getLsbD_setWidth, BitVec.getLsbD_ushiftRight]
  by_cases h : i < 16
  · interval_cases i <;> simp
  · interval_cases i <;> simp_all

theorem le32OfBytes_toLe32 (w : U32) (rest : List U8) : le32OfBytes (toLe32 w ++ rest) = w :=
  le32_toLe32 w

/-- What the device does on a vendor read. -/
theorem serves_read {regs regs' : RegFile} {addr : U32} {old data' : List U8} {ret : Int}
    (hs : Serves regs (vendorRead addr) old ret data' regs') :
    regs' = regs ∧ (ret = 4 → le32OfBytes data' = regs addr) := by
  cases hs with
  | @read _ n hr ht hn =>
    refine ⟨rfl, fun h => ?_⟩
    obtain rfl : n = 4 := by omega
    rw [List.take_of_length_le (by simp), le32OfBytes_toLe32, vendorRead, vendorSetup_addr]
  | write hr ht hl => cases hr
  | fail hr hl => exact ⟨rfl, fun h => by omega⟩
  | late hn hr ht hl => cases hr

/-- What the device does on a vendor write. -/
theorem serves_write {regs regs' : RegFile} {addr val : U32} {data' : List U8} {ret : Int}
    (hs : Serves regs (vendorWrite addr) (toLe32 val) ret data' regs') :
    regs' = (fun b => if b = addr then val else regs b) ∨ (¬0 ≤ ret ∧ regs' = regs) := by
  have haddr : (vendorWrite addr).addr = addr := vendorSetup_addr ..
  generalize hbytes : toLe32 val = bytes at hs
  cases hs with
  | read hr ht hn => cases hr
  | @write v rest hr ht hl =>
    rw [← List.append_nil (toLe32 val), toLe32_append_inj] at hbytes
    rw [haddr, hbytes.1]
    exact .inl rfl
  | fail hr hl => exact .inr ⟨by omega, rfl⟩
  | @late v rest _ hn hr ht hl =>
    rw [← List.append_nil (toLe32 val), toLe32_append_inj] at hbytes
    rw [haddr, hbytes.1]
    exact .inl rfl

section
variable {healthy : Prop} {w : MsgState} {s : RegFile} {heap : Nat → Option (List U8)}
  {α : Type} {Q : α → MsgState → Prop}

/-- A buffer of four bytes, and what is done with it until it is freed. -/
theorem wp_kmalloc {f : Option Nat → MP α} (hw : AtRest heap w s)
    (hnone : ¬healthy → wp (msgEnv healthy) (f none) w Q)
    (hsome : ∀ buf old, heap buf = none → old.length = 4 →
      wp (msgEnv healthy) (f (some buf)) (w.setBuf buf (some old)) Q) :
    wp (msgEnv healthy) (kmalloc 4 >>= f) w Q := by
  refine (wp_op _).2 fun (r : Option Nat) w' hD => ?_
  cases r with
  | none =>
    obtain ⟨hn, rfl⟩ := hD
    exact hnone hn
  | some buf =>
    obtain ⟨hfree, old, hl, rfl⟩ := hD
    rw [hw.heap] at hfree
    exact hsome buf old hfree hl

/-- Freeing the buffer puts the bus at rest. -/
theorem wp_kfree {f : Unit → MP α} {buf : Nat} {data : List U8} (hfree : heap buf = none)
    (hh : w.heap = Function.update heap buf (some data)) (hr : w.regs = s) (hb : w.broken = false)
    (hf : ∀ w', AtRest heap w' s → wp (msgEnv healthy) (f ()) w' Q) :
    wp (msgEnv healthy) (kfree buf >>= f) w Q := by
  refine (wp_op _).2 fun _ w' hD => ?_
  obtain rfl := hD
  refine hf _ ⟨hr, ?_, ?_⟩
  · change Function.update w.heap buf none = heap
    rw [hh, Function.update_idem, ← hfree, Function.update_eq_self]
  · change (w.broken || (w.heap buf).isNone) = false
    rw [hb, hh, Function.update_self]
    rfl

theorem wp_control {setup : Setup} {f : Int → MP α} {buf : Nat} {data : List U8}
    (hh : w.heap = Function.update heap buf (some data)) (hl : setup.length ≤ data.length)
    (hf : ∀ ret data' regs', Serves w.regs setup data ret data' regs' →
      (healthy → ret = (setup.length : Int)) →
        wp (msgEnv healthy) (f ret)
          ⟨regs', Function.update heap buf (some data'), w.broken⟩ Q) :
    wp (msgEnv healthy) (usbControlMsg setup buf >>= f) w Q := by
  have hbuf : w.heap buf = some data := by rw [hh, Function.update_self]
  refine (wp_op _).2 fun (ret : Int) w' hD => ?_
  simp only [msgEnv, hbuf] at hD
  rw [if_neg (by omega)] at hD
  obtain ⟨data', regs', hs, hok, rfl⟩ := hD
  have hset : w.setBuf buf (some data') =
      ⟨w.regs, Function.update heap buf (some data'), w.broken⟩ := by
    rw [MsgState.setBuf, hh, Function.update_idem]
  rw [hset]
  exact hf ret data' regs' hs hok

theorem wp_readMsg {addr : U32} {Q : Int × U32 → MsgState → Prop} (hw : AtRest heap w s)
    (hQ : ∀ r w', (r.1 = 4 → r.2 = s addr) → (healthy → r.1 = 4) → AtRest heap w' s → Q r w') :
    wp (msgEnv healthy) (readMsg addr) w Q := by
  refine wp_kmalloc hw (fun hn => ?_) fun buf old hfree hl => ?_
  · refine (wp_ret _).2 (hQ _ _ (fun h => ?_) (fun h => absurd h hn) hw)
    cases h
  have hlen : (vendorRead addr).length = 4 := rfl
  refine wp_control (by rw [MsgState.setBuf, hw.heap]) (by omega) fun ret data' regs' hs hok => ?_
  rw [hlen] at hok
  have hb : (w.setBuf buf (some old)).broken = false := hw.intact
  have hregs : (w.setBuf buf (some old)).regs = s := hw.regs
  rw [hregs] at hs
  rw [hb]
  obtain ⟨rfl, hval⟩ := serves_read hs
  split
  · refine (wp_op _).2 fun (bytes : List U8) w' hD => ?_
    simp only [msgEnv, Function.update_self] at hD
    obtain ⟨rfl, rfl⟩ := hD
    exact wp_kfree hfree rfl rfl rfl fun w' hw' => (wp_ret _).2 (hQ _ _ hval hok hw')
  · rename_i hneg
    refine wp_kfree hfree rfl rfl rfl fun w' hw' => (wp_ret _).2 (hQ _ _ (fun h => ?_) hok hw')
    have h4 : ret = 4 := h
    omega

theorem wp_writeMsg {addr val : U32} {Q : Int → MsgState → Prop} (hw : AtRest heap w s)
    (hQ : ∀ ret w' s', s' = (fun b => if b = addr then val else s b) ∨ (¬0 ≤ ret ∧ s' = s) →
      (healthy → 0 ≤ ret) → AtRest heap w' s' → Q ret w') :
    wp (msgEnv healthy) (writeMsg addr val) w Q := by
  refine wp_kmalloc hw (fun hn => ?_) fun buf old hfree hl => ?_
  · exact (wp_ret _).2 (hQ _ _ s (.inr ⟨by decide, rfl⟩) (fun h => absurd h hn) hw)
  have hbuf : (w.setBuf buf (some old)).heap buf = some old := Function.update_self ..
  refine (wp_op _).2 fun _ w' hD => ?_
  simp only [msgEnv, hbuf] at hD
  rw [if_neg (by rw [length_toLe32]; omega)] at hD
  subst hD
  have hlen : (vendorWrite addr).length = 4 := rfl
  have hdrop : old.drop (toLe32 val).length = [] := List.drop_of_length_le (by simp [hl])
  rw [hdrop, List.append_nil, setBuf_setBuf]
  refine wp_control (by rw [MsgState.setBuf, hw.heap]) (by rw [length_toLe32]; omega)
    fun ret data' regs' hs hok => ?_
  rw [hlen] at hok
  have hpos : healthy → 0 ≤ ret := fun h => by
    rw [hok h]
    decide
  have hb : (w.setBuf buf (some (toLe32 val))).broken = false := hw.intact
  rw [hb]
  have hregs : (w.setBuf buf (some (toLe32 val))).regs = s := hw.regs
  rw [hregs] at hs
  exact wp_kfree hfree rfl rfl rfl fun w' hw' =>
    (wp_ret _).2 (hQ _ _ _ (serves_write hs) hpos hw')

/-! ## Whole functions -/

theorem lower_refines (e : Req) :
    Refines (AtRest heap) (msgEnv healthy) (accessEnv healthy) (lower e)
      (Prog.request (S := sig) e) := by
  intro w s hw
  cases e with
  | readReg addr =>
    exact wp_readMsg hw fun r w' hval hok hw' => ⟨s, ⟨r, s, ⟨hval, hok, rfl⟩, rfl, rfl⟩, hw'⟩
  | writeReg addr val =>
    exact wp_writeMsg hw fun ret w' s' hs hok hw' => ⟨s', ⟨ret, s', ⟨hs, hok⟩, rfl, rfl⟩, hw'⟩
  | _ =>
    refine (wp_op _).2 fun r w' hD => (wp_ret _).2 ?_
    obtain rfl : w' = w := hD
    exact ⟨s, ⟨r, s, rfl, rfl, rfl⟩, hw⟩

/-- **A driver function over control transfers**: every run of it is one with a single request per
access, with the same result and the same effect on the registers. All its buffers have been freed,
and none was used outside its lifetime or bounds. -/
theorem control_refines {p : P α} {a : α} {w' : MsgState} (hb : w.broken = false)
    (hr : Runs (msgEnv healthy) (p.handle lower) w a w') :
    Runs (accessEnv healthy) p w.regs a w'.regs ∧ w'.heap = w.heap ∧ w'.broken = false := by
  obtain ⟨s, hs, hw'⟩ := refines_handle lower_refines p w w.regs ⟨rfl, rfl, hb⟩ a w' hr
  rw [hw'.regs]
  exact ⟨hs, hw'.heap, hw'.intact⟩

theorem accessEnv_healthy {s s' : RegFile} {e : Req} {r : e.Resp} (h : accessEnv True s e r s') :
    regEnv True s e r s' := by
  cases e with
  | readReg addr =>
    obtain ⟨hval, hok, rfl⟩ := h
    have h4 := hok trivial
    exact ⟨fun _ => ⟨by rw [h4]; decide, hval h4⟩, rfl⟩
  | writeReg addr val =>
    obtain ⟨hs | ⟨hn, -⟩, hok⟩ := h
    · exact ⟨hok trivial, hs⟩
    · exact absurd (hok trivial) hn
  | _ => exact h

/-- On a healthy bus a driver function does over control transfers what it does against registers
whose accesses succeed. -/
theorem wp_handle_lower {p : P α} {Q : α → RegFile → Prop} (hb : w.broken = false)
    (hp : wp (regEnv True) p w.regs Q) :
    wp (msgEnv True) (p.handle lower) w fun a w' =>
      Q a w'.regs ∧ w'.heap = w.heap ∧ w'.broken = false := by
  intro a w' hr
  obtain ⟨s, hs, hw'⟩ := refines_handle lower_refines p w w.regs ⟨rfl, rfl, hb⟩ a w' hr
  rw [hw'.regs]
  exact ⟨hp a s (runs_of_le (fun _ _ _ _ h => accessEnv_healthy h) hs), hw'.heap, hw'.intact⟩

end

/-! ## Runs on a healthy bus -/

/-- The bus between two requests, no buffer allocated. -/
def idleBus (s : RegFile) : MsgState := ⟨s, fun _ => none, false⟩

/-- The bus with one buffer. -/
def busyBus (s : RegFile) (data : List U8) : MsgState := (idleBus s).setBuf 0 (some data)

theorem idleBus_kmalloc (s : RegFile) :
    msgEnv True (idleBus s) (.kmalloc 4) (some (0 : Nat)) (busyBus s [0, 0, 0, 0]) :=
  ⟨rfl, [0, 0, 0, 0], rfl, rfl⟩

theorem busyBus_kfree (s : RegFile) (data : List U8) :
    msgEnv True (busyBus s data) (.kfree 0) () (idleBus s) := by
  have hheap : Function.update (idleBus s).heap 0 none = (idleBus s).heap :=
    Function.update_eq_self ..
  have hset : (busyBus s data).setBuf 0 none = idleBus s := by
    rw [busyBus, setBuf_setBuf, MsgState.setBuf, hheap]
  change idleBus s = { (busyBus s data).setBuf 0 none with
    broken := (busyBus s data).broken || ((busyBus s data).heap 0).isNone }
  rw [hset]
  rfl

theorem busyBus_store (s : RegFile) (val : U32) :
    msgEnv True (busyBus s [0, 0, 0, 0]) (.store 0 (toLe32 val)) () (busyBus s (toLe32 val)) :=
  (setBuf_setBuf (idleBus s) 0 (some [0, 0, 0, 0]) (some (toLe32 val))).symm

theorem busyBus_read (s : RegFile) (addr : U32) :
    msgEnv True (busyBus s [0, 0, 0, 0]) (.control (vendorRead addr) 0) (4 : Int)
      (busyBus s (toLe32 (s addr))) := by
  have haddr : (vendorRead addr).addr = addr := vendorSetup_addr ..
  have hn : 4 ≤ min (vendorRead addr).length 4 := Nat.le_refl 4
  have hs := @Serves.read s (vendorRead addr) [0, 0, 0, 0] 4 rfl rfl hn
  rw [haddr] at hs
  exact ⟨_, s, hs, fun _ => rfl, (setBuf_setBuf (idleBus s) 0 (some [0, 0, 0, 0]) _).symm⟩

theorem busyBus_write (s : RegFile) (addr val : U32) :
    msgEnv True (busyBus s (toLe32 val)) (.control (vendorWrite addr) 0) (4 : Int)
      (busyBus (fun b => if b = addr then val else s b) (toLe32 val)) := by
  have haddr : (vendorWrite addr).addr = addr := vendorSetup_addr ..
  have hs : Serves s (vendorWrite addr) (toLe32 val ++ []) 4 (toLe32 val ++ []) _ :=
    .write rfl rfl rfl
  rw [haddr, List.append_nil] at hs
  exact ⟨_, _, hs, fun _ => rfl,
    (setBuf_setBuf (idleBus _) 0 (some (toLe32 val)) (some (toLe32 val))).symm⟩

/-- Each request can be carried out as the device without failures answers it. -/
theorem runs_lower (s : RegFile) (e : Req) :
    Runs (msgEnv True) (lower e) (idleBus s) (regDevice s e).1 (idleBus (regDevice s e).2) := by
  cases e with
  | readReg addr =>
    have hval : le32OfBytes (toLe32 (s addr)) = s addr := le32OfBytes_toLe32 (s addr) []
    refine ⟨_, _, idleBus_kmalloc s, _, _, busyBus_read s addr, toLe32 (s addr), _, ⟨rfl, rfl⟩, (),
      _, busyBus_kfree s _, ?_, rfl⟩
    rw [hval]
    rfl
  | writeReg addr val =>
    exact ⟨_, _, idleBus_kmalloc s, (), _, busyBus_store s val, _, _, busyBus_write s addr val, (),
      _, busyBus_kfree _ _, rfl, rfl⟩
  | _ => exact ⟨_, _, rfl, rfl, rfl⟩

/-- So can a driver function. -/
theorem runs_handle_lower {α : Type} (p : P α) (s : RegFile) :
    Runs (msgEnv True) (p.handle lower) (idleBus s) (p.run regDevice s).1
      (idleBus (p.run regDevice s).2) :=
  runs_handle runs_lower p s

/-! The read of a register that holds `0x12345678`. -/

def oneRegister : MsgState := idleBus fun _ => 0x12345678

theorem oneRegister_read : Runs (msgEnv True) ((usbReadReg 0x1134 0).handle lower) oneRegister
    (0, 0x12345678) oneRegister :=
  runs_handle_lower (usbReadReg 0x1134 0) fun _ => 0x12345678

theorem control_refines_read : Runs (accessEnv True) (usbReadReg 0x1134 0) oneRegister.regs
    (0, 0x12345678) oneRegister.regs :=
  (control_refines rfl oneRegister_read).1

end Driver
