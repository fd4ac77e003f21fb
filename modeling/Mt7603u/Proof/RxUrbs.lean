import Mt7603u.Driver.RxUrbs
import Mt7603u.Proof.StartFail

/-!
# The receive URBs over whole runs

`startUrbs` and `stopUrbs` are the start and stop of `Driver.Lifecycle` with the URBs in view
(`sim_startUrbs`, `sim_stopUrbs`).

Two results about every run of a device, with completions at any time:

* `ring_safe`: as long as no start finds a data URB in flight, no URB and no buffer is misused, the
  driver has a pointer to everything that is allocated, and after a stop nothing is in flight and
  nothing is left allocated. A start that does find one submits it a second time.
* `ring_live`: while all goes well, every URB of a running device is in flight, so that no URB is
  ever lost.

Both rest on what the background can do to an URB nobody touches (`Since`): it may complete, and
while the device runs and all goes well it is back in flight at once.
-/

namespace Driver

open Effect Slice Word Rust Relation

/-! ## Start and stop with the URBs in view -/

/-- The requests of `Driver.Lifecycle` in an exchange. -/
def ringCoarse : (e : RingReq) → e.Resp → List (Event sig)
  | .io e, r => [⟨e, r⟩]
  | .kmalloc _ size, (ok : Bool) => [⟨.alloc size, ok⟩]
  | .allocUrb _, (ok : Bool) => [⟨.alloc 0, ok⟩]
  | .submit u, (r : Int) => [⟨.submitRsp u.ep, r⟩]
  | _, _ => []

abbrev RingSim {α : Type} (p' : RP α) (p : P α) : Prop :=
  Simulates (fun ev : Event ringSig => ringCoarse ev.req ev.resp) p' p

theorem sim_ringIo {α : Type} (p : P α) : RingSim (ringIo p) p := sim_via (fun _ _ => rfl) p

theorem sim_ringKmalloc {u : RingSlot} {size : Nat} : RingSim (ringKmalloc u size) (alloc size) :=
  sim_op fun ok => ⟨ok, rfl, sim_ret⟩

theorem sim_ringAllocUrb {u : RingSlot} : RingSim (ringAllocUrb u) (alloc 0) :=
  sim_op fun ok => ⟨ok, rfl, sim_ret⟩

theorem sim_allocUnless {there : Bool} {p' : RP Bool} {p : P Bool} (h : RingSim p' p) :
    RingSim (allocUnless there p') (allocUnless there p) := by
  cases there with
  | true => exact sim_ret
  | false => exact h

theorem sim_ringSubmit {u : RingSlot} : RingSim (ringSubmit u) (submitRsp u.ep) :=
  sim_op fun r => ⟨r, rfl, sim_ret⟩

theorem sim_startRxUrbs (i : Nat) (es : List RxUrb) :
    RingSim (startRxUrbs ringOps i es) (startRxUrbs rxOps i es) := by
  induction es generalizing i with
  | nil => exact sim_ret
  | cons e es ih =>
    refine sim_bind (sim_allocUnless sim_ringKmalloc) fun buf => ?_
    cases buf with
    | false => exact sim_ret
    | true =>
      refine sim_bind (sim_allocUnless sim_ringAllocUrb) fun urb => ?_
      cases urb with
      | false => exact sim_ret
      | true => exact sim_bind sim_ringSubmit fun _ => sim_bind (ih (i + 1)) fun _ => sim_ret

theorem sim_startRxRing (ring : RxRing) : RingSim (startRxRing ring) (startRx ring) := by
  refine sim_bind (sim_startRxUrbs 0 _) fun ⟨ret, rxUrbs⟩ => ?_
  dsimp only
  split
  · exact sim_ret
  · refine sim_bind (sim_allocUnless sim_ringKmalloc) fun cmdBuf => ?_
    split
    · refine sim_bind sim_ringAllocUrb fun cmdUrb => ?_
      cases cmdUrb with
      | false => exact sim_ret
      | true => exact sim_bind sim_ringSubmit fun _ => sim_ret
    · exact sim_ret

/-- **The start with URBs is the start.** -/
theorem sim_startUrbs (dev : Dev) (ring : RxRing) :
    RingSim (startUrbs dev ring) (start dev ring) :=
  sim_hidden (fun _ => rfl) fun _ => sim_bind (sim_ringIo _) fun _ =>
    sim_bind (sim_startRxRing ring) fun _ => sim_ringIo _

theorem sim_releaseSlot {α : Type} {u : RingSlot} {e : RxUrb} {k : Unit → RP α} {p : P α}
    (h : RingSim (k ()) p) : RingSim (releaseSlot u e >>= k) p := by
  obtain ⟨buf, urb⟩ := e
  cases buf <;> cases urb
  · exact h
  · exact sim_hidden (fun _ => rfl) fun _ => sim_hidden (fun _ => rfl) fun _ => h
  · exact sim_hidden (fun _ => rfl) fun _ => h
  · exact sim_hidden (fun _ => rfl) fun _ => sim_hidden (fun _ => rfl) fun _ =>
      sim_hidden (fun _ => rfl) fun _ => h

theorem sim_releaseSlots {α : Type} {es : List RxUrb} (i : Nat) {k : Unit → RP α} {p : P α}
    (h : RingSim (k ()) p) : RingSim (releaseSlots i es >>= k) p := by
  induction es generalizing i with
  | nil => exact h
  | cons e es ih =>
    have hnext : RingSim (releaseSlot (.rx i) e >>= fun _ => releaseSlots (i + 1) es >>= k) p :=
      sim_releaseSlot (ih (i + 1))
    intro tr a ht
    obtain ⟨x, t₁, t₂, rfl, h1, h2⟩ := trace_bind.1 ht
    obtain ⟨y, t₃, t₄, rfl, h3, h4⟩ := trace_bind.1 h1
    refine hnext _ a ?_
    rw [List.append_assoc]
    exact trace_bind.2 ⟨y, t₃, _, rfl, h3, trace_bind.2 ⟨x, t₄, t₂, rfl, h4, h2⟩⟩

/-- **The stop with URBs is the stop.** -/
theorem sim_stopUrbs (dev : Dev) (ring : RxRing) : RingSim (stopUrbs dev ring) (stop dev) := by
  have hstop : RingSim (stopRxRing ring >>= fun ring =>
      return ({ dev with running := false, beaconEnabled := false }, ring))
      (return ({ dev with running := false, beaconEnabled := false }, .empty)) := by
    intro tr a h
    obtain ⟨ring', t₁, t₂, rfl, h1, h2⟩ := trace_bind.1 h
    have hring : RingSim (stopRxRing ring) (return .empty) :=
      sim_releaseSlot (sim_releaseSlots 0 sim_ret)
    obtain ⟨rfl, hnil⟩ := trace_ret.1 (hring t₁ ring' h1)
    rw [List.flatMap_append, hnil]
    exact sim_ret t₂ a h2
  have hio : RingSim (ringIo cancelBeacon >>= fun _ => stopRxRing ring >>= fun ring =>
      return ({ dev with running := false, beaconEnabled := false }, ring)) (stop dev) :=
    sim_bind (sim_ringIo _) fun _ => hstop
  exact sim_hidden (fun _ => rfl) fun _ => hio

/-- `mt7603_rx_complete` submits its URB again under the same condition. -/
theorem rxComplete_resubmits {dbg : Bool} {uninit : Nat → RxInfo} {dev : RxDev} {status : Int}
    {buf : List U8} {ds : List Delivery} {again : Bool}
    (h : rxComplete dbg uninit dev status buf = .ok (ds, again)) :
    again = cmdRspComplete dev.running status := by
  unfold rxComplete at h
  rcases hl : (if dbg ∧ status = 0 ∧ 0 < buf.length then load buf 0 else .ok 0 : Rs U8) with e | x
  · rw [hl] at h
    cases h
  rcases hd : (if status = 0 ∧ 16 ≤ buf.length then rxLoop dbg uninit dev buf (buf.length + 1) 0
    else .ok [] : Rs (List Delivery)) with e | ds'
  · rw [hl, hd] at h
    cases h
  · rw [hl, hd] at h
    cases h
    rfl

/-! ## What the background does -/

/-- Nothing is misused, and only allocated URBs with a buffer are in flight. -/
structure RingWorld.Good (w : RingWorld) : Prop where
  sound : w.broken = false
  owned : ∀ u, (w.urb u).inFlight = true → (w.urb u).has = ⟨true, true⟩

/-- What can have changed from `w` to `w'` in the slots of `X`, which nobody touched: URBs may have
completed; if all goes well and the device runs, they are in flight again. -/
structure Since (healthy : Prop) (X : RingSlot → Prop) (w w' : RingWorld) : Prop where
  running : w'.running = w.running
  has : ∀ u, X u → (w'.urb u).has = (w.urb u).has
  done : ∀ u, X u → (w'.urb u).inFlight = true → (w.urb u).inFlight = true
  live : healthy → w.running = true → ∀ u, X u → (w'.urb u).inFlight = (w.urb u).inFlight

section
variable {healthy : Prop} {X Y : RingSlot → Prop} {w w₁ w₂ : RingWorld}

theorem Since.refl : Since healthy X w w :=
  ⟨rfl, fun _ _ => rfl, fun _ _ h => h, fun _ _ _ _ => rfl⟩

theorem Since.trans (h : Since healthy X w w₁) (h' : Since healthy X w₁ w₂) :
    Since healthy X w w₂ where
  running := h'.running.trans h.running
  has u hu := (h'.has u hu).trans (h.has u hu)
  done u hu hf := h.done u hu (h'.done u hu hf)
  live hh hr u hu := (h'.live hh (h.running.trans hr) u hu).trans (h.live hh hr u hu)

theorem Since.mono (h : Since healthy X w w₁) (hXY : ∀ u, Y u → X u) : Since healthy Y w w₁ where
  running := h.running
  has u hu := h.has u (hXY u hu)
  done u hu := h.done u (hXY u hu)
  live hh hr u hu := h.live hh hr u (hXY u hu)

theorem since_set {u : RingSlot} {x : RingUrb} {misuse : Bool} :
    Since healthy (· ≠ u) w (w.set u x misuse) where
  running := rfl
  has v hv := by rw [RingWorld.set]; dsimp only; rw [if_neg hv]
  done v hv h := by
    rw [RingWorld.set] at h
    dsimp only at h
    rwa [if_neg hv] at h
  live _ _ v hv := by rw [RingWorld.set]; dsimp only; rw [if_neg hv]

@[simp] theorem set_urb_same {u : RingSlot} {x : RingUrb} {misuse : Bool} :
    (w.set u x misuse).urb u = x := if_pos rfl

@[simp] theorem set_broken {u : RingSlot} {x : RingUrb} {misuse : Bool} :
    (w.set u x misuse).broken = (w.broken || misuse) := rfl

/-- A change that was no misuse and leaves the URB owned. -/
theorem good_set {u : RingSlot} {x : RingUrb} (hw : w.Good)
    (hx : x.inFlight = true → x.has = ⟨true, true⟩) : (w.set u x false).Good where
  sound := by rw [set_broken, hw.sound]; rfl
  owned v hv := by
    by_cases hvu : v = u
    · subst hvu
      rw [set_urb_same] at hv ⊢
      exact hx hv
    · rw [RingWorld.set] at hv ⊢
      dsimp only at hv ⊢
      rw [if_neg hvu] at hv ⊢
      exact hw.owned v hv

/-- **A completion** keeps the world good and touches no slot. -/
theorem gives_since (hw : w.Good) (h : Gives healthy w w₁) :
    w₁.Good ∧ Since healthy (fun _ => True) w w₁ := by
  obtain ⟨u, status, r, hf, hh, rfl⟩ := h
  have hown := hw.owned u hf
  obtain ⟨hbuf, hurb⟩ : (w.urb u).buf = true ∧ (w.urb u).urb = true := by
    simpa [RingUrb.has] using hown
  have hmisuse : (!(w.urb u).buf || !(w.urb u).urb) = false := by rw [hbuf, hurb]; rfl
  rw [giveBack, hmisuse]
  refine ⟨good_set hw fun _ => hown, rfl, fun v _ => ?_, fun v _ hv => ?_,
    fun hhealthy hr v _ => ?_⟩
  · by_cases hvu : v = u
    · subst hvu
      rw [set_urb_same]
      rfl
    · exact (since_set (w := w) : Since healthy _ _ _).has v hvu
  · by_cases hvu : v = u
    · subst hvu
      exact hf
    · exact (since_set (w := w) : Since healthy _ _ _).done v hvu hv
  · by_cases hvu : v = u
    · subst hvu
      obtain ⟨hstatus, hr0⟩ := hh hhealthy
      rw [set_urb_same, hf]
      simp only [Unlinked, not_or] at hstatus
      simp [cmdRspComplete, hr, hstatus, hr0]
    · exact since_set.live hhealthy hr v hvu

theorem stable_since (w : RingWorld) :
    Stable (Gives healthy) fun w' => w'.Good ∧ Since healthy (fun _ => True) w w' := by
  rintro w₁ w₂ hg ⟨hgood, hs⟩
  obtain ⟨hgood', hs'⟩ := gives_since hgood hg
  exact ⟨hgood', hs.trans hs'⟩

/-! ## Requests -/

variable {α : Type} {Q : α → RingWorld → Prop}

theorem wp_ring {e : RingReq} {k : e.Resp → RP α} (hw : w.Good)
    (h : ∀ w₁ (r : e.Resp), w₁.Good → Since healthy (fun _ => True) w w₁ →
      (healthy → RingFine e r) → wp (ringEnv healthy) (k r) (ringStep w₁ e r) Q) :
    wp (ringEnv healthy) (.op e k) w Q := by
  refine wp_beside (stable_since w) ⟨hw, .refl⟩ ?_
  rintro w₁ r w₂ ⟨hgood, hs⟩ ⟨hfine, rfl⟩
  exact h w₁ r hgood hs hfine

/-- The parts that do not concern the URBs. -/
theorem wp_ringIo {p : P α} {R : α → Prop} (hp : Ends (S := sig) R p) (hw : w.Good)
    (h : ∀ a w₁, R a → w₁.Good → Since healthy (fun _ => True) w w₁ → Q a w₁) :
    wp (ringEnv healthy) (ringIo p) w Q := by
  have hinv : wp (ringEnv healthy) (ringIo p) w fun _ w₁ =>
      w₁.Good ∧ Since healthy (fun _ => True) w w₁ := by
    refine beside_inv (stable_since w) (P := fun e => ∃ e', e = RingReq.io e')
      (all_via (all_of_forall (fun e => ⟨e, rfl⟩) p)) ?_ ⟨hw, .refl⟩
    rintro s _ r s' ⟨e, rfl⟩ ⟨-, rfl⟩ hs
    exact hs
  have hends : wp (ringEnv healthy) (ringIo p) w fun a _ => R a := wp_ends (ends_via hp)
  exact wp_mono (wp_and hends hinv) fun a w₁ h₁ => h a w₁ h₁.1 h₁.2.1 h₁.2.2

variable {u : RingSlot}

/-- An URB nobody submits stays down. -/
theorem idle_back {x x' : RingUrb} (h : x'.inFlight = true → x.inFlight = true)
    (hx : x.inFlight = false) : x'.inFlight = false := by
  by_contra hf
  rw [h (by simpa using hf)] at hx
  cases hx

/-- What is not allocated is not in flight. -/
theorem idle_of_missing (hw : w.Good) (h : (w.urb u).has ≠ ⟨true, true⟩) :
    (w.urb u).inFlight = false := by
  by_contra hf
  exact h (hw.owned u (by simpa using hf))

/-- An URB that is not in flight, changed into another one that is not. -/
theorem good_idle {x : RingUrb} (hw : w₁.Good) (hs : Since healthy (fun _ => True) w w₁)
    (hx : x.inFlight = false) :
    (w₁.set u x false).Good ∧ Since healthy (· ≠ u) w (w₁.set u x false) := by
  refine ⟨good_set hw fun hf => ?_, (hs.mono fun _ _ => trivial).trans since_set⟩
  rw [hx] at hf
  cases hf

/-- A slot after an allocation: `ok` is whether the object is there. -/
structure Allocated (healthy : Prop) (u : RingSlot) (w w₁ : RingWorld) (ok : Bool) : Prop where
  good : w₁.Good
  since : Since healthy (· ≠ u) w w₁
  idle : (w.urb u).inFlight = false → (w₁.urb u).inFlight = false
  granted : healthy → ok = true

theorem wp_bufUnless {there : Bool} {size : Nat} {Q : Bool → RingWorld → Prop} (hw : w.Good)
    (hb : (w.urb u).buf = there)
    (h : ∀ ok w₁, Allocated healthy u w w₁ ok → (w₁.urb u).has = ⟨ok, (w.urb u).urb⟩ →
      (there = true → ok = true) → Q ok w₁) :
    wp (ringEnv healthy) (allocUnless there (ringKmalloc u size)) w Q := by
  cases there with
  | true =>
    refine (wp_ret _).2 (h true w ⟨hw, .refl, id, fun _ => rfl⟩ ?_ fun _ => rfl)
    rw [RingUrb.has, hb]
  | false =>
    refine wp_ring hw fun w₁ (ok : Bool) hw₁ hs hfine => (wp_ret _).2 ?_
    have hhas := hs.has u trivial
    have hb₁ : (w₁.urb u).buf = false := (congrArg RxUrb.buf hhas).trans hb
    have hu₁ : (w₁.urb u).urb = (w.urb u).urb := congrArg RxUrb.urb hhas
    have hf₁ : (w₁.urb u).inFlight = false := idle_of_missing hw₁ (by simp [RingUrb.has, hb₁])
    cases ok with
    | false =>
      refine h false w₁ ⟨hw₁, hs.mono fun _ _ => trivial, fun _ => hf₁, hfine⟩ ?_ (by simp)
      rw [RingUrb.has, hb₁, hu₁]
    | true =>
      have hstep : ringStep w₁ (.kmalloc u size) true =
          w₁.set u { w₁.urb u with buf := true } false := by
        rw [ringStep, if_pos rfl, hb₁]
      obtain ⟨hgood, hsince⟩ :=
        good_idle (u := u) (x := { w₁.urb u with buf := true }) hw₁ hs hf₁
      rw [hstep]
      refine h true _ ⟨hgood, hsince, fun _ => ?_, fun _ => rfl⟩ ?_ fun _ => rfl
      · rw [set_urb_same]
        exact hf₁
      · rw [set_urb_same, RingUrb.has, hu₁]

theorem wp_urbUnless {there : Bool} {Q : Bool → RingWorld → Prop} (hw : w.Good)
    (hb : (w.urb u).urb = there)
    (h : ∀ ok w₁, Allocated healthy u w w₁ ok → (w₁.urb u).has = ⟨(w.urb u).buf, ok⟩ → Q ok w₁) :
    wp (ringEnv healthy) (allocUnless there (ringAllocUrb u)) w Q := by
  cases there with
  | true =>
    refine (wp_ret _).2 (h true w ⟨hw, .refl, id, fun _ => rfl⟩ ?_)
    rw [RingUrb.has, hb]
  | false =>
    refine wp_ring hw fun w₁ (ok : Bool) hw₁ hs hfine => (wp_ret _).2 ?_
    have hhas := hs.has u trivial
    have hu₁ : (w₁.urb u).urb = false := (congrArg RxUrb.urb hhas).trans hb
    have hb₁ : (w₁.urb u).buf = (w.urb u).buf := congrArg RxUrb.buf hhas
    have hf₁ : (w₁.urb u).inFlight = false := idle_of_missing hw₁ (by simp [RingUrb.has, hu₁])
    cases ok with
    | false =>
      refine h false w₁ ⟨hw₁, hs.mono fun _ _ => trivial, fun _ => hf₁, hfine⟩ ?_
      rw [RingUrb.has, hb₁, hu₁]
    | true =>
      have hstep : ringStep w₁ (.allocUrb u) true =
          w₁.set u { w₁.urb u with urb := true } false := by
        rw [ringStep, if_pos rfl, hu₁]
      obtain ⟨hgood, hsince⟩ :=
        good_idle (u := u) (x := { w₁.urb u with urb := true }) hw₁ hs hf₁
      rw [hstep]
      refine h true _ ⟨hgood, hsince, fun _ => ?_, fun _ => rfl⟩ ?_
      · rw [set_urb_same]
        exact hf₁
      · rw [set_urb_same, RingUrb.has, hb₁]

theorem wp_ringSubmit {Q : Int → RingWorld → Prop} (hw : w.Good)
    (hhas : (w.urb u).has = ⟨true, true⟩) (hidle : (w.urb u).inFlight = false)
    (h : ∀ r w₁, w₁.Good → Since healthy (· ≠ u) w w₁ → (w₁.urb u).has = ⟨true, true⟩ →
      (healthy → (w₁.urb u).inFlight = true) → Q r w₁) :
    wp (ringEnv healthy) (ringSubmit u) w Q := by
  refine wp_ring hw fun w₁ (r : Int) hw₁ hs hfine => (wp_ret _).2 ?_
  have hhas₁ : (w₁.urb u).has = ⟨true, true⟩ := (hs.has u trivial).trans hhas
  obtain ⟨hb₁, hu₁⟩ : (w₁.urb u).buf = true ∧ (w₁.urb u).urb = true := by
    simpa [RingUrb.has] using hhas₁
  have hf₁ : (w₁.urb u).inFlight = false := idle_back (hs.done u trivial) hidle
  have hmisuse : ((w₁.urb u).inFlight || !(w₁.urb u).buf || !(w₁.urb u).urb) = false := by
    rw [hf₁, hb₁, hu₁]
    rfl
  rw [ringStep, hmisuse]
  refine h r _ (good_set hw₁ fun _ => hhas₁) ((hs.mono fun _ _ => trivial).trans since_set) ?_
    fun hh => ?_
  · rw [set_urb_same]
    exact hhas₁
  · rw [set_urb_same, hf₁]
    exact decide_eq_true (hfine hh)

/-! A misuse is not undone. -/

theorem broken_ringStep (h : w.broken = true) :
    ∀ (e : RingReq) (r : e.Resp), (ringStep w e r).broken = true
  | .io _, _ => h
  | .running _, _ => h
  | .kmalloc _ _, (ok : Bool) => by cases ok <;> simp [ringStep, h]
  | .allocUrb _, (ok : Bool) => by cases ok <;> simp [ringStep, h]
  | .submit _, (r : Int) => by simp [ringStep, h]
  | .kill _, _ => by simp [ringStep, h]
  | .freeUrb _, _ => by simp [ringStep, h]
  | .kfree _, _ => by simp [ringStep, h]

theorem stable_broken : Stable (Gives healthy) fun w => w.broken = true := by
  rintro w₁ w₂ ⟨u, status, r, -, -, rfl⟩ h
  rw [giveBack, set_broken, h, Bool.true_or]

theorem wp_broken {p : RP α} (h : w.broken = true) :
    wp (ringEnv healthy) p w fun _ w' => w'.broken = true := by
  refine beside_inv stable_broken (P := fun _ => True) (all_of_forall (fun _ => trivial) p) ?_ h
  rintro s e r s' - ⟨-, rfl⟩ hs
  exact broken_ringStep hs e r

end

/-! ## Start -/

/-- The entries from `i` on are those of the list, and there are no others. -/
def Tied (i : Nat) (es : List RxUrb) (w : RingWorld) : Prop :=
  ∀ j, (w.urb (.rx (i + j))).has = es.getD j ⟨false, false⟩

/-- Not one of the entries from `i` on. -/
def Before (i : Nat) (u : RingSlot) : Prop := ∀ j, u ≠ .rx (i + j)

section
variable {healthy : Prop} {w w₁ : RingWorld} {i : Nat} {e : RxUrb} {es : List RxUrb}

theorem tied_cons : Tied i (e :: es) w ↔ (w.urb (.rx i)).has = e ∧ Tied (i + 1) es w := by
  constructor
  · intro h
    refine ⟨h 0, fun j => ?_⟩
    have hj := h (j + 1)
    rwa [show i + (j + 1) = i + 1 + j by omega] at hj
  · rintro ⟨h0, ht⟩ j
    cases j with
    | zero => exact h0
    | succ j =>
      rw [show i + (j + 1) = i + 1 + j by omega]
      exact ht j

theorem Tied.since {X : RingSlot → Prop} (h : Tied i es w) (hs : Since healthy X w w₁)
    (hX : ∀ j, X (.rx (i + j))) : Tied i es w₁ :=
  fun j => (hs.has _ (hX j)).trans (h j)

theorem later_ne (i j : Nat) : RingSlot.rx (i + 1 + j) ≠ .rx i := by
  intro h
  have := RingSlot.rx.inj h
  omega

theorem before_succ (i : Nat) : Before (i + 1) (.rx i) := fun j h => later_ne i j h.symm

theorem Before.ne {u : RingSlot} (h : Before i u) : u ≠ .rx i := h 0

theorem Before.succ {u : RingSlot} (h : Before i u) : Before (i + 1) u := by
  intro j
  rw [show i + 1 + j = i + (j + 1) by omega]
  exact h (j + 1)

/-- **The loop of `mt7603_start_rx`**, from entries that are not in flight. -/
theorem wp_startRxUrbs (hw : w.Good) (ht : Tied i es w)
    (hidle : ∀ j, (w.urb (.rx (i + j))).inFlight = false) :
    wp (ringEnv healthy) (startRxUrbs ringOps i es) w fun r w' =>
      w'.Good ∧ Tied i r.2 w' ∧ Since healthy (Before i) w w' ∧
        (healthy → w.running = true →
          r.1 = 0 ∧ ∀ j < es.length, (w'.urb (.rx (i + j))).inFlight = true) := by
  induction es generalizing i w with
  | nil => exact (wp_ret _).2 ⟨hw, ht, .refl, fun _ _ => ⟨rfl, fun j hj => absurd hj (by simp)⟩⟩
  | cons e es ih =>
    obtain ⟨h0, ht⟩ := tied_cons.1 ht
    have hb : (w.urb (.rx i)).buf = e.buf := congrArg RxUrb.buf h0
    have hu : (w.urb (.rx i)).urb = e.urb := congrArg RxUrb.urb h0
    rw [startRxUrbs, wp_bind]
    refine wp_bufUnless hw hb fun buf w₁ ha h1 hthere => ?_
    have hs₁ : Since healthy (Before i) w w₁ := ha.since.mono fun _ h => h.ne
    have ht₁ : Tied (i + 1) es w₁ := ht.since ha.since fun j => later_ne i j
    cases buf with
    | false =>
      have hbuf : e.buf = false := by
        by_contra hbuf
        exact absurd (hthere (by simpa using hbuf)) (by simp)
      refine (wp_ret _).2 ⟨ha.good, tied_cons.2 ⟨?_, ht₁⟩, hs₁, fun hh => ?_⟩
      · rw [h1, hu, ← hbuf]
      · exact absurd (ha.granted hh) (by simp)
    | true =>
      rw [if_pos rfl, wp_bind]
      refine wp_urbUnless ha.good ((congrArg RxUrb.urb h1).trans hu) fun urb w₂ ha₂ h2 => ?_
      have hs₂ : Since healthy (Before i) w w₂ := hs₁.trans (ha₂.since.mono fun _ h => h.ne)
      have ht₂ : Tied (i + 1) es w₂ := ht₁.since ha₂.since fun j => later_ne i j
      have h2 : (w₂.urb (.rx i)).has = ⟨true, urb⟩ := by
        rw [h2, show (w₁.urb (.rx i)).buf = true from congrArg RxUrb.buf h1]
      cases urb with
      | false =>
        refine (wp_ret _).2 ⟨ha₂.good, tied_cons.2 ⟨h2, ht₂⟩, hs₂, fun hh => ?_⟩
        exact absurd (ha₂.granted hh) (by simp)
      | true =>
        rw [if_pos rfl, wp_bind]
        have hidle₂ : (w₂.urb (.rx i)).inFlight = false := ha₂.idle (ha.idle (hidle 0))
        refine wp_ringSubmit ha₂.good h2 hidle₂ fun r w₃ hw₃ hs h3 hfly => ?_
        have hs₃ : Since healthy (Before i) w w₃ := hs₂.trans (hs.mono fun _ h => h.ne)
        have ht₃ : Tied (i + 1) es w₃ := ht₂.since hs fun j => later_ne i j
        have hidle₃ : ∀ j, (w₃.urb (.rx (i + 1 + j))).inFlight = false := by
          intro j
          have hj := hidle (j + 1)
          rw [show i + (j + 1) = i + 1 + j by omega] at hj
          have hne := later_ne i j
          exact idle_back (hs.done _ hne) (idle_back (ha₂.since.done _ hne)
            (idle_back (ha.since.done _ hne) hj))
        rw [wp_bind]
        refine wp_mono (ih hw₃ ht₃ hidle₃) ?_
        rintro ⟨ret, es'⟩ w₄ ⟨hw₄, ht₄, hs₄, hlive⟩
        have hslot : Since healthy (· = .rx i) w₃ w₄ := hs₄.mono fun u h => h ▸ before_succ i
        refine (wp_ret _).2 ⟨hw₄, tied_cons.2 ⟨(hslot.has _ rfl).trans h3, ht₄⟩,
          hs₃.trans (hs₄.mono fun _ h => h.succ), fun hh hr => ?_⟩
        have hr₃ : w₃.running = true := hs₃.running.trans hr
        obtain ⟨hret, hall⟩ := hlive hh hr₃
        refine ⟨hret, fun j hj => ?_⟩
        cases j with
        | zero => exact (hslot.live hh hr₃ _ rfl).trans (hfly hh)
        | succ j =>
          rw [show i + (j + 1) = i + 1 + j by omega]
          exact hall j (by simpa using hj)

/-- **The loop of `mt7603_start_rx`**, from an entry that is in flight: if all goes well, the loop
gets to it before it completes for good, and submits it once more. -/
theorem wp_startRxUrbs_busy (hw : w.Good) (ht : Tied i es w) (hr : w.running = true) {j : Nat}
    (hf : (w.urb (.rx (i + j))).inFlight = true) :
    wp (ringEnv True) (startRxUrbs ringOps i es) w fun _ w' => w'.broken = true := by
  induction es generalizing i j w with
  | nil => cases (ht j).symm.trans (hw.owned _ hf)
  | cons e es ih =>
    obtain ⟨h0, ht⟩ := tied_cons.1 ht
    have hb : (w.urb (.rx i)).buf = e.buf := congrArg RxUrb.buf h0
    have hu : (w.urb (.rx i)).urb = e.urb := congrArg RxUrb.urb h0
    rw [startRxUrbs, wp_bind]
    by_cases hi : (w.urb (.rx i)).inFlight = true
    · obtain rfl : e = ⟨true, true⟩ := h0.symm.trans (hw.owned _ hi)
      refine (wp_ret _).2 ?_
      rw [if_pos rfl, wp_bind]
      refine (wp_ret _).2 ?_
      rw [if_pos rfl, wp_bind]
      refine wp_ring hw fun w₁ (r : Int) _ hs _ => (wp_ret _).2 (wp_broken ?_)
      have hi₁ : (w₁.urb (.rx i)).inFlight = true := (hs.live trivial hr _ trivial).trans hi
      rw [ringStep, set_broken, hi₁, Bool.true_or, Bool.true_or, Bool.or_true]
    · have hidle : (w.urb (.rx i)).inFlight = false := by simpa using hi
      refine wp_bufUnless hw hb fun buf w₁ ha h1 _ => ?_
      obtain rfl := ha.granted trivial
      rw [if_pos rfl, wp_bind]
      refine wp_urbUnless ha.good ((congrArg RxUrb.urb h1).trans hu) fun urb w₂ ha₂ h2 => ?_
      obtain rfl := ha₂.granted trivial
      rw [if_pos rfl, wp_bind]
      have h2 : (w₂.urb (.rx i)).has = ⟨true, true⟩ := by
        rw [h2, show (w₁.urb (.rx i)).buf = true from congrArg RxUrb.buf h1]
      refine wp_ringSubmit ha₂.good h2 (ha₂.idle (ha.idle hidle)) fun r w₃ hw₃ hs _ _ => ?_
      have hs₃ : Since True (· ≠ .rx i) w w₃ := (ha.since.trans ha₂.since).trans hs
      -- the entry in flight is a later one, and still is
      obtain ⟨j, rfl⟩ : ∃ k, j = k + 1 := by
        cases j with
        | zero => exact absurd hf hi
        | succ k => exact ⟨k, rfl⟩
      rw [show i + (j + 1) = i + 1 + j by omega] at hf
      have hf₃ := (hs₃.live trivial hr _ (later_ne i j)).trans hf
      rw [wp_bind]
      refine wp_mono (ih hw₃ (ht.since hs₃ fun k => later_ne i k) (hs₃.running.trans hr) hf₃) ?_
      exact fun _ w₄ h₄ => (wp_ret _).2 h₄

end

/-- The pointers of the driver. -/
def RxRing.ptr (ring : RxRing) : RingSlot → RxUrb
  | .rx i => ring.rxUrbs.getD i ⟨false, false⟩
  | .cmd => ⟨ring.cmdBuf, ring.cmdUrb⟩

/-- The driver has a pointer to exactly what is allocated. -/
def RingWorld.Points (w : RingWorld) (ring : RxRing) : Prop := ∀ u, (w.urb u).has = ring.ptr u

/-- Every URB is in flight. -/
def RingWorld.AllFly (w : RingWorld) : Prop :=
  (∀ i < MT7603_NUM_RX_URBS, (w.urb (.rx i)).inFlight = true) ∧ (w.urb .cmd).inFlight = true

section
variable {healthy : Prop} {w : RingWorld} {ring : RxRing}

theorem points_of {w' : RingWorld} {rxUrbs : List RxUrb} {buf urb : Bool}
    (ht : Tied 0 rxUrbs w') (hc : (w'.urb .cmd).has = ⟨buf, urb⟩) :
    w'.Points ⟨rxUrbs, buf, urb⟩ := by
  intro u
  cases u with
  | rx i =>
    have hi := ht i
    rwa [Nat.zero_add] at hi
  | cmd => exact hc

theorem before_cmd : Before 0 .cmd := fun _ h => by cases h

theorem rx_ne_cmd (i : Nat) : RingSlot.rx i ≠ .cmd := fun h => by cases h

/-- **`mt7603_start_rx`** on a device without a data URB in flight. -/
theorem wp_startRxRing (hw : w.Good) (hp : w.Points ring) (hidle : w.DataIdle) :
    wp (ringEnv healthy) (startRxRing ring) w fun r w' =>
      w'.Good ∧ w'.Points r.2 ∧ w'.running = w.running ∧
        (healthy → w.running = true → ring = .empty → w'.AllFly) := by
  have ht : Tied 0 ring.rxUrbs w := fun j => by rw [Nat.zero_add]; exact hp (.rx j)
  rw [startRxRing, startRxBy, wp_bind]
  refine wp_mono (wp_startRxUrbs hw ht fun j => hidle _) ?_
  rintro ⟨ret, rxUrbs⟩ w₁ ⟨hw₁, ht₁, hs₁, hlive⟩
  have hcmd : (w₁.urb .cmd).has = ⟨ring.cmdBuf, ring.cmdUrb⟩ :=
    (hs₁.has _ before_cmd).trans (hp .cmd)
  dsimp only
  split
  · rename_i hneg
    refine (wp_ret _).2 ⟨hw₁, points_of ht₁ hcmd, hs₁.running, fun hh hr _ => ?_⟩
    obtain ⟨rfl, -⟩ := hlive hh hr
    exact absurd hneg (by decide)
  · rw [wp_bind]
    refine wp_bufUnless hw₁ (congrArg RxUrb.buf hcmd) fun cmdBuf w₂ ha h2 _ => ?_
    have ht₂ : Tied 0 rxUrbs w₂ := ht₁.since ha.since fun j => rx_ne_cmd _
    have h2 : (w₂.urb .cmd).has = ⟨cmdBuf, ring.cmdUrb⟩ := by
      rw [h2, show (w₁.urb .cmd).urb = ring.cmdUrb from congrArg RxUrb.urb hcmd]
    have hr₂ : w₂.running = w.running := ha.since.running.trans hs₁.running
    -- with an empty ring the loop covers every entry
    have hdata : healthy → w.running = true → ring = .empty →
        ∀ i < MT7603_NUM_RX_URBS, (w₂.urb (.rx i)).inFlight = true := by
      rintro hh hr rfl i hi
      have hi₁ := (hlive hh hr).2 i hi
      rw [Nat.zero_add] at hi₁
      exact (ha.since.live hh (hs₁.running.trans hr) _ (rx_ne_cmd i)).trans hi₁
    split
    · rename_i hc
      have hnone : (w₂.urb .cmd).urb = false := by
        have hurb : (w₂.urb .cmd).urb = ring.cmdUrb := congrArg RxUrb.urb h2
        rw [hurb]
        simpa using hc.2
      rw [wp_bind]
      have halloc : ringOps.allocUrb .cmd = allocUnless false (ringAllocUrb .cmd) := rfl
      rw [halloc]
      refine wp_urbUnless ha.good hnone fun urb w₃ ha₃ h3 => ?_
      have ht₃ : Tied 0 rxUrbs w₃ := ht₂.since ha₃.since fun j => rx_ne_cmd _
      have h3 : (w₃.urb .cmd).has = ⟨cmdBuf, urb⟩ := by
        rw [h3, show (w₂.urb .cmd).buf = cmdBuf from congrArg RxUrb.buf h2]
      have hr₃ : w₃.running = w.running := ha₃.since.running.trans hr₂
      cases urb with
      | false =>
        refine (wp_ret _).2 ⟨ha₃.good, points_of ht₃ h3, hr₃, fun hh => ?_⟩
        exact absurd (ha₃.granted hh) (by simp)
      | true =>
        rw [if_pos rfl, wp_bind]
        have hbuf : cmdBuf = true := hc.1
        rw [hbuf] at h3 ⊢
        have hidle₂ : (w₂.urb .cmd).inFlight = false := idle_of_missing ha.good fun hthere => by
          cases (congrArg RxUrb.urb hthere).symm.trans hnone
        refine wp_ringSubmit ha₃.good h3 (ha₃.idle hidle₂) fun r w₄ hw₄ hs h4 hfly => ?_
        refine (wp_ret _).2 ⟨hw₄, points_of (ht₃.since hs fun j => rx_ne_cmd _) h4,
          hs.running.trans hr₃, fun hh hr he => ⟨fun i hi => ?_, hfly hh⟩⟩
        have hi₂ := hdata hh hr he i hi
        rw [hs.live hh (hr₃.trans hr) _ (rx_ne_cmd i), ha₃.since.live hh (hr₂.trans hr) _
          (rx_ne_cmd i), hi₂]
    · rename_i hc
      refine (wp_ret _).2 ⟨ha.good, points_of ht₂ h2, hr₂, fun hh _ he => ?_⟩
      refine absurd ⟨ha.granted hh, ?_⟩ hc
      rw [he]
      simp [RxRing.empty]

theorem wp_setRunning {on : Bool} {Q : Unit → RingWorld → Prop} (hw : w.Good)
    (h : ∀ w₁, w₁.Good → w₁.running = on → (∀ u, (w₁.urb u).has = (w.urb u).has) →
      (∀ u, (w₁.urb u).inFlight = true → (w.urb u).inFlight = true) →
      (healthy → w.running = true → ∀ u, (w₁.urb u).inFlight = (w.urb u).inFlight) → Q () w₁) :
    wp (ringEnv healthy) (setRunning on) w Q := by
  refine wp_ring hw fun w₁ _ hw₁ hs _ => (wp_ret _).2 ?_
  exact h _ ⟨hw₁.sound, hw₁.owned⟩ rfl (fun u => hs.has u trivial) (fun u => hs.done u trivial)
    fun hh hr u => hs.live hh hr u trivial

theorem mode_startTail {dev : Dev} {ring : RxRing} :
    Ends (S := sig) (fun r => r.2.1.mode = dev.mode ∧ r.2.2 = ring) (startTail dev ring) := by
  unfold startTail
  refine ends_next fun ok => ?_
  cases ok with
  | false => exact ⟨rfl, rfl⟩
  | true =>
    rw [if_pos rfl]
    refine ends_bind (Q := fun d => d.mode = dev.mode) ?_ fun d hd => ?_
    · unfold uploadEfuse
      split
      · exact ends_next fun _ => rfl
      · rfl
    · refine ends_next fun _ => ends_next fun _ => ends_next fun _ => ends_next fun _ => ?_
      refine ends_next fun _ => ends_next fun _ => ?_
      exact ends_bind mode_setChannelExt fun d' hd' => ⟨hd'.trans hd, rfl⟩

/-- **`mt7603_mac80211_start`** on a device without a data URB in flight. -/
theorem wp_startUrbs {dev : Dev} (hw : w.Good) (hp : w.Points ring) (hidle : w.DataIdle) :
    wp (ringEnv healthy) (startUrbs dev ring) w fun r w' =>
      w'.Good ∧ w'.Points r.2.2 ∧ w'.running = true ∧ r.2.1.running = true ∧
        (healthy → ring = .empty → w'.AllFly) := by
  rw [startUrbs, wp_bind]
  refine wp_setRunning hw fun w₁ hw₁ hr₁ hhas₁ hdone₁ _ => ?_
  have hidle₁ : w₁.DataIdle := fun i => idle_back (hdone₁ _) (hidle i)
  rw [wp_bind]
  refine wp_ringIo (ends_of_forall (fun _ => trivial) _) hw₁ fun _ w₂ _ hw₂ hs₂ => ?_
  have hp₂ : w₂.Points ring := fun u => (hs₂.has u trivial).trans ((hhas₁ u).trans (hp u))
  have hidle₂ : w₂.DataIdle := fun i => idle_back (hs₂.done _ trivial) (hidle₁ i)
  have hr₂ : w₂.running = true := hs₂.running.trans hr₁
  rw [wp_bind]
  refine wp_mono (wp_startRxRing hw₂ hp₂ hidle₂) ?_
  rintro ⟨_, ring'⟩ w₃ ⟨hw₃, hp₃, hr₃, hlive⟩
  refine wp_ringIo mode_startTail hw₃ ?_
  rintro ⟨ret, dev', ring''⟩ w₄ ⟨hmode, rfl⟩ hw₄ hs₄
  refine ⟨hw₄, fun u => (hs₄.has u trivial).trans (hp₃ u), hs₄.running.trans (hr₃.trans hr₂),
    congrArg Mode.running hmode, fun hh he => ?_⟩
  obtain ⟨hdata, hcmd⟩ := hlive hh hr₂ he
  have hkeep := hs₄.live hh (hr₃.trans hr₂)
  exact ⟨fun i hi => (hkeep _ trivial).trans (hdata i hi), (hkeep _ trivial).trans hcmd⟩

/-- **`mt7603_mac80211_start`** on a running device with a data URB in flight. -/
theorem wp_startUrbs_busy {dev : Dev} (hw : w.Good) (hp : w.Points ring) (hr : w.running = true)
    (hf : ¬w.DataIdle) :
    wp (ringEnv True) (startUrbs dev ring) w fun _ w' => w'.broken = true := by
  obtain ⟨i, hi⟩ : ∃ i, (w.urb (.rx i)).inFlight = true := by
    simpa [RingWorld.DataIdle] using hf
  rw [startUrbs, wp_bind]
  refine wp_setRunning hw fun w₁ hw₁ hr₁ hhas₁ _ hlive₁ => ?_
  rw [wp_bind]
  refine wp_ringIo (ends_of_forall (fun _ => trivial) _) hw₁ fun _ w₂ _ hw₂ hs₂ => ?_
  have ht₂ : Tied 0 ring.rxUrbs w₂ := fun j => by
    rw [Nat.zero_add, hs₂.has _ trivial, hhas₁]
    exact hp (.rx j)
  have hf₂ : (w₂.urb (.rx (0 + i))).inFlight = true := by
    rw [Nat.zero_add, hs₂.live trivial hr₁ _ trivial, hlive₁ trivial hr, hi]
  rw [wp_bind, startRxRing, startRxBy, wp_bind]
  refine wp_mono (wp_startRxUrbs_busy hw₂ ht₂ (hs₂.running.trans hr₁) hf₂) fun _ w₃ h₃ => ?_
  exact wp_mono (wp_broken h₃) fun _ w₄ h₄ => wp_broken h₄

end

/-! ## Stop -/

section
variable {healthy : Prop} {w : RingWorld} {u : RingSlot}

/-- A slot with nothing in it. -/
theorem urb_empty (hw : w.Good) (h : (w.urb u).has = ⟨false, false⟩) : w.urb u = {} := by
  have hidle : (w.urb u).inFlight = false := idle_of_missing hw (by simp [h])
  generalize w.urb u = x at h hidle ⊢
  obtain ⟨buf, urb, inFlight⟩ := x
  obtain ⟨rfl, rfl⟩ : buf = false ∧ urb = false := by simpa [RingUrb.has] using h
  rw [show inFlight = false from hidle]

theorem step_kill {r : RingReq.Resp (.kill u)} (hu : (w.urb u).urb = true) :
    ringStep w (.kill u) r = w.set u { w.urb u with inFlight := false } false := by
  change w.set u _ (!(w.urb u).urb) = _
  rw [hu, Bool.not_true]

theorem step_freeUrb {r : RingReq.Resp (.freeUrb u)} (hf : (w.urb u).inFlight = false)
    (hu : (w.urb u).urb = true) :
    ringStep w (.freeUrb u) r = w.set u { w.urb u with urb := false } false := by
  change w.set u _ ((w.urb u).inFlight || !(w.urb u).urb) = _
  rw [hf, hu, Bool.not_true, Bool.or_false]

theorem step_kfree {r : RingReq.Resp (.kfree u)} (hf : (w.urb u).inFlight = false)
    (hb : (w.urb u).buf = true) :
    ringStep w (.kfree u) r = w.set u { w.urb u with buf := false } false := by
  change w.set u _ ((w.urb u).inFlight || !(w.urb u).buf) = _
  rw [hf, hb, Bool.not_true, Bool.or_false]

variable {Q : Unit → RingWorld → Prop}

/-- Kill an URB and free it. -/
theorem wp_killFree {k : Unit → RP Unit} (hw : w.Good) (hu : (w.urb u).urb = true)
    (h : ∀ w₁, w₁.Good → (w₁.urb u).has = ⟨(w.urb u).buf, false⟩ → Since healthy (· ≠ u) w w₁ →
      wp (ringEnv healthy) (k ()) w₁ Q) :
    wp (ringEnv healthy) (ringKill u >>= fun _ => ringFreeUrb u >>= k) w Q := by
  refine wp_ring hw fun w₁ _ hw₁ hs _ => ?_
  have hhas := hs.has u trivial
  rw [step_kill ((congrArg RxUrb.urb hhas).trans hu)]
  obtain ⟨hw₂, hs₂⟩ := good_idle (u := u) (x := { w₁.urb u with inFlight := false }) hw₁ hs rfl
  refine wp_ring hw₂ fun w₃ _ hw₃ hs₃ _ => ?_
  -- a killed URB does not come back
  have hf₃ : (w₃.urb u).inFlight = false :=
    idle_back (hs₃.done u trivial) (by rw [set_urb_same])
  have hhas₃ : (w₃.urb u).has = (w.urb u).has := by
    rw [hs₃.has u trivial, set_urb_same]
    exact hhas
  rw [step_freeUrb hf₃ ((congrArg RxUrb.urb hhas₃).trans hu)]
  obtain ⟨hw₄, hs₄⟩ := good_idle (u := u) (x := { w₃.urb u with urb := false }) hw₃ hs₃ hf₃
  refine h _ hw₄ ?_ (hs₂.trans hs₄)
  rw [set_urb_same, RingUrb.has, show (w₃.urb u).buf = (w.urb u).buf from congrArg RxUrb.buf hhas₃]

/-- Free the buffer of an URB that is gone. -/
theorem wp_ringKfree (hw : w.Good) (hu : (w.urb u).has = ⟨true, false⟩)
    (h : ∀ w₁, w₁.Good → (w₁.urb u).has = ⟨false, false⟩ → Since healthy (· ≠ u) w w₁ → Q () w₁) :
    wp (ringEnv healthy) (ringKfree u) w Q := by
  refine wp_ring hw fun w₁ _ hw₁ hs _ => (wp_ret _).2 ?_
  have hhas : (w₁.urb u).has = ⟨true, false⟩ := (hs.has u trivial).trans hu
  have hf₁ : (w₁.urb u).inFlight = false := idle_of_missing hw₁ (by simp [hhas])
  have hu₁ : (w₁.urb u).urb = false := congrArg RxUrb.urb hhas
  have hb₁ : (w₁.urb u).buf = true := congrArg RxUrb.buf hhas
  obtain ⟨hw₂, hs₂⟩ := good_idle (u := u) (x := { w₁.urb u with buf := false }) hw₁ hs hf₁
  rw [step_kfree hf₁ hb₁]
  refine h _ hw₂ ?_ hs₂
  rw [set_urb_same, RingUrb.has, hu₁]

/-- An entry is taken down. -/
theorem wp_releaseSlot {e : RxUrb} (hw : w.Good) (he : (w.urb u).has = e) :
    wp (ringEnv healthy) (releaseSlot u e) w fun _ w' =>
      w'.Good ∧ (w'.urb u).has = ⟨false, false⟩ ∧ Since healthy (· ≠ u) w w' := by
  obtain ⟨buf, urb⟩ := e
  have hu : (w.urb u).urb = urb := congrArg RxUrb.urb he
  have hb : (w.urb u).buf = buf := congrArg RxUrb.buf he
  cases urb with
  | false =>
    cases buf with
    | false => exact (wp_ret _).2 ⟨hw, he, .refl⟩
    | true => exact wp_ringKfree hw he fun w₁ hw₁ h₁ hs₁ => ⟨hw₁, h₁, hs₁⟩
  | true =>
    refine wp_killFree hw hu fun w₁ hw₁ h₁ hs₁ => ?_
    rw [hb] at h₁
    cases buf with
    | false => exact (wp_ret _).2 ⟨hw₁, h₁, hs₁⟩
    | true => exact wp_ringKfree hw₁ h₁ fun w₂ hw₂ h₂ hs₂ => ⟨hw₂, h₂, hs₁.trans hs₂⟩

theorem wp_releaseSlots {i : Nat} {es : List RxUrb} (hw : w.Good) (ht : Tied i es w) :
    wp (ringEnv healthy) (releaseSlots i es) w fun _ w' =>
      w'.Good ∧ (∀ j, (w'.urb (.rx (i + j))).has = ⟨false, false⟩) ∧
        Since healthy (Before i) w w' := by
  induction es generalizing i w with
  | nil => exact (wp_ret _).2 ⟨hw, fun j => ht j, .refl⟩
  | cons e es ih =>
    obtain ⟨h0, ht⟩ := tied_cons.1 ht
    rw [releaseSlots, wp_bind]
    refine wp_mono (wp_releaseSlot hw h0) ?_
    rintro _ w₁ ⟨hw₁, h1, hs₁⟩
    refine wp_mono (ih hw₁ (ht.since hs₁ fun j => later_ne i j)) ?_
    rintro _ w₂ ⟨hw₂, h2, hs₂⟩
    refine ⟨hw₂, fun j => ?_, (hs₁.mono fun _ h => h.ne).trans (hs₂.mono fun _ h => h.succ)⟩
    cases j with
    | zero => exact (hs₂.has _ (before_succ i)).trans h1
    | succ j =>
      rw [show i + (j + 1) = i + 1 + j by omega]
      exact h2 j

/-- **`mt7603_stop_rx`** leaves no URB and no buffer. -/
theorem wp_stopRxRing {ring : RxRing} (hw : w.Good) (hp : w.Points ring) :
    wp (ringEnv healthy) (stopRxRing ring) w fun r w' =>
      r = .empty ∧ w'.Good ∧ (∀ u, (w'.urb u).has = ⟨false, false⟩) ∧ w'.running = w.running := by
  rw [stopRxRing, wp_bind]
  refine wp_mono (wp_releaseSlot hw (hp .cmd)) ?_
  rintro _ w₁ ⟨hw₁, h1, hs₁⟩
  have ht₁ : Tied 0 ring.rxUrbs w₁ := by
    intro j
    rw [Nat.zero_add]
    exact (hs₁.has _ (rx_ne_cmd j)).trans (hp (.rx j))
  rw [wp_bind]
  refine wp_mono (wp_releaseSlots hw₁ ht₁) ?_
  rintro _ w₂ ⟨hw₂, h2, hs₂⟩
  refine (wp_ret _).2 ⟨rfl, hw₂, fun u => ?_, hs₂.running.trans hs₁.running⟩
  cases u with
  | rx i =>
    have hi := h2 i
    rwa [Nat.zero_add] at hi
  | cmd => exact (hs₂.has _ before_cmd).trans h1

/-- **`mt7603_mac80211_stop`.** -/
theorem wp_stopUrbs {dev : Dev} {ring : RxRing} (hw : w.Good) (hp : w.Points ring) :
    wp (ringEnv healthy) (stopUrbs dev ring) w fun r w' =>
      r.2 = .empty ∧ r.1.running = false ∧ w'.Good ∧ w'.running = false ∧
        ∀ u, (w'.urb u).has = ⟨false, false⟩ := by
  rw [stopUrbs, wp_bind]
  refine wp_setRunning hw fun w₁ hw₁ hr₁ hhas₁ _ _ => ?_
  rw [wp_bind]
  refine wp_ringIo (ends_of_forall (fun _ => trivial) _) hw₁ fun _ w₂ _ hw₂ hs₂ => ?_
  have hp₂ : w₂.Points ring := fun u => (hs₂.has u trivial).trans ((hhas₁ u).trans (hp u))
  rw [wp_bind]
  refine wp_mono (wp_stopRxRing hw₂ hp₂) ?_
  rintro _ w₃ ⟨rfl, hw₃, h3, hr₃⟩
  exact (wp_ret _).2 ⟨rfl, rfl, hw₃, hr₃.trans (hs₂.running.trans hr₁), h3⟩

end

/-! ## Whole runs -/

theorem ptr_empty (u : RingSlot) : RxRing.empty.ptr u = ⟨false, false⟩ := by
  cases u with
  | rx i =>
    change (List.replicate MT7603_NUM_RX_URBS (⟨false, false⟩ : RxUrb)).getD i _ = _
    rw [List.getD_eq_getElem?_getD, List.getElem?_replicate]
    split <;> rfl
  | cmd => rfl

/-- What holds between the steps of a run. -/
structure RingSys.Inv (healthy : Prop) (σ : RingSys) : Prop where
  good : σ.world.Good
  points : σ.world.Points σ.ring
  running : σ.world.running = σ.dev.running
  down : σ.dev.running = false → σ.ring = .empty
  up : σ.up = true → σ.dev.running = true
  live : healthy → σ.dev.running = true → σ.world.AllFly

/-- Every start finds the data URBs at rest. -/
abbrev StartsIdle (σ : RingSys) : Prop := σ.world.DataIdle

section
variable {healthy : Prop} {σ τ : RingSys}

theorem inv_registered (dev : Dev) : (RingSys.registered dev).Inv healthy where
  good := ⟨rfl, fun _ h => by cases h⟩
  points u := (ptr_empty u).symm
  running := rfl
  down _ := rfl
  up h := by cases h
  live _ h := by cases h

/-- A device that is not running has nothing in flight. -/
theorem inv_idle (h : σ.Inv healthy) (hd : σ.dev.running = false) : σ.world.DataIdle := by
  intro i
  have hu := h.points (.rx i)
  rw [h.down hd, ptr_empty] at hu
  exact idle_of_missing h.good (by simp [hu])

theorem inv_start {ret : Int} {dev : Dev} {ring : RxRing} {w : RingWorld} (h : σ.Inv healthy)
    (hidle : σ.world.DataIdle)
    (hrun : Runs (ringEnv healthy) (startUrbs σ.dev σ.ring) σ.world (ret, dev, ring) w) :
    RingSys.Inv healthy ⟨dev, ring, ret = 0, w⟩ := by
  obtain ⟨hgood, hpoints, hw, hdev, hlive⟩ := wp_startUrbs h.good h.points hidle _ _ hrun
  exact {
    good := hgood
    points := hpoints
    running := hw.trans hdev.symm
    down := fun hd => absurd (hdev.symm.trans hd) (by decide)
    up := fun _ => hdev
    live := fun hh _ => hlive hh (h.down (by
      -- a device that runs has its URBs in flight
      by_contra hon
      have hfly := (h.live hh (by simpa using hon)).1 0 (by decide)
      rw [hidle] at hfly
      cases hfly)) }

theorem inv_stop {dev : Dev} {ring : RxRing} {w : RingWorld} (h : σ.Inv healthy)
    (hrun : Runs (ringEnv healthy) (stopUrbs σ.dev σ.ring) σ.world (dev, ring) w) :
    RingSys.Inv healthy ⟨dev, ring, false, w⟩ := by
  obtain ⟨rfl, hdev, hgood, hw, hnone⟩ := wp_stopUrbs h.good h.points _ _ hrun
  exact {
    good := hgood
    points := fun u => (hnone u).trans (ptr_empty u).symm
    running := hw.trans hdev.symm
    down := fun _ => rfl
    up := fun hup => by cases hup
    live := fun _ hon => absurd (hdev.symm.trans hon) (by decide) }

theorem inv_gives {w : RingWorld} (h : σ.Inv healthy) (hg : Gives healthy σ.world w) :
    RingSys.Inv healthy { σ with world := w } := by
  obtain ⟨hgood, hs⟩ := gives_since h.good hg
  refine {
    good := hgood
    points := fun u => (hs.has u trivial).trans (h.points u)
    running := hs.running.trans h.running
    down := h.down
    up := h.up
    live := fun hh hon => ?_ }
  have hkeep := hs.live hh (h.running.trans hon)
  obtain ⟨hdata, hcmd⟩ := h.live hh hon
  exact ⟨fun i hi => (hkeep _ trivial).trans (hdata i hi), (hkeep _ trivial).trans hcmd⟩

/-- **One step** keeps the invariant. -/
theorem inv_step (hs : RingSys.Step healthy StartsIdle σ τ) (h : σ.Inv healthy) :
    τ.Inv healthy := by
  cases hs with
  | start hup hidle hrun => exact inv_start h hidle hrun
  | stop hup hrun => exact inv_stop h hrun
  | unregister hrun => exact inv_stop h hrun
  | call hup hrun =>
    exact {
      good := h.good
      points := h.points
      running := h.running.trans hrun.symm
      down := fun hd => h.down (hrun.symm.trans hd)
      up := fun hu => hrun.trans (h.up hu)
      live := fun hh hon => h.live hh (hrun.symm.trans hon) }
  | gives hg => exact inv_gives h hg

theorem inv_run {dev : Dev}
    (hr : ReflTransGen (RingSys.Step healthy StartsIdle) (.registered dev) τ) :
    τ.Inv healthy := by
  induction hr with
  | refl => exact inv_registered dev
  | tail _ hs ih => exact inv_step hs ih

/-- A start in which all goes well misuses an URB exactly if it finds a data URB in flight. -/
theorem start_misuses_iff {r : Int × Dev × RxRing} {w : RingWorld} (h : σ.Inv healthy)
    (hrun : Runs (ringEnv True) (startUrbs σ.dev σ.ring) σ.world r w) :
    w.broken = true ↔ ¬σ.world.DataIdle := by
  by_cases hidle : σ.world.DataIdle
  · have hgood := (wp_startUrbs h.good h.points hidle _ _ hrun).1
    exact ⟨fun hb => absurd (hb.symm.trans hgood.sound) (by decide), fun hn => absurd hidle hn⟩
  · refine ⟨fun _ => hidle, fun _ => wp_startUrbs_busy h.good h.points ?_ hidle _ _ hrun⟩
    rw [h.running]
    by_contra hoff
    exact hidle (inv_idle h (by simpa using hoff))

/-- **No receive URB and no buffer is misused or lost, as long as no start finds a data URB in
flight.** Whatever completes when, whichever allocations and submissions fail: no URB and no buffer
is freed twice, freed or submitted while in flight, or used unallocated; the driver has a pointer to
exactly what is allocated; and a device that is not running has nothing allocated and nothing in
flight. The condition is exact: from any of these states, a start in which all goes well misuses an
URB if and only if a data URB is in flight, which is what a start that failed leaves behind. -/
theorem ring_safe {dev : Dev}
    (hr : ReflTransGen (RingSys.Step healthy StartsIdle) (.registered dev) τ) :
    τ.world.broken = false ∧ τ.world.Points τ.ring ∧
      (∀ u, (τ.world.urb u).inFlight = true → (τ.world.urb u).has = ⟨true, true⟩) ∧
      (τ.dev.running = false → ∀ u, τ.world.urb u = {}) ∧
      ∀ r w, Runs (ringEnv True) (startUrbs τ.dev τ.ring) τ.world r w →
        (w.broken = true ↔ ¬τ.world.DataIdle) := by
  have h := inv_run hr
  refine ⟨h.good.sound, h.points, h.good.owned, fun hd u => urb_empty h.good ?_,
    fun r w hrun => start_misuses_iff h hrun⟩
  rw [h.points u, h.down hd, ptr_empty]

/-- **No receive URB is lost while all goes well**: whenever the device is running, the four data
URBs and the command URB are in flight. -/
theorem ring_live {dev : Dev}
    (hr : ReflTransGen (RingSys.Step True StartsIdle) (.registered dev) τ)
    (hon : τ.dev.running = true) : τ.world.AllFly :=
  (inv_run hr).live trivial hon

end

/-! A start that succeeds, and one that fails. -/

/-- Answers to the requests for URBs and buffers as if nothing failed, to the others by `io`. -/
def ringAnswer (io : (e : Req) → e.Resp) (w : RingWorld) (e : RingReq) : e.Resp × RingWorld :=
  let r : e.Resp :=
    match e with
    | .io e => io e
    | .running _ => ()
    | .kmalloc _ _ => true
    | .allocUrb _ => true
    | .submit _ => (0 : Int)
    | .kill _ => ()
    | .freeUrb _ => ()
    | .kfree _ => ()
  (r, ringStep w e r)

theorem ringAnswer_answers (healthy : Prop) (io : (e : Req) → e.Resp) (w : RingWorld)
    (e : RingReq) : ringEnv healthy w e (ringAnswer io w e).1 (ringAnswer io w e).2 := by
  refine ⟨w, .refl, fun _ => ?_, rfl⟩
  cases e with
  | kmalloc _ _ => rfl
  | allocUrb _ => rfl
  | submit _ => exact Int.le_refl 0
  | _ => trivial

/-- The first start of a device, with these answers. -/
def firstStart (io : (e : Req) → e.Resp) : (Int × Dev × RxRing) × RingWorld :=
  (startUrbs (RingSys.registered Dev.zeroed).dev .empty).run (ringAnswer io) {}

/-- The device after it. -/
def afterFirst (io : (e : Req) → e.Resp) : RingSys :=
  ⟨(firstStart io).1.2.1, (firstStart io).1.2.2, (firstStart io).1.1 = 0, (firstStart io).2⟩

theorem afterFirst_reached (healthy : Prop) (io : (e : Req) → e.Resp) :
    ReflTransGen (RingSys.Step healthy StartsIdle) (.registered Dev.zeroed) (afterFirst io) :=
  .single (.start rfl (fun _ => rfl) (runs_run (ringAnswer_answers healthy io) _ _))

theorem firstStart_outcomes :
    (firstStart willing).1.1 = 0 ∧ (firstStart willing).1.2.1.running = true ∧
      (firstStart noCmdBuf).1.1 = -12 ∧
      ((firstStart noCmdBuf).2.urb (.rx 0)).inFlight = true := by
  decide +kernel

/-- A start that succeeds misuses nothing. One that fails for want of the command buffer does not
either, but the next one does. -/
theorem ring_safe_started :
    (afterFirst willing).world.broken = false ∧ (afterFirst noCmdBuf).world.broken = false ∧
      ((startUrbs (afterFirst noCmdBuf).dev (afterFirst noCmdBuf).ring).run (ringAnswer willing)
        (afterFirst noCmdBuf).world).2.broken = true := by
  obtain ⟨-, -, -, hfly⟩ := firstStart_outcomes
  have hfail := ring_safe (afterFirst_reached False noCmdBuf)
  refine ⟨(ring_safe (afterFirst_reached False willing)).1, hfail.1, ?_⟩
  refine (hfail.2.2.2.2 _ _ (runs_run (ringAnswer_answers True willing) _ _)).2 fun hidle => ?_
  cases (hidle 0).symm.trans hfly

theorem ring_live_started : (firstStart willing).1.1 = 0 ∧ (afterFirst willing).world.AllFly :=
  ⟨firstStart_outcomes.1, ring_live (afterFirst_reached True willing) firstStart_outcomes.2.1⟩

end Driver
