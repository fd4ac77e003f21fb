import Mt7603u.Driver.TxUrbs
import Mt7603u.Proof.TxComplete

/-!
# Buffers and URBs of the transmission path, over whole runs

The results are about every run of `TxSys`: any number of calls of `mt7603_mac80211_tx` and of
completions, interleaved request by request, with allocations and submissions that fail at will.

* `tx_safe`: no buffer and no URB is misused, nothing is leaked, and every URB in flight is on the
  anchor that a stop empties. The log line behind a submission is the exception: it looks at a
  buffer that its completion may have freed.
* `tx_reports`: a frame is reported at most once, as it was handed over, and its buffer is not
  touched afterwards.
* `tx_all_reported`: while all goes well, every frame that is not a beacon is reported.

Each call is reasoned about alone, among others that keep what it owns (`Keeps`): `Held` says what a
call owns, and each request has one lemma about it.
-/

namespace Driver

open Effect Slice Skb Word Rust Relation

/-! ## Frames -/

/-- The frame control of a beacon. -/
def beaconData : List U8 → Bool
  | b0 :: b1 :: _ => isBeacon (le16 b0 b1)
  | _ => false

/-- Stripping the transfer gives the frame back. -/
def Restores (t : Transfer) (data : List U8) : Prop :=
  ∃ skb, stripFrame t.skb t.metaWord = .ok skb ∧ skb.data = data

theorem isBeacon_data (k : Kernel) (skb : SkBuff U8) :
    isBeacon (if 2 ≤ skb.len then frameControl k skb else 0) = beaconData skb.data := by
  obtain ⟨head, data, tail⟩ := skb
  rcases data with _ | ⟨b0, _ | ⟨b1, bs⟩⟩
  · rw [if_neg (by simp [SkBuff.len])]
    rfl
  · rw [if_neg (by simp [SkBuff.len])]
    rfl
  · rw [if_pos (by simp [SkBuff.len])]
    rfl

/-- **Completion of a transfer** that restores the frame. -/
theorem txComplete_of_restores (k : Kernel) (dev : Dev) (info : TxInfo) (status : Int)
    {t : Transfer} {data : List U8} (h : Restores t data) :
    ∃ skb outcome, txComplete k dev info status t.skb t.metaWord = .ok (skb, outcome) ∧
      skb.data = data ∧ (outcome = .freed → dev.running = false ∨ beaconData data = true) := by
  obtain ⟨skb, hs, hd⟩ := h
  unfold txComplete
  rw [hs, ok_bind]
  dsimp only
  rw [isBeacon_data, hd]
  split
  · exact ⟨skb, _, rfl, hd, fun h => by cases h⟩
  · rename_i hn
    refine ⟨skb, _, rfl, hd, fun _ => ?_⟩
    by_cases hr : dev.running = true
    · exact .inr (by simpa [hr] using hn)
    · exact .inl (by simpa using hr)

/-! ## The path with buffers in view is the path

Against the kernel of `mac80211Tx`, `preparePath` ends with the transfer that `mac80211Tx` computes,
or with none where that drops the frame. -/

/-- The answers of a kernel; the names it gives are of no account here. -/
def kernelEnv (k : Kernel) : Env txSig Unit
  | _, .copyExpand _ skb headroom tailroom, (r : Option Named), _ =>
    r.map (·.2) = k.copyExpand skb headroom tailroom
  | _, .reallocHeadroom _ skb headroom, (r : Option Named), _ =>
    r.map (·.2) = k.reallocHeadroom skb headroom
  | _, .allocUrb, (r : Option Nat), _ => r.isSome = k.allocUrb
  | _, _, _, _ => True

/-- What a computation came to. -/
def result {α : Type} : Rs (Option α) → Option α
  | .ok r => r
  | .error _ => none

section
variable {k : Kernel} {s n : Nat} {skb : SkBuff U8}

theorem wp_tailPath : wp (kernelEnv k) (tailPath s skb n) () fun r _ =>
    r.map (·.2) = expandTail k skb n := by
  unfold tailPath expandTail
  split
  · refine (wp_op _).2 fun r _ hr => (wp_op _).2 fun _ _ _ => (wp_ret _).2 ?_
    exact hr
  · exact (wp_ret _).2 rfl

theorem wp_headPath : wp (kernelEnv k) (headPath s skb n) () fun r _ =>
    r.map (·.2) = expandHead k skb n := by
  unfold headPath expandHead
  split
  · refine (wp_op _).2 fun r _ hr => (wp_op _).2 fun _ _ _ => (wp_ret _).2 ?_
    exact hr
  · exact (wp_ret _).2 rfl

theorem wp_onBytes {x : Rs (SkBuff U8)} : wp (kernelEnv k) (onBytes s x) () fun r _ =>
    r.map (·.2) = result (x.map some) := by
  cases x with
  | ok skb => exact (wp_ret _).2 rfl
  | error e => exact (wp_op _).2 fun _ _ _ => (wp_ret _).2 rfl

theorem map_some_eq {α : Type} (x : Rs α) : x.map some = x >>= fun a => pure (some a) := by
  cases x with
  | ok a => rfl
  | error e => rfl

/-- A stage and what follows it, at both levels. -/
theorem wp_stage {α : Type} {p : TP (Option Named)} {x : Option (SkBuff U8)}
    {g : Nat → SkBuff U8 → TP (Option α)} {Q : Option α → Unit → Prop}
    (hp : wp (kernelEnv k) p () fun r _ => r.map (·.2) = x) (hnone : x = none → Q none ())
    (hsome : ∀ s skb, x = some skb → wp (kernelEnv k) (g s skb) () Q) :
    wp (kernelEnv k) (do
      match ← p with
      | none => return none
      | some (s, skb) => g s skb) () Q := by
  rw [wp_bind]
  refine wp_mono hp fun r _ hr => ?_
  match r, hr with
  | none, hr => exact (wp_ret _).2 (hnone hr.symm)
  | some (s, skb), hr => exact hsome s skb hr.symm

theorem wp_gapPath {hdrLen pad : Nat} : wp (kernelEnv k) (gapPath s skb hdrLen pad) () fun r _ =>
    r.map (·.2) = result (padHeader k skb hdrLen pad) := by
  unfold gapPath padHeader
  split
  · refine wp_stage wp_tailPath (fun hx => ?_) fun s' skb' hx => wp_mono wp_onBytes fun r _ hr => ?_
    · rw [hx]
      rfl
    · rw [hx, hr, map_some_eq]
      simp only [openGap, bind_assoc]
  · exact (wp_ret _).2 rfl

/-- The buffer of the transfer, as `mac80211Tx` computes it. -/
def framed (k : Kernel) (p : TxParams) (fc : U16) (txwi : List U8) (skb : SkBuff U8) :
    Rs (Option (SkBuff U8)) := do
  match ← padHeader k skb p.hdrLen.toNat ((4 - (p.hdrLen.toNat &&& 0x03)) &&& 0x03) with
  | none => return none
  | some skb =>
    match expandHead k skb 32 with
    | none => return none
    | some skb => do
      let skb ← pushTxd skb txwi (isMgmt fc)
      padTail k skb

theorem wp_framePath {p : TxParams} {fc : U16} {txwi : List U8} :
    wp (kernelEnv k) (framePath p fc txwi s skb) () fun r _ =>
      r.map (·.2) = result (framed k p fc txwi skb) := by
  unfold framePath framed
  dsimp only
  refine wp_stage wp_gapPath (fun hx => ?_) fun s₁ skb₁ hx₁ => ?_
  · rcases hp : padHeader k skb p.hdrLen.toNat ((4 - (p.hdrLen.toNat &&& 0x03)) &&& 0x03) with e | r
    · rfl
    · rw [hp] at hx
      obtain rfl : r = none := hx
      rfl
  rcases hp : padHeader k skb p.hdrLen.toNat ((4 - (p.hdrLen.toNat &&& 0x03)) &&& 0x03) with e | r
  · rw [hp] at hx₁
    cases hx₁
  rw [hp] at hx₁
  obtain rfl : r = some skb₁ := hx₁
  rw [ok_bind]
  dsimp only
  refine wp_stage wp_headPath (fun hx => ?_) fun s₂ skb₂ hx₂ => ?_
  · rw [hx]
    rfl
  rw [hx₂]
  dsimp only
  refine wp_stage wp_onBytes (fun hx => ?_) fun s₃ skb₃ hx₃ => ?_
  · rcases hq : pushTxd skb₂ txwi (isMgmt fc) with e | r
    · rfl
    · rw [hq] at hx
      cases hx
  rcases hq : pushTxd skb₂ txwi (isMgmt fc) with e | r
  · rw [hq] at hx₃
    cases hx₃
  rw [hq] at hx₃
  obtain rfl : r = skb₃ := Option.some.inj hx₃
  rw [ok_bind]
  unfold padTail
  dsimp only
  refine wp_stage wp_tailPath (fun hx => ?_) fun s₄ skb₄ hx₄ => wp_mono wp_onBytes fun r _ hr => ?_
  · rw [hx]
    rfl
  · rw [hx₄, hr, map_some_eq]
    simp only [appendZeros, bind_assoc]

/-- What `mac80211Tx` does with the buffer. -/
theorem framed_then {p : TxParams} {fc : U16} {txwi : List U8} {β : Type}
    {g : SkBuff U8 → Rs (Option β)} :
    result (do
      match ← padHeader k skb p.hdrLen.toNat ((4 - (p.hdrLen.toNat &&& 0x03)) &&& 0x03) with
      | none => return none
      | some skb =>
        match expandHead k skb 32 with
        | none => return none
        | some skb => do
          let skb ← pushTxd skb txwi (isMgmt fc)
          match ← padTail k skb with
          | none => return none
          | some skb => g skb) =
      (result (framed k p fc txwi skb)).bind fun skb => result (g skb) := by
  unfold framed
  rcases padHeader k skb p.hdrLen.toNat ((4 - (p.hdrLen.toNat &&& 0x03)) &&& 0x03) with e | r
  · rfl
  rcases r with _ | skb₁
  · rfl
  simp only [ok_bind]
  rcases expandHead k skb₁ 32 with _ | skb₂
  · rfl
  dsimp only
  rcases pushTxd skb₂ txwi (isMgmt fc) with e | skb₃
  · rfl
  simp only [ok_bind]
  rcases padTail k skb₃ with e | r
  · rfl
  · cases r with
    | none => rfl
    | some skb₄ => rfl

/-- **The transfer is that of `mac80211Tx`.** -/
theorem preparePath_refines {dev : Dev} {info : TxInfo} :
    wp (kernelEnv k) (preparePath k dev info s skb) () fun r _ =>
      r.map (·.2.2) = result (mac80211Tx k dev info skb) := by
  unfold preparePath mac80211Tx
  split
  · exact (wp_op _).2 fun _ _ _ => (wp_ret _).2 rfl
  dsimp only
  generalize txParams k dev info skb = p
  rcases rustCall (buildTxwi p) 32 with e | txwi
  · cases e with
    | errno _ => exact (wp_op _).2 fun _ _ _ => (wp_ret _).2 rfl
    | _ => exact (wp_op _).2 fun _ _ _ => (wp_ret _).2 rfl
  dsimp only
  generalize (if p.frmType = 2 then requestStatus txwi else txwi) = txwi'
  rw [wp_bind]
  refine wp_mono wp_framePath fun r _ hr => ?_
  refine wp_mono (Q := fun r' _ => r'.map (·.2.2) = (r.map (·.2)).bind fun skb' => result
    (if k.allocUrb then pure (some ⟨if isMgmt (frameControl k skb) then MT7603_MGMT_BULK_OUT else
      MT7603_DATA_BULK_OUT, skb', txMeta p ((4 - (p.hdrLen.toNat &&& 0x03)) &&& 0x03)⟩)
    else pure none)) ?_ fun r' _ h => (h.trans (by rw [hr])).trans framed_then.symm
  match r with
  | none => exact (wp_ret _).2 rfl
  | some (s₁, skb₁) =>
    refine (wp_op _).2 fun (u : Option Nat) _ hu => ?_
    cases u with
    | none =>
      have hno : k.allocUrb = false := Eq.symm hu
      refine (wp_op _).2 fun _ _ _ => (wp_ret _).2 ?_
      change none = result (if k.allocUrb then _ else _)
      rw [hno]
      rfl
    | some u =>
      have hyes : k.allocUrb = true := Eq.symm hu
      refine (wp_ret _).2 ?_
      change some _ = result (if k.allocUrb then _ else _)
      rw [hyes]
      rfl

end

/-! ## Memory -/

/-- What holds of the memory between any two requests. -/
structure TxWorld.Good (healthy : Prop) (w : TxWorld) : Prop where
  sound : w.broken = false
  running : healthy → w.running = true
  /-- An URB in flight is on the anchor, and its buffer belongs to it. -/
  flight : ∀ u x fl, w.urb u = some x → x.flight = some fl →
    x.owner = .core u ∧ x.anchored = true ∧ x.refs = 3 ∧
      ∃ f data, w.skb fl.s = some ⟨f, .core u⟩ ∧ w.frames[f]? = some data ∧ Restores fl.t data
  /-- The USB core owns nothing else. -/
  coreSkb : ∀ s f u, w.skb s = some ⟨f, .core u⟩ →
    ∃ x fl, w.urb u = some x ∧ x.flight = some fl ∧ fl.s = s
  coreUrb : ∀ u x v, w.urb u = some x → x.owner = .core v → ∃ fl, x.flight = some fl
  /-- The copies of a frame belong to one owner. -/
  together : ∀ s s' x x', w.skb s = some x → w.skb s' = some x' → x.frame = x'.frame →
    x.owner = x'.owner
  known : ∀ s x, w.skb s = some x → x.frame < w.frames.length
  reported : ∀ r ∈ w.reports, w.frames[r.frame]? = some r.data
  once : (w.reports.map (·.frame)).Nodup
  gone : ∀ r ∈ w.reports, ∀ s x, w.skb s = some x → x.frame ≠ r.frame
  /-- While all goes well, a frame is in a buffer or has been reported, unless it is a beacon. -/
  ledger : healthy → ∀ f data, w.frames[f]? = some data → beaconData data = false →
    (∃ s o, w.skb s = some ⟨f, o⟩) ∨ ∃ r ∈ w.reports, r.frame = f

/-- What the call `t` owns is as it was, and it owns nothing else. -/
structure Keeps (t : Nat) (w w' : TxWorld) : Prop where
  skb : ∀ s f, w'.skb s = some ⟨f, .call t⟩ ↔ w.skb s = some ⟨f, .call t⟩
  urb : ∀ u x, x.owner = .call t → (w'.urb u = some x ↔ w.urb u = some x)

/-- What the others do to the call `t`. -/
structure Rely (healthy : Prop) (t : Nat) (w w' : TxWorld) : Prop where
  keeps : Keeps t w w'
  frames : w.frames <+: w'.frames
  named : ∀ s, w.named s = true → w'.named s = true
  good : w.Good healthy → w'.Good healthy

/-- What the call `t` does to the others. -/
structure Guar (healthy : Prop) (t : Nat) (w w' : TxWorld) : Prop where
  keeps : ∀ t' ≠ t, Keeps t' w w'
  frames : w.frames <+: w'.frames
  named : ∀ s, w.named s = true → w'.named s = true
  good : w.Good healthy → w'.Good healthy

/-- What the call `t`, which deals with frame `f`, owns. -/
structure Held (healthy : Prop) (t f : Nat) (d : List U8) (skbs : List Nat)
    (urbs : List (Nat × TxUrb)) (w : TxWorld) : Prop where
  good : w.Good healthy
  skb : ∀ s g, w.skb s = some ⟨g, .call t⟩ ↔ s ∈ skbs ∧ g = f
  urb : ∀ u x, x.owner = .call t → (w.urb u = some x ↔ (u, x) ∈ urbs)
  data : w.frames[f]? = some d

section
variable {healthy : Prop} {t f : Nat} {d : List U8} {skbs : List Nat} {urbs : List (Nat × TxUrb)}
  {w w' : TxWorld}

theorem frames_stay {g : Nat} (h : w.frames <+: w'.frames) (hd : w.frames[g]? = some d) :
    w'.frames[g]? = some d := by
  obtain ⟨l, hl⟩ := h
  rw [← hl, List.getElem?_append_left (List.getElem?_eq_some_iff.1 hd).1, hd]

theorem held_stable : Stable (Rely healthy t) (Held healthy t f d skbs urbs) := by
  intro w w' hR h
  exact {
    good := hR.good h.good
    skb := fun s g => (hR.keeps.skb s g).trans (h.skb s g)
    urb := fun u x hx => (hR.keeps.urb u x hx).trans (h.urb u x hx)
    data := frames_stay hR.frames h.data }

theorem guar_rely {t' : Nat} (ht : t' ≠ t) (h : Guar healthy t w w') : Rely healthy t' w w' :=
  ⟨h.keeps t' ht, h.frames, h.named, h.good⟩

/-! Ownership of what is in the hands of a call. -/

theorem Held.mem {s : Nat} (h : Held healthy t f d skbs urbs w) (hs : s ∈ skbs) :
    w.skb s = some ⟨f, .call t⟩ := (h.skb s f).2 ⟨hs, rfl⟩

theorem Held.ownsSkb {s : Nat} (h : Held healthy t f d skbs urbs w) (hs : s ∈ skbs) :
    w.ownsSkb t s = true := by
  rw [TxWorld.ownsSkb, h.mem hs]
  simp

theorem Held.memUrb {u : Nat} {x : TxUrb} (h : Held healthy t f d skbs urbs w)
    (hx : x.owner = .call t) (hu : (u, x) ∈ urbs) : w.urb u = some x := (h.urb u x hx).2 hu

theorem Held.ownsUrb {u : Nat} {x : TxUrb} (h : Held healthy t f d skbs urbs w)
    (hx : x.owner = .call t) (hu : (u, x) ∈ urbs) : w.ownsUrb t u = true := by
  rw [TxWorld.ownsUrb, h.memUrb hx hu]
  simp [hx]

theorem mustOwn_true (w : TxWorld) : w.mustOwn true = w := by
  rw [TxWorld.mustOwn, Bool.not_true, Bool.or_false]

/-! ## Changes -/

/-- `s` is nobody's but the call's. -/
def FreeFor (t : Nat) (o : Option TxSkb) : Prop := ∀ x, o = some x → x.owner = .call t

theorem freeFor_held {s : Nat} (h : w.skb s = some ⟨f, .call t⟩) : FreeFor t (w.skb s) := by
  intro x hx
  rw [h] at hx
  cases hx
  rfl

theorem freeFor_none {s : Nat} (h : w.skb s = none) : FreeFor t (w.skb s) := by
  intro x hx
  rw [h] at hx
  cases hx

/-- One buffer changed, before and after not the call's. -/
theorem keeps_setSkb {s : Nat} {x : Option TxSkb} (hold : ∀ y, w.skb s = some y → y.owner ≠ .call t)
    (hnew : ∀ y, x = some y → y.owner ≠ .call t) : Keeps t w (w.setSkb s x) where
  skb v g := by
    unfold TxWorld.setSkb
    dsimp only
    by_cases hv : v = s
    · subst hv
      rw [Function.update_self]
      exact ⟨fun h => absurd rfl (hnew _ h), fun h => absurd rfl (hold _ h)⟩
    · rw [Function.update_of_ne hv]
  urb _ _ _ := Iff.rfl

theorem keeps_setUrb {u : Nat} {x : Option TxUrb} (hold : ∀ y, w.urb u = some y → y.owner ≠ .call t)
    (hnew : ∀ y, x = some y → y.owner ≠ .call t) : Keeps t w (w.setUrb u x) where
  skb _ _ := Iff.rfl
  urb v y hy := by
    unfold TxWorld.setUrb
    dsimp only
    by_cases hv : v = u
    · subst hv
      rw [Function.update_self]
      exact ⟨fun h => absurd hy (hnew _ h), fun h => absurd hy (hold _ h)⟩
    · rw [Function.update_of_ne hv]

theorem Keeps.trans {w₁ : TxWorld} (h : Keeps t w w₁) (h' : Keeps t w₁ w') : Keeps t w w' where
  skb s f := (h'.skb s f).trans (h.skb s f)
  urb u x hx := (h'.urb u x hx).trans (h.urb u x hx)

theorem setSkb_at {s : Nat} {x : Option TxSkb} : (w.setSkb s x).skb s = x :=
  Function.update_self ..

theorem setSkb_ne {s v : Nat} {x : Option TxSkb} (h : v ≠ s) : (w.setSkb s x).skb v = w.skb v :=
  Function.update_of_ne h ..

/-- A name stays one. -/
theorem named_setSkb {s v : Nat} {x : Option TxSkb} (h : w.named v = true) :
    (w.setSkb s x).named v = true := by
  unfold TxWorld.named at h ⊢
  by_cases hv : v = s
  · subst hv
    rw [setSkb_at, show (w.setSkb v x).freed v = (w.freed v || x.isNone) from
      Function.update_self ..]
    cases x <;> simp
  · rw [setSkb_ne hv, show (w.setSkb s x).freed v = w.freed v from Function.update_of_ne hv ..]
    exact h

theorem named_skb {s : Nat} {x : TxSkb} (h : w.skb s = some x) : w.named s = true := by
  rw [TxWorld.named, h]
  rfl

theorem skb_of_new {s : Nat} (h : w.named s = false) : w.skb s = none := by
  by_contra hs
  obtain ⟨x, hx⟩ := Option.ne_none_iff_exists'.1 hs
  rw [named_skb hx] at h
  cases h

theorem setUrb_at {u : Nat} {x : Option TxUrb} : (w.setUrb u x).urb u = x :=
  Function.update_self ..

theorem setUrb_ne {u v : Nat} {x : Option TxUrb} (h : v ≠ u) : (w.setUrb u x).urb v = w.urb v :=
  Function.update_of_ne h ..

/-- A buffer of the new memory is one of the old, or the new one. -/
theorem setSkb_cases {s v : Nat} {x : Option TxSkb} {y : TxSkb}
    (h : (w.setSkb s x).skb v = some y) :
    (v = s ∧ x = some y) ∨ (v ≠ s ∧ w.skb v = some y) := by
  by_cases hv : v = s
  · subst hv
    rw [setSkb_at] at h
    exact .inl ⟨rfl, h⟩
  · rw [setSkb_ne hv] at h
    exact .inr ⟨hv, h⟩

theorem setUrb_cases {u v : Nat} {x : Option TxUrb} {y : TxUrb}
    (h : (w.setUrb u x).urb v = some y) :
    (v = u ∧ x = some y) ∨ (v ≠ u ∧ w.urb v = some y) := by
  by_cases hv : v = u
  · subst hv
    rw [setUrb_at] at h
    exact .inl ⟨rfl, h⟩
  · rw [setUrb_ne hv] at h
    exact .inr ⟨hv, h⟩

/-- The buffer of an URB in flight is not one of a call's. -/
theorem flight_other {s : Nat} {u : Nat} {x : TxUrb} {fl : Flight} (hg : w.Good healthy)
    (hs : FreeFor t (w.skb s)) (hu : w.urb u = some x) (hx : x.flight = some fl) : fl.s ≠ s := by
  obtain ⟨-, -, -, g, data, hskb, -⟩ := hg.flight u x fl hu hx
  rintro rfl
  cases hs _ hskb

/-- A buffer of a call is freed; while all goes well, only if there is another copy or the frame is
a beacon. -/
theorem good_free {s : Nat} (hg : w.Good healthy) (hs : w.skb s = some ⟨f, .call t⟩)
    (hmore : healthy → (∀ data, w.frames[f]? = some data → beaconData data = true) ∨
      ∃ v ≠ s, ∃ o, w.skb v = some ⟨f, o⟩) : (w.setSkb s none).Good healthy where
  sound := hg.sound
  running := hg.running
  flight u x fl hu hx := by
    obtain ⟨ho, ha, hr, g, data, hskb, hrest⟩ := hg.flight u x fl hu hx
    have hne : fl.s ≠ s := flight_other hg (freeFor_held hs) hu hx
    exact ⟨ho, ha, hr, g, data, by rw [setSkb_ne hne, hskb], hrest⟩
  coreSkb v g u hv := by
    rcases setSkb_cases hv with ⟨-, h⟩ | ⟨-, h⟩
    · cases h
    · exact hg.coreSkb v g u h
  coreUrb := hg.coreUrb
  together v v' y y' hv hv' := by
    rcases setSkb_cases hv with ⟨-, h⟩ | ⟨-, h⟩
    · cases h
    rcases setSkb_cases hv' with ⟨-, h'⟩ | ⟨-, h'⟩
    · cases h'
    exact hg.together v v' y y' h h'
  known v y hv := by
    rcases setSkb_cases hv with ⟨-, h⟩ | ⟨-, h⟩
    · cases h
    · exact hg.known v y h
  reported := hg.reported
  once := hg.once
  gone r hr v y hv := by
    rcases setSkb_cases hv with ⟨-, h⟩ | ⟨-, h⟩
    · cases h
    · exact hg.gone r hr v y h
  ledger hh g data hdata hb := by
    rcases hg.ledger hh g data hdata hb with ⟨v, o, hv⟩ | hr
    · by_cases hvs : v = s
      · subst hvs
        obtain ⟨rfl, rfl⟩ : g = f ∧ o = .call t := by
          rw [hs] at hv
          cases hv
          exact ⟨rfl, rfl⟩
        rcases hmore hh with hall | ⟨v', hne, o', hv'⟩
        · exact absurd (hall data hdata) (by simp [hb])
        · exact .inl ⟨v', o', by rw [setSkb_ne hne, hv']⟩
      · exact .inl ⟨v, o, by rw [setSkb_ne hvs, hv]⟩
    · exact .inr hr

/-- A new copy of a frame, for the call that has it. -/
theorem good_copy {s s' : Nat} (hg : w.Good healthy) (hs : w.skb s = some ⟨f, .call t⟩)
    (hfresh : w.skb s' = none) : (w.setSkb s' (some ⟨f, .call t⟩)).Good healthy where
  sound := hg.sound
  running := hg.running
  flight u x fl hu hx := by
    obtain ⟨ho, ha, hr, g, data, hskb, hrest⟩ := hg.flight u x fl hu hx
    have hne : fl.s ≠ s' := by
      rintro rfl
      rw [hfresh] at hskb
      cases hskb
    exact ⟨ho, ha, hr, g, data, by rw [setSkb_ne hne, hskb], hrest⟩
  coreSkb v g u hv := by
    rcases setSkb_cases hv with ⟨-, h⟩ | ⟨-, h⟩
    · cases h
    · exact hg.coreSkb v g u h
  coreUrb := hg.coreUrb
  together v v' y y' hv hv' hf := by
    rcases setSkb_cases hv with ⟨-, h⟩ | ⟨-, h⟩ <;> rcases setSkb_cases hv' with ⟨-, h'⟩ | ⟨-, h'⟩
    · cases h
      cases h'
      rfl
    · cases h
      exact hg.together s v' _ y' hs h' hf
    · cases h'
      exact hg.together v s y _ h hs hf
    · exact hg.together v v' y y' h h' hf
  known v y hv := by
    rcases setSkb_cases hv with ⟨-, h⟩ | ⟨-, h⟩
    · cases h
      exact hg.known s _ hs
    · exact hg.known v y h
  reported := hg.reported
  once := hg.once
  gone r hr v y hv := by
    rcases setSkb_cases hv with ⟨-, h⟩ | ⟨-, h⟩
    · cases h
      exact hg.gone r hr s _ hs
    · exact hg.gone r hr v y h
  ledger hh g data hdata hb := by
    rcases hg.ledger hh g data hdata hb with ⟨v, o, hv⟩ | hr
    · have hne : v ≠ s' := by
        rintro rfl
        rw [hfresh] at hv
        cases hv
      exact .inl ⟨v, o, by rw [setSkb_ne hne, hv]⟩
    · exact .inr hr

/-- An URB of a call changed into another one that is not in flight. -/
theorem good_setUrb {u : Nat} {x : Option TxUrb} (hg : w.Good healthy)
    (hold : ∀ y, w.urb u = some y → y.owner = .call t)
    (hnew : ∀ y, x = some y → y.owner = .call t ∧ y.flight = none) :
    (w.setUrb u x).Good healthy where
  sound := hg.sound
  running := hg.running
  flight v y fl hv hy := by
    rcases setUrb_cases hv with ⟨-, h⟩ | ⟨-, h⟩
    · rw [(hnew y h).2] at hy
      cases hy
    · exact hg.flight v y fl h hy
  coreSkb s g v hs := by
    obtain ⟨y, fl, hy, hfl, hfs⟩ := hg.coreSkb s g v hs
    have hne : v ≠ u := by
      rintro rfl
      have ho := hold y hy
      rw [(hg.flight v y fl hy hfl).1] at ho
      cases ho
    exact ⟨y, fl, by rw [setUrb_ne hne, hy], hfl, hfs⟩
  coreUrb v y c hv hc := by
    rcases setUrb_cases hv with ⟨-, h⟩ | ⟨-, h⟩
    · rw [(hnew y h).1] at hc
      cases hc
    · exact hg.coreUrb v y c h hc
  together := hg.together
  known := hg.known
  reported := hg.reported
  once := hg.once
  gone := hg.gone
  ledger := hg.ledger

/-- The only copy of a frame is reported. -/
theorem good_report {s : Nat} {ack : Bool} (hg : w.Good healthy)
    (hs : w.skb s = some ⟨f, .call t⟩) (honly : ∀ v o, w.skb v = some ⟨f, o⟩ → v = s)
    (hd : w.frames[f]? = some d) :
    ((w.setSkb s none).told (some ⟨f, d, ack⟩)).Good healthy where
  sound := hg.sound
  running := hg.running
  flight u x fl hu hx := by
    obtain ⟨ho, ha, hr, g, data, hskb, hrest⟩ := hg.flight u x fl hu hx
    have hne : fl.s ≠ s := flight_other hg (freeFor_held hs) hu hx
    exact ⟨ho, ha, hr, g, data, (setSkb_ne hne).trans hskb, hrest⟩
  coreSkb v g u hv := by
    rcases setSkb_cases hv with ⟨-, h⟩ | ⟨-, h⟩
    · cases h
    · exact hg.coreSkb v g u h
  coreUrb := hg.coreUrb
  together v v' y y' hv hv' := by
    rcases setSkb_cases hv with ⟨-, h⟩ | ⟨-, h⟩
    · cases h
    rcases setSkb_cases hv' with ⟨-, h'⟩ | ⟨-, h'⟩
    · cases h'
    exact hg.together v v' y y' h h'
  known v y hv := by
    rcases setSkb_cases hv with ⟨-, h⟩ | ⟨-, h⟩
    · cases h
    · exact hg.known v y h
  reported r hr := by
    rcases List.mem_append.1 hr with hr | hr
    · exact hg.reported r hr
    · rw [List.mem_singleton.1 hr]
      exact hd
  once := by
    change ((w.reports ++ [(⟨f, d, ack⟩ : TxReport)]).map (·.frame)).Nodup
    rw [List.map_append, List.nodup_append]
    refine ⟨hg.once, by simp, fun a ha b hb hab => ?_⟩
    obtain ⟨r, hr, rfl⟩ := List.mem_map.1 ha
    obtain rfl : b = f := by simpa using hb
    exact hg.gone r hr s _ hs hab.symm
  gone r hr v y hv := by
    rcases setSkb_cases hv with ⟨-, h⟩ | ⟨hne, h⟩
    · cases h
    rcases List.mem_append.1 hr with hr | hr
    · exact hg.gone r hr v y h
    · rw [List.mem_singleton.1 hr]
      rintro rfl
      exact hne (honly v y.owner h)
  ledger hh g data hdata hb := by
    by_cases hgf : g = f
    · exact .inr ⟨⟨f, d, ack⟩, List.mem_append.2 (.inr (List.mem_singleton.2 rfl)), hgf.symm⟩
    · rcases hg.ledger hh g data hdata hb with ⟨v, o, hv⟩ | ⟨r, hr, hrf⟩
      · have hne : v ≠ s := by
          rintro rfl
          rw [hs] at hv
          cases hv
          exact hgf rfl
        exact .inl ⟨v, o, (setSkb_ne hne).trans hv⟩
      · exact .inr ⟨r, List.mem_append.2 (.inl hr), hrf⟩

/-- The URB and the buffer after a submission. -/
def TxWorld.submitted (w : TxWorld) (u s f : Nat) (x : TxUrb) (fl : Flight) : TxWorld :=
  (w.setUrb u (some { x with refs := x.refs + 1, owner := .core u, flight := some fl })).setSkb s
    (some ⟨f, .core u⟩)

/-- The only copy of a frame goes out in an URB on the anchor. -/
theorem good_submitted {u : Nat} {x : TxUrb} {fl : Flight} (hg : w.Good healthy)
    (hu : w.urb u = some x) (hx : x.owner = .call t) (ha : x.anchored = true) (hr : x.refs = 2)
    (hs : w.skb fl.s = some ⟨f, .call t⟩) (honly : ∀ v o, w.skb v = some ⟨f, o⟩ → v = fl.s)
    (hd : w.frames[f]? = some d) (hfl : Restores fl.t d) :
    (w.submitted u fl.s f x fl).Good healthy where
  sound := hg.sound
  running := hg.running
  flight v y fl' hv hy := by
    rcases setUrb_cases hv with ⟨rfl, h⟩ | ⟨hne, h⟩
    · cases h
      cases hy
      exact ⟨rfl, ha, by rw [hr], f, d, setSkb_at, hd, hfl⟩
    · obtain ⟨ho, ha', hr', g, data, hskb, hrest⟩ := hg.flight v y fl' h hy
      have hne' : fl'.s ≠ fl.s := flight_other hg (freeFor_held hs) h hy
      exact ⟨ho, ha', hr', g, data, (setSkb_ne hne').trans hskb, hrest⟩
  coreSkb v g c hv := by
    rcases setSkb_cases hv with ⟨rfl, h⟩ | ⟨-, h⟩
    · cases h
      exact ⟨_, fl, setUrb_at, rfl, rfl⟩
    · obtain ⟨y, fl', hy, hfl', hfs⟩ := hg.coreSkb v g c h
      have hne : c ≠ u := by
        rintro rfl
        rw [hu] at hy
        cases hy
        rw [(hg.flight c x fl' hu hfl').1] at hx
        cases hx
      exact ⟨y, fl', (setUrb_ne hne).trans hy, hfl', hfs⟩
  coreUrb v y c hv hc := by
    rcases setUrb_cases hv with ⟨-, h⟩ | ⟨-, h⟩
    · cases h
      exact ⟨fl, rfl⟩
    · exact hg.coreUrb v y c h hc
  together v v' y y' hv hv' hf := by
    rcases setSkb_cases hv with ⟨-, h⟩ | ⟨hne, h⟩ <;>
      rcases setSkb_cases hv' with ⟨-, h'⟩ | ⟨hne', h'⟩
    · cases h
      cases h'
      rfl
    · cases h
      obtain rfl : f = y'.frame := hf
      exact absurd (honly v' y'.owner h') hne'
    · cases h'
      obtain rfl : y.frame = f := hf
      exact absurd (honly v y.owner h) hne
    · exact hg.together v v' y y' h h' hf
  known v y hv := by
    rcases setSkb_cases hv with ⟨-, h⟩ | ⟨-, h⟩
    · cases h
      exact hg.known fl.s ⟨f, .call t⟩ hs
    · exact hg.known v y h
  reported := hg.reported
  once := hg.once
  gone r hr v y hv := by
    rcases setSkb_cases hv with ⟨-, h⟩ | ⟨-, h⟩
    · cases h
      exact hg.gone r hr fl.s ⟨f, .call t⟩ hs
    · exact hg.gone r hr v y h
  ledger hh g data hdata hb := by
    rcases hg.ledger hh g data hdata hb with ⟨v, o, hv⟩ | hr
    · by_cases hvs : v = fl.s
      · subst hvs
        rw [hs] at hv
        cases hv
        exact .inl ⟨fl.s, _, setSkb_at⟩
      · exact .inl ⟨v, o, (setSkb_ne hvs).trans hv⟩
    · exact .inr hr

/-! ## Requests

One lemma for each: what the call owns afterwards, and that the others keep what they own. -/

theorem call_ne {t' : Nat} {o : Holder} (ht : t' ≠ t) (ho : o = .call t) : o ≠ .call t' := by
  rw [ho]
  exact fun h => ht (Holder.call.inj h).symm

theorem guar_setSkb {s : Nat} {x : Option TxSkb} (hold : FreeFor t (w.skb s))
    (hnew : ∀ y, x = some y → y.owner = .call t) (hg : (w.setSkb s x).Good healthy) :
    Guar healthy t w (w.setSkb s x) where
  keeps _ ht := keeps_setSkb (fun y hy => call_ne ht (hold y hy)) fun y hy => call_ne ht (hnew y hy)
  frames := List.prefix_rfl
  named _ := named_setSkb
  good _ := hg

theorem guar_setUrb {u : Nat} {x : Option TxUrb} (hold : ∀ y, w.urb u = some y → y.owner = .call t)
    (hnew : ∀ y, x = some y → y.owner = .call t) (hg : (w.setUrb u x).Good healthy) :
    Guar healthy t w (w.setUrb u x) where
  keeps _ ht := keeps_setUrb (fun y hy => call_ne ht (hold y hy)) fun y hy => call_ne ht (hnew y hy)
  frames := List.prefix_rfl
  named _ := id
  good _ := hg

theorem held_freeSkb {s : Nat} {r : Unit} (h : Held healthy t f d (s :: skbs) urbs w)
    (hs : s ∉ skbs) (hmore : healthy → beaconData d = true ∨ skbs ≠ []) :
    Guar healthy t w (txStep t w (.freeSkb s) r) ∧
      Held healthy t f d skbs urbs (txStep t w (.freeSkb s) r) := by
  have hmem : w.skb s = some ⟨f, .call t⟩ := h.mem (List.mem_cons_self ..)
  have hstep : txStep t w (.freeSkb s) r = w.setSkb s none := by
    change (w.setSkb s none).mustOwn (w.ownsSkb t s) = _
    rw [h.ownsSkb (List.mem_cons_self ..), mustOwn_true]
  have hgood : (w.setSkb s none).Good healthy := by
    refine good_free h.good hmem fun hh => ?_
    rcases hmore hh with hb | hne
    · refine .inl fun data hdata => ?_
      rw [h.data] at hdata
      cases hdata
      exact hb
    · obtain ⟨v, l, rfl⟩ := List.exists_cons_of_ne_nil hne
      refine .inr ⟨v, fun hv => hs (by simp [hv]), .call t, h.mem (by simp)⟩
  rw [hstep]
  refine ⟨guar_setSkb (freeFor_held hmem) (by simp) hgood, hgood, fun v g => ?_, h.urb, h.data⟩
  by_cases hv : v = s
  · subst hv
    rw [setSkb_at]
    exact ⟨fun hc => (by cases hc), fun hc => absurd hc.1 hs⟩
  · rw [setSkb_ne hv, h.skb v g, List.mem_cons]
    simp [hv]

theorem held_copied {s s' : Nat} (skb' : SkBuff U8) (h : Held healthy t f d skbs urbs w)
    (hs : s ∈ skbs) (hfresh : w.skb s' = none) :
    s' ∉ skbs ∧
      Guar healthy t w ((w.copied s (some (s', skb'))).mustOwn (w.ownsSkb t s)) ∧
      Held healthy t f d (s' :: skbs) urbs
        ((w.copied s (some (s', skb'))).mustOwn (w.ownsSkb t s)) := by
  have hmem := h.mem hs
  have hstep : (w.copied s (some (s', skb'))).mustOwn (w.ownsSkb t s) =
      w.setSkb s' (some ⟨f, .call t⟩) := by
    rw [h.ownsSkb hs, mustOwn_true, TxWorld.copied, hmem]
  have hgood := good_copy h.good hmem hfresh
  have hnew : s' ∉ skbs := by
    intro hc
    rw [h.mem hc] at hfresh
    cases hfresh
  rw [hstep]
  refine ⟨hnew, guar_setSkb (freeFor_none hfresh) (fun y hy => by cases hy; rfl) hgood, hgood,
    fun v g => ?_, h.urb, h.data⟩
  by_cases hv : v = s'
  · subst hv
    rw [setSkb_at]
    simp [eq_comm]
  · rw [setSkb_ne hv, h.skb v g, List.mem_cons]
    simp [hv]

theorem held_not_copied {s : Nat} (h : Held healthy t f d skbs urbs w) (hs : s ∈ skbs) :
    (w.copied s none).mustOwn (w.ownsSkb t s) = w := by
  rw [h.ownsSkb hs, mustOwn_true, TxWorld.copied]

theorem guar_refl : Guar healthy t w w where
  keeps _ _ := ⟨fun _ _ => Iff.rfl, fun _ _ _ => Iff.rfl⟩
  frames := List.prefix_rfl
  named _ := id
  good := id

/-- The one URB of a call, changed into another one or freed. -/
theorem held_setUrb {u : Nat} {us : List (Nat × TxUrb)} {x : Option TxUrb}
    (h : Held healthy t f d skbs us w) (hus : ∀ v y, (v, y) ∈ us → v = u)
    (hold : ∀ y, w.urb u = some y → y.owner = .call t)
    (hnew : ∀ y, x = some y → y.owner = .call t ∧ y.flight = none) :
    Guar healthy t w (w.setUrb u x) ∧
      Held healthy t f d skbs (x.toList.map fun y => (u, y)) (w.setUrb u x) := by
  have hgood := good_setUrb h.good hold hnew
  refine ⟨guar_setUrb hold (fun y hy => (hnew y hy).1) hgood, hgood, h.skb, fun v y hy => ?_,
    h.data⟩
  by_cases hv : v = u
  · subst hv
    rw [setUrb_at]
    cases x with
    | none => simp
    | some z => simp [eq_comm]
  · rw [setUrb_ne hv, h.urb v y hy]
    constructor
    · exact fun hc => absurd (hus v y hc) hv
    · intro hc
      obtain ⟨z, -, hz⟩ := List.mem_map.1 hc
      exact absurd (congrArg Prod.fst hz).symm hv

/-- An URB of a call, before it is on the anchor and while it is. -/
abbrev freshUrb (t : Nat) : TxUrb := ⟨1, false, .call t, none⟩
abbrev anchoredUrb (t : Nat) : TxUrb := ⟨2, true, .call t, none⟩

theorem held_allocUrb {u : Nat} (h : Held healthy t f d skbs [] w) (hu : w.urb u = none) :
    Guar healthy t w (txStep t w .allocUrb (some u)) ∧
      Held healthy t f d skbs [(u, freshUrb t)] (txStep t w .allocUrb (some u)) :=
  held_setUrb (x := some (freshUrb t)) h (fun _ _ hc => by cases hc)
    (fun y hy => by rw [hu] at hy; cases hy) fun y hy => by cases hy; exact ⟨rfl, rfl⟩

/-- A request about the one URB of a call. -/
theorem held_onUrb {u : Nat} {x : TxUrb} {x' : Option TxUrb}
    (h : Held healthy t f d skbs [(u, x)] w) (hx : x.owner = .call t)
    (hnew : ∀ y, x' = some y → y.owner = .call t ∧ y.flight = none) :
    Guar healthy t w ((w.setUrb u x').mustOwn (w.ownsUrb t u)) ∧
      Held healthy t f d skbs (x'.toList.map fun y => (u, y))
        ((w.setUrb u x').mustOwn (w.ownsUrb t u)) := by
  have hmem : w.urb u = some x := h.memUrb hx (by simp)
  rw [h.ownsUrb hx (by simp), mustOwn_true]
  refine held_setUrb h (fun v y hc => ?_) (fun y hy => ?_) hnew
  · exact congrArg Prod.fst (List.mem_singleton.1 hc)
  · rw [hmem] at hy
    cases hy
    exact hx

theorem held_anchorUrb {u : Nat} {r : Unit} (h : Held healthy t f d skbs [(u, freshUrb t)] w) :
    Guar healthy t w (txStep t w (.anchorUrb u) r) ∧
      Held healthy t f d skbs [(u, anchoredUrb t)] (txStep t w (.anchorUrb u) r) := by
  have hstep : txStep t w (.anchorUrb u) r =
      (w.setUrb u (some (anchoredUrb t))).mustOwn (w.ownsUrb t u) := by
    change (w.setUrb u ((w.urb u).map _)).mustOwn _ = _
    rw [h.memUrb (x := freshUrb t) rfl (by simp)]
    rfl
  rw [hstep]
  exact held_onUrb h rfl fun y hy => by cases hy; exact ⟨rfl, rfl⟩

theorem held_unanchorUrb {u : Nat} {r : Unit} (h : Held healthy t f d skbs [(u, anchoredUrb t)] w) :
    Guar healthy t w (txStep t w (.unanchorUrb u) r) ∧
      Held healthy t f d skbs [(u, freshUrb t)] (txStep t w (.unanchorUrb u) r) := by
  have hstep : txStep t w (.unanchorUrb u) r =
      (w.setUrb u (some (freshUrb t))).mustOwn (w.ownsUrb t u) := by
    change (w.setUrb u ((w.urb u).bind _)).mustOwn _ = _
    rw [h.memUrb (x := anchoredUrb t) rfl (by simp)]
    rfl
  rw [hstep]
  exact held_onUrb h rfl fun y hy => by cases hy; exact ⟨rfl, rfl⟩

/-- One reference less, of an URB that is not in flight. -/
theorem held_freeUrb {u : Nat} {x : TxUrb} {r : Unit} (h : Held healthy t f d skbs [(u, x)] w)
    (hx : x.owner = .call t) (hfl : x.flight = none) :
    Guar healthy t w (txStep t w (.freeUrb u) r) ∧
      Held healthy t f d skbs (x.drop.toList.map fun y => (u, y)) (txStep t w (.freeUrb u) r) := by
  have hstep : txStep t w (.freeUrb u) r = (w.setUrb u x.drop).mustOwn (w.ownsUrb t u) := by
    change (w.setUrb u ((w.urb u).bind _)).mustOwn _ = _
    rw [h.memUrb hx (by simp)]
    rfl
  rw [hstep]
  refine held_onUrb h hx fun y hy => ?_
  unfold TxUrb.drop at hy
  split at hy
  · cases hy
  · cases hy
    exact ⟨hx, hfl⟩

/-- A call with one buffer has the only copy of its frame. -/
theorem Held.only {s : Nat} (h : Held healthy t f d [s] urbs w) :
    ∀ v o, w.skb v = some ⟨f, o⟩ → v = s := by
  intro v o hv
  obtain rfl : o = .call t := h.good.together v s _ _ hv (h.mem (by simp)) rfl
  simpa using ((h.skb v f).1 hv).1

theorem held_txStatus {s : Nat} {ack : Bool} {r : Unit} (h : Held healthy t f d [s] urbs w) :
    Guar healthy t w (txStep t w (.txStatus s d ack) r) ∧
      Held healthy t f d [] urbs (txStep t w (.txStatus s d ack) r) := by
  have hmem : w.skb s = some ⟨f, .call t⟩ := h.mem (by simp)
  have hstep : txStep t w (.txStatus s d ack) r =
      (w.setSkb s none).told (some ⟨f, d, ack⟩) := by
    change ((w.setSkb s none).told ((w.skb s).map _)).mustOwn (w.ownsSkb t s) = _
    rw [h.ownsSkb (by simp), mustOwn_true, hmem]
    rfl
  have hgood : ((w.setSkb s none).told (some ⟨f, d, ack⟩)).Good healthy :=
    good_report h.good hmem h.only h.data
  rw [hstep]
  refine ⟨⟨fun t' ht => ?_, List.prefix_rfl, fun _ => named_setSkb, fun _ => hgood⟩, hgood,
    fun v g => ?_, h.urb, h.data⟩
  · have hk : Keeps t' w (w.setSkb s none) :=
      keeps_setSkb (fun y hy => call_ne ht (freeFor_held hmem y hy)) fun y hy => by cases hy
    exact ⟨hk.skb, hk.urb⟩
  · have hone : w.skb v = some ⟨g, .call t⟩ ↔ v ∈ [s] ∧ g = f := h.skb v g
    change (w.setSkb s none).skb v = _ ↔ _
    by_cases hv : v = s
    · rw [hv, setSkb_at]
      simp
    · rw [setSkb_ne hv, hone]
      simp [hv]

/-- **The hand-over**: after a submission that succeeded the call owns nothing. -/
theorem held_submitUrb {u s : Nat} {tr : Transfer} {info : TxInfo} {r : Int}
    (h : Held healthy t f d [s] [(u, anchoredUrb t)] w) (hr : 0 ≤ r) (htr : Restores tr d) :
    Guar healthy t w (txStep t w (.submitUrb u s tr info) r) ∧
      Held healthy t f d [] [] (txStep t w (.submitUrb u s tr info) r) := by
  have hmem : w.skb s = some ⟨f, .call t⟩ := h.mem (by simp)
  have hurb : w.urb u = some (anchoredUrb t) := h.memUrb rfl (by simp)
  have hstep : txStep t w (.submitUrb u s tr info) r =
      w.submitted u s f (anchoredUrb t) ⟨s, tr, info⟩ := by
    change (if r < 0 then _ else (TxWorld.setSkb _ s ((w.skb s).map _)).mustOwn _) = _
    rw [if_neg (by omega), h.ownsUrb (x := anchoredUrb t) rfl (by simp),
      h.ownsSkb (by simp), hmem, hurb]
    exact mustOwn_true _
  have hgood : (w.submitted u s f (anchoredUrb t) ⟨s, tr, info⟩).Good healthy :=
    good_submitted h.good hurb rfl rfl rfl hmem h.only h.data htr
  rw [hstep]
  refine ⟨⟨fun t' ht => ?_, List.prefix_rfl, fun _ => named_setSkb, fun _ => hgood⟩, hgood,
    fun v g => ?_,
    fun v y hy => ?_, h.data⟩
  · refine (keeps_setUrb (fun y hy => ?_) fun y hy => ?_).trans
      (keeps_setSkb (fun y hy => call_ne ht (freeFor_held hmem y hy)) fun y hy => ?_)
    · rw [hurb] at hy
      cases hy
      exact call_ne ht rfl
    · cases hy
      exact fun hc => by cases hc
    · cases hy
      exact fun hc => by cases hc
  · have hone : w.skb v = some ⟨g, .call t⟩ ↔ v ∈ [s] ∧ g = f := h.skb v g
    by_cases hv : v = s
    · rw [hv, TxWorld.submitted, setSkb_at]
      simp
    · rw [TxWorld.submitted, setSkb_ne hv]
      change w.skb v = _ ↔ _
      rw [hone]
      simp [hv]
  · change (w.setUrb u _).urb v = some y ↔ _
    by_cases hv : v = u
    · rw [hv, setUrb_at]
      constructor
      · intro hc
        cases hc
        cases hy
      · intro hc
        cases hc
    · rw [setUrb_ne hv, h.urb v y hy]
      simp [hv]

end

/-! ## Calls -/

/-- The judgement about the call `t`. -/
abbrev TxRg {α : Type} (healthy : Prop) (t : Nat) (p : TP α) (w : TxWorld)
    (Q : α → TxWorld → Prop) : Prop :=
  Rg (txEnv healthy t) (Rely healthy t) (Guar healthy t) p w Q

/-- What a stage leaves: a buffer with `P`, or nothing if something was refused. -/
def Left (healthy : Prop) (t f : Nat) (d : List U8) (P : SkBuff U8 → Prop) :
    Option Named → TxWorld → Prop
  | none, w => ¬healthy ∧ Held healthy t f d [] [] w
  | some (s, skb), w => P skb ∧ Held healthy t f d [s] [] w

section
variable {healthy : Prop} {t f : Nat} {d : List U8} {skbs : List Nat} {urbs : List (Nat × TxUrb)}
  {w : TxWorld} {α : Type} {Q : α → TxWorld → Prop}

theorem rg_tx {e : TxReq} {rest : e.Resp → TP α} (h : Held healthy t f d skbs urbs w)
    (hstep : ∀ w₁ r, Held healthy t f d skbs urbs w₁ → TxAnswers healthy w₁ e r →
      Guar healthy t w₁ (txStep t w₁ e r) ∧ TxRg healthy t (rest r) (txStep t w₁ e r) Q) :
    TxRg healthy t (.op e rest) w Q := by
  refine rg_op held_stable h ?_
  rintro w₁ r _ h₁ ⟨hans, rfl⟩
  exact hstep w₁ r h₁ hans

theorem rg_next {e : TxReq} {rest : e.Resp → TP α} (h : Held healthy t f d skbs urbs w)
    (hstep : ∀ w₁ r, Held healthy t f d skbs urbs w₁ → TxAnswers healthy w₁ e r →
      Guar healthy t w₁ (txStep t w₁ e r) ∧ TxRg healthy t (rest r) (txStep t w₁ e r) Q) :
    TxRg healthy t (Prog.request (S := txSig) e >>= rest) w Q := rg_tx h hstep

theorem rg_freeSkb {s : Nat} {Q : Unit → TxWorld → Prop} (h : Held healthy t f d (s :: skbs) urbs w)
    (hs : s ∉ skbs) (hmore : healthy → beaconData d = true ∨ skbs ≠ [])
    (hQ : ∀ w₁, Held healthy t f d skbs urbs w₁ → Q () w₁) :
    TxRg healthy t (txFreeSkb s) w Q := by
  refine rg_tx h fun w₁ r h₁ _ => ?_
  obtain ⟨hG, h₂⟩ := held_freeSkb h₁ hs hmore
  exact ⟨hG, rg_ret held_stable h₂ hQ⟩

/-- Only which buffers there are matters. -/
theorem Held.perm {skbs' : List Nat} (h : Held healthy t f d skbs urbs w)
    (hp : ∀ s, s ∈ skbs ↔ s ∈ skbs') : Held healthy t f d skbs' urbs w :=
  ⟨h.good, fun s g => (h.skb s g).trans (by rw [hp]), h.urb, h.data⟩

/-- The original is freed after the attempt to copy it. -/
theorem rg_copied {s : Nat} {r : Option Named} {P : SkBuff U8 → Prop}
    (h : Held healthy t f d [s] [] w) (hok : healthy → r.isSome)
    (hr : ∀ s' skb', r = some (s', skb') → w.skb s' = none ∧ P skb') :
    Guar healthy t w ((w.copied s r).mustOwn (w.ownsSkb t s)) ∧
      TxRg healthy t (txFreeSkb s >>= fun _ => (return r : TP (Option Named)))
        ((w.copied s r).mustOwn (w.ownsSkb t s)) (Left healthy t f d P) := by
  cases r with
  | none =>
    have hsick : ¬healthy := fun hh => by cases hok hh
    rw [held_not_copied h (by simp)]
    refine ⟨guar_refl, rg_bind (rg_freeSkb h (by simp) (fun hh => absurd hh hsick) fun w₁ h₁ => ?_)⟩
    exact rg_ret held_stable h₁ fun w₂ h₂ => ⟨hsick, h₂⟩
  | some ns =>
    obtain ⟨s', skb'⟩ := ns
    obtain ⟨hfresh, hP⟩ := hr s' skb' rfl
    obtain ⟨hnew, hG, h₂⟩ := held_copied skb' h (List.mem_singleton.2 rfl) hfresh
    have h₂ : Held healthy t f d [s, s'] [] _ := h₂.perm (by simp [or_comm])
    have hne : s ∉ [s'] := by simpa [eq_comm] using hnew
    refine ⟨hG, rg_bind (rg_freeSkb h₂ hne (fun _ => .inr (by simp)) fun w₁ h₁ => ?_)⟩
    exact rg_ret held_stable h₁ fun w₂ h₃ => ⟨hP, h₃⟩

theorem rg_tailPath {s n : Nat} {skb : SkBuff U8} (h : Held healthy t f d [s] [] w) :
    TxRg healthy t (tailPath s skb n) w
      (Left healthy t f d fun skb' => skb'.data = skb.data ∧ n ≤ skb'.tailroom) := by
  unfold tailPath
  split
  · refine rg_tx h fun w₁ r h₁ ⟨hok, hr⟩ => rg_copied h₁ hok fun s' skb' he => ?_
    obtain ⟨hfresh, hdata, -, htail⟩ := hr s' skb' he
    exact ⟨skb_of_new hfresh, hdata, htail⟩
  · exact rg_ret held_stable h fun w₁ h₁ => ⟨⟨rfl, by omega⟩, h₁⟩

theorem rg_headPath {s n : Nat} {skb : SkBuff U8} (h : Held healthy t f d [s] [] w) :
    TxRg healthy t (headPath s skb n) w
      (Left healthy t f d fun skb' => skb'.data = skb.data ∧ n ≤ skb'.headroom) := by
  unfold headPath
  split
  · refine rg_tx h fun w₁ r h₁ ⟨hok, hr⟩ => rg_copied h₁ hok fun s' skb' he => ?_
    obtain ⟨hfresh, hdata, hhead⟩ := hr s' skb' he
    exact ⟨skb_of_new hfresh, hdata, hhead⟩
  · exact rg_ret held_stable h fun w₁ h₁ => ⟨⟨rfl, by omega⟩, h₁⟩

/-- An operation on the bytes that does not leave the buffer. -/
theorem rg_onBytes {s : Nat} {x : Rs (SkBuff U8)} {skb' : SkBuff U8} {P : SkBuff U8 → Prop}
    (h : Held healthy t f d [s] [] w) (hx : x = .ok skb') (hP : P skb') :
    TxRg healthy t (onBytes s x) w (Left healthy t f d P) := by
  rw [hx]
  exact rg_ret held_stable h fun w₁ h₁ => ⟨hP, h₁⟩

/-- One stage after the other. -/
theorem rg_stage {p : TP (Option Named)} {g : Nat → SkBuff U8 → TP (Option Named)}
    {P P' : SkBuff U8 → Prop} (hp : TxRg healthy t p w (Left healthy t f d P))
    (hg : ∀ s skb w₁, P skb → Held healthy t f d [s] [] w₁ →
      TxRg healthy t (g s skb) w₁ (Left healthy t f d P')) :
    TxRg healthy t (do
      match ← p with
      | none => return none
      | some (s, skb) => g s skb) w (Left healthy t f d P') := by
  refine rg_bind (rg_mono hp fun r w₁ hr => ?_)
  match r, hr with
  | none, ⟨hsick, h₁⟩ => exact rg_ret held_stable h₁ fun w₂ h₂ => ⟨hsick, h₂⟩
  | some (s, skb), ⟨hP, h₁⟩ => exact hg s skb w₁ hP h₁

/-! The bytes of the buffer on the way. -/

theorem openGap_eq {skb : SkBuff U8} {h pad : Nat} (hh : h ≤ skb.len)
    (hl : skb.len + pad < 2 ^ 32) (ht : pad ≤ skb.tailroom) :
    ∃ skb', openGap skb h pad = .ok skb' ∧
      skb'.data = skb.data.take h ++ List.replicate pad 0 ++ skb.data.drop h := by
  obtain ⟨s', hput, hl', hgap⟩ := SkBuff.put_move_store skb h (List.replicate pad 0) hh
    (by simpa using ht)
  rw [List.length_replicate] at hput hl' hgap
  have h1 : sub32 (skb.len + pad) h = skb.len + pad - h := sub32_eq (by omega) (by omega)
  have h2 : sub32 (skb.len + pad - h) pad = skb.len - h := by
    rw [sub32_eq (by omega) (by omega)]
    omega
  unfold openGap
  rw [hput, ok_bind, hl', h1, h2, hgap]
  exact ⟨_, rfl, rfl⟩

theorem appendZeros_eq {skb : SkBuff U8} {n : Nat} (ht : n ≤ skb.tailroom) :
    ∃ skb', appendZeros skb n = .ok skb' ∧ skb'.data = skb.data ++ List.replicate n 0 := by
  have hput := SkBuff.put_store skb (List.replicate n 0) (by simpa using ht)
  rw [List.length_replicate] at hput
  unfold appendZeros
  rw [hput]
  exact ⟨_, rfl, rfl⟩

theorem rg_gapPath {s h pad : Nat} {skb : SkBuff U8} (hw : Held healthy t f d [s] [] w)
    (hh : h ≤ skb.len) (hl : skb.len + pad < 2 ^ 32) :
    TxRg healthy t (gapPath s skb h pad) w (Left healthy t f d fun skb' =>
      skb'.data = skb.data.take h ++ List.replicate pad 0 ++ skb.data.drop h) := by
  unfold gapPath
  split
  · refine rg_stage (rg_tailPath hw) fun s₁ skb₁ w₁ ⟨hd, ht⟩ h₁ => ?_
    have hlen : skb₁.len = skb.len := by rw [SkBuff.len, hd, ← SkBuff.len]
    obtain ⟨skb', hgap, hdata⟩ := openGap_eq (h := h) (by omega) (by omega) ht
    rw [hd] at hdata
    exact rg_onBytes h₁ hgap hdata
  · have hp : pad = 0 := by omega
    refine rg_ret held_stable hw fun w₁ h₁ => ⟨?_, h₁⟩
    rw [hp]
    simp

/-- **The buffer of the transfer.** -/
theorem rg_framePath {p : TxParams} {fc : U16} {rate : U32} {s : Nat} {skb : SkBuff U8}
    (hw : Held healthy t f d [s] [] w) (hle : p.hdrLen.toNat ≤ skb.len)
    (hpkt : p.pktLen.toNat = skb.len)
    (hl : 32 + padOf p.hdrLen.toNat + skb.len ≤ 65535) :
    TxRg healthy t (framePath p fc
      (if p.frmType = 2 then requestStatus (txwiImage p rate) else txwiImage p rate) s skb) w
      (Left healthy t f d fun skb' => skb'.data = txBuffer
        (patchedTxd p rate (BitVec.ofNat 16 (txByteCnt (isMgmt fc)
          (32 + padOf p.hdrLen.toNat + skb.len)))) skb.data p.hdrLen.toNat) := by
  unfold framePath
  dsimp only
  rw [hdrPadLen_eq]
  refine rg_stage (rg_gapPath hw hle (by omega)) fun s₁ skb₁ w₁ hd₁ h₁ => ?_
  refine rg_stage (rg_headPath h₁) fun s₂ skb₂ w₂ hroomy h₂ => ?_
  obtain ⟨hd₂, hroom⟩ := hroomy
  have hlen₂ : 32 + skb₂.len = 32 + padOf p.hdrLen.toNat + skb.len := by
    rw [SkBuff.len, hd₂, hd₁, SkBuff.len]
    simp only [List.length_append, List.length_take, List.length_drop, List.length_replicate]
    rw [SkBuff.len] at hle
    omega
  obtain ⟨skb₃, hpush, hd₃⟩ := pushTxd_eq skb₂
    (if p.frmType = 2 then requestStatus (txwiImage p rate) else txwiImage p rate)
    (isMgmt fc) (by rw [statusTxd_eq]; rfl) hroom
  rw [hlen₂, patchedTxd_eq (by rw [hpkt]) hl, hd₂, hd₁] at hd₃
  have hlen₃ : skb₃.len = 32 + padOf p.hdrLen.toNat + skb.len := by
    rw [← hlen₂, SkBuff.len, hd₃, ← hd₁, ← hd₂, List.length_append, length_patchedTxd, SkBuff.len]
  refine rg_stage (rg_onBytes (P := fun x => x = skb₃) h₂ hpush rfl) fun s₃ x w₃ hx h₃ => ?_
  subst hx
  refine rg_stage (rg_tailPath h₃) fun s₄ skb₄ w₄ hroomy h₄ => ?_
  obtain ⟨hd₄, hroom₄⟩ := hroomy
  obtain ⟨skb₅, happ, hd₅⟩ := appendZeros_eq hroom₄
  refine rg_onBytes h₄ happ ?_
  rw [hd₅, hd₄, hlen₃, hd₃]
  rfl

/-- What the preparation leaves: a buffer and an URB, or nothing. -/
def ReadyToSend (healthy : Prop) (t f : Nat) (d : List U8) :
    Option (Nat × Nat × Transfer) → TxWorld → Prop
  | none, w => Held healthy t f d [] [] w
  | some (s, u, tr), w => Restores tr d ∧ Held healthy t f d [s] [(u, freshUrb t)] w

theorem rg_preparePath {k : Kernel} {dev : Dev} {info : TxInfo} {s : Nat} {skb : SkBuff U8}
    (hw : Held healthy t f d [s] [] w) (hd : skb.data = d) (hk : Sendable k skb)
    (hrun : healthy → dev.running = true) :
    TxRg healthy t (preparePath k dev info s skb) w (ReadyToSend healthy t f d) := by
  obtain ⟨he, hle, h0, hl⟩ := hk
  -- the header length is kept in 8 bits
  obtain ⟨h, hh⟩ : ∃ h, (txParams k dev info skb).hdrLen.toNat = h := ⟨_, rfl⟩
  have hmod : h = k.hdrlen (frameControl k skb) % 256 := by
    rw [← hh, txParams_hdrLen, BitVec.toNat_ofNat]
  have hpkt : (txParams k dev info skb).pktLen.toNat = skb.len := by
    rw [txParams_pktLen, BitVec.toNat_ofNat, Nat.mod_eq_of_lt (by omega)]
  have hfit : 32 + padOf h + skb.len ≤ 65535 := by
    unfold padOf
    omega
  obtain ⟨rate, hrate⟩ := txParams_rate k dev info skb
  unfold preparePath
  generalize txParams k dev info skb = p at *
  subst hh
  split
  · rename_i hn
    refine rg_bind (rg_freeSkb hw (by simp) (fun hh => absurd (hrun hh) hn) fun w₁ h₁ => ?_)
    exact rg_ret held_stable h₁ fun _ h₂ => h₂
  · dsimp only
    rw [rustCall_buildTxwi hrate (by omega) (by omega)]
    dsimp only
    refine rg_bind (rg_mono (rg_framePath hw (by omega) hpkt hfit) fun r w₁ hr => ?_)
    match r, hr with
    | none, ⟨_, h₁⟩ => exact rg_ret held_stable h₁ fun _ h₂ => h₂
    | some (s₁, skb₁), ⟨hd₁, h₁⟩ =>
      refine rg_next h₁ fun w₂ (r : Option Nat) h₂ ⟨hok, hfresh⟩ => ?_
      cases r with
      | none =>
        refine ⟨guar_refl, rg_bind (rg_freeSkb h₂ (by simp) (fun hh => ?_) fun w₃ h₃ => ?_)⟩
        · cases hok hh
        · exact rg_ret held_stable h₃ fun _ h₄ => h₄
      | some u =>
        obtain ⟨hG, h₃⟩ := held_allocUrb h₂ (hfresh u rfl)
        refine ⟨hG, rg_ret held_stable h₃ fun _ h₄ => ⟨?_, h₄⟩⟩
        rw [hdrPadLen_eq]
        obtain ⟨skb', hs', hf⟩ := stripFrame_txBuffer hd₁ (length_patchedTxd _ _ _) rfl hpkt
          (by rw [← SkBuff.len]; omega) h0
        exact ⟨skb', hs', hf.trans hd⟩

/-- **A call of `mt7603_mac80211_tx`** ends owning nothing. -/
theorem rg_txPath {k : Kernel} {info : TxInfo} {s : Nat} {skb : SkBuff U8}
    (hw : Held healthy t f d [s] [] w) (hd : skb.data = d) (hk : Sendable k skb) :
    TxRg healthy t (txPath k info s skb) w fun _ => Held healthy t f d [] [] := by
  refine rg_next hw fun w₁ (dev : Dev) h₁ hdev => ⟨guar_refl, ?_⟩
  have hrun : healthy → dev.running = true := fun hh => Eq.trans hdev (h₁.good.running hh)
  refine rg_bind (rg_mono (rg_preparePath h₁ hd hk hrun) fun r w₂ hr => ?_)
  match r, hr with
  | none, h₂ => exact rg_ret held_stable h₂ fun _ h₃ => h₃
  | some (s, u, tr), ⟨htr, h₂⟩ =>
    refine rg_next h₂ fun w₃ _ h₃ _ => ?_
    obtain ⟨hG₃, h₃⟩ := held_anchorUrb (r := ()) h₃
    refine ⟨hG₃, rg_next h₃ fun w₄ (ret : Int) h₄ hret => ?_⟩
    by_cases hneg : ret < 0
    · have hsick : ¬healthy := fun hh => absurd (hret hh) (by omega)
      have hstep : txStep t w₄ (.submitUrb u s tr info) ret = w₄ := by
        change (if ret < 0 then w₄.mustOwn (w₄.ownsUrb t u && w₄.ownsSkb t s) else _) = _
        rw [if_pos hneg, h₄.ownsUrb (x := anchoredUrb t) rfl (by simp), h₄.ownsSkb (by simp)]
        exact mustOwn_true w₄
      rw [hstep]
      refine ⟨guar_refl, ?_⟩
      rw [if_pos hneg]
      refine rg_next h₄ fun w₅ _ h₅ _ => ?_
      obtain ⟨hG₅, h₅⟩ := held_unanchorUrb (r := ()) h₅
      refine ⟨hG₅, rg_next h₅ fun w₆ _ h₆ _ => ?_⟩
      obtain ⟨hG₆, h₆⟩ := held_freeUrb (r := ()) h₆ rfl rfl
      exact ⟨hG₆, rg_freeSkb h₆ (by simp) (fun hh => absurd hh hsick) fun _ h => h⟩
    · obtain ⟨hG, h₅⟩ := held_submitUrb h₄ (Int.not_lt.1 hneg) htr
      refine ⟨hG, ?_⟩
      rw [if_neg hneg]
      -- the log line touches nothing, and looks at a buffer that has been there
      have hs : w₄.named s = true := named_skb (h₄.mem (by simp))
      refine rg_op (I := fun w => Held healthy t f d [] [] w ∧ w.named s = true) ?_
        ⟨h₅, hG.named s hs⟩ ?_
      · exact fun w w' hR h => ⟨held_stable w w' hR h.1, hR.named s h.2⟩
      rintro w₆ r _ ⟨h₆, hs₆⟩ ⟨-, rfl⟩
      have hlog : Held healthy t f d [] [] (txStep t w₆ (.logLen s) r) := by
        refine ⟨⟨?_, h₆.good.running, h₆.good.flight, h₆.good.coreSkb, h₆.good.coreUrb,
          h₆.good.together, h₆.good.known, h₆.good.reported, h₆.good.once, h₆.good.gone,
          h₆.good.ledger⟩, h₆.skb, h₆.urb, h₆.data⟩
        rw [txStep, hs₆, h₆.good.sound]
        rfl
      exact ⟨⟨fun _ _ => ⟨fun _ _ => Iff.rfl, fun _ _ _ => Iff.rfl⟩, List.prefix_rfl, fun _ => id,
        fun _ => hlog.good⟩, rg_ret held_stable hlog fun _ h => h⟩

/-- **A completion** ends owning nothing. -/
theorem rg_completePath {k : Kernel} {u s : Nat} {info : TxInfo} {status : Int} {tr : Transfer}
    (hw : Held healthy t f d [s] [(u, ⟨2, false, .call t, none⟩)] w) (htr : Restores tr d) :
    TxRg healthy t (completePath k u s info status tr.skb tr.metaWord) w
      fun _ => Held healthy t f d [] [] := by
  refine rg_next hw fun w₁ (dev : Dev) h₁ hdev => ⟨guar_refl, ?_⟩
  obtain ⟨skb, outcome, hc, hd, hfreed⟩ := txComplete_of_restores k dev info status htr
  rw [hc]
  -- the frame is reported or freed, and then the references of handler and core are dropped
  have hsettle : TxRg healthy t (settle s skb outcome) w₁
      fun _ => Held healthy t f d [] [(u, ⟨2, false, .call t, none⟩)] := by
    cases outcome with
    | status ack =>
      refine rg_tx h₁ fun w₂ _ h₂ _ => ?_
      rw [hd]
      obtain ⟨hG, h₃⟩ := held_txStatus (r := ()) h₂
      exact ⟨hG, rg_ret held_stable h₃ fun _ h => h⟩
    | freed =>
      refine rg_freeSkb h₁ (by simp) (fun hh => .inl ?_) fun _ h => h
      rcases hfreed rfl with hr | hb
      · have hrun : dev.running = true := Eq.trans hdev (h₁.good.running hh)
        rw [hrun] at hr
        cases hr
      · exact hb
  refine rg_bind (rg_mono hsettle fun _ w₂ h₂ => ?_)
  refine rg_next h₂ fun w₃ _ h₃ _ => ?_
  obtain ⟨hG₃, h₃⟩ := held_freeUrb (r := ()) h₃ rfl rfl
  refine ⟨hG₃, rg_tx h₃ fun w₄ _ h₄ _ => ?_⟩
  obtain ⟨hG₄, h₄⟩ := held_freeUrb (r := ()) h₄ rfl rfl
  exact ⟨hG₄, rg_ret held_stable h₄ fun _ h => h⟩

end

/-! ## Whole runs -/

/-- The call `t` owns nothing. -/
structure OwnsNothing (t : Nat) (w : TxWorld) : Prop where
  skb : ∀ s f, w.skb s ≠ some ⟨f, .call t⟩
  urb : ∀ u x, w.urb u = some x → x.owner ≠ .call t

/-- What holds between the steps of a run. -/
structure TxSys.Inv (healthy : Prop) (σ : TxSys) : Prop where
  good : σ.world.Good healthy
  calls : Guarded (txEnv healthy) (Rely healthy) (Guar healthy) OwnsNothing σ.calls σ.world
  idle : ∀ t, σ.calls t = none → OwnsNothing t σ.world

section
variable {healthy : Prop} {k : Kernel} {t f : Nat} {d : List U8} {w w' : TxWorld} {σ τ : TxSys}

theorem ownsNothing_of_held (h : Held healthy t f d [] [] w) : OwnsNothing t w where
  skb s g hs := by cases ((h.skb s g).1 hs).1
  urb u x hu hx := by cases (h.urb u x hx).1 hu

theorem OwnsNothing.keeps (h : OwnsNothing t w) (hk : Keeps t w w') : OwnsNothing t w' where
  skb s g hs := h.skb s g ((hk.skb s g).1 hs)
  urb u x hu hx := h.urb u x ((hk.urb u x hx).1 hu) hx

/-- A call starts with the buffers and the URB it is given. -/
theorem held_start {s : Nat} {us : List (Nat × TxUrb)} (hg : w'.Good healthy)
    (hno : OwnsNothing t w) (hs : w'.skb s = some ⟨f, .call t⟩)
    (hskb : ∀ v ≠ s, w'.skb v = w.skb v)
    (hurb : ∀ u x, x.owner = .call t → (w'.urb u = some x ↔ (u, x) ∈ us))
    (hd : w'.frames[f]? = some d) : Held healthy t f d [s] us w' where
  good := hg
  skb v g := by
    by_cases hv : v = s
    · subst hv
      rw [hs]
      simp [eq_comm]
    · rw [hskb v hv]
      simp [hv, hno.skb v g]
  urb := hurb
  data := hd

/-! A frame is handed over. -/

theorem frames_handed {s g : Nat} {data : List U8} (h : (w.handed t s d).frames[g]? = some data) :
    w.frames[g]? = some data ∨ (g = w.frames.length ∧ data = d) := by
  change (w.frames ++ [d])[g]? = some data at h
  rcases Nat.lt_or_ge g w.frames.length with hlt | hge
  · rw [List.getElem?_append_left hlt] at h
    exact .inl h
  · rw [List.getElem?_append_right hge] at h
    obtain ⟨hlt, hx⟩ := List.getElem?_eq_some_iff.1 h
    simp only [List.length_singleton] at hlt
    have hg : g = w.frames.length := by omega
    subst hg
    simp only [Nat.sub_self, List.getElem_cons_zero] at hx
    exact .inr ⟨rfl, hx.symm⟩

theorem good_handed {s : Nat} (hg : w.Good healthy) (hs : w.skb s = none) :
    (w.handed t s d).Good healthy := by
  have hpre : w.frames <+: (w.handed t s d).frames := List.prefix_append ..
  have hold : ∀ {v y}, (w.handed t s d).skb v = some y →
      (v = s ∧ y = ⟨w.frames.length, .call t⟩) ∨ (v ≠ s ∧ w.skb v = some y) := by
    intro v y hv
    rcases setSkb_cases hv with ⟨rfl, h⟩ | h
    · exact .inl ⟨rfl, (Option.some.inj h).symm⟩
    · exact .inr h
  refine {
    sound := hg.sound
    running := hg.running
    flight := fun u x fl hu hx => ?_
    coreSkb := fun v g u hv => ?_
    coreUrb := hg.coreUrb
    together := fun v v' y y' hv hv' hf => ?_
    known := fun v y hv => ?_
    reported := fun r hr => frames_stay hpre (hg.reported r hr)
    once := hg.once
    gone := fun r hr v y hv => ?_
    ledger := fun hh g data hdata hb => ?_ }
  · obtain ⟨ho, ha, hr, g, data, hskb, hdata, hrest⟩ := hg.flight u x fl hu hx
    have hne : fl.s ≠ s := by
      rintro rfl
      rw [hs] at hskb
      cases hskb
    exact ⟨ho, ha, hr, g, data, (setSkb_ne hne).trans hskb, frames_stay hpre hdata, hrest⟩
  · rcases hold hv with ⟨-, h⟩ | ⟨-, h⟩
    · cases h
    · exact hg.coreSkb v g u h
  · rcases hold hv with ⟨-, h⟩ | ⟨-, h⟩ <;> rcases hold hv' with ⟨-, h'⟩ | ⟨-, h'⟩
    · rw [h, h']
    · have := hg.known v' y' h'
      rw [h] at hf
      dsimp only at hf
      omega
    · have := hg.known v y h
      rw [h'] at hf
      dsimp only at hf
      omega
    · exact hg.together v v' y y' h h' hf
  · have hlen : (w.handed t s d).frames.length = w.frames.length + 1 := List.length_append ..
    rw [hlen]
    rcases hold hv with ⟨-, h⟩ | ⟨-, h⟩
    · rw [h]
      exact Nat.lt_succ_self _
    · exact Nat.lt_succ_of_lt (hg.known v y h)
  · rcases hold hv with ⟨-, h⟩ | ⟨-, h⟩
    · have := (List.getElem?_eq_some_iff.1 (hg.reported r hr)).1
      rw [h]
      exact fun hc => absurd hc (by dsimp only; omega)
    · exact hg.gone r hr v y h
  · rcases frames_handed hdata with hdata | ⟨rfl, -⟩
    · rcases hg.ledger hh g data hdata hb with ⟨v, o, hv⟩ | hr
      · have hne : v ≠ s := by
          rintro rfl
          rw [hs] at hv
          cases hv
        exact .inl ⟨v, o, (setSkb_ne hne).trans hv⟩
      · exact .inr hr
    · exact .inl ⟨s, .call t, setSkb_at⟩

theorem inv_tx {s : Nat} {skb : SkBuff U8} {info : TxInfo} (h : σ.Inv healthy)
    (ht : σ.calls t = none) (hs : σ.world.named s = false) (hk : Sendable k skb) :
    TxSys.Inv healthy
      ⟨σ.calls.put t (some (txPath k info s skb)), σ.world.handed t s skb.data⟩ := by
  have hs := skb_of_new hs
  have hgood : (σ.world.handed t s skb.data).Good healthy := good_handed h.good hs
  have hno := h.idle t ht
  have hheld : Held healthy t σ.world.frames.length skb.data [s] []
      (σ.world.handed t s skb.data) := by
    refine held_start hgood hno setSkb_at (fun v hv => setSkb_ne hv) (fun u x hx => ?_) ?_
    · exact ⟨fun hu => absurd hx (hno.urb u x hu), fun hc => by cases hc⟩
    · change (σ.world.frames ++ [skb.data])[σ.world.frames.length]? = _
      simp
  have hkeeps : ∀ j ≠ t, Keeps j σ.world (σ.world.handed t s skb.data) := by
    intro j hj
    have hk : Keeps j σ.world (σ.world.setSkb s (some ⟨σ.world.frames.length, .call t⟩)) :=
      keeps_setSkb (fun y hy => by rw [hs] at hy; cases hy)
        fun y hy => by cases hy; exact call_ne hj rfl
    exact ⟨hk.skb, hk.urb⟩
  refine ⟨hgood, h.calls.spawn (fun j hj => ?_) ?_, fun j hj => ?_⟩
  · exact ⟨hkeeps j hj, List.prefix_append .., fun _ => named_setSkb, fun _ => hgood⟩
  · exact rg_mono (rg_txPath hheld rfl hk) fun _ _ => ownsNothing_of_held
  · obtain ⟨hne, hj⟩ := Pool.put_eq_none hj
    exact (h.idle j hj).keeps (hkeeps j hne)

/-! An URB is given back. -/

/-- The memory with the URB and its buffer in the hands of the call `t`. -/
theorem givenBack_eq {u : Nat} {x : TxUrb} {fl : Flight} {g : Nat} (ha : x.anchored = true)
    (hr : x.refs = 3) (hs : w.skb fl.s = some ⟨g, .core u⟩) :
    w.givenBack t u x fl = (w.setUrb u (some ⟨2, false, .call t, none⟩)).setSkb fl.s
      (some ⟨g, .call t⟩) := by
  have hdrop : ({ x with owner := .call t, flight := none } : TxUrb).unanchor =
      some ⟨2, false, .call t, none⟩ := by
    simp [TxUrb.unanchor, TxUrb.drop, ha, hr]
  rw [TxWorld.givenBack, hdrop, hs]
  rfl

theorem good_givenBack {u g : Nat} {x : TxUrb} {fl : Flight} (hg : w.Good healthy)
    (hu : w.urb u = some x) (hx : x.flight = some fl) (hs : w.skb fl.s = some ⟨g, .core u⟩) :
    ((w.setUrb u (some ⟨2, false, .call t, none⟩)).setSkb fl.s
      (some ⟨g, .call t⟩)).Good healthy := by
  -- no other buffer belongs to this URB
  have hother : ∀ v g', w.skb v = some ⟨g', .core u⟩ → v = fl.s := by
    intro v g' hv
    obtain ⟨y, fl', hy, hfl', rfl⟩ := hg.coreSkb v g' u hv
    rw [hu] at hy
    cases hy
    rw [hx] at hfl'
    cases hfl'
    rfl
  have hcopy : ∀ v y, v ≠ fl.s → w.skb v = some y → y.frame ≠ g := by
    rintro v ⟨g', o⟩ hne hv rfl
    obtain rfl : o = .core u := hg.together v fl.s _ _ hv hs rfl
    exact hne (hother v _ hv)
  refine {
    sound := hg.sound
    running := hg.running
    flight := fun v y fl' hv hy => ?_
    coreSkb := fun v g' c hv => ?_
    coreUrb := fun v y c hv hc => ?_
    together := fun v v' y y' hv hv' hf => ?_
    known := fun v y hv => ?_
    reported := hg.reported
    once := hg.once
    gone := fun r hr v y hv => ?_
    ledger := fun hh g' data hdata hb => ?_ }
  · rcases setUrb_cases hv with ⟨-, h⟩ | ⟨hne, h⟩
    · cases h
      cases hy
    · obtain ⟨ho, ha, hr, g', data, hskb, hrest⟩ := hg.flight v y fl' h hy
      have hne' : fl'.s ≠ fl.s := by
        intro he
        rw [he, hs] at hskb
        cases hskb
        exact hne rfl
      exact ⟨ho, ha, hr, g', data, (setSkb_ne hne').trans hskb, hrest⟩
  · rcases setSkb_cases hv with ⟨-, h⟩ | ⟨hne, h⟩
    · cases h
    · have hcu : c ≠ u := by
        rintro rfl
        exact hne (hother v g' h)
      obtain ⟨y, fl', hy, hfl', hfs⟩ := hg.coreSkb v g' c h
      exact ⟨y, fl', (setUrb_ne hcu).trans hy, hfl', hfs⟩
  · rcases setUrb_cases hv with ⟨-, h⟩ | ⟨-, h⟩
    · cases h
      cases hc
    · exact hg.coreUrb v y c h hc
  · rcases setSkb_cases hv with ⟨-, h⟩ | ⟨hne, h⟩ <;>
      rcases setSkb_cases hv' with ⟨-, h'⟩ | ⟨hne', h'⟩
    · cases h
      cases h'
      rfl
    · cases h
      exact absurd hf.symm (hcopy v' y' hne' h')
    · cases h'
      exact absurd hf (hcopy v y hne h)
    · exact hg.together v v' y y' h h' hf
  · rcases setSkb_cases hv with ⟨-, h⟩ | ⟨-, h⟩
    · cases h
      exact hg.known fl.s ⟨g, .core u⟩ hs
    · exact hg.known v y h
  · rcases setSkb_cases hv with ⟨-, h⟩ | ⟨-, h⟩
    · cases h
      exact hg.gone r hr fl.s ⟨g, .core u⟩ hs
    · exact hg.gone r hr v y h
  · rcases hg.ledger hh g' data hdata hb with ⟨v, o, hv⟩ | hr
    · by_cases hvs : v = fl.s
      · subst hvs
        rw [hs] at hv
        cases hv
        exact .inl ⟨fl.s, _, setSkb_at⟩
      · exact .inl ⟨v, o, (setSkb_ne hvs).trans hv⟩
    · exact .inr hr

theorem inv_complete {u : Nat} {x : TxUrb} {fl : Flight} {status : Int} (h : σ.Inv healthy)
    (ht : σ.calls t = none) (hu : σ.world.urb u = some x) (hx : x.flight = some fl) :
    TxSys.Inv healthy
      ⟨σ.calls.put t (some (completePath k u fl.s fl.info status fl.t.skb fl.t.metaWord)),
        σ.world.givenBack t u x fl⟩ := by
  obtain ⟨ho, ha, hr, g, data, hs, hdata, hrest⟩ := h.good.flight u x fl hu hx
  have hno := h.idle t ht
  rw [givenBack_eq ha hr hs]
  have hgood := good_givenBack (t := t) h.good hu hx hs
  have hheld : Held healthy t g data [fl.s] [(u, ⟨2, false, .call t, none⟩)]
      ((σ.world.setUrb u (some ⟨2, false, .call t, none⟩)).setSkb fl.s (some ⟨g, .call t⟩)) := by
    refine held_start hgood hno setSkb_at (fun v hv => setSkb_ne hv) (fun v y hy => ?_) hdata
    change (σ.world.setUrb u _).urb v = some y ↔ _
    by_cases hv : v = u
    · rw [hv, setUrb_at]
      simp [eq_comm]
    · rw [setUrb_ne hv]
      simp only [List.mem_singleton, Prod.mk.injEq, hv, false_and, iff_false]
      exact fun hc => hno.urb v y hc hy
  have hkeeps : ∀ j ≠ t, Keeps j σ.world
      ((σ.world.setUrb u (some ⟨2, false, .call t, none⟩)).setSkb fl.s (some ⟨g, .call t⟩)) := by
    intro j hj
    refine (keeps_setUrb (fun y hy => ?_) fun y hy => ?_).trans
      (keeps_setSkb (fun y hy => ?_) fun y hy => ?_)
    · rw [hu] at hy
      cases hy
      rw [ho]
      exact fun hc => by cases hc
    · cases hy
      exact call_ne hj rfl
    · have hy : σ.world.skb fl.s = some y := hy
      rw [hs] at hy
      cases hy
      exact fun hc => by cases hc
    · cases hy
      exact call_ne hj rfl
  refine ⟨hgood, h.calls.spawn (fun j hj => ?_) ?_, fun j hj => ?_⟩
  · exact ⟨hkeeps j hj, List.prefix_rfl, fun _ => named_setSkb, fun _ => hgood⟩
  · exact rg_mono (rg_completePath hheld hrest) fun _ _ => ownsNothing_of_held
  · obtain ⟨hne, hj⟩ := Pool.put_eq_none hj
    exact (h.idle j hj).keeps (hkeeps j hne)

/-- **One step** keeps the invariant. -/
theorem tx_inv_step (hs : TxSys.Step healthy k σ τ) (h : σ.Inv healthy) : τ.Inv healthy := by
  cases hs with
  | tx ht hs hskb => exact inv_tx h ht hs hskb
  | complete ht hu hx => exact inv_complete h ht hu hx
  | request ht hD =>
    obtain ⟨hG, hcalls⟩ := h.calls.request (fun j hj _ _ hg => guar_rely hj hg) ht hD
    refine ⟨hG.good h.good, hcalls, fun j hj => ?_⟩
    obtain ⟨hne, hj⟩ := Pool.put_eq_none hj
    exact (h.idle j hj).keeps (hG.keeps j hne)
  | @finish t ht =>
    obtain ⟨hno, hcalls⟩ := h.calls.finish ht
    refine ⟨h.good, hcalls, fun j hj => ?_⟩
    by_cases hjt : j = t
    · exact hjt ▸ hno
    · refine h.idle j ?_
      have hj : Function.update σ.calls t none j = none := hj
      rwa [Function.update_of_ne hjt] at hj
  | @running on hon =>
    have hgood : TxWorld.Good healthy { σ.world with running := on } :=
      ⟨h.good.sound, hon, h.good.flight, h.good.coreSkb, h.good.coreUrb, h.good.together,
        h.good.known, h.good.reported, h.good.once, h.good.gone, h.good.ledger⟩
    refine ⟨hgood, h.calls.background fun j => ?_, fun j hj => ?_⟩
    · exact ⟨⟨fun _ _ => Iff.rfl, fun _ _ _ => Iff.rfl⟩, List.prefix_rfl, fun _ => id,
        fun _ => hgood⟩
    · exact ⟨(h.idle j hj).skb, (h.idle j hj).urb⟩

theorem good_started : TxWorld.started.Good healthy where
  sound := rfl
  running _ := rfl
  flight _ _ _ h := by cases h
  coreSkb _ _ _ h := by cases h
  coreUrb _ _ _ h := by cases h
  together _ _ _ _ h := by cases h
  known _ _ h := by cases h
  reported _ h := by cases h
  once := List.nodup_nil
  gone _ h := by cases h
  ledger _ _ _ h := by cases h

theorem tx_inv_run (hr : ReflTransGen (TxSys.Step healthy k) .started σ) : σ.Inv healthy := by
  induction hr with
  | refl =>
    refine ⟨good_started, fun _ _ h => ?_, fun _ _ => ⟨fun _ _ h => ?_, fun _ _ h => ?_⟩⟩
    · cases h
    · cases h
    · cases h
  | tail _ hs ih => exact tx_inv_step hs ih

/-- No call is in progress and no URB is in flight. -/
def TxSys.Quiet (σ : TxSys) : Prop :=
  (∀ t, σ.calls t = none) ∧ ∀ u x, σ.world.urb u = some x → x.flight = none

/-- The buffer `s` is that of an URB in flight. -/
def TxSys.Flies (σ : TxSys) (s : Nat) : Prop :=
  ∃ u x fl, σ.world.urb u = some x ∧ x.flight = some fl ∧ fl.s = s

/-- What is allocated belongs to a call in progress or to an URB in flight. -/
theorem skb_owned (h : σ.Inv healthy) {s : Nat} {x : TxSkb} (hs : σ.world.skb s = some x) :
    (∃ t, x.owner = .call t ∧ σ.calls t ≠ none) ∨ σ.Flies s := by
  obtain ⟨f, o⟩ := x
  cases o with
  | call t => exact .inl ⟨t, rfl, fun hc => (h.idle t hc).skb s f hs⟩
  | core u => exact .inr ⟨u, h.good.coreSkb s f u hs⟩

theorem urb_owned (h : σ.Inv healthy) {u : Nat} {x : TxUrb} (hu : σ.world.urb u = some x) :
    (∃ t, x.owner = .call t ∧ σ.calls t ≠ none) ∨ x.flight.isSome := by
  rcases hx : x.owner with t | v
  · exact .inl ⟨t, rfl, fun hc => (h.idle t hc).urb u x hu hx⟩
  · obtain ⟨fl, hfl⟩ := h.good.coreUrb u x v hu hx
    exact .inr (by rw [hfl]; rfl)

/-- **The log line**: the buffer it looks at was allocated, and is gone exactly if it is neither in
flight nor with a call. -/
theorem log_stale_iff (h : σ.Inv healthy) {s : Nat} {rest : Unit → TP Unit}
    (ht : σ.calls t = some (.op (.logLen s) rest)) :
    σ.world.named s = true ∧ ((txStep t σ.world (.logLen s) ()).staleLog = true ↔
      σ.world.staleLog = true ∨
        ¬(σ.Flies s ∨ ∃ t' f, σ.world.skb s = some ⟨f, .call t'⟩ ∧ σ.calls t' ≠ none)) := by
  have hgood := (h.calls.request (fun j hj _ _ hg => guar_rely hj hg) ht
    (r := ()) ⟨trivial, rfl⟩).1.good h.good
  have hsound : (σ.world.broken || !σ.world.named s) = false := hgood.sound
  have halive : σ.world.skb s = none ↔
      ¬(σ.Flies s ∨ ∃ t' f, σ.world.skb s = some ⟨f, .call t'⟩ ∧ σ.calls t' ≠ none) := by
    constructor
    · rintro hs (⟨u, x, fl, hu, hfl, rfl⟩ | ⟨t', f, hf, -⟩)
      · obtain ⟨-, -, -, f, -, hf, -⟩ := h.good.flight u x fl hu hfl
        cases hs.symm.trans hf
      · cases hs.symm.trans hf
    · intro hn
      by_contra hs
      obtain ⟨⟨f, o⟩, hx⟩ := Option.ne_none_iff_exists'.1 hs
      rcases skb_owned h hx with ⟨t', rfl, ht'⟩ | hfly
      · exact hn (.inr ⟨t', f, hx, ht'⟩)
      · exact hn (.inl hfly)
  refine ⟨by simpa using (Bool.or_eq_false_iff.1 hsound).2, ?_⟩
  rw [← halive, ← Option.isNone_iff_eq_none, ← Bool.or_eq_true]
  rfl

/-- **No buffer and no URB of the transmission path is misused or leaked, but for one read**,
whatever calls and completions run at the same time and whichever allocations and submissions fail.
What is allocated belongs to a call in progress or to an URB in flight, every URB in flight is on
the anchor and has its buffer, and when all is quiet nothing is left. The read is that of the log
line behind a successful submission: it looks at a buffer that has been freed exactly if the URB has
completed and the call of its completion has let go of the buffer. -/
theorem tx_safe (hr : ReflTransGen (TxSys.Step healthy k) .started σ) :
    σ.world.broken = false ∧
      (∀ s x, σ.world.skb s = some x →
        (∃ t, x.owner = .call t ∧ σ.calls t ≠ none) ∨ σ.Flies s) ∧
      (∀ u x, σ.world.urb u = some x →
        (∃ t, x.owner = .call t ∧ σ.calls t ≠ none) ∨ x.flight.isSome) ∧
      (∀ u x fl, σ.world.urb u = some x → x.flight = some fl →
        x.anchored = true ∧ ∃ f, σ.world.skb fl.s = some ⟨f, .core u⟩) ∧
      (σ.Quiet → ∀ n, σ.world.skb n = none ∧ σ.world.urb n = none) ∧
      ∀ t s rest, σ.calls t = some (.op (.logLen s) rest) → σ.world.named s = true ∧
        ((txStep t σ.world (.logLen s) ()).staleLog = true ↔ σ.world.staleLog = true ∨
          ¬(σ.Flies s ∨ ∃ t' f, σ.world.skb s = some ⟨f, .call t'⟩ ∧ σ.calls t' ≠ none)) := by
  have h := tx_inv_run hr
  refine ⟨h.good.sound, fun s x hs => skb_owned h hs, fun u x hu => urb_owned h hu,
    fun u x fl hu hfl => ?_, fun ⟨hcalls, hfly⟩ n => ⟨?_, ?_⟩,
    fun t s rest ht => log_stale_iff h ht⟩
  · obtain ⟨-, ha, -, f, -, hf, -⟩ := h.good.flight u x fl hu hfl
    exact ⟨ha, f, hf⟩
  · refine Option.eq_none_iff_forall_ne_some.2 fun x hx => ?_
    rcases skb_owned h hx with ⟨t, -, ht⟩ | ⟨u, y, fl, hy, hfl, -⟩
    · exact ht (hcalls t)
    · rw [hfly u y hy] at hfl
      cases hfl
  · refine Option.eq_none_iff_forall_ne_some.2 fun x hx => ?_
    rcases urb_owned h hx with ⟨t, -, ht⟩ | hfl
    · exact ht (hcalls t)
    · rw [hfly n x hx] at hfl
      cases hfl

/-- **Reports**: a frame is reported at most once, with the bytes that were handed over, and its
buffer is gone by then. -/
theorem tx_reports (hr : ReflTransGen (TxSys.Step healthy k) .started σ) :
    (σ.world.reports.map (·.frame)).Nodup ∧ ∀ r ∈ σ.world.reports,
      σ.world.frames[r.frame]? = some r.data ∧
        ∀ s x, σ.world.skb s = some x → x.frame ≠ r.frame := by
  have h := tx_inv_run hr
  exact ⟨h.good.once, fun r hm => ⟨h.good.reported r hm, h.good.gone r hm⟩⟩

/-- **No status is lost while all goes well**: once all is quiet, every frame that is not a beacon
has been reported. -/
theorem tx_all_reported (hr : ReflTransGen (TxSys.Step True k) .started σ) (hq : σ.Quiet) {n : Nat}
    {data : List U8} (hd : σ.world.frames[n]? = some data) (hb : beaconData data = false) :
    ∃ r ∈ σ.world.reports, r.frame = n := by
  have h := tx_inv_run hr
  rcases h.good.ledger trivial n data hd hb with ⟨s, o, hs⟩ | hrep
  · cases o with
    | call t => exact absurd hs ((h.idle t (hq.1 t)).skb s n)
    | core u =>
      obtain ⟨y, fl, hy, hfl, -⟩ := h.good.coreSkb s n u hs
      rw [hq.2 u y hy] at hfl
      cases hfl
  · exact hrep

end

/-! ## A run

A QoS data frame is handed over in a buffer with room to spare, goes out, completes and is
reported. -/

/-- A call that goes on alone. -/
theorem call_gets {healthy : Prop} {k : Kernel} {t : Nat} {calls : Pool txSig Nat}
    {p p' : TP Unit} {w w' : TxWorld} (h : Gets (txEnv healthy t) p' w' p w) :
    ReflTransGen (TxSys.Step healthy k) ⟨calls.put t (some p), w⟩ ⟨calls.put t (some p'), w'⟩ := by
  induction h with
  | here => exact .refl
  | @step e rest w w₁ r hD _ ih =>
    have hs : TxSys.Step healthy k ⟨calls.put t (some (.op e rest)), w⟩ _ :=
      .request (Function.update_self ..) hD
    simp only [Pool.put, Function.update_idem] at hs
    exact .head hs ih

/-- A call that runs alone to its end. -/
theorem call_runs {healthy : Prop} {k : Kernel} {t : Nat} {calls : Pool txSig Nat} {p : TP Unit}
    {w w' : TxWorld} (h : Runs (txEnv healthy t) p w () w') :
    ReflTransGen (TxSys.Step healthy k) ⟨calls.put t (some p), w⟩ ⟨calls.put t none, w'⟩ := by
  have hs : TxSys.Step healthy k ⟨calls.put t (some (.ret ())), w'⟩ _ :=
    .finish (t := t) (Function.update_self ..)
  simp only [Pool.put, Function.update_idem] at hs
  exact (call_gets (gets_ret h)).tail hs

def roomyFrame : SkBuff U8 := ⟨List.replicate 32 0, sampleQosData.data, List.replicate 16 0⟩

def roomyTransfer : Transfer :=
  (result (mac80211Tx sampleKernel sampleDev sampleTxInfo roomyFrame)).getD ⟨0, roomyFrame, 0⟩

theorem roomy_restores : Restores roomyTransfer roomyFrame.data :=
  ⟨(stripFrame roomyTransfer.skb roomyTransfer.metaWord).toOption.getD roomyFrame,
    by decide +kernel, by decide +kernel⟩

/-- Whether a program ends at once with the value. -/
def endsWith {α : Type} [DecidableEq α] (a : α) : TP α → Bool
  | .ret b => b = a
  | .op _ _ => false

theorem eq_of_endsWith {α : Type} [DecidableEq α] {a : α} {p : TP α} (h : endsWith a p = true) :
    p = .ret a := by
  cases p with
  | ret b => rw [of_decide_eq_true h]
  | op e k => cases h

/-- Nothing has to be copied. -/
theorem roomy_framePath :
    let p := txParams sampleKernel sampleDev sampleTxInfo roomyFrame
    ∃ txwi, rustCall (buildTxwi p) 32 = .ok txwi ∧
      framePath p (frameControl sampleKernel roomyFrame)
        (if p.frmType = 2 then requestStatus txwi else txwi) 0 roomyFrame =
          .ret (some (0, roomyTransfer.skb)) :=
  ⟨(rustCall (buildTxwi (txParams sampleKernel sampleDev sampleTxInfo roomyFrame)) 32).toOption.getD
    [], by decide +kernel, eq_of_endsWith (by decide +kernel)⟩

theorem roomy_preparePath {w : TxWorld} (hu : w.urb 0 = none) :
    Runs (txEnv True 0) (preparePath sampleKernel sampleDev sampleTxInfo 0 roomyFrame) w
      (some (0, 0, roomyTransfer)) (txStep 0 w .allocUrb (some (0 : Nat))) := by
  obtain ⟨txwi, htxwi, hframe⟩ := roomy_framePath
  have hep : roomyTransfer.ep = if isMgmt (frameControl sampleKernel roomyFrame) then
      MT7603_MGMT_BULK_OUT else MT7603_DATA_BULK_OUT := by decide +kernel
  have hmeta : roomyTransfer.metaWord = txMeta (txParams sampleKernel sampleDev sampleTxInfo
      roomyFrame) ((4 - ((txParams sampleKernel sampleDev sampleTxInfo roomyFrame).hdrLen.toNat &&&
        0x03)) &&& 0x03) := by decide +kernel
  unfold preparePath
  rw [if_neg (by decide)]
  dsimp only
  rw [htxwi]
  dsimp only
  rw [hframe]
  refine ⟨some (0 : Nat), _, ⟨⟨fun _ => rfl, fun u h => ?_⟩, rfl⟩, ?_, rfl⟩
  · cases h
    exact hu
  · rw [← hep, ← hmeta]

/-- The memory once the frame is out, before the log line. -/
def roomySubmitted (w : TxWorld) : TxWorld :=
  txStep 0 (txStep 0 (txStep 0 w .allocUrb (some (0 : Nat))) (.anchorUrb 0) ())
    (.submitUrb 0 0 roomyTransfer sampleTxInfo) (0 : Int)

/-- The call up to its log line. -/
theorem roomy_txPath {w : TxWorld} (hr : w.running = true) (hu : w.urb 0 = none) :
    Gets (txEnv True 0) (txLogLen 0) (roomySubmitted w)
      (txPath sampleKernel sampleTxInfo 0 roomyFrame) w := by
  refine .step (r := sampleDev) ⟨hr.symm, rfl⟩ ((gets_bind (roomy_preparePath hu)).trans ?_)
  refine .step (r := ()) ⟨trivial, rfl⟩ (.step (r := (0 : Int)) ⟨fun _ => Int.le_refl 0, rfl⟩ ?_)
  exact .here

/-- The memory after a completion by the call `t`. -/
def roomyReported (t : Nat) (w : TxWorld) (data : List U8) (ack : Bool) : TxWorld :=
  txStep t (txStep t (txStep t w (.txStatus 0 data ack) ()) (.freeUrb 0) ()) (.freeUrb 0) ()

theorem roomy_completePath (t : Nat) {w : TxWorld} (hr : w.running = true) :
    ∃ ack, Runs (txEnv True t) (completePath sampleKernel 0 0 sampleTxInfo 0 roomyTransfer.skb
      roomyTransfer.metaWord) w () (roomyReported t w roomyFrame.data ack) := by
  obtain ⟨skb, outcome, hc, hd, hfreed⟩ :=
    txComplete_of_restores sampleKernel sampleDev sampleTxInfo 0 roomy_restores
  cases outcome with
  | freed =>
    rcases hfreed rfl with h | h
    · cases h
    · exact absurd h (by decide)
  | status ack =>
    refine ⟨ack, (runs_bind _).2 ⟨sampleDev, w, ⟨sampleDev, w, ⟨hr.symm, rfl⟩, rfl, rfl⟩, ?_⟩⟩
    rw [hc, ← hd]
    exact ⟨(), _, ⟨trivial, rfl⟩, (), _, ⟨trivial, rfl⟩, (), _, ⟨trivial, rfl⟩, rfl, rfl⟩

theorem roomy_sendable : Sendable sampleKernel roomyFrame :=
  ⟨by decide, by decide, by decide, by decide⟩

/-- The memory once the frame has been handed over and is out. -/
def roomyOut : TxWorld := roomySubmitted (TxWorld.started.handed 0 0 roomyFrame.data)

/-- The frame is out, and the call has yet to log it. -/
theorem roomy_sent : ReflTransGen (TxSys.Step True sampleKernel) .started
    ⟨Pool.put (fun _ => none) 0 (some (txLogLen 0)), roomyOut⟩ := by
  have htx : TxSys.Step True sampleKernel .started
      ⟨Pool.put (fun _ => none) 0 (some (txPath sampleKernel sampleTxInfo 0 roomyFrame)),
        TxWorld.started.handed 0 0 roomyFrame.data⟩ := .tx rfl rfl roomy_sendable
  exact (ReflTransGen.single htx).trans (call_gets (roomy_txPath rfl rfl))

/-- The URB's completion, by the call 1, with the log line first or still to come. -/
theorem roomy_completed (calls : Pool txSig Nat) {w : TxWorld} (hcalls : calls 1 = none)
    (hr : w.running = true)
    (hu : w.urb 0 = some ⟨3, true, .core 0, some ⟨0, roomyTransfer, sampleTxInfo⟩⟩) :
    ∃ ack, ReflTransGen (TxSys.Step True sampleKernel) ⟨calls, w⟩
      ⟨calls.put 1 none, roomyReported 1 (w.givenBack 1 0
        ⟨3, true, .core 0, some ⟨0, roomyTransfer, sampleTxInfo⟩⟩
        ⟨0, roomyTransfer, sampleTxInfo⟩) roomyFrame.data ack⟩ := by
  obtain ⟨ack, hcomplete⟩ := roomy_completePath 1 (w := w.givenBack 1 0
    ⟨3, true, .core 0, some ⟨0, roomyTransfer, sampleTxInfo⟩⟩ ⟨0, roomyTransfer, sampleTxInfo⟩) hr
  exact ⟨ack, .head (.complete (t := 1) hcalls hu rfl) (call_runs hcomplete)⟩

/-- **The run**: handed over, sent, logged, completed, reported. -/
theorem roomy_run : ∃ σ, ReflTransGen (TxSys.Step True sampleKernel) .started σ ∧ σ.Quiet ∧
    σ.world.frames = [roomyFrame.data] ∧
    ∃ ack, σ.world.reports = [⟨0, roomyFrame.data, ack⟩] := by
  have hlog : ReflTransGen (TxSys.Step True sampleKernel) .started
      ⟨Pool.put (fun _ => none) 0 none, txStep 0 roomyOut (.logLen 0) ()⟩ :=
    roomy_sent.trans (call_runs ⟨(), _, ⟨trivial, rfl⟩, rfl, rfl⟩)
  obtain ⟨ack, hdone⟩ := roomy_completed (Pool.put (fun _ => none) 0 none)
    (w := txStep 0 roomyOut (.logLen 0) ()) rfl rfl rfl
  refine ⟨_, hlog.trans hdone, ⟨fun t => ?_, fun u x hu => ?_⟩, rfl, ack, rfl⟩
  · rcases t with _ | _ | t <;> rfl
  · cases u with
    | zero => cases hu
    | succ u => cases hu

/-- The frame goes out and nothing is left; but if the completion is done before the log line, that
line looks at a buffer that is gone. -/
theorem tx_safe_roomy :
    (∃ σ, ReflTransGen (TxSys.Step True sampleKernel) .started σ ∧
      σ.world.frames = [roomyFrame.data] ∧ σ.world.broken = false ∧
      ∀ n, σ.world.skb n = none ∧ σ.world.urb n = none) ∧
    ∃ σ, ReflTransGen (TxSys.Step True sampleKernel) .started σ ∧
      σ.calls 0 = some (txLogLen 0) ∧ σ.world.staleLog = false ∧ ¬σ.Flies 0 ∧
      (txStep 0 σ.world (.logLen 0) ()).staleLog = true := by
  obtain ⟨σ, hr, hq, hf, -⟩ := roomy_run
  obtain ⟨ack, hdone⟩ := roomy_completed
    (Pool.put (fun _ => none) 0 (some (txLogLen 0))) (w := roomyOut) rfl rfl rfl
  have hlate := roomy_sent.trans hdone
  refine ⟨⟨σ, hr, hf, (tx_safe hr).1, (tx_safe hr).2.2.2.2.1 hq⟩, _, hlate, rfl, rfl,
    fun hfly => ?_, rfl⟩
  have hiff := ((tx_safe hlate).2.2.2.2.2 0 0 _ rfl).2.1 rfl
  rcases hiff with h | h
  · cases h
  · exact h (.inl hfly)

/-- The frame is reported, once. -/
theorem tx_reports_roomy : ∃ σ, ReflTransGen (TxSys.Step True sampleKernel) .started σ ∧
    ∃ r ∈ σ.world.reports, σ.world.frames[r.frame]? = some r.data ∧ r.data = roomyFrame.data ∧
      (σ.world.reports.map (·.frame)).Nodup ∧
      ∀ s x, σ.world.skb s = some x → x.frame ≠ r.frame := by
  obtain ⟨σ, hr, -, -, ack, hrep⟩ := roomy_run
  have hm : ⟨0, roomyFrame.data, ack⟩ ∈ σ.world.reports := by
    rw [hrep]
    exact List.mem_singleton.2 rfl
  obtain ⟨honce, hall⟩ := tx_reports hr
  exact ⟨σ, hr, _, hm, (hall _ hm).1, rfl, honce, (hall _ hm).2⟩

theorem tx_all_reported_roomy : ∃ σ, ReflTransGen (TxSys.Step True sampleKernel) .started σ ∧
    ∃ r ∈ σ.world.reports, r.frame = 0 := by
  obtain ⟨σ, hr, hq, hf, -⟩ := roomy_run
  have hd : σ.world.frames[0]? = some roomyFrame.data := by
    rw [hf]
    rfl
  exact ⟨σ, hr, tx_all_reported hr hq hd (by decide)⟩

end Driver
