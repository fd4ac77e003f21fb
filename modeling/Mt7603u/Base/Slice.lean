import Mathlib.Data.List.Basic

/-!
# Slices: checked reads and an output buffer

What a program over slices can do besides computing: read an element (`get`), and write into a
caller's output buffer (`Out`). A computation ends with a value, an error code (`Fail.errno`), a
panic (an index out of a slice's range), undefined behaviour (a raw pointer out of range) or it
does not end (`Fail.diverge`).

`Out β α` is a computation that writes into a buffer of `β`s. The buffer survives a failure: what
was written before an error is still there.

* `overwrite off src buf`: `src` written over `buf` at `off`. Every write inside the buffer is one
  (`set_bind`, `fill_bind`, `copyFromSlice_bind`, `copyBytes_bind`).
* `sized n code x`: refuse a buffer shorter than `n`, else run `x` and return `n`.
* `Fills B img`: on every long enough buffer the computation `B` succeeds, writes exactly `img`
  in front and leaves the rest; `NoLeak`: the outcome and what is written do not depend on the
  buffer's old contents. `noLeak_of_fills`: the first gives the second; `noLeak_cleared`: so does
  clearing the front part before editing it (`Edits`).
* `Lays z pos x img`: in a stretch of `z`s from `pos` on, `x` writes `img`; writes at increasing
  positions compose (`lays_bind`) to what a cleared buffer holds in the end (`fills_cleared`).
* `Atomic B`: an error code means that the buffer is as it was. A builder that checks first and then
  only stores is (`atomic_sized`), since no store fails with a code (`Codeless`).
-/

namespace Slice

/-- How a computation can fail. -/
inductive Fail
  /-- An error code returned to the caller. -/
  | errno (code : Int)
  /-- A checked index or slice range that does not exist. -/
  | panic
  /-- A raw pointer access out of its object. -/
  | ub
  /-- A loop that did not end. -/
  | diverge
  deriving DecidableEq, Repr

/-- A computation over slices. -/
abbrev Rs := Except Fail

/-- `buf[i]`, a checked read. -/
def get {β : Type} (buf : List β) (i : Nat) : Rs β :=
  match buf[i]? with
  | some b => .ok b
  | none => .error .panic

/-- `*(buf + i)`, a raw read. -/
def load {β : Type} (buf : List β) (i : Nat) : Rs β :=
  match buf[i]? with
  | some b => .ok b
  | none => .error .ub

theorem get_of_lt {β : Type} {buf : List β} {i : Nat} (h : i < buf.length) :
    get buf i = .ok buf[i] := by
  simp [get, h]

theorem load_of_lt {β : Type} {buf : List β} {i : Nat} (h : i < buf.length) :
    load buf i = .ok buf[i] := by
  simp [load, h]

@[simp] theorem ok_bind {α γ : Type} (a : α) (f : α → Rs γ) : (Except.ok a >>= f : Rs γ) = f a :=
  rfl

@[simp] theorem error_bind {α γ : Type} (e : Fail) (f : α → Rs γ) :
    (Except.error e >>= f : Rs γ) = .error e := rfl

/-- A computation that ends well has done its first step. -/
theorem bind_ok {α γ : Type} {x : Rs α} {f : α → Rs γ} {c : γ} (h : (x >>= f) = .ok c) :
    ∃ a, x = .ok a ∧ f a = .ok c := by
  cases x with
  | error e => cases h
  | ok a => exact ⟨a, rfl, h⟩

/-! ## Overwriting -/

section
variable {β : Type}

/-- `src` written over `buf` at `off`. -/
def overwrite (off : Nat) (src buf : List β) : List β :=
  buf.take off ++ src ++ buf.drop (off + src.length)

theorem length_overwrite {off : Nat} {src buf : List β} (h : off + src.length ≤ buf.length) :
    (overwrite off src buf).length = buf.length := by
  simp only [overwrite, List.length_append, List.length_take, List.length_drop]
  omega

/-- A write inside the front part leaves the rest. -/
theorem overwrite_append {off : Nat} {src p t : List β} (h : off + src.length ≤ p.length) :
    overwrite off src (p ++ t) = overwrite off src p ++ t := by
  simp only [overwrite, List.append_assoc]
  rw [List.take_append_of_le_length (by omega), List.drop_append_of_le_length h]

/-- What lies behind a write is kept. -/
theorem drop_overwrite {off n : Nat} {src buf : List β} (hb : off ≤ buf.length)
    (h : off + src.length ≤ n) : (overwrite off src buf).drop n = buf.drop n := by
  have hlen : (buf.take off ++ src).length = off + src.length := by
    rw [List.length_append, List.length_take, Nat.min_eq_left hb]
  rw [overwrite, List.drop_append, List.drop_eq_nil_of_le (by omega), List.nil_append, hlen,
    List.drop_drop]
  congr 1
  omega

theorem overwrite_zero {src buf : List β} : overwrite 0 src buf = src ++ buf.drop src.length := by
  simp [overwrite]

theorem overwrite_nil {off : Nat} {buf : List β} : overwrite off [] buf = buf := by
  simp [overwrite]

/-- A write right behind a front part. -/
theorem overwrite_behind {off : Nat} {src p t : List β} (h : p.length = off) :
    overwrite off src (p ++ t) = p ++ src ++ t.drop src.length := by
  subst h
  simp [overwrite, List.drop_append]

theorem set_eq_overwrite {i : Nat} {v : β} {buf : List β} (h : i < buf.length) :
    buf.set i v = overwrite i [v] buf := by
  rw [List.set_eq_take_append_cons_drop, if_pos h]
  simp [overwrite]

end

/-! ## The output buffer -/

/-- A computation that writes into a buffer of `β`s. -/
def Out (β α : Type) : Type := List β → Rs α × List β

namespace Out

variable {β α γ : Type}

instance : Monad (Out β) where
  pure a := fun buf => (.ok a, buf)
  bind x f := fun buf =>
    match x buf with
    | (.ok a, buf') => f a buf'
    | (.error e, buf') => (.error e, buf')

/-- Stop with a failure. -/
def fail (e : Fail) : Out β α := fun buf => (.error e, buf)

/-- The buffer's length. -/
def len : Out β Nat := fun buf => (.ok buf.length, buf)

/-- `out[i] = v`. -/
def set (i : Nat) (v : β) : Out β Unit := fun buf =>
  if i < buf.length then (.ok (), buf.set i v) else (.error .panic, buf)

/-- `out[a..b].fill(v)`. -/
def fill (a b : Nat) (v : β) : Out β Unit := fun buf =>
  if a ≤ b ∧ b ≤ buf.length then (.ok (), overwrite a (List.replicate (b - a) v) buf)
  else (.error .panic, buf)

/-- `out[a..b].copy_from_slice(src)`: the lengths must agree. -/
def copyFromSlice (a b : Nat) (src : List β) : Out β Unit := fun buf =>
  if a ≤ b ∧ b ≤ buf.length ∧ src.length = b - a then (.ok (), overwrite a src buf)
  else (.error .panic, buf)

/-- `copy_bytes(&mut out[a..b], src)`: an unchecked copy into the slice `out[a..b]`. -/
def copyBytes (a b : Nat) (src : List β) : Out β Unit := fun buf =>
  if a ≤ b ∧ b ≤ buf.length then
    if src.length ≤ b - a then (.ok (), overwrite a src buf) else (.error .ub, buf)
  else (.error .panic, buf)

/-- `write_volatile(out.as_mut_ptr().add(i), v)`. -/
def writeVolatile (i : Nat) (v : β) : Out β Unit := fun buf =>
  if i < buf.length then (.ok (), buf.set i v) else (.error .ub, buf)

/-- The elements of a list stored one by one from `i` on, each by `w`. -/
def storeFrom (w : Nat → β → Out β Unit) (i : Nat) : List β → Out β Unit
  | [] => pure ()
  | x :: xs => do
    w i x
    storeFrom w (i + 1) xs

/-- `out[i] = x` for the elements of a list. -/
def setFrom (i : Nat) (xs : List β) : Out β Unit := storeFrom set i xs

/-- Volatile stores of the elements of a list. -/
def writeVolatileFrom (i : Nat) (xs : List β) : Out β Unit := storeFrom writeVolatile i xs

/-- A computation that does not touch the buffer. -/
def ofRs : Rs α → Out β α
  | .ok a => pure a
  | .error e => fail e

@[simp] theorem pure_apply (a : α) (buf : List β) : (pure a : Out β α) buf = (.ok a, buf) := rfl

@[simp] theorem fail_apply (e : Fail) (buf : List β) :
    (fail e : Out β α) buf = (.error e, buf) := rfl

@[simp] theorem fail_bind (e : Fail) (f : α → Out β γ) : (fail e >>= f) = fail e := rfl

theorem bind_of_ok {x : Out β α} {f : α → Out β γ} {buf buf' : List β} {a : α}
    (h : x buf = (.ok a, buf')) : (x >>= f) buf = f a buf' := by
  show (match x buf with | (.ok a, buf') => f a buf' | (.error e, buf') => (.error e, buf')) = _
  rw [h]

@[simp] theorem len_bind (f : Nat → Out β γ) (buf : List β) : (len >>= f) buf = f buf.length buf :=
  rfl

theorem fill_bind {a b : Nat} {v : β} {f : Unit → Out β γ} {buf : List β} (h : a ≤ b)
    (h' : b ≤ buf.length) :
    (fill a b v >>= f) buf = f () (overwrite a (List.replicate (b - a) v) buf) :=
  bind_of_ok (by rw [fill, if_pos ⟨h, h'⟩])

theorem copyFromSlice_bind {a b : Nat} {src : List β} {f : Unit → Out β γ} {buf : List β}
    (h : src.length = b - a) (ha : a ≤ b) (h' : b ≤ buf.length) :
    (copyFromSlice a b src >>= f) buf = f () (overwrite a src buf) :=
  bind_of_ok (by rw [copyFromSlice, if_pos ⟨ha, h', h⟩])

/-- A copy into the front part leaves the rest. -/
theorem copyFromSlice_append_bind {a b : Nat} {src p t : List β} {f : Unit → Out β γ}
    (h : src.length = b - a) (ha : a ≤ b) (h' : b ≤ p.length) :
    (copyFromSlice a b src >>= f) (p ++ t) = f () (overwrite a src p ++ t) := by
  rw [copyFromSlice_bind h ha (by simp; omega), overwrite_append (by omega)]

theorem overwrite_cons {i : Nat} {x : β} {xs buf : List β} (h : i + xs.length < buf.length) :
    overwrite (i + 1) xs (overwrite i [x] buf) = overwrite i (x :: xs) buf := by
  have hi : (buf.take i ++ [x]).length = i + 1 := by simp; omega
  rw [show overwrite i [x] buf = (buf.take i ++ [x]) ++ buf.drop (i + 1) from rfl,
    overwrite_behind hi, List.drop_drop]
  simp only [overwrite, List.append_assoc, List.cons_append, List.nil_append, List.length_cons]
  rw [show i + 1 + xs.length = i + (xs.length + 1) by omega]

theorem storeFrom_eq {w : Nat → β → Out β Unit}
    (hw : ∀ i v (buf : List β), i < buf.length → w i v buf = (.ok (), overwrite i [v] buf))
    {i : Nat} {xs buf : List β} (h : i + xs.length ≤ buf.length) :
    storeFrom w i xs buf = (.ok (), overwrite i xs buf) := by
  induction xs generalizing i buf with
  | nil => rw [overwrite_nil]; rfl
  | cons x xs ih =>
    simp only [List.length_cons] at h
    unfold storeFrom
    rw [bind_of_ok (hw i x buf (by omega)),
      ih (by rw [length_overwrite (by simp; omega)]; omega), overwrite_cons (by omega)]

theorem setFrom_eq {i : Nat} {xs buf : List β} (h : i + xs.length ≤ buf.length) :
    setFrom i xs buf = (.ok (), overwrite i xs buf) :=
  storeFrom_eq (fun i v buf hi => by rw [set, if_pos hi, set_eq_overwrite hi]) h

theorem writeVolatileFrom_eq {i : Nat} {xs buf : List β} (h : i + xs.length ≤ buf.length) :
    writeVolatileFrom i xs buf = (.ok (), overwrite i xs buf) :=
  storeFrom_eq (fun i v buf hi => by rw [writeVolatile, if_pos hi, set_eq_overwrite hi]) h

/-! ## Outcomes that do not depend on the buffer -/

/-- On every buffer with room for it, `B` writes exactly `img` in front and returns its length. -/
def Fills (B : Out β Nat) (img : List β) : Prop :=
  ∀ buf : List β, img.length ≤ buf.length → B buf = (.ok img.length, img ++ buf.drop img.length)

/-- On two buffers of one length, whatever they hold: the outcome is the same, no unchecked write
leaves its slice, and a success with `n` elements leaves the same first `n` elements in both and
everything behind as it was. -/
def NoLeak (B : Out β Nat) : Prop :=
  ∀ buf buf' : List β, buf.length = buf'.length →
    (B buf).1 = (B buf').1 ∧ (B buf).1 ≠ .error .ub ∧
      ∀ n, (B buf).1 = .ok n →
        n ≤ buf.length ∧ (B buf).2.length = buf.length ∧ (B buf').2.length = buf'.length ∧
          (B buf).2.take n = (B buf').2.take n ∧
          (B buf).2.drop n = buf.drop n ∧ (B buf').2.drop n = buf'.drop n

/-- A computation that fails alike on every buffer of a length leaks nothing. -/
theorem noLeak_of_cases {B : Out β Nat}
    (h : ∀ n, (∃ img : List β, img.length ≤ n ∧ ∀ buf : List β, buf.length = n →
        B buf = (.ok img.length, img ++ buf.drop img.length)) ∨
      (∃ e, e ≠ Fail.ub ∧ ∀ buf : List β, buf.length = n → (B buf).1 = .error e)) : NoLeak B := by
  intro buf buf' hl
  rcases h buf.length with ⟨img, hi, hb⟩ | ⟨e, he, hb⟩
  · rw [hb buf rfl, hb buf' hl.symm]
    refine ⟨rfl, by simp, fun n hn => ?_⟩
    obtain rfl : n = img.length := by simpa using hn.symm
    simp only [List.take_left, List.drop_left, List.length_append, List.length_drop]
    refine ⟨hi, by omega, by omega, trivial, trivial, trivial⟩
  · rw [hb buf rfl, hb buf' hl.symm]
    exact ⟨rfl, by simpa using he, by simp⟩

/-- **Filling and refusing short buffers is enough.** -/
theorem noLeak_of_fills {B : Out β Nat} {img : List β} (h : Fills B img)
    (hs : ∀ n < img.length, ∃ e, e ≠ Fail.ub ∧
      ∀ buf : List β, buf.length = n → (B buf).1 = .error e) : NoLeak B := by
  refine noLeak_of_cases fun n => ?_
  rcases Nat.lt_or_ge n img.length with hn | hn
  · exact .inr (hs n hn)
  · exact .inl ⟨img, hn, fun buf hb => h buf (by omega)⟩

/-- A computation that always stops with one failure leaks nothing. -/
theorem noLeak_of_fails {B : Out β Nat} {e : Fail} (he : e ≠ .ub)
    (h : ∀ buf : List β, (B buf).1 = .error e) : NoLeak B :=
  noLeak_of_cases fun _ => .inr ⟨e, he, fun buf _ => h buf⟩

/-! ## Builders that check the length first -/

/-- A builder of `n` elements that refuses a shorter buffer. -/
def sized (n : Nat) (code : Int) (x : Out β Unit) : Out β Nat := do
  let room ← len
  if room < n then fail (.errno code)
  else do
    x
    pure n

theorem fills_sized {n : Nat} {code : Int} {x : Out β Unit} {img : List β} (hn : img.length = n)
    (hx : ∀ p t : List β, p.length = n → x (p ++ t) = (.ok (), img ++ t)) :
    (sized n code x).Fills img := by
  intro buf hb
  unfold sized
  rw [len_bind, if_neg (by omega)]
  have h := hx (buf.take n) (buf.drop n) (by simp; omega)
  rw [List.take_append_drop] at h
  rw [bind_of_ok h, pure_apply, hn]

theorem noLeak_sized {n : Nat} {code : Int} {x : Out β Unit} {img : List β} (hn : img.length = n)
    (hx : ∀ p t : List β, p.length = n → x (p ++ t) = (.ok (), img ++ t)) :
    (sized n code x).NoLeak := by
  refine noLeak_of_fills (fills_sized hn hx) fun k hk => ⟨.errno code, by simp, fun buf hb => ?_⟩
  unfold sized
  rw [len_bind, if_pos (by omega)]
  rfl

/-- A sequence of assignments from the front on writes the sequence. -/
theorem setFrom_front {xs p t : List β} (h : p.length = xs.length) :
    setFrom 0 xs (p ++ t) = (.ok (), xs ++ t) := by
  rw [setFrom_eq (by simp; omega), overwrite_append (by omega), overwrite_zero,
    List.drop_of_length_le (by omega), List.append_nil]

theorem copyFromSlice_front {xs p t : List β} (h : p.length = xs.length) :
    copyFromSlice 0 xs.length xs (p ++ t) = (.ok (), xs ++ t) := by
  rw [copyFromSlice, if_pos (by simp; omega), overwrite_append (by omega), overwrite_zero,
    List.drop_of_length_le (by omega), List.append_nil]

/-! ## Editing a front part -/

/-- `x` rewrites the first `n` elements, whatever is behind them. -/
def Edits (n : Nat) (x : Out β Unit) : Prop :=
  ∃ f : List β → List β, ∀ p t : List β, p.length = n →
    x (p ++ t) = (.ok (), f p ++ t) ∧ (f p).length = n

theorem edits_of_overwrite {n : Nat} (off : Nat) (src : List β) {x : Out β Unit}
    (h : off + src.length ≤ n)
    (hx : ∀ buf : List β, n ≤ buf.length → x buf = (.ok (), overwrite off src buf)) :
    Edits n x := by
  refine ⟨overwrite off src, fun p t hp => ⟨?_, ?_⟩⟩
  · rw [hx _ (by simp; omega), overwrite_append (by omega)]
  · rw [length_overwrite (by omega), hp]

theorem edits_set {n i : Nat} {v : β} (h : i < n) : Edits n (set i v) :=
  edits_of_overwrite i [v] h fun buf hb => by
    rw [set, if_pos (by omega), set_eq_overwrite (by omega)]

theorem edits_fill {n a b : Nat} {v : β} (h : a ≤ b) (hb : b ≤ n) : Edits n (fill a b v) :=
  edits_of_overwrite a (List.replicate (b - a) v) (by simp; omega)
    fun buf hn => by rw [fill, if_pos ⟨h, by omega⟩]

theorem edits_copyFromSlice {n a b : Nat} {src : List β} (hs : src.length = b - a) (h : a ≤ b)
    (hb : b ≤ n) : Edits n (copyFromSlice a b src) :=
  edits_of_overwrite a src (by omega)
    fun buf hn => by rw [copyFromSlice, if_pos ⟨h, by omega, hs⟩]

theorem edits_copyBytes {n a b : Nat} {src : List β} (hs : src.length ≤ b - a) (h : a ≤ b)
    (hb : b ≤ n) : Edits n (copyBytes a b src) :=
  edits_of_overwrite a src (by omega)
    fun buf hn => by rw [copyBytes, if_pos ⟨h, by omega⟩, if_pos hs]

theorem edits_bind {n : Nat} {x y : Out β Unit} (hx : Edits n x) (hy : Edits n y) :
    Edits n (x >>= fun _ => y) := by
  obtain ⟨f, hf⟩ := hx
  obtain ⟨g, hg⟩ := hy
  refine ⟨fun p => g (f p), fun p t hp => ?_⟩
  obtain ⟨h1, h2⟩ := hf p t hp
  rw [bind_of_ok h1]
  exact hg (f p) t h2

/-- **Clearing first is enough**: what is edited after the front part has been filled with one
value does not depend on the buffer. -/
theorem noLeak_cleared {n : Nat} {code : Int} {z : β} {x : Out β Unit} (hx : Edits n x) :
    (sized n code (fill 0 n z >>= fun _ => x)).NoLeak := by
  obtain ⟨f, hf⟩ := hx
  refine noLeak_sized (hf (List.replicate n z) [] (by simp)).2 fun p t hp => ?_
  rw [fill_bind (Nat.zero_le n) (by simp; omega), overwrite_append (by simp; omega),
    overwrite_zero, List.drop_of_length_le (by simp; omega), List.append_nil, Nat.sub_zero]
  exact (hf _ t (by simp)).1

/-! ## Filling a cleared part from front to back -/

/-- Behind a front part of length `pos`, in a stretch of `z`s, `x` writes `img`. -/
def Lays (z : β) (pos : Nat) (x : Out β Unit) (img : List β) : Prop :=
  ∀ (p : List β) (m : Nat) (t : List β), p.length = pos → img.length ≤ m →
    x (p ++ List.replicate m z ++ t) =
      (.ok (), p ++ img ++ List.replicate (m - img.length) z ++ t)

section
variable {z : β} {pos : Nat} {x y : Out β Unit}

/-- A write at `off` leaves the gap before it. -/
theorem lays_of_overwrite {off : Nat} {src : List β} (hp : pos ≤ off)
    (hx : ∀ buf : List β, off + src.length ≤ buf.length → x buf = (.ok (), overwrite off src buf)) :
    Lays z pos x (List.replicate (off - pos) z ++ src) := by
  intro p m t hl hm
  simp only [List.length_append, List.length_replicate] at hm ⊢
  obtain ⟨k, rfl⟩ : ∃ k, m = off - pos + src.length + k := ⟨_, (Nat.add_sub_cancel' hm).symm⟩
  rw [hx _ (by simp; omega), Nat.add_sub_cancel_left]
  have hsplit : p ++ List.replicate (off - pos + src.length + k) z ++ t =
      (p ++ List.replicate (off - pos) z) ++ (List.replicate src.length z ++
        (List.replicate k z ++ t)) := by
    simp only [List.replicate_add, List.append_assoc]
  rw [hsplit, overwrite_behind (by simp; omega), List.drop_left' (by simp)]
  simp only [List.append_assoc]

theorem lays_bind {pos' : Nat} {img img' : List β} (hx : Lays z pos x img)
    (hl : pos + img.length = pos') (hy : Lays z pos' y img') :
    Lays z pos (x >>= fun _ => y) (img ++ img') := by
  intro p m t hp hm
  simp only [List.length_append] at hm ⊢
  rw [bind_of_ok (hx p m t hp (by omega)), hy _ _ _ (by simp; omega) (by omega)]
  rw [Nat.sub_sub]
  simp only [List.append_assoc]

theorem lays_set {i : Nat} {v : β} (h : pos ≤ i) :
    Lays z pos (set i v) (List.replicate (i - pos) z ++ [v]) :=
  lays_of_overwrite h fun buf hb => by
    simp only [List.length_singleton] at hb
    rw [set, if_pos (by omega), set_eq_overwrite (by omega)]

theorem lays_fill {a b : Nat} {v : β} (h : pos ≤ a) (hab : a ≤ b) :
    Lays z pos (fill a b v) (List.replicate (a - pos) z ++ List.replicate (b - a) v) :=
  lays_of_overwrite h fun buf hb => by
    rw [List.length_replicate] at hb
    rw [fill, if_pos ⟨hab, by omega⟩]

theorem lays_copyFromSlice {a b : Nat} {src : List β} (h : pos ≤ a) (hab : a ≤ b)
    (hs : src.length = b - a) :
    Lays z pos (copyFromSlice a b src) (List.replicate (a - pos) z ++ src) :=
  lays_of_overwrite h fun buf hb => by rw [copyFromSlice, if_pos ⟨hab, by omega, hs⟩]

theorem lays_copyBytes {a b : Nat} {src : List β} (h : pos ≤ a) (hab : a ≤ b)
    (hs : src.length = b - a) :
    Lays z pos (copyBytes a b src) (List.replicate (a - pos) z ++ src) :=
  lays_of_overwrite h fun buf hb => by
    rw [copyBytes, if_pos ⟨hab, by omega⟩, if_pos (by omega)]

/-! Chains of writes at increasing positions, each stated with the position it ends at. -/

theorem lays_set_bind {i : Nat} {v : β} {img : List β} (h : pos ≤ i) (hy : Lays z (i + 1) y img) :
    Lays z pos (set i v >>= fun _ => y) (List.replicate (i - pos) z ++ [v] ++ img) :=
  lays_bind (lays_set h) (by simp; omega) hy

theorem lays_fill_bind {a b : Nat} {v : β} {img : List β} (h : pos ≤ a) (hab : a ≤ b)
    (hy : Lays z b y img) :
    Lays z pos (fill a b v >>= fun _ => y)
      (List.replicate (a - pos) z ++ List.replicate (b - a) v ++ img) :=
  lays_bind (lays_fill h hab) (by simp; omega) hy

theorem lays_copyFromSlice_bind {a b : Nat} {src img : List β} (h : pos ≤ a) (hab : a ≤ b)
    (hs : src.length = b - a) (hy : Lays z b y img) :
    Lays z pos (copyFromSlice a b src >>= fun _ => y) (List.replicate (a - pos) z ++ src ++ img) :=
  lays_bind (lays_copyFromSlice h hab hs) (by simp; omega) hy

theorem lays_copyBytes_bind {a b : Nat} {src img : List β} (h : pos ≤ a) (hab : a ≤ b)
    (hs : src.length = b - a) (hy : Lays z b y img) :
    Lays z pos (copyBytes a b src >>= fun _ => y) (List.replicate (a - pos) z ++ src ++ img) :=
  lays_bind (lays_copyBytes h hab hs) (by simp; omega) hy

theorem lays_of_eq {img img' : List β} (hx : Lays z pos x img) (h : img = img') :
    Lays z pos x img' := h ▸ hx

/-- **A builder that clears its part and then fills it** from front to back. -/
theorem fills_cleared {n : Nat} {code : Int} {img : List β} (hx : Lays z 0 x img)
    (hn : img.length = n) : (sized n code (fill 0 n z >>= fun _ => x)).Fills img := by
  refine fills_sized hn fun p t hp => ?_
  rw [fill_bind (Nat.zero_le n) (by simp; omega), overwrite_append (by simp; omega),
    overwrite_zero, List.drop_of_length_le (by simp; omega), List.append_nil, Nat.sub_zero]
  have h := hx [] n t rfl (by omega)
  simpa [hn] using h

end

/-! ## Errors that change nothing -/

/-- The computation never ends with an error code. -/
def Codeless (x : Out β α) : Prop := ∀ (buf : List β) (code : Int), (x buf).1 ≠ .error (.errno code)

/-- An error code leaves the buffer as it was. -/
def Atomic (B : Out β α) : Prop :=
  ∀ (buf : List β) (code : Int), (B buf).1 = .error (.errno code) → (B buf).2 = buf

theorem codeless_bind {x : Out β α} {f : α → Out β γ} (hx : Codeless x)
    (hf : ∀ a, Codeless (f a)) : Codeless (x >>= f) := by
  intro buf code h
  have hstep : (x >>= f) buf =
    match x buf with | (.ok a, buf') => f a buf' | (.error e, buf') => (.error e, buf') := rfl
  rw [hstep] at h
  split at h
  · exact hf _ _ code h
  · rename_i e buf' hb
    obtain rfl : e = .errno code := Except.error.inj h
    exact hx buf code (by rw [hb])

@[simp] theorem codeless_set {i : Nat} {v : β} : Codeless (set i v) := by
  intro buf code
  unfold set
  split <;> simp

@[simp] theorem codeless_fill {a b : Nat} {v : β} : Codeless (fill a b v) := by
  intro buf code
  unfold fill
  split <;> simp

@[simp] theorem codeless_copyFromSlice {a b : Nat} {src : List β} :
    Codeless (copyFromSlice a b src) := by
  intro buf code
  unfold copyFromSlice
  split <;> simp

@[simp] theorem codeless_copyBytes {a b : Nat} {src : List β} : Codeless (copyBytes a b src) := by
  intro buf code
  unfold copyBytes
  split
  · split <;> simp
  · simp

theorem codeless_storeFrom {w : Nat → β → Out β Unit} (hw : ∀ i v, Codeless (w i v)) {i : Nat}
    {xs : List β} : Codeless (storeFrom w i xs) := by
  induction xs generalizing i with
  | nil => intro buf code; simp [storeFrom]
  | cons x xs ih => exact codeless_bind (hw i x) fun _ => ih

@[simp] theorem codeless_setFrom {i : Nat} {xs : List β} : Codeless (setFrom i xs) :=
  codeless_storeFrom fun _ _ => codeless_set

@[simp] theorem codeless_writeVolatileFrom {i : Nat} {xs : List β} :
    Codeless (writeVolatileFrom i xs) := by
  refine codeless_storeFrom fun i v buf code => ?_
  unfold writeVolatile
  split <;> simp

theorem atomic_fail {e : Fail} : Atomic (fail e : Out β α) := fun _ _ _ => rfl

/-- **Checking first is enough**: nothing has been stored yet when the code is returned. -/
theorem atomic_sized {n : Nat} {code : Int} {x : Out β Unit} (hx : Codeless x) :
    (sized n code x).Atomic := by
  intro buf c h
  unfold sized at h ⊢
  rw [len_bind] at h ⊢
  split
  · rfl
  · rename_i hlen
    rw [if_neg hlen] at h
    exact absurd h (codeless_bind hx (fun _ buf code => by simp) buf c)

end Out

end Slice
