import Mt7603u.Base.Slice

/-!
# Socket buffers

A socket buffer is a block of memory with a window of data in it: `head` before the window, `data`
inside, `tail` behind. `put`, `push`, `pull` and `trim` move the window's ends over the memory,
`store` and `move` write inside the window.

* `put_move_store`: opening a gap of zeros in the middle of the data.
* `move_trim`: closing such a gap, whatever was appended meanwhile.
-/

namespace Skb

open Slice

structure SkBuff (β : Type) where
  head : List β
  data : List β
  tail : List β
  deriving DecidableEq, Repr

namespace SkBuff

variable {β : Type}

def headroom (s : SkBuff β) : Nat := s.head.length
def tailroom (s : SkBuff β) : Nat := s.tail.length
def len (s : SkBuff β) : Nat := s.data.length

/-- `skb_put`: `n` more bytes of data at the end; without room for them the kernel panics. -/
def put (s : SkBuff β) (n : Nat) : Rs (SkBuff β) :=
  if n ≤ s.tailroom then .ok ⟨s.head, s.data ++ s.tail.take n, s.tail.drop n⟩ else .error .panic

/-- `skb_push`: `n` more bytes of data in front. -/
def push (s : SkBuff β) (n : Nat) : Rs (SkBuff β) :=
  if n ≤ s.headroom then
    .ok ⟨s.head.take (s.headroom - n), s.head.drop (s.headroom - n) ++ s.data, s.tail⟩
  else .error .panic

/-- `skb_pull`: `n` bytes less data in front. -/
def pull (s : SkBuff β) (n : Nat) : SkBuff β :=
  if n ≤ s.len then ⟨s.head ++ s.data.take n, s.data.drop n, s.tail⟩ else s

/-- `skb_trim`: no more than `n` bytes of data. -/
def trim (s : SkBuff β) (n : Nat) : SkBuff β :=
  if n < s.len then ⟨s.head, s.data.take n, s.data.drop n ++ s.tail⟩ else s

/-- `memcpy(skb->data + off, src, ...)`. -/
def store (s : SkBuff β) (off : Nat) (src : List β) : Rs (SkBuff β) :=
  if off + src.length ≤ s.len then .ok { s with data := overwrite off src s.data }
  else .error .ub

/-- `memmove(skb->data + dst, skb->data + src, n)`. -/
def move (s : SkBuff β) (dst src n : Nat) : Rs (SkBuff β) :=
  if dst + n ≤ s.len ∧ src + n ≤ s.len then
    .ok { s with data := overwrite dst ((s.data.drop src).take n) s.data }
  else .error .ub

theorem put_eq {s : SkBuff β} {n : Nat} (h : n ≤ s.tailroom) :
    s.put n = .ok ⟨s.head, s.data ++ s.tail.take n, s.tail.drop n⟩ := if_pos h

/-! Lengths after an operation that succeeded. -/

theorem put_len {s s' : SkBuff β} {n : Nat} (h : s.put n = .ok s') : s'.len = s.len + n := by
  unfold put at h
  split at h
  · rename_i hn
    have hn : n ≤ s.tail.length := hn
    obtain rfl := Except.ok.inj h
    rw [len, List.length_append, List.length_take, Nat.min_eq_left hn]
    rfl
  · cases h

theorem store_len {s s' : SkBuff β} {off : Nat} {src : List β} (h : s.store off src = .ok s') :
    s'.len = s.len := by
  unfold store at h
  split at h
  · rename_i hl
    obtain rfl := Except.ok.inj h
    exact length_overwrite hl
  · cases h

theorem move_len {s s' : SkBuff β} {dst src n : Nat} (h : s.move dst src n = .ok s') :
    s'.len = s.len := by
  unfold move at h
  split at h
  · rename_i hl
    obtain rfl := Except.ok.inj h
    refine length_overwrite ?_
    unfold len at hl
    rw [List.length_take, List.length_drop]
    omega
  · cases h

/-- A fresh header in front. -/
theorem push_store (s : SkBuff β) (src : List β) (h : src.length ≤ s.headroom) :
    (do let s ← s.push src.length; s.store 0 src : Rs (SkBuff β)) =
      .ok ⟨s.head.take (s.headroom - src.length), src ++ s.data, s.tail⟩ := by
  have hl : (s.head.drop (s.headroom - src.length)).length = src.length := by
    rw [List.length_drop, ← headroom]
    omega
  rw [push, if_pos h, ok_bind, store, if_pos (by simp only [len, List.length_append, hl]; omega)]
  simp only [overwrite_zero, List.drop_left' hl]

/-- Fresh bytes at the end. -/
theorem put_store (s : SkBuff β) (src : List β) (h : src.length ≤ s.tailroom) :
    (do let s' ← s.put src.length; s'.store s.len src : Rs (SkBuff β)) =
      .ok ⟨s.head, s.data ++ src, s.tail.drop src.length⟩ := by
  have hl : (s.tail.take src.length).length = src.length := by
    rw [List.length_take, ← tailroom]
    omega
  rw [put_eq h, ok_bind, store, if_pos (by simp only [len, List.length_append, hl]; omega)]
  simp only [overwrite_behind (show s.data.length = s.len from rfl)]
  rw [List.drop_of_length_le (by omega), List.append_nil]

/-- Moving `b` up by the length of `src` and writing `src` into the gap. -/
theorem overwrite_gap {a b x src : List β} (hx : x.length = src.length) :
    overwrite a.length src (overwrite (a.length + src.length) b (a ++ b ++ x)) = a ++ src ++ b := by
  obtain ⟨w, v, hw, hv, hwv⟩ : ∃ w v : List β, w.length = src.length ∧ v.length = b.length ∧
      b ++ x = w ++ v :=
    ⟨(b ++ x).take src.length, (b ++ x).drop src.length, by simp; omega, by simp; omega,
      (List.take_append_drop _ _).symm⟩
  rw [List.append_assoc, hwv, ← List.append_assoc, overwrite_behind (by simp [hw]),
    List.drop_of_length_le (by omega), List.append_nil, List.append_assoc, overwrite_behind rfl,
    List.drop_left' hw]

/-- **Opening a gap**: `src` is inserted at `h`. -/
theorem put_move_store (s : SkBuff β) (h : Nat) (src : List β) (hh : h ≤ s.len)
    (ht : src.length ≤ s.tailroom) :
    ∃ s', s.put src.length = .ok s' ∧ s'.len = s.len + src.length ∧
      (do let s' ← s'.move (h + src.length) h (s.len - h); s'.store h src : Rs (SkBuff β)) =
        .ok ⟨s.head, s.data.take h ++ src ++ s.data.drop h, s.tail.drop src.length⟩ := by
  have hx : (s.tail.take src.length).length = src.length := by
    rw [List.length_take, ← tailroom]
    omega
  have ha : (s.data.take h).length = h := by
    rw [List.length_take, ← len]
    omega
  have hb : (s.data.drop h).length = s.len - h := List.length_drop
  -- the part that moves is what was behind `h`
  have hm : ((s.data ++ s.tail.take src.length).drop h).take (s.len - h) = s.data.drop h := by
    rw [List.drop_append_of_le_length (by rw [← len]; omega), List.take_left' hb]
  have hgap := overwrite_gap (a := s.data.take h) (b := s.data.drop h) hx
  rw [List.take_append_drop, ha] at hgap
  have hl : s.data.length = s.len := rfl
  have hlen : (s.data ++ s.tail.take src.length).length = s.len + src.length := by
    rw [List.length_append, hx, hl]
  refine ⟨_, put_eq ht, hlen, ?_⟩
  rw [move, if_pos (by simp only [len, hlen]; omega), ok_bind, store, if_pos ?_]
  · simp only [hm, hgap]
  · simp only [hm]
    rw [len, length_overwrite (by omega)]
    omega

/-- Trimming what was appended. -/
theorem trim_append {s : SkBuff β} {f w : List β} (hd : s.data = f ++ w) :
    (s.trim f.length).data = f := by
  unfold trim
  split
  · simp [hd]
  · rename_i hn
    have hw : w = [] := by
      rw [← List.length_eq_zero_iff]
      rw [len, hd, List.length_append] at hn
      omega
    rw [hd, hw, List.append_nil]

/-- **Closing a gap**: what is behind it moves up, and the rest is trimmed away. -/
theorem move_trim {s : SkBuff β} {a z b c : List β} (hd : s.data = a ++ (z ++ (b ++ c))) :
    ∃ s', s.move a.length (a.length + z.length) (s.len - a.length - z.length) = .ok s' ∧
      (s'.trim (a ++ b).length).data = a ++ b := by
  have hlen : s.len = a.length + (z.length + (b.length + c.length)) := by simp [len, hd]
  have hm : ((s.data.drop (a.length + z.length)).take (s.len - a.length - z.length)) = b ++ c := by
    rw [hd, ← List.append_assoc, List.drop_left' (by simp), List.take_of_length_le]
    rw [hlen, List.length_append]
    omega
  have hmove : s.move a.length (a.length + z.length) (s.len - a.length - z.length) =
      .ok { s with data := a ++ (b ++ c) ++ s.data.drop (a.length + (b ++ c).length) } := by
    rw [move, if_pos (by omega), hm, overwrite]
    conv => lhs; rw [hd, List.take_left, ← hd]
  refine ⟨_, hmove, trim_append (w := c ++ s.data.drop (a.length + (b ++ c).length)) ?_⟩
  simp

end SkBuff

end Skb
