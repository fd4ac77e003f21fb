import Mt7603u.Driver.Lifecycle
import Mt7603u.Driver.TxPath

/-!
# The beacon work (`mt7603_beacon_work` in `src/c/mac80211.c`)

An access point sends its beacons from a delayed work that runs once per beacon interval, asks
mac80211 for the beacon, stamps it and hands it to `mt7603_mac80211_tx`. `bss_info_changed`
schedules the work, `stop` and `remove_interface` cancel it, and it schedules itself.

`BeaconSys` is the host with the work: whether it is pending follows from the requests of the calls
(`timerEnv`), and a pending work may run between any two of them.
-/

namespace Driver

open Effect Slice Skb Word Rust

/-- `put_unaligned_le64`. -/
def toLe64 (w : BitVec 64) : List U8 :=
  toLe32 (w.extractLsb' 0 32) ++ toLe32 (w.extractLsb' 32 32)

/-- What one run of the work does. -/
structure BeaconRound where
  /-- The interface it asks for a beacon. -/
  vif : Option Nat
  sent : Option Transfer
  /-- When it runs again, in milliseconds. -/
  again : Option Nat

/-- `(bint * 1024) / 1000`, with a beacon interval of 100 by default. -/
def beaconDelay (beaconInt : U16) : Nat :=
  (if beaconInt ≠ 0 then beaconInt.toNat else 100) * 1024 / 1000

/-- The time since boot in microseconds, in the timestamp of a beacon that is long enough. -/
def stampBeacon (skb : SkBuff U8) (now : BitVec 64) : Rs (SkBuff U8) :=
  if 32 ≤ skb.len then skb.store 24 (toLe64 now) else return skb

/-- `mt7603_beacon_work`; `get` is `ieee80211_beacon_get`. -/
def beaconWork (k : Kernel) (dev : Dev) (get : Nat → Option (TxInfo × SkBuff U8))
    (now : BitVec 64) : Rs BeaconRound :=
  if ¬dev.running ∨ ¬dev.beaconEnabled then return ⟨none, none, none⟩
  else
    match dev.apVif with
    | none => return ⟨none, none, none⟩
    | some vif =>
      match get vif with
      | none => return ⟨some vif, none, some (beaconDelay dev.beaconInt)⟩
      | some (info, skb) => do
        let skb ← stampBeacon skb now
        let sent ← mac80211Tx k dev info skb
        return ⟨some vif, sent, some (beaconDelay dev.beaconInt)⟩

/-! ## The system -/

/-- Whether the work is pending. -/
def timerEnv : Env sig Bool
  | _, .scheduleBeacon, _, pending => pending = true
  | _, .cancelBeacon, _, pending => pending = false
  | pending, _, _, pending' => pending' = pending

structure BeaconSys where
  host : Host
  pending : Bool

/-- A call that satisfies `C`, or a run of the pending work. -/
inductive BeaconSys.Step (C : Host → Action → Prop) (k : Kernel) : BeaconSys → BeaconSys → Prop
  | call {σ : BeaconSys} {a : Action} {host : Host} {pending : Bool} (hc : C σ.host a)
      (ha : a.Allowed σ.host) (hrun : Runs timerEnv (a.run σ.host) σ.pending host pending) :
      Step C k σ ⟨host, pending⟩
  | work {σ : BeaconSys} {get : Nat → Option (TxInfo × SkBuff U8)} {now : BitVec 64}
      {r : BeaconRound} (hp : σ.pending = true) (hr : beaconWork k σ.host.dev get now = .ok r) :
      Step C k σ ⟨σ.host, r.again.isSome⟩

end Driver
