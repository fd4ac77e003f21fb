import Mt7603u.Base.Tlv
import Mt7603u.Proof.Builders

/-!
# Beacons read back

What `buildBeacon` writes (`fills_buildBeacon`): the header, the fixed fields and three elements.
`parseElements_elements`: over a row of complete elements, behind any front part, the loop of
`parse_beacon` folds `addElement`. The two meet in `beacon_round_trip`.
-/

namespace Rust

open Slice Slice.Out Word

/-! ## Information elements -/

/-- An information element that is not empty. -/
structure Element extends Tlv.Elem where
  nonempty : 0 < payload.length

/-- The elements of a frame in a row. -/
def elementBytes (es : List Element) : List U8 := Tlv.encode (es.map (·.toElem))

/-- One round of the loop, on an element behind `pre`. -/
theorem parseElements_cons (info : StaBssInfo) (pre rest : List U8) {e : Tlv.Elem}
    (hpos : 0 < e.payload.length) :
    parseElements (pre ++ (e.bytes ++ rest)) info pre.length = (do
      let info ← info.addElement e.id e.payload
      parseElements (pre ++ (e.bytes ++ rest)) info (pre.length + 2 + e.payload.length)) := by
  have hlen := e.toNat_len
  have hne : BitVec.ofNat 8 e.payload.length ≠ 0 := by
    intro h
    have h0 := congrArg BitVec.toNat h
    rw [hlen] at h0
    exact absurd h0 (Nat.ne_of_gt hpos)
  have hframe : (pre ++ (e.bytes ++ rest)).length =
      pre.length + 2 + e.payload.length + rest.length := by
    rw [List.length_append, List.length_append, e.length_bytes]
    omega
  have hid : get (pre ++ (e.bytes ++ rest)) pre.length = .ok e.id := by
    simp [Slice.get, Tlv.Elem.bytes]
  have hel : get (pre ++ (e.bytes ++ rest)) (pre.length + 1) =
      .ok (BitVec.ofNat 8 e.payload.length) := by
    simp [Slice.get, Tlv.Elem.bytes]
  have hpay : ((pre ++ (e.bytes ++ rest)).drop (pre.length + 2)).take e.payload.length =
      e.payload := by
    simp [Tlv.Elem.bytes]
  rw [parseElements, if_pos (by omega), hid, ok_bind, hel, ok_bind, hlen, if_neg, hpay]
  rintro (h | h)
  · exact hne h
  · omega

/-- **The loop folds the elements** behind a front part, in their order. -/
theorem parseElements_elements (es : List Element) (info : StaBssInfo) (pre : List U8) :
    parseElements (pre ++ elementBytes es) info pre.length =
      es.foldlM (fun info e => info.addElement e.id e.payload) info := by
  induction es generalizing info pre with
  | nil =>
    rw [parseElements, if_neg (by simp [elementBytes])]
    rfl
  | cons e es ih =>
    have hsplit : pre ++ elementBytes (e :: es) = pre ++ (e.bytes ++ elementBytes es) := rfl
    have hpre : (pre ++ e.bytes).length = pre.length + 2 + e.payload.length := by
      rw [List.length_append, e.length_bytes]
      omega
    rw [hsplit, parseElements_cons _ _ _ e.nonempty, List.foldlM_cons]
    refine bind_congr fun info' => ?_
    rw [← hpre, ← List.append_assoc, ih]

/-- With an SSID, only a channel element changes anything. -/
theorem foldlM_addElement {info : StaBssInfo} (hs : info.ssidLen ≠ 0) (es : List Element)
    (h : ∀ e ∈ es, e.id ≠ 3) :
    es.foldlM (fun info e => info.addElement e.id e.payload) info = .ok info := by
  induction es with
  | nil => rfl
  | cons e es ih =>
    have he : info.addElement e.id e.payload = .ok info := by
      unfold StaBssInfo.addElement
      rw [if_neg (fun hc => hs hc.2), if_neg (fun hc => h e (by simp) hc.1)]
      rfl
    rw [List.foldlM_cons, he]
    exact ih fun e' he' => h e' (List.mem_cons_of_mem _ he')

/-! ## The frame -/

/-- The header and the fixed fields of a beacon. -/
def beaconHead (bssid : MacAddr) : List U8 :=
  [0x80, 0, 0, 0] ++ List.replicate 6 0xFF ++ bssid.toList ++ bssid.toList ++
    List.replicate 10 0 ++ [0x64, 0, 0x01, 0]

/-- Everything `build_beacon` writes. -/
def beaconImage (ssid : List U8) (bssid : MacAddr) (channel : U8) : List U8 :=
  beaconHead bssid ++ (0 :: BitVec.ofNat 8 ssid.length :: ssid) ++ (1 :: 8 :: SUPPORTED_RATES) ++
    [3, 1, channel]

section
variable {ssid : List U8} {bssid : MacAddr} {channel : U8}

theorem length_beaconImage : (beaconImage ssid bssid channel).length = 51 + ssid.length := by
  simp only [beaconImage, beaconHead, MacAddr.toList, SUPPORTED_RATES, List.length_append,
    List.length_cons, List.length_nil, List.length_replicate]
  omega

/-- **A beacon is its head and three elements.** -/
theorem fills_buildBeacon :
    (buildBeacon ssid bssid channel).Fills (beaconImage ssid bssid channel) := by
  refine fills_cleared ?_ (by rw [length_beaconImage]; omega)
  refine lays_of_eq
    (lays_set_bind (by omega) <| lays_set_bind (by omega) <|
      lays_fill_bind (by omega) (by omega) <|
      lays_copyFromSlice_bind (by omega) (by omega) rfl <|
      lays_copyFromSlice_bind (by omega) (by omega) rfl <|
      lays_set_bind (by omega) <| lays_set_bind (by omega) <|
      lays_set_bind (by omega) <| lays_set_bind (by omega) <|
      lays_set_bind (by omega) <| lays_set_bind (by omega) <|
      lays_copyBytes_bind (by omega) (by omega) (by omega) <|
      lays_set_bind (by omega) <| lays_set_bind (by omega) <|
      lays_copyBytes_bind (by omega) (by omega) (by simp [SUPPORTED_RATES]) <|
      lays_set_bind (by omega) <| lays_set_bind (by omega) <| lays_set (by omega)) ?_
  simp [beaconImage, beaconHead]

end

/-! ## The round trip -/

/-- What a beacon says. -/
def beaconInfo (ssid : List U8) (bssid : MacAddr) (channel : U8) : StaBssInfo where
  bssid := bssid
  ssid := ssid ++ List.replicate (32 - ssid.length) 0
  ssidLen := BitVec.ofNat 8 ssid.length
  channel := channel
  rssi := 0
  capability := 0x0001

section
variable {ssid : List U8} {bssid : MacAddr} {channel : U8}

theorem ssidLen_beaconInfo (h1 : 1 ≤ ssid.length) (h32 : ssid.length ≤ 32) :
    (beaconInfo ssid bssid channel).ssidLen ≠ 0 := by
  intro h
  have h0 := congrArg BitVec.toNat h
  simp only [beaconInfo, BitVec.toNat_ofNat, BitVec.ofNat_eq_ofNat] at h0
  omega

/-- The head gives the BSSID and the capability; the elements follow. -/
theorem parseBeacon_head (rest : List U8) :
    parseBeacon (beaconHead bssid ++ rest) =
      parseElements (beaconHead bssid ++ rest) { bssid, capability := 0x0001 } 36 := by
  obtain ⟨b0, b1, b2, b3, b4, b5⟩ := bssid
  rfl

/-- The elements of a beacon. -/
def beaconElements (ssid : List U8) (channel : U8) (h1 : 1 ≤ ssid.length)
    (h32 : ssid.length ≤ 32) : List Element :=
  [⟨⟨0, ssid, Nat.lt_of_le_of_lt h32 (by decide)⟩, h1⟩,
   ⟨⟨1, SUPPORTED_RATES, by decide⟩, by decide⟩,
   ⟨⟨3, [channel], Nat.le_of_ble_eq_true rfl⟩, Nat.one_pos⟩]

theorem beaconImage_eq (h1 : 1 ≤ ssid.length) (h32 : ssid.length ≤ 32) :
    beaconImage ssid bssid channel =
      beaconHead bssid ++ elementBytes (beaconElements ssid channel h1 h32) := by
  simp [beaconImage, elementBytes, beaconElements, Tlv.Elem.bytes, SUPPORTED_RATES]

/-- The first SSID element. -/
theorem addElement_ssid (h32 : ssid.length ≤ 32) :
    StaBssInfo.addElement { bssid, capability := 0x0001 } 0 ssid =
      .ok { beaconInfo ssid bssid channel with channel := 0 } := by
  unfold StaBssInfo.addElement
  rw [if_pos ⟨rfl, rfl⟩, Nat.min_eq_left h32]
  dsimp only
  rw [List.take_length, overwrite_zero, List.drop_replicate]
  rfl

theorem foldlM_beaconElements (h1 : 1 ≤ ssid.length) (h32 : ssid.length ≤ 32) :
    (beaconElements ssid channel h1 h32).foldlM (fun info e => info.addElement e.id e.payload)
        ({ bssid, capability := 0x0001 } : StaBssInfo) =
      .ok (beaconInfo ssid bssid channel) := by
  have hlen : (beaconInfo ssid bssid channel).ssidLen ≠ 0 := ssidLen_beaconInfo h1 h32
  have hch : StaBssInfo.addElement { beaconInfo ssid bssid channel with channel := 0 } 3 [channel] =
      .ok (beaconInfo ssid bssid channel) := by
    unfold StaBssInfo.addElement
    rw [if_neg (fun hc => hlen hc.2), if_pos ⟨rfl, Nat.le_refl 1⟩]
    rfl
  rw [beaconElements, List.foldlM_cons, addElement_ssid h32, ok_bind, List.foldlM_cons]
  show List.foldlM _ _ _ = _
  rw [List.foldlM_cons, hch]
  rfl

/-- **Parsing a beacon with further elements.** -/
theorem parseBeacon_beaconImage (h1 : 1 ≤ ssid.length) (h32 : ssid.length ≤ 32)
    (es : List Element) (hes : ∀ e ∈ es, e.id ≠ 3) :
    parseBeacon (beaconImage ssid bssid channel ++ elementBytes es) =
      .ok (beaconInfo ssid bssid channel) := by
  have hall : beaconImage ssid bssid channel ++ elementBytes es =
      beaconHead bssid ++ elementBytes (beaconElements ssid channel h1 h32 ++ es) := by
    rw [beaconImage_eq h1 h32, List.append_assoc, elementBytes, elementBytes, elementBytes,
      List.map_append, Tlv.encode_append]
  rw [hall, parseBeacon_head]
  refine (parseElements_elements _ _ (beaconHead bssid)).trans ?_
  rw [List.foldlM_append, foldlM_beaconElements h1 h32, ok_bind]
  exact foldlM_addElement (ssidLen_beaconInfo h1 h32) es hes

end

/-- **Beacons round-trip.** Whatever the buffer held, `parse_beacon` reads from the frame that
`build_beacon` wrote what it was built from, also with any further elements behind it that are not
channels. -/
theorem beacon_round_trip (ssid : List U8) (bssid : MacAddr) (channel : U8) (buf : List U8)
    (h1 : 1 ≤ ssid.length) (h32 : ssid.length ≤ 32) (hb : 51 + ssid.length ≤ buf.length) :
    ∃ frame, callOn (buildBeacon ssid bssid channel) buf = .ok frame ∧
      parseBeacon frame = .ok
        { bssid := bssid
          ssid := ssid ++ List.replicate (32 - ssid.length) 0
          ssidLen := BitVec.ofNat 8 ssid.length
          channel := channel
          rssi := 0
          capability := 0x0001 } ∧
      (BitVec.ofNat 8 ssid.length).toNat = ssid.length ∧
      ∀ es : List Element, (∀ e ∈ es, e.id ≠ 3) →
        parseBeacon (frame ++ elementBytes es) = parseBeacon frame := by
  have hframe := @parseBeacon_beaconImage ssid bssid channel h1 h32 [] (by simp)
  rw [show elementBytes [] = [] from rfl, List.append_nil] at hframe
  refine ⟨beaconImage ssid bssid channel, ?_, hframe, ?_, ?_⟩
  · exact callOn_of_fills fills_buildBeacon (by rw [length_beaconImage]; exact hb)
  · rw [BitVec.toNat_ofNat, Nat.mod_eq_of_lt (by omega)]
  · intro es hes
    rw [hframe]
    exact parseBeacon_beaconImage h1 h32 es hes

/-- A one-letter SSID, in the smallest buffer, and the same frame with a further element. -/
theorem beacon_round_trip_short :
    ∃ frame, callOn (buildBeacon [0x41] ⟨0, 0x0c, 0x43, 0x76, 0x03, 0x01⟩ 6)
        (List.replicate 52 0xAA) = .ok frame ∧
      parseBeacon frame = .ok ⟨⟨0, 0x0c, 0x43, 0x76, 0x03, 0x01⟩, 0x41 :: List.replicate 31 0, 1, 6,
        0, 0x0001⟩ ∧
      parseBeacon (frame ++ [0xdd, 2, 0x50, 0x6f]) = parseBeacon frame := by
  obtain ⟨frame, hframe, hparse, -, hmore⟩ := beacon_round_trip [0x41]
    ⟨0, 0x0c, 0x43, 0x76, 0x03, 0x01⟩ 6 (List.replicate 52 0xAA) (by decide) (by decide) (by decide)
  refine ⟨frame, hframe, hparse, ?_⟩
  exact hmore [⟨⟨0xdd, [0x50, 0x6f], by decide⟩, by decide⟩] (by simp)

end Rust
