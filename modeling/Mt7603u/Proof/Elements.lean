import Mt7603u.Base.Tlv
import Mt7603u.Proof.BeaconFrame

/-!
# Frames as element streams

Management frames against the element grammar of `Tlv`. What a beacon says by the grammar
(`beaconSays`): the first SSID and the last channel, wherever empty elements stand. The loop of
`parse_beacon` reads only the elements in front of the first empty one (`parseElements_encode`).
What the two builders write splits into the elements they were asked for, as long as the length of
the SSID fits its byte (`wellFormed_iff`).
-/

namespace Rust

open Slice Slice.Out Word Tlv

/-! ## What the elements say -/

/-- The SSID an element carries, cut to the 32 bytes an SSID may have. -/
def ssidOf (e : Elem) : Option (List U8) :=
  if e.id = 0 ∧ e.payload ≠ [] then some (e.payload.take 32) else none

/-- The channel an element carries. -/
def channelOf (e : Elem) : Option U8 := if e.id = 3 then e.payload.head? else none

/-- The first SSID. -/
def firstSsid (es : List Elem) : Option (List U8) := (es.filterMap ssidOf).head?

/-- The last channel. -/
def lastChannel (es : List Elem) : Option U8 := (es.filterMap channelOf).getLast?

/-- The fixed part of a frame with an SSID, in its 32 bytes, and a channel. -/
def bssInfo (head : Vector U8 36) (ssid : Option (List U8)) (channel : Option U8) : StaBssInfo where
  bssid := ⟨head[16], head[17], head[18], head[19], head[20], head[21]⟩
  ssid := ssid.getD [] ++ List.replicate (32 - (ssid.getD []).length) 0
  ssidLen := BitVec.ofNat 8 (ssid.getD []).length
  channel := channel.getD 0
  rssi := 0
  capability := le16 head[34] head[35]

/-- What a frame says by the element grammar: the BSSID and the capability of the fixed part, the
first SSID and the last channel. -/
def beaconSays (head : Vector U8 36) (es : List Elem) : StaBssInfo :=
  bssInfo head (firstSsid es) (lastChannel es)

/-- The elements in front of the first empty one. -/
def beforeEmpty (es : List Elem) : List Elem := es.takeWhile fun e => e.payload ≠ []

/-- The elements from the first empty one on. -/
def fromEmpty (es : List Elem) : List Elem := es.dropWhile fun e => e.payload ≠ []

section
variable {e : Elem} {es : List Elem} {info : StaBssInfo}

theorem firstSsid_append (es es' : List Elem) :
    firstSsid (es ++ es') = (firstSsid es).or (firstSsid es') := by
  simp only [firstSsid, List.filterMap_append, List.head?_append]

theorem lastChannel_append (es es' : List Elem) :
    lastChannel (es ++ es') = (lastChannel es').or (lastChannel es) := by
  simp only [lastChannel, List.filterMap_append, List.getLast?_append]

theorem beforeEmpty_append_fromEmpty (es : List Elem) : beforeEmpty es ++ fromEmpty es = es :=
  List.takeWhile_append_dropWhile

theorem length_of_ssidOf {s : List U8} (h : ssidOf e = some s) :
    0 < s.length ∧ s.length ≤ 32 := by
  unfold ssidOf at h
  split at h
  · rename_i hid
    cases h
    have := List.length_pos_iff.2 hid.2
    rw [List.length_take]
    omega
  · cases h

theorem length_of_firstSsid {s : List U8} (h : firstSsid es = some s) :
    0 < s.length ∧ s.length ≤ 32 := by
  obtain ⟨e, -, he⟩ := List.mem_filterMap.1 (List.mem_of_mem_head? h)
  exact length_of_ssidOf he

/-- A found SSID shows in its length. -/
theorem ssidLen_ne_zero {head : Vector U8 36} {s : List U8} {c : Option U8}
    (hs : 0 < s.length ∧ s.length ≤ 32) : (bssInfo head (some s) c).ssidLen ≠ 0 := by
  intro h0
  have h1 := congrArg BitVec.toNat h0
  simp only [bssInfo, Option.getD_some, BitVec.toNat_ofNat, BitVec.ofNat_eq_ofNat] at h1
  omega

/-- While no SSID is found, an SSID element sets it. -/
theorem addElement_ssidElem (head : Vector U8 36) (c : Option U8) (h : e.id = 0) :
    (bssInfo head none c).addElement e.id e.payload = .ok (bssInfo head (ssidOf e) c) := by
  unfold StaBssInfo.addElement
  rw [if_pos ⟨h, rfl⟩]
  by_cases hp : e.payload = []
  · simp only [ssidOf, hp, h, ne_eq, not_true_eq_false, and_false, if_false]
    rfl
  · have hlen : min e.payload.length 32 = (e.payload.take 32).length := by
      rw [List.length_take, Nat.min_comm]
    have htake : e.payload.take (e.payload.take 32).length = e.payload.take 32 := by
      rw [List.length_take, ← List.take_eq_take_min]
    rw [ssidOf, if_pos ⟨h, hp⟩, hlen]
    dsimp only
    rw [htake]
    simp only [bssInfo, Option.getD_none, List.nil_append, overwrite_zero, List.drop_replicate,
      List.length_nil, Nat.sub_zero]
    rfl

/-- A channel element sets the channel. -/
theorem addElement_channelElem (head : Vector U8 36) (s : Option (List U8)) (c : Option U8)
    (h : e.id = 3) :
    (bssInfo head s c).addElement e.id e.payload = .ok (bssInfo head s ((channelOf e).or c)) := by
  unfold StaBssInfo.addElement
  rw [if_neg (by rw [h]; rintro ⟨h3, -⟩; cases h3)]
  cases hp : e.payload with
  | nil => simp [channelOf, hp, pure, Except.pure]
  | cons b bs =>
    rw [if_pos ⟨h, by simp⟩]
    simp only [channelOf, h, hp, if_true, List.head?_cons, Option.some_or]
    rfl

/-- **One element more.** What `addElement` takes from an element is what the grammar says. -/
theorem addElement_beaconSays (head : Vector U8 36) (es : List Elem) (e : Elem) :
    (beaconSays head es).addElement e.id e.payload = .ok (beaconSays head (es ++ [e])) := by
  have hs1 : firstSsid [e] = ssidOf e := by
    cases h : ssidOf e <;> simp [firstSsid, h]
  have hc1 : lastChannel [e] = channelOf e := by
    cases h : channelOf e <;> simp [lastChannel, h]
  rw [beaconSays, beaconSays, firstSsid_append, lastChannel_append, hs1, hc1]
  by_cases h0 : e.id = 0
  · have hc : channelOf e = none := by simp [channelOf, h0]
    rw [hc, Option.none_or]
    cases hf : firstSsid es with
    | none => rw [addElement_ssidElem head _ h0, Option.none_or]
    | some s =>
      have hne := @ssidLen_ne_zero head s (lastChannel es) (length_of_firstSsid hf)
      unfold StaBssInfo.addElement
      rw [if_neg (fun hc => hne hc.2), if_neg (by rw [h0]; rintro ⟨h3, -⟩; cases h3),
        Option.some_or]
      rfl
  · have hs : ssidOf e = none := if_neg fun h => h0 h.1
    rw [hs, Option.or_none]
    by_cases h3 : e.id = 3
    · exact addElement_channelElem head _ _ h3
    · have hc : channelOf e = none := if_neg h3
      unfold StaBssInfo.addElement
      rw [if_neg (fun hc => h0 hc.1), if_neg (fun hc => h3 hc.1), hc, Option.none_or]
      rfl

/-! ## The loop of `parse_beacon` -/

/-- An empty element ends the loop. -/
theorem parseElements_empty (info : StaBssInfo) (pre rest : List U8) (h : e.payload = []) :
    parseElements (pre ++ (e.bytes ++ rest)) info pre.length = .ok info := by
  have hid : get (pre ++ (e.bytes ++ rest)) pre.length = .ok e.id := by
    simp [Slice.get, Elem.bytes]
  have hel : get (pre ++ (e.bytes ++ rest)) (pre.length + 1) = .ok 0 := by
    simp [Slice.get, Elem.bytes, h]
  have hlen : pre.length + 2 ≤ (pre ++ (e.bytes ++ rest)).length := by
    rw [List.length_append, List.length_append, e.length_bytes]
    omega
  rw [parseElements, if_pos hlen, hid, ok_bind, hel, ok_bind, if_pos (.inl rfl)]
  rfl

/-- **The loop reads up to the first empty element** and folds what it read. -/
theorem parseElements_encode (es : List Elem) (info : StaBssInfo) (pre : List U8) :
    parseElements (pre ++ encode es) info pre.length =
      (beforeEmpty es).foldlM (fun info e => info.addElement e.id e.payload) info := by
  induction es generalizing info pre with
  | nil =>
    rw [parseElements, if_neg (by simp)]
    rfl
  | cons e es ih =>
    rw [encode_cons, beforeEmpty]
    by_cases hp : e.payload = []
    · rw [parseElements_empty info pre _ hp, List.takeWhile_cons_of_neg (by simpa using hp)]
      rfl
    · have hpre : (pre ++ e.bytes).length = pre.length + 2 + e.payload.length := by
        rw [List.length_append, e.length_bytes]
        omega
      have hcons := parseElements_cons info pre (encode es) (List.length_pos_iff.2 hp)
      rw [List.takeWhile_cons_of_pos (by simpa using hp), List.foldlM_cons]
      refine hcons.trans (bind_congr fun info' => ?_)
      have hstep := ih info' (pre ++ e.bytes)
      rw [hpre, List.append_assoc] at hstep
      exact hstep

/-- The fold over a row of elements, from those already read on. -/
theorem foldlM_beaconSays (head : Vector U8 36) (done es : List Elem) :
    es.foldlM (fun info e => info.addElement e.id e.payload) (beaconSays head done) =
      (.ok (beaconSays head (done ++ es)) : Rs StaBssInfo) := by
  induction es generalizing done with
  | nil =>
    rw [List.append_nil]
    rfl
  | cons e es ih =>
    rw [List.foldlM_cons, addElement_beaconSays, ok_bind, ih, List.append_assoc,
      List.singleton_append]

/-- **What the parser returns**: what the elements in front of the first empty one say. -/
theorem parseBeacon_encode (head : Vector U8 36) (es : List Elem) :
    parseBeacon (head.toList ++ encode es) = .ok (beaconSays head (beforeEmpty es)) := by
  have hlen : head.toList.length = 36 := head.length_toList
  have hget : ∀ i (h : i < 36), get (head.toList ++ encode es) i = .ok head[i] := by
    intro i h
    simp [Slice.get, List.getElem?_append_left (hlen ▸ h), h]
  rw [parseBeacon, if_neg (by rw [List.length_append]; omega)]
  rw [hget 16 (by decide), ok_bind, hget 17 (by decide), ok_bind, hget 18 (by decide), ok_bind,
    hget 19 (by decide), ok_bind, hget 20 (by decide), ok_bind, hget 21 (by decide), ok_bind,
    hget 34 (by decide), ok_bind, hget 35 (by decide), ok_bind]
  have hloop := parseElements_encode es (beaconSays head []) head.toList
  rw [hlen, foldlM_beaconSays, List.nil_append] at hloop
  exact hloop

end

/-- No element behind an empty one matters: an SSID behind it comes after another one, and the last
channel behind it is the one already found. -/
def NothingHidden (es : List Elem) : Prop :=
  (firstSsid (beforeEmpty es) ≠ none ∨ firstSsid (fromEmpty es) = none) ∧
    ∀ c, lastChannel (fromEmpty es) = some c → (lastChannel (beforeEmpty es)).getD 0 = c

/-- The SSIDs of two results agree if the first ones do. -/
theorem firstSsid_eq_iff {b f : Option (List U8)} (hf : ∀ s, f = some s → 0 < s.length) :
    b.getD [] = (b.or f).getD [] ↔ b ≠ none ∨ f = none := by
  cases b with
  | some s => simp
  | none =>
    cases f with
    | none => simp
    | some s => simpa using (List.length_pos_iff.1 (hf s rfl)).symm

theorem lastChannel_eq_iff {b f : Option U8} :
    b.getD 0 = (f.or b).getD 0 ↔ ∀ c, f = some c → b.getD 0 = c := by
  cases f with
  | none => simp
  | some c => simp

/-- Two results agree if their SSIDs and channels do. -/
theorem bssInfo_eq_iff {head : Vector U8 36} {s s' : Option (List U8)} {c c' : Option U8}
    (hs : (s.getD []).length ≤ 32) (hs' : (s'.getD []).length ≤ 32) :
    bssInfo head s c = bssInfo head s' c' ↔ s.getD [] = s'.getD [] ∧ c.getD 0 = c'.getD 0 := by
  constructor
  · intro h
    have hlen := congrArg (fun i => i.ssidLen.toNat) h
    have hssid := congrArg StaBssInfo.ssid h
    simp only [bssInfo, BitVec.toNat_ofNat] at hlen hssid
    exact ⟨List.append_inj_left hssid (by omega), congrArg StaBssInfo.channel h⟩
  · rintro ⟨h1, h2⟩
    simp only [bssInfo, h1, h2]

theorem length_firstSsid_getD (es : List Elem) : ((firstSsid es).getD []).length ≤ 32 := by
  cases h : firstSsid es with
  | none => exact Nat.zero_le _
  | some s => exact (length_of_firstSsid h).2

/-- **The parser follows the grammar** exactly when no element behind an empty one matters. -/
theorem parseBeacon_says_iff (head : Vector U8 36) (es : List Elem) :
    parseBeacon (head.toList ++ encode es) = .ok (beaconSays head es) ↔ NothingHidden es := by
  have hsplit := beforeEmpty_append_fromEmpty es
  have hfirst := firstSsid_append (beforeEmpty es) (fromEmpty es)
  have hlast := lastChannel_append (beforeEmpty es) (fromEmpty es)
  rw [hsplit] at hfirst hlast
  rw [parseBeacon_encode, Except.ok.injEq, beaconSays, beaconSays,
    bssInfo_eq_iff (length_firstSsid_getD _) (length_firstSsid_getD _), hfirst, hlast,
    firstSsid_eq_iff (fun s h => (length_of_firstSsid h).1), lastChannel_eq_iff]
  rfl

theorem length_supportedRates_lt : SUPPORTED_RATES.length < 256 := by decide

/-- The fixed elements of the frames the library builds. -/
def ratesElem : Elem := ⟨1, SUPPORTED_RATES, length_supportedRates_lt⟩

def channelElem (channel : U8) : Elem := ⟨3, [channel], by simp⟩

/-- The elements of a hidden network on channel 6. -/
def hiddenNetwork : List Elem := [⟨0, [], by simp⟩, ratesElem, channelElem 6]

/-- The empty SSID element hides the channel. -/
theorem parseBeacon_hidden_ssid :
    parseBeacon ((Vector.replicate 36 0).toList ++ encode hiddenNetwork) = .ok { channel := 0 } ∧
      (beaconSays (Vector.replicate 36 0) hiddenNetwork).channel = 6 ∧
      parseBeacon ((Vector.replicate 36 0).toList ++ encode hiddenNetwork) ≠
        .ok (beaconSays (Vector.replicate 36 0) hiddenNetwork) := by
  have h := parseBeacon_encode (Vector.replicate 36 0) hiddenNetwork
  refine ⟨h, rfl, ?_⟩
  rw [h]
  intro hsame
  exact absurd (congrArg StaBssInfo.channel (Except.ok.inj hsame)) (by decide)

/-! ## Built frames -/

/-- What a builder returned is a stream of elements from `off` on: the SSID, then `rest`, and
nothing else. An SSID too long for its length byte is refused. -/
def WellFormed (r : Rs (List U8)) (off : Nat) (ssid : List U8) (rest : List (U8 × List U8)) :
    Prop :=
  (∀ frame, r = .ok frame →
    (split (frame.drop off)).map (List.map fun e => (e.id, e.payload)) = some ((0, ssid) :: rest)) ∧
  (255 < ssid.length → ∃ code, r = .error (.errno code))

/-- The header of a probe request. -/
def probeHead (srcMac : MacAddr) : List U8 :=
  [0x40, 0, 0, 0] ++ List.replicate 6 0xFF ++ srcMac.toList ++ List.replicate 6 0xFF ++ [0, 0]

/-- Everything `build_probe_request` writes. -/
def probeImage (ssid : List U8) (srcMac : MacAddr) : List U8 :=
  probeHead srcMac ++ (0 :: BitVec.ofNat 8 ssid.length :: ssid) ++ (1 :: 8 :: SUPPORTED_RATES)

theorem length_probeImage {ssid : List U8} {srcMac : MacAddr} :
    (probeImage ssid srcMac).length = 36 + ssid.length := by
  simp only [probeImage, probeHead, MacAddr.toList, SUPPORTED_RATES, List.length_append,
    List.length_cons, List.length_nil, List.length_replicate]
  omega

/-- **A probe request is its header and two elements.** -/
theorem fills_buildProbeRequest {ssid : List U8} {srcMac : MacAddr} :
    (buildProbeRequest ssid srcMac).Fills (probeImage ssid srcMac) := by
  refine fills_cleared ?_ (by rw [length_probeImage]; omega)
  refine lays_of_eq
    (lays_set_bind (by omega) <| lays_set_bind (by omega) <|
      lays_fill_bind (by omega) (by omega) <|
      lays_copyFromSlice_bind (by omega) (by omega) rfl <|
      lays_fill_bind (by omega) (by omega) <|
      lays_set_bind (by omega) <| lays_set_bind (by omega) <|
      lays_set_bind (by omega) <| lays_set_bind (by omega) <|
      lays_copyBytes_bind (by omega) (by omega) (by omega) <|
      lays_set_bind (by omega) <| lays_set_bind (by omega) <|
      lays_copyBytes (by omega) (by omega) (by simp [SUPPORTED_RATES])) ?_
  simp [probeImage, probeHead]

theorem beaconImage_split (ssid : List U8) (bssid : MacAddr) (channel : U8) :
    beaconImage ssid bssid channel = beaconHead bssid ++
      ((0 :: BitVec.ofNat 8 ssid.length :: ssid) ++ encode [ratesElem, channelElem channel]) := by
  simp [beaconImage, ratesElem, channelElem, Elem.bytes, SUPPORTED_RATES]

theorem probeImage_split (ssid : List U8) (srcMac : MacAddr) :
    probeImage ssid srcMac = probeHead srcMac ++
      ((0 :: BitVec.ofNat 8 ssid.length :: ssid) ++ encode [ratesElem]) := by
  simp [probeImage, ratesElem, Elem.bytes, SUPPORTED_RATES]

/-- The elements behind the SSID are a stream of their own. -/
theorem split_ssid {ssid : List U8} (h : ssid.length < 256) (es : List Elem) :
    split (0 :: BitVec.ofNat 8 ssid.length :: ssid ++ encode es) = some (⟨0, ssid, h⟩ :: es) :=
  split_eq_some_iff.2 rfl

/-- **A builder of an SSID element and fixed ones** writes a stream of elements exactly if the
length of the SSID fits its byte, or the buffer is too short to begin with. -/
theorem wellFormed_iff {n : Nat} {code : Int} {x : Out U8 Unit} {img front ssid : List U8}
    {es : List Elem} (buf : List U8) (hf : (sized n code x).Fills img) (hn : img.length = n)
    (himg : img = front ++ ((0 :: BitVec.ofNat 8 ssid.length :: ssid) ++ encode es)) :
    WellFormed (callOn (.sized n code x) buf) front.length ssid
        (es.map fun e => (e.id, e.payload)) ↔
      ssid.length ≤ 255 ∨ buf.length < img.length := by
  by_cases hb : buf.length < img.length
  · rw [callOn_sized_short (by omega)]
    refine ⟨fun _ => .inr hb, fun _ => ⟨fun frame h => ?_, fun _ => ⟨code, rfl⟩⟩⟩
    cases h
  · rw [callOn_of_fills hf (by omega)]
    constructor
    · rintro ⟨-, herr⟩
      by_contra hlong
      obtain ⟨c, hc⟩ := herr (by omega)
      cases hc
    · intro hs
      have hlen : ssid.length < 256 := by omega
      refine ⟨fun frame h => ?_, fun h => by omega⟩
      rw [← Except.ok.inj h, himg, List.drop_left, split_ssid hlen]
      rfl

/-- **Built management frames are streams of elements** exactly as long as the SSID has at most 255
bytes; a longer one is refused only where the buffer is too short for the frame. -/
theorem mgmt_frames_wellFormed_iff (ssid : List U8) (addr : MacAddr) (channel : U8)
    (buf : List U8) :
    (WellFormed (callOn (buildBeacon ssid addr channel) buf) 36 ssid
        [(1, SUPPORTED_RATES), (3, [channel])] ↔
      ssid.length ≤ 255 ∨ buf.length < 51 + ssid.length) ∧
    (WellFormed (callOn (buildProbeRequest ssid addr) buf) 24 ssid [(1, SUPPORTED_RATES)] ↔
      ssid.length ≤ 255 ∨ buf.length < 36 + ssid.length) := by
  constructor
  · have hlen := @length_beaconImage ssid addr channel
    rw [← hlen]
    exact wellFormed_iff buf fills_buildBeacon (by omega) (beaconImage_split ssid addr channel)
  · have hlen := @length_probeImage ssid addr
    rw [← hlen]
    exact wellFormed_iff buf fills_buildProbeRequest (by omega) (probeImage_split ssid addr)

/-- An SSID of 256 bytes is accepted, with 0 as its length. -/
theorem mgmt_frames_ssid_256 :
    ¬WellFormed (callOn (buildBeacon (List.replicate 256 0x41) ⟨0, 0x0c, 0x43, 0x76, 0x03, 0x01⟩ 6)
        (List.replicate 512 0)) 36 (List.replicate 256 0x41) [(1, SUPPORTED_RATES), (3, [6])] ∧
    ¬WellFormed (callOn (buildProbeRequest (List.replicate 256 0x41)
        ⟨0, 0x0c, 0x43, 0x76, 0x03, 0x01⟩) (List.replicate 512 0)) 24
        (List.replicate 256 0x41) [(1, SUPPORTED_RATES)] := by
  constructor
  · rintro ⟨-, herr⟩
    obtain ⟨code, hcode⟩ := herr (by rw [List.length_replicate]; decide)
    rw [callOn_of_fills fills_buildBeacon (by
      rw [length_beaconImage, List.length_replicate, List.length_replicate]
      omega)] at hcode
    cases hcode
  · rintro ⟨-, herr⟩
    obtain ⟨code, hcode⟩ := herr (by rw [List.length_replicate]; decide)
    rw [callOn_of_fills fills_buildProbeRequest (by
      rw [length_probeImage, List.length_replicate, List.length_replicate]
      omega)] at hcode
    cases hcode

end Rust
