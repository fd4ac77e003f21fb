import Mt7603u.Base.Effect
import Mt7603u.Base.Refine
import Mt7603u.Base.Slice
import Mt7603u.Base.Word
import Mt7603u.Base.Counter
import Mt7603u.Base.Skb
import Mt7603u.Base.Packed
import Mt7603u.Base.Segments
import Mt7603u.Base.Tlv
import Mt7603u.Base.LastWrite
import Mt7603u.Base.Interleave
import Mt7603u.Base.Pool
import Mt7603u.Rust.Ffi
import Mt7603u.Rust.RegMap
import Mt7603u.Rust.Rx
import Mt7603u.Rust.Tx
import Mt7603u.Rust.Mac
import Mt7603u.Rust.Sta
import Mt7603u.Rust.Ap
import Mt7603u.Rust.Mcu
import Mt7603u.Rust.Eeprom
import Mt7603u.Rust.Lib
import Mt7603u.Driver.RegOps
import Mt7603u.Driver.Mac80211
import Mt7603u.Driver.RxComplete
import Mt7603u.Driver.TxPath
import Mt7603u.Driver.Download
import Mt7603u.Driver.RspUrb
import Mt7603u.Driver.Lifecycle
import Mt7603u.Driver.Efuse
import Mt7603u.Driver.RxUrbs
import Mt7603u.Driver.TxUrbs
import Mt7603u.Driver.BeaconWork
import Mt7603u.Driver.ControlMsg
import Mt7603u.Driver.Probe
import Mt7603u.Proof.RxParse
import Mt7603u.Proof.RxDeagg
import Mt7603u.Proof.RxReport
import Mt7603u.Proof.Builders
import Mt7603u.Proof.FwTxd
import Mt7603u.Proof.BeaconFrame
import Mt7603u.Proof.Elements
import Mt7603u.Proof.BlockAck
import Mt7603u.Proof.RegMap
import Mt7603u.Proof.Txd
import Mt7603u.Proof.TxFrame
import Mt7603u.Proof.TxComplete
import Mt7603u.Proof.Exchange
import Mt7603u.Proof.UrbStep
import Mt7603u.Proof.Download
import Mt7603u.Proof.RspUrb
import Mt7603u.Proof.SchReg
import Mt7603u.Proof.Bypass
import Mt7603u.Proof.RomReady
import Mt7603u.Proof.Callbacks
import Mt7603u.Proof.ApAddress
import Mt7603u.Proof.Wtbl
import Mt7603u.Proof.GroupKey
import Mt7603u.Proof.Clients
import Mt7603u.Proof.KeySlots
import Mt7603u.Proof.KeyFaults
import Mt7603u.Proof.Lifecycle
import Mt7603u.Proof.BeaconTimer
import Mt7603u.Proof.RxFilter
import Mt7603u.Proof.TxByteCount
import Mt7603u.Proof.QueueEndpoint
import Mt7603u.Proof.FwLength
import Mt7603u.Proof.ChannelSwitch
import Mt7603u.Proof.RadioExchange
import Mt7603u.Proof.TunedChannel
import Mt7603u.Proof.CmdSeq
import Mt7603u.Proof.StartFail
import Mt7603u.Proof.BaFaults
import Mt7603u.Proof.Exported
import Mt7603u.Proof.Efuse
import Mt7603u.Proof.RxUrbs
import Mt7603u.Proof.TxUrbs
import Mt7603u.Proof.BeaconWork
import Mt7603u.Proof.OutEndpoint
import Mt7603u.Proof.ChipView
import Mt7603u.Proof.ChipRun
import Mt7603u.Proof.Station
import Mt7603u.Proof.AirRate
import Mt7603u.Proof.ControlMsg
import Mt7603u.Proof.Probe
