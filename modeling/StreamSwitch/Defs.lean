import Mathlib.Algebra.Group.Int.Defs
import Mathlib.Algebra.GroupWithZero.Nat
import Mathlib.Tactic.Common

/-!
# The data model of the library

The public types of `stsw_defs.h`: media types, stream metadata, the counters of
a sub-stream, media frames and client descriptions. Fields keep the widths of
the header; the defaults are those of the C++ constructors.
-/

namespace StreamSwitch

abbrev Bytes := List UInt8

/-- A C `double` that is only copied: its bit pattern. -/
structure Double where
  bits : UInt64
deriving DecidableEq, Repr

/-- `(int32_t)n` for a `size_t` `n`. -/
def int32OfSize (n : Nat) : Int := (n : Int).bmod (2 ^ 32)

theorem int32OfSize_eq {n : Nat} (h : n < 2 ^ 31) : int32OfSize n = n := by
  unfold int32OfSize
  rw [Int.bmod_eq_of_le] <;> omega

theorem int32OfSize_lt (n : Nat) : int32OfSize n < 2 ^ 31 := by
  have := Int.bmod_lt (x := n) (m := 2 ^ 32) (by decide)
  unfold int32OfSize
  omega

/-- The cast never makes a size larger. -/
theorem int32OfSize_le (n : Nat) : int32OfSize n ≤ n := by
  by_cases h : n < 2 ^ 31
  · exact Int.le_of_eq (int32OfSize_eq h)
  · have := int32OfSize_lt n
    omega

/-- A size the cast keeps is below `2^31`. -/
theorem lt_of_int32OfSize_eq {n : Nat} (h : int32OfSize n = n) : n < 2 ^ 31 := by
  have := int32OfSize_lt n
  omega

/-! ## Enumerations -/

inductive StreamPlayType | live | replay
deriving DecidableEq, Repr

inductive SubStreamMediaType | video | audio | text | priv
deriving DecidableEq, Repr

inductive SubStreamDirectionType | outbound | inbound
deriving DecidableEq, Repr

inductive MediaFrameType | keyFrame | dataFrame | paramFrame | eofFrame
deriving DecidableEq, Repr

/-- The frame carries media data: a key or a data frame. -/
def MediaFrameType.isMedia : MediaFrameType → Bool
  | .keyFrame | .dataFrame => true
  | .paramFrame | .eofFrame => false

/-- `SourceStreamState`. The last value exists in the protocol only. -/
inductive SourceStreamState
  | connecting | ok | err | errConnectFail | errMeidaStop | errTime | errTimeout
deriving DecidableEq, Repr

inductive StreamClientIPVersion | v4 | v6
deriving DecidableEq, Repr

/-- `ErrorCode` of `stsw_defs.h`. -/
inductive ErrorCode
  | ok | general | timeout | param | client | server | system | busy | parse | options
  | metadataMismatch
deriving DecidableEq, Repr

def ErrorCode.toInt : ErrorCode → Int
  | .ok => 0
  | .general => -1
  | .timeout => -2
  | .param => -3
  | .client => -4
  | .server => -5
  | .system => -6
  | .busy => -7
  | .parse => -8
  | .options => -9
  | .metadataMismatch => -10

/-! ## Stream metadata -/

structure VideoMediaParam where
  height : UInt32 := 0
  width : UInt32 := 0
  fps : UInt32 := 0
  gov : UInt32 := 0
deriving DecidableEq, Repr

structure AudioMediaParam where
  samplesPerSecond : UInt32 := 0
  channels : UInt32 := 0
  bitsPerSample : UInt32 := 0
  sampelePerFrame : UInt32 := 0
deriving DecidableEq, Repr

structure TextMediaParam where
  x : UInt32 := 0
  y : UInt32 := 0
  foneSize : UInt32 := 0
  fontType : String := ""
deriving DecidableEq, Repr

structure MediaParam where
  video : VideoMediaParam := {}
  audio : AudioMediaParam := {}
  text : TextMediaParam := {}
deriving DecidableEq, Repr

structure SubStreamMetadata where
  subStreamIndex : Int32 := 0
  mediaType : SubStreamMediaType := .video
  codecName : String := ""
  direction : SubStreamDirectionType := .outbound
  extraData : Bytes := []
  mediaParam : MediaParam := {}
deriving DecidableEq, Repr

structure StreamMetadata where
  playType : StreamPlayType := .live
  sourceProto : String := ""
  ssrc : UInt32 := 0
  streamLen : Double := ⟨0⟩
  bps : UInt32 := 0
  subStreams : List SubStreamMetadata := []
deriving DecidableEq, Repr

/-! ## Statistics -/

structure SubStreamMediaStatistic where
  subStreamIndex : Int32 := 0
  mediaType : SubStreamMediaType := .video
  dataBytes : UInt64 := 0
  keyBytes : UInt64 := 0
  lostFrames : UInt64 := 0
  dataFrames : UInt64 := 0
  keyFrames : UInt64 := 0
  lastGov : UInt64 := 0
  curGov : UInt64 := 0
  lastSeq : UInt64 := 0
deriving DecidableEq, Repr

/-- The first `n` entries that `statistic_.clear(); statistic_.resize(n)` and the loop over
`i < n` leave for the sub-streams `subs`: both ends reset their counters this way. -/
def resetStatistic (subs : List SubStreamMetadata) (n : Nat) : List SubStreamMediaStatistic :=
  (subs.take n).mapIdx fun i sub =>
    { subStreamIndex := Int32.ofNat i, mediaType := sub.mediaType }

@[simp] theorem resetStatistic_length (subs : List SubStreamMetadata) (n : Nat) :
    (resetStatistic subs n).length = min n subs.length := by
  simp [resetStatistic]

theorem resetStatistic_getElem? (subs : List SubStreamMetadata) (n i : Nat) :
    (resetStatistic subs n)[i]? = (subs.take n)[i]?.map fun sub =>
      { subStreamIndex := Int32.ofNat i, mediaType := sub.mediaType } := by
  simp [resetStatistic, List.getElem?_mapIdx]

/-- The statistics of a stream, as an API call hands them out. -/
structure MediaStatisticInfo where
  ssrc : UInt32
  timestamp : Int64
  sumBytes : UInt64
  subStreams : List SubStreamMediaStatistic := []
deriving DecidableEq, Repr

/-! ## Frames and clients -/

structure Timeval where
  tvSec : Int64 := 0
  tvUsec : Int64 := 0
deriving DecidableEq, Repr

structure MediaFrameInfo where
  subStreamIndex : Int32 := 0
  frameType : MediaFrameType := .dataFrame
  timestamp : Timeval := {}
  ssrc : UInt32 := 0
deriving DecidableEq, Repr

structure StreamClientInfo where
  clientIpVersion : StreamClientIPVersion := .v4
  clientIp : String := "127.0.0.1"
  clientPort : Int32 := 0
  clientToken : String := ""
  clientProtocol : String := "uninit"
  clientText : String := ""
  lastActiveTime : Int64 := 0
deriving DecidableEq, Repr

/-- `STSW_CLIENT_LEASE`, in seconds. -/
def stswClientLease : Int := 15

/-- `STSW_MAX_CLIENT_NUM`. -/
def stswMaxClientNum : Nat := 32767

end StreamSwitch
