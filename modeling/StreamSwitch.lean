import StreamSwitch.Lib.Run
import StreamSwitch.Lib.Codec
import StreamSwitch.Lib.Tasks
import StreamSwitch.Lib.Txn
import StreamSwitch.Lib.Wire
import StreamSwitch.Lib.ReqRep
import StreamSwitch.Lib.Gap
import StreamSwitch.Lib.Getopt
import StreamSwitch.Lib.Registry
import StreamSwitch.Lib.Pool
import StreamSwitch.Lib.Shelf
import StreamSwitch.Lib.Clock
import StreamSwitch.Lib.Buffer
import StreamSwitch.Lib.Readers
import StreamSwitch.Lib.Binary64
import StreamSwitch.Lib.Alarms
import StreamSwitch.Lib.Bits
import StreamSwitch.Lib.BitFields
import StreamSwitch.Lib.Crc
import StreamSwitch.Lib.Sentences
import StreamSwitch.Lib.StreamCode
import StreamSwitch.Lib.Lossy
import StreamSwitch.Lib.Search
import StreamSwitch.Lib.Halving
import StreamSwitch.Lib.Rfc3550
import StreamSwitch.Strtol
import StreamSwitch.Defs
import StreamSwitch.CString
import StreamSwitch.Proto
import StreamSwitch.ProtoWire
import StreamSwitch.Source.Api
import StreamSwitch.Source.Media
import StreamSwitch.Source.Metadata
import StreamSwitch.Source.Clients
import StreamSwitch.Source.Bitrate
import StreamSwitch.Source.Lifecycle
import StreamSwitch.Sink.Media
import StreamSwitch.Sink.Metadata
import StreamSwitch.Sink.Heartbeat
import StreamSwitch.Sink.Worker
import StreamSwitch.Link.Publish
import StreamSwitch.Link.Metadata
import StreamSwitch.Link.Statistic
import StreamSwitch.Link.Loss
import StreamSwitch.Link.Lease
import StreamSwitch.Rpc.Sink
import StreamSwitch.Sink.Lifecycle
import StreamSwitch.Sink.Address
import StreamSwitch.Rpc.Controller
import StreamSwitch.Rpc.Replies
import StreamSwitch.Rpc.Queries
import StreamSwitch.Link.Pages
import StreamSwitch.Proxy.Source
import StreamSwitch.Proxy.Url
import StreamSwitch.Proxy.Lifecycle
import StreamSwitch.Proxy.Relay
import StreamSwitch.Logger.Rotate
import StreamSwitch.Process.Watcher
import StreamSwitch.Process.Phase
import StreamSwitch.Process.Port
import StreamSwitch.Process.Stream
import StreamSwitch.Process.StreamInfo
import StreamSwitch.Process.StreamMngr
import StreamSwitch.Service.Stream
import StreamSwitch.Service.Consistent
import StreamSwitch.Service.Notifier
import StreamSwitch.RtspSource.Pts
import StreamSwitch.RtspSource.PtsTimes
import StreamSwitch.RtspSource.Client
import StreamSwitch.RtspSource.Frames
import StreamSwitch.RtspSource.Assembly
import StreamSwitch.RtspSource.Responses
import StreamSwitch.RtspSource.Timers
import StreamSwitch.RtspSource.SubStreams
import StreamSwitch.RtspPort.BufferQueue
import StreamSwitch.RtspPort.Advance
import StreamSwitch.RtspPort.Delivery
import StreamSwitch.RtspPort.SeenCount
import StreamSwitch.RtspPort.Unseen
import StreamSwitch.RtspPort.Mp2p
import StreamSwitch.RtspPort.PesEncoding
import StreamSwitch.RtspPort.RtpFrag
import StreamSwitch.RtspPort.PutBits
import StreamSwitch.RtspPort.PsHeaders
import StreamSwitch.RtspPort.ProgramStream
import StreamSwitch.RtspPort.Rtcp
import StreamSwitch.RtspPort.Opening
import StreamSwitch.RtspPort.H264
import StreamSwitch.RtspPort.H264Bounds
import StreamSwitch.RtspPort.Rtsp
import StreamSwitch.RtspPort.StreamUrl
import StreamSwitch.RtspPort.Session
import StreamSwitch.RtspPort.Requests
import StreamSwitch.RtspPort.Resources
import StreamSwitch.RtspPort.Transport
import StreamSwitch.RtspPort.Receive
import StreamSwitch.RtspPort.Framing
import StreamSwitch.RtspPort.MessageEnd
import StreamSwitch.RtspPort.HandedOn
import StreamSwitch.RtspPort.Responses
import StreamSwitch.RtspPort.Answers
import StreamSwitch.RtspPort.RtpSession
import StreamSwitch.RtspPort.Interleaved
import StreamSwitch.RtspPort.SoleConsumer
import StreamSwitch.RtspPort.LiveVideo
import StreamSwitch.RtspPort.Children
import StreamSwitch.FfmpegSource.Parser
import StreamSwitch.FfmpegSource.Demuxer
import StreamSwitch.FfmpegSource.Sync
import StreamSwitch.FfmpegSource.Reopen
import StreamSwitch.FfmpegSource.Cache
import StreamSwitch.FfmpegSource.Timestamps
import StreamSwitch.FfmpegSource.Start
import StreamSwitch.FfmpegSource.AvcC
import StreamSwitch.FfmpegSource.AnnexB
import StreamSwitch.FfmpegSource.ExtraData
import StreamSwitch.FfmpegSource.Entries
import StreamSwitch.FfmpegSender.Golomb
import StreamSwitch.FfmpegSender.Fields
import StreamSwitch.FfmpegSender.SpsSyntax
import StreamSwitch.FfmpegSender.DecSps
import StreamSwitch.FfmpegSender.FrameSize
import StreamSwitch.FfmpegSender.DecSps265
import StreamSwitch.FfmpegSender.AudioFifo
import StreamSwitch.FfmpegSender.AudioSync
import StreamSwitch.FfmpegSender.Checked
import StreamSwitch.FfmpegSender.CheckedSps
import StreamSwitch.FfmpegSender.Emulation
import StreamSwitch.FfmpegSender.Bitstream
import StreamSwitch.FfmpegSender.Mpeg4
import StreamSwitch.FfmpegSender.Mpeg4Syntax
import StreamSwitch.FfmpegSender.Safety
import StreamSwitch.Conf.Caseless
import StreamSwitch.Conf.Array
import StreamSwitch.Cmd.ArgParser
import StreamSwitch.Cmd.CommandLine
import StreamSwitch.Cmd.Senders
import StreamSwitch.Cmd.Sources
import StreamSwitch.Cmd.Ports
