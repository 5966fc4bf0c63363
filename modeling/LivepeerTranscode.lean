import LivepeerTranscode.LiveRunner.MeteredRuns
import LivepeerTranscode.LiveRunner.DeliveryRuns
import LivepeerTranscode.Gateway.RequestHash
import LivepeerTranscode.Gateway.VodLeases
import LivepeerTranscode.LiveRunner.Closing
import LivepeerTranscode.TranscodeCore.GpuExclusion
import LivepeerTranscode.Exchange.FrameUnits
import LivepeerTranscode.Exchange.Playlists
import LivepeerTranscode.Exchange.TerminalError
import LivepeerTranscode.Exchange.AcceptedRenditions
import LivepeerTranscode.Gateway.AssetLifecycle
import LivepeerTranscode.Gateway.OmittedUnits
import LivepeerTranscode.Gateway.AdvisoryFrames
import LivepeerTranscode.Gateway.RelaySetups
import LivepeerTranscode.LiveRunner.CallbackAttempts
import LivepeerTranscode.LiveRunner.HlsProxy
import LivepeerTranscode.TranscodeRunner.EventLoop
import LivepeerTranscode.Gateway.HlsPlayback
import LivepeerTranscode.Gateway.AssetListing
import LivepeerTranscode.Gateway.RateLimit
import LivepeerTranscode.LiveRunner.RetryDelay
import LivepeerTranscode.LiveRunner.MediaPaths
import LivepeerTranscode.LiveRunner.HlsSegments
