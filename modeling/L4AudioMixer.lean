import L4AudioMixer.Lib.Cxx
import L4AudioMixer.Lib.Java
import L4AudioMixer.Lib.Memory
import L4AudioMixer.Lib.Loop
import L4AudioMixer.Lib.Machine
import L4AudioMixer.Lib.Blocks
import L4AudioMixer.Lib.BlockQueue
import L4AudioMixer.Lib.Heap
import L4AudioMixer.Lib.OrderedMap
import L4AudioMixer.Lib.Roster
import L4AudioMixer.Lib.Refinement
import L4AudioMixer.Lib.Serving
import L4AudioMixer.Lib.Avoids
import L4AudioMixer.Lib.Scan
import L4AudioMixer.Libav.Api
import L4AudioMixer.Libav.CodecContract
import L4AudioMixer.Libav.SampleContract
import L4AudioMixer.Libav.SampleLayout
import L4AudioMixer.WebRtc.AudioFrame
import L4AudioMixer.WebRtc.BufferT
import L4AudioMixer.WebRtc.AudioMixerImpl
import L4AudioMixer.Decoder.AudioFileDecoder
import L4AudioMixer.Decoder.Steps
import L4AudioMixer.Decoder.PumpTheorems
import L4AudioMixer.Decoder.FifoTheorems
import L4AudioMixer.Decoder.SupplyTheorems
import L4AudioMixer.Source.AudioSource
import L4AudioMixer.Source.AudioRecordSource
import L4AudioMixer.Source.AudioResampler
import L4AudioMixer.Source.AudioFileSource
import L4AudioMixer.Source.RecordQueueTheorems
import L4AudioMixer.Source.RecordSourceTheorems
import L4AudioMixer.Source.RecordRunTheorems
import L4AudioMixer.Source.ResamplerTheorems
import L4AudioMixer.Source.FileSourceTheorems
import L4AudioMixer.Source.FileDeliveryTheorems
import L4AudioMixer.Source.FileFrameTheorems
import L4AudioMixer.Source.LayoutTheorems
import L4AudioMixer.Source.OpenTheorems
import L4AudioMixer.Source.PlaybackTheorems
import L4AudioMixer.Mixer.AudioMixer
import L4AudioMixer.Mixer.Effects
import L4AudioMixer.Mixer.RegistryTheorems
import L4AudioMixer.Mixer.RateTheorems
import L4AudioMixer.Mixer.RecordedDataTheorems
import L4AudioMixer.Mixer.RecordFrameTheorems
import L4AudioMixer.Mixer.OutputSizeTheorems
import L4AudioMixer.Mixer.Alike
import L4AudioMixer.Mixer.InstallTheorems
import L4AudioMixer.Mixer.Entries
import L4AudioMixer.Mixer.IsolationTheorems
import L4AudioMixer.Mixer.ProgressTheorems
import L4AudioMixer.Mixer.Ensemble
import L4AudioMixer.Mixer.EnsembleTheorems
import L4AudioMixer.Mixer.HistoryTheorems
import L4AudioMixer.Mixer.SessionTheorems
import L4AudioMixer.Mixer.PlaybackTheorems
import L4AudioMixer.Android.Wrappers
import L4AudioMixer.Android.ResampleTheorems
import L4AudioMixer.Android.ConsumeTheorems
import L4AudioMixer.Android.ReadTheorems
import L4AudioMixer.Ios.AudioMixerTestController
import L4AudioMixer.Ios.ReblockTheorems
import L4AudioMixer.Ios.RecordTestTheorems
import L4AudioMixer.Ios.Playout
import L4AudioMixer.Ios.PlayoutTheorems
import L4AudioMixer.Ios.MixTestTheorems
import L4AudioMixer.Ios.DecodeTestTheorems
import L4AudioMixer.Ios.ResampleTestTheorems
import L4AudioMixer.Ios.StopTheorems
import L4AudioMixer.Djinni.ProxyCache
import L4AudioMixer.Djinni.ProxyCacheTheorems
import L4AudioMixer.Djinni.ProxyLifeTheorems
import L4AudioMixer.Djinni.Strings
import L4AudioMixer.Djinni.StringTheorems
