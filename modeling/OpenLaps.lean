import OpenLaps.Agent.DistanceOrigin
import OpenLaps.Agent.EncodeFailures
import OpenLaps.Agent.MessageIds
import OpenLaps.Agent.PublisherShedding
import OpenLaps.Collectors.FrameClock
import OpenLaps.Core.Generations
import OpenLaps.Core.RbeTypes
import OpenLaps.Firmware.Labelling
import OpenLaps.Fusion.Failover
import OpenLaps.Pit.Findings.Reconciliation
import OpenLaps.Pit.Ingest.FlushCuts
import OpenLaps.Pit.Ingest.FlushOutcomes
import OpenLaps.Pit.Ingest.Poison
import OpenLaps.Pit.Ingest.Restart
import OpenLaps.Pit.Ingest.StaleSectors
import OpenLaps.Pit.Ingest.StreamOrder
import OpenLaps.Pit.LiveDecoder.Rates
import OpenLaps.Pit.Notifier.Dispatcher
import OpenLaps.Pit.Notifier.Episodes
import OpenLaps.Pit.Notifier.Pacing
import OpenLaps.Pit.RoundTrip
import OpenLaps.Pit.Session.Atomicity
import OpenLaps.Pit.Session.Attribution
import OpenLaps.Pit.Strategy.Feasibility
import OpenLaps.Pit.Strategy.FuelConservation
import OpenLaps.Pit.Strategy.OpenStops
import OpenLaps.Pit.Strategy.Window
import OpenLaps.Pit.Strategy.Envelope
import OpenLaps.Pit.TimingFeed.FramingRoundTrip
import OpenLaps.Pit.TimingFeed.FieldTables
import OpenLaps.Pit.TimingFeed.LapDerivation
import OpenLaps.Pit.TimingFeed.Repetition
import OpenLaps.Pit.TimingFeed.WebSocketMessages
import OpenLaps.Pit.Watch.LateSamples
import OpenLaps.Timing.LapBook
import OpenLaps.Timing.SegmentOrder
import OpenLaps.Tools.ExactlyOnce
import OpenLaps.Lib.Alignment
import OpenLaps.Tools.CompareTiming
import OpenLaps.Fusion.Latch
import OpenLaps.Firmware.ZdaDate
import OpenLaps.Core.Strings
import OpenLaps.Collectors.Nmea
import OpenLaps.Core.StringRules
import OpenLaps.Collectors.NmeaCorruption
import OpenLaps.Collectors.NmeaWriting
import OpenLaps.Pit.Gga
import OpenLaps.Tools.RmcSentence
import OpenLaps.Pit.TimingExtrapolator.Engine
import OpenLaps.Pit.TimingExtrapolator.Service
import OpenLaps.Pit.TimingExtrapolator.Rejections
import OpenLaps.Agent.FusionApp
import OpenLaps.Agent.ImuFrames
import OpenLaps.Timing.CrossingGeometry
import OpenLaps.Timing.ReferenceCurve
import OpenLaps.Pit.Strategy.DrivenTime
import OpenLaps.Pit.NtripClient.Stream
import OpenLaps.Tools.SequenceAcceptance
import OpenLaps.Collectors.SerialLines
import OpenLaps.Pit.TimingFeed.SnapshotErrors
import OpenLaps.Tools.LapReconstruction
import OpenLaps.Tools.MixedDump
import OpenLaps.Pit.Session.Publication
import OpenLaps.Pit.Session.RacePlan
import OpenLaps.Pit.Migrations
import OpenLaps.Tools.Replay
import OpenLaps.Collectors.RawLog
import OpenLaps.Pit.LiveDecoder.Bridge
