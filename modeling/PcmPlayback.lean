import PcmPlayback.SampleFormat
import PcmPlayback.Stage
import PcmPlayback.Handle
import PcmPlayback.Error
import PcmPlayback.Outcome
import PcmPlayback.Setup
import PcmPlayback.Word
import PcmPlayback.Tick
import PcmPlayback.Capabilities
import PcmPlayback.Playhead
import PcmPlayback.LoopedSource
import PcmPlayback.Ring
import PcmPlayback.Waveform
import PcmPlayback.Clock
import PcmPlayback.Delivery
import PcmPlayback.Device.Basic
import PcmPlayback.Device.Calls
import PcmPlayback.Device.Timer
import PcmPlayback.Deck
import PcmPlayback.Session
import PcmPlayback.StreamTable
import PcmPlayback.Rack
import PcmPlayback.Trial
import PcmPlayback.Proofs.Motion
import PcmPlayback.Proofs.Journal
import PcmPlayback.Proofs.Effects
import PcmPlayback.Proofs.Scene
import PcmPlayback.Proofs.Accounts
import PcmPlayback.Proofs.Position
import PcmPlayback.Proofs.Reports
import PcmPlayback.Proofs.Alarm
import PcmPlayback.Proofs.Arrears
import PcmPlayback.Proofs.Timeliness
import PcmPlayback.Proofs.Grid
import PcmPlayback.Proofs.Consistency
import PcmPlayback.Proofs.Lifecycle
import PcmPlayback.Proofs.Silence
import PcmPlayback.Proofs.Content
import PcmPlayback.Proofs.Twins
import PcmPlayback.Proofs.Agreement
import PcmPlayback.Proofs.Refusal
import PcmPlayback.Proofs.Frames
import PcmPlayback.Proofs.Reentry
import PcmPlayback.Proofs.Past
import PcmPlayback.Proofs.Residue
import PcmPlayback.Proofs.Renewal
import PcmPlayback.Proofs.Reading
import PcmPlayback.Proofs.Endings
import PcmPlayback.Proofs.Rounds
import PcmPlayback.Proofs.Drift
import PcmPlayback.Proofs.Handles
import PcmPlayback.Proofs.Seats
import PcmPlayback.Proofs.Odometer
import PcmPlayback.Proofs.Backlog
import PcmPlayback.Proofs.Headroom
import PcmPlayback.Proofs.Misstart
import PcmPlayback.Proofs.Settling
import PcmPlayback.Proofs.Tenancy
import PcmPlayback.Proofs.Occupancy
import PcmPlayback.Proofs.Closing
import PcmPlayback.Proofs.Independence
import PcmPlayback.Proofs.Slices
import PcmPlayback.Proofs.Circulation
import PcmPlayback.Proofs.Excerpts
import PcmPlayback.Proofs.Admission
import PcmPlayback.Proofs.Wakeups
import PcmPlayback.Proofs.Overrides
import PcmPlayback.Proofs.Sleeping
import PcmPlayback.Proofs.Countdown
