import SmartHelmet.PulseValidity
import SmartHelmet.StaleBaseline
import SmartHelmet.BandEnergy
import SmartHelmet.AbsenceDetection
import SmartHelmet.FallLatch
import SmartHelmet.HoldoffRuns
import SmartHelmet.LinkRuns
import SmartHelmet.SplitInvariance
import SmartHelmet.FallReports
import SmartHelmet.ReportDisturbance
import SmartHelmet.MotionReports
import SmartHelmet.PollSessions
import SmartHelmet.QuietTimers
import SmartHelmet.BrOnlineRuns
import SmartHelmet.AdcLedger
import SmartHelmet.I2cAddressing
import SmartHelmet.BringupRuns
import SmartHelmet.LimboPowerOff
import SmartHelmet.OledCache
import SmartHelmet.SteadyRate
import SmartHelmet.DeltaGuard
import SmartHelmet.LinkSupervision
import SmartHelmet.MotionAdaptInert
import SmartHelmet.TelemetryReplay
import SmartHelmet.ReportSending
import SmartHelmet.FftExcess
import SmartHelmet.MotionGateRuns
import SmartHelmet.GasReadings
import SmartHelmet.StatusDigit
import SmartHelmet.RejoinLimit
import SmartHelmet.TimebaseRuns
import SmartHelmet.PeakIntervals
import SmartHelmet.RespirationQuality
import SmartHelmet.CancellerRange
import SmartHelmet.FilterRanges
import SmartHelmet.RingHistory
import SmartHelmet.ExactStatistics
import SmartHelmet.SpectrumBand
import SmartHelmet.FftHeadroom
import SmartHelmet.ReceiveAssembly
import SmartHelmet.PowerWaiting
import SmartHelmet.PowerOffRaces
import SmartHelmet.SensorSleep
import SmartHelmet.SensorRefinement
import SmartHelmet.ShutdownSafety
