import KeyRight.Core.Faithful
import KeyRight.Core.Reconciliation
import KeyRight.Core.StockPwm
import KeyRight.App.Console
import KeyRight.App.Escalation
import KeyRight.App.Sustained
import KeyRight.App.RetryIo
import KeyRight.App.Passcode
import KeyRight.Support.Intervals
import KeyRight.Scripts.Flash
import KeyRight.App.Bench
import KeyRight.App.RecordFormat
import KeyRight.App.Durability
import KeyRight.App.Reboot
import KeyRight.App.Recovery
import KeyRight.App.Frames
import KeyRight.App.Interpolation
import KeyRight.App.Reports
import KeyRight.App.Dormancy
import KeyRight.App.TimedOff
import KeyRight.App.Command
import KeyRight.App.Resumption
import KeyRight.App.Positional
import KeyRight.App.Remembered
import KeyRight.App.Retention
import KeyRight.App.Follows
import KeyRight.App.Quietly
import KeyRight.App.SceneDraft
import KeyRight.App.Scenes
import KeyRight.App.GlobalScene
import KeyRight.App.LevelMove
import KeyRight.App.Interchange
import KeyRight.App.PhysicalOutput
import KeyRight.App.Boot
import KeyRight.App.OffEffects
import KeyRight.App.StartupSettings
import KeyRight.App.Echo
import KeyRight.App.StopLevel
import KeyRight.App.Repetition
import KeyRight.App.Watch
import KeyRight.App.Countdown
import KeyRight.App.HeldScene
import KeyRight.App.ReportLoop
import KeyRight.App.HealthyTime
import KeyRight.App.UsbConsole
import KeyRight.App.WifiController
import KeyRight.App.Device
import KeyRight.App.Convergence
import KeyRight.App.Lifetimes
import KeyRight.App.Wakeups
import KeyRight.App.ColorMove
import KeyRight.App.SceneCapture
import KeyRight.Support.Channel
import KeyRight.App.UsbOutput
import KeyRight.App.UsbReplies
