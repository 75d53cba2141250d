import RmTest.Library.Total
import RmTest.Library.Run
import RmTest.Library.Conduit
import RmTest.Library.Unwrap
import RmTest.Library.SlidingBuffer
import RmTest.Library.CheckedArray
import RmTest.Library.StreamParser
import RmTest.Library.SharedWord
import RmTest.Library.BoundedQueue
import RmTest.Library.LatestValue
import RmTest.Library.Cells
import RmTest.Library.SlotTable
import RmTest.Library.FloatModel
import RmTest.Library.Single
import RmTest.Library.SingleRounding
import RmTest.Library.SingleArithmetic
import RmTest.Library.Bytes
import RmTest.Library.Bits
import RmTest.Library.Scan
import RmTest.Library.Print
import RmTest.Library.Decimal
import RmTest.Library.Covariance
import RmTest.Library.Estimation
import RmTest.Library.LeastSquares
import RmTest.Library.Quantise
import RmTest.Library.Mirror
import RmTest.Library.Budget
import RmTest.Library.Repeat
import RmTest.Library.Newton
import RmTest.Channels.Messages
import RmTest.Channels.RawFrameQueues
import RmTest.Protocols.RemoteInput
import RmTest.Protocols.Motors
import RmTest.Protocols.PcLink
import RmTest.Algorithms.Pid
import RmTest.Algorithms.KalmanFilter
import RmTest.Algorithms.KalmanHooks
import RmTest.Algorithms.MahonyAhrs
import RmTest.Algorithms.QuaternionEkf
import RmTest.Algorithms.DjiPid
import RmTest.Algorithms.OrdinaryLeastSquares
import RmTest.Algorithms.ControllerPid
import RmTest.Algorithms.AngleMath
import RmTest.Algorithms.FastMath
import RmTest.Algorithms.Constrain
import RmTest.Algorithms.Checksum
import RmTest.Algorithms.Interpolation
import RmTest.Algorithms.Quantize
import RmTest.Algorithms.SlidingMode
import RmTest.Platform.CanDispatch
import RmTest.Platform.CanStartup
import RmTest.Platform.UartDispatch
import RmTest.Platform.RefereeClient
import RmTest.Platform.RefereeMemory
import RmTest.Platform.LittlefsService
import RmTest.Platform.UsbSession
import RmTest.Platform.UsbPort
import RmTest.Platform.SerialServo
import RmTest.Services.Actuator
import RmTest.Services.ChassisTuning
import RmTest.Modules.RemoteInput
import RmTest.Modules.RemoteInputMemory
import RmTest.Modules.Chassis
import RmTest.Modules.Arm
import RmTest.Modules.Gantry
import RmTest.Modules.Gimbal
import RmTest.Modules.GimbalLine
import RmTest.Debug.ChassisTuningShell
import RmTest.Debug.PidDisplay
import RmTest.Debug.PidSession
import RmTest.Bootstrap.ModuleManager
import RmTest.Bootstrap.Boot
import RmTest.Verification.RemoteInputStream
import RmTest.Verification.RemoteInputLines
import RmTest.Verification.RemoteInputFrames
import RmTest.Verification.RemoteInputCommands
import RmTest.Verification.RefereeStream
import RmTest.Verification.RefereeFrames
import RmTest.Verification.RefereeBounds
import RmTest.Verification.ChassisWatchdog
import RmTest.Verification.SharedBus
import RmTest.Verification.PidSingles
import RmTest.Verification.GantryDisable
import RmTest.Verification.GantryMirror
import RmTest.Verification.FeedbackSlots
import RmTest.Verification.CanFeedback
import RmTest.Verification.UartFanOut
import RmTest.Verification.JointTargets
import RmTest.Verification.ArmMotors
import RmTest.Verification.CommandDelivery
import RmTest.Verification.ChassisZeroInput
import RmTest.Verification.ChassisCurrentRange
import RmTest.Verification.TuningRegistry
import RmTest.Verification.TuningDelivery
import RmTest.Verification.PidPersistence
import RmTest.Verification.PidSaveFailures
import RmTest.Verification.PidFormats
import RmTest.Verification.PidSession
import RmTest.Verification.ModuleLifecycle
import RmTest.Verification.UsbTransmit
import RmTest.Verification.UsbReceive
import RmTest.Verification.ServoProtocol
import RmTest.Verification.GimbalLine
import RmTest.Verification.KalmanPhases
import RmTest.Verification.KalmanStatus
import RmTest.Verification.KalmanCovariance
import RmTest.Verification.KalmanEstimate
import RmTest.Verification.KalmanOptimality
import RmTest.Verification.InverseSqrt
import RmTest.Verification.MahonyAttitude
import RmTest.Verification.AttitudePhases
import RmTest.Verification.AttitudeGate
import RmTest.Verification.AttitudeCorrection
import RmTest.Verification.AttitudeUpright
import RmTest.Verification.AttitudeYaw
import RmTest.Verification.AttitudeReset
import RmTest.Verification.PidIntegral
import RmTest.Verification.PidReset
import RmTest.Verification.PidAngle
import RmTest.Verification.ControllerPidBounds
import RmTest.Verification.ControllerPidMirror
import RmTest.Verification.DjiPidForms
import RmTest.Verification.OlsWindow
import RmTest.Verification.OlsDerivative
import RmTest.Verification.OlsOperations
import RmTest.Verification.MitFrames
import RmTest.Verification.CurrentSlots
import RmTest.Verification.RemoteLayouts
import RmTest.Verification.PcLinkFrames
import RmTest.Verification.ServoLine
import RmTest.Verification.ServoPackets
import RmTest.Verification.GantryBudget
import RmTest.Verification.WristIntegral
import RmTest.Verification.ChassisKinematics
import RmTest.Verification.CanRetry
import RmTest.Verification.BootSequence
import RmTest.Verification.PidDisplay
import RmTest.Verification.RemoteInputBounds
import RmTest.Verification.AngleWrapping
import RmTest.Verification.LoopConstrain
import RmTest.Verification.FastSqrt
import RmTest.Verification.Checksums
import RmTest.Verification.InterpolationRestart
import RmTest.Verification.GenericQuantiser
import RmTest.Verification.SlidingModeDifferences
import RmTest.Modules.Referee
import RmTest.Verification.UartReaders
import RmTest.Verification.RefereePipeline
import RmTest.Verification.RemoteInputPipeline
