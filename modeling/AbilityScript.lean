import AbilityScript.Builtin
import AbilityScript.Compile
import AbilityScript.Config.Files
import AbilityScript.Event
import AbilityScript.Host
import AbilityScript.Proofs.Builtin.CompiledCalls
import AbilityScript.Proofs.Completion
import AbilityScript.Proofs.Deferral
import AbilityScript.Proofs.Host.Sequential
import AbilityScript.Proofs.LineIndependence
import AbilityScript.Proofs.LineOutcome
import AbilityScript.Proofs.RefusalDecision
import AbilityScript.Proofs.StrictTargets
import AbilityScript.Proofs.Course
import AbilityScript.Proofs.Number.Order
import AbilityScript.Proofs.Scene.Vitals
import AbilityScript.Proofs.Builtin.Deeds
import AbilityScript.Proofs.VitalHistory
import AbilityScript.Proofs.ExecutionFrame
import AbilityScript.Proofs.Snapshot
import AbilityScript.Proofs.CompileReport
import AbilityScript.Proofs.Leniency
import AbilityScript.Proofs.CallWriting
import AbilityScript.Proofs.KeywordTurns
import AbilityScript.Proofs.TimerTick
import AbilityScript.Proofs.TimerSchedule
import AbilityScript.Proofs.Enrolment
import AbilityScript.Proofs.Scene.EntityHistory
import AbilityScript.Proofs.CompilationPaths
import AbilityScript.Proofs.EventSubjects
import AbilityScript.Proofs.Routes
import AbilityScript.Proofs.Builtin.Counts
import AbilityScript.Proofs.WorldClock
import AbilityScript.Proofs.CompilationSteps
import AbilityScript.Proofs.CompilationLog
import AbilityScript.Proofs.TargeterSpellings
import AbilityScript.Proofs.EnumerationReading
import AbilityScript.Proofs.FormatCodes
