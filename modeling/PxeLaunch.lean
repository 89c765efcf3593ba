import PxeLaunch.Main
import PxeLaunch.Proofs.Noise.Boundary
import PxeLaunch.Proofs.Noise.Line
import PxeLaunch.Proofs.Noise.Pump
import PxeLaunch.Proofs.Noise.Idempotence
import PxeLaunch.Proofs.Noise.Compilation
import PxeLaunch.Proofs.Toml.Integer
import PxeLaunch.Proofs.Toml.Line
import PxeLaunch.Proofs.Toml.Layout
import PxeLaunch.Proofs.Text.Utf8
import PxeLaunch.Proofs.Profile.RoundTrip
import PxeLaunch.Proofs.Supervision.Delivery
import PxeLaunch.Proofs.Project.Scaffold
import PxeLaunch.Proofs.Project.Validity
import PxeLaunch.Proofs.Launch.Lifecycle
import PxeLaunch.Proofs.Launch.Wiring
import PxeLaunch.Proofs.Noise.Cut
import PxeLaunch.Proofs.Regex.Match
import PxeLaunch.Proofs.Regex.Anchor
import PxeLaunch.Proofs.Noise.Precision
import PxeLaunch.Proofs.Profile.Registration
import PxeLaunch.Proofs.Supervision.Course
import PxeLaunch.Proofs.Request.Rehearsal
import PxeLaunch.Proofs.Request.ExitStatus
import PxeLaunch.Proofs.Profile.Folder
import PxeLaunch.Proofs.Noise.Rewriting
import PxeLaunch.Proofs.Noise.Visible
import PxeLaunch.Proofs.Noise.Failing
import PxeLaunch.Proofs.Launch.Plan
import PxeLaunch.Proofs.Launch.Places
import PxeLaunch.Proofs.Host.Folders
import PxeLaunch.Proofs.Project.Started
import PxeLaunch.Proofs.Project.Override
import PxeLaunch.Proofs.Project.Emulator
import PxeLaunch.Proofs.Launch.Served
import PxeLaunch.Proofs.Launch.Images
import PxeLaunch.Proofs.Noise.Turn
