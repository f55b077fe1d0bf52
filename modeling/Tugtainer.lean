import Tugtainer.Plan.Selection
import Tugtainer.Plan.Termination
import Tugtainer.Plan.Buffer
import Tugtainer.Plan.Services
import Tugtainer.Executor.Scope
import Tugtainer.Executor.Ordering
import Tugtainer.Executor.Preflight
import Tugtainer.Executor.Images
import Tugtainer.Executor.Networks
import Tugtainer.Command.Grammar
import Tugtainer.Container.Options
import Tugtainer.Container.Start
import Tugtainer.Check.Sequence
import Tugtainer.Check.Verdict
import Tugtainer.Race.Available
import Tugtainer.Progress.Exclusion
import Tugtainer.Progress.Overlap
import Tugtainer.Progress.Ending
import Tugtainer.Network.Ssrf
import Tugtainer.Registry.Insecure
import Tugtainer.Registry.Reference
import Tugtainer.Registry.Challenge
import Tugtainer.Settings.Agreement
import Tugtainer.Hosts.Clients
import Tugtainer.Race.Rows
import Tugtainer.Backend.Patch
import Tugtainer.Agent.Ambiguity
import Tugtainer.Auth.Sessions
import Tugtainer.Container.Labels
import Tugtainer.Container.Endpoints
import Tugtainer.Container.Gpus
import Tugtainer.Container.Ports
import Tugtainer.Container.Health
import Tugtainer.Executor.Hooks
import Tugtainer.Agent.Verification
import Tugtainer.Check.Writers
import Tugtainer.Hosts.Sessions
import Tugtainer.Auth.Browsers
import Tugtainer.Plan.Pending
import Tugtainer.Settings.Runs
import Tugtainer.Agent.Protocol
import Tugtainer.Executor.Interrupted
import Tugtainer.Container.Generations
