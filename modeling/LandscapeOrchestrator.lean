import LandscapeOrchestrator.ActivationExecution.AdminGateways
import LandscapeOrchestrator.ActivationExecution.Calls
import LandscapeOrchestrator.ActivationExecution.Cluster
import LandscapeOrchestrator.ActivationExecution.Controller
import LandscapeOrchestrator.ActivationExecution.ExposedGateways
import LandscapeOrchestrator.ActivationExecution.Footprint
import LandscapeOrchestrator.ActivationExecution.OneOutcome
import LandscapeOrchestrator.ActivationExecution.Outcomes
import LandscapeOrchestrator.ActivationExecution.Progress
import LandscapeOrchestrator.ActivationExecution.Provisioning
import LandscapeOrchestrator.ActivationExecution.RouteDiscipline
import LandscapeOrchestrator.ActivationExecution.RouteRules
import LandscapeOrchestrator.ActivationExecution.RouterExposure
import LandscapeOrchestrator.ActivationExecution.RouterGateway
import LandscapeOrchestrator.ActivationExecution.Routing
import LandscapeOrchestrator.ActivationExecution.StageCleanup
import LandscapeOrchestrator.ActivationExecution.StageIsolation
import LandscapeOrchestrator.ActivationExecution.Supersession
import LandscapeOrchestrator.ActivationExecution.Watches
import LandscapeOrchestrator.Apilib.Calm
import LandscapeOrchestrator.Apilib.Conditions
import LandscapeOrchestrator.Apilib.Driven
import LandscapeOrchestrator.Apilib.Events
import LandscapeOrchestrator.Apilib.Finalizers
import LandscapeOrchestrator.Apilib.Grounds
import LandscapeOrchestrator.Apilib.Interleaving
import LandscapeOrchestrator.Apilib.Justified
import LandscapeOrchestrator.Apilib.Names
import LandscapeOrchestrator.Apilib.Paths
import LandscapeOrchestrator.Apilib.Program
import LandscapeOrchestrator.Apilib.Progress
import LandscapeOrchestrator.Apilib.RelyGuarantee
import LandscapeOrchestrator.Apilib.Runs
import LandscapeOrchestrator.Apilib.WorkQueue
import LandscapeOrchestrator.ArtifactDeploymentController.Attribution
import LandscapeOrchestrator.ArtifactDeploymentController.CalmPass
import LandscapeOrchestrator.ArtifactDeploymentController.Credentials
import LandscapeOrchestrator.ArtifactDeploymentController.ExposureFailure
import LandscapeOrchestrator.ArtifactDeploymentController.Flux
import LandscapeOrchestrator.ArtifactDeploymentController.Isolation
import LandscapeOrchestrator.ArtifactDeploymentController.NameSuffix
import LandscapeOrchestrator.ArtifactDeploymentController.Readiness
import LandscapeOrchestrator.ArtifactDeploymentController.ReadyCauses
import LandscapeOrchestrator.ArtifactDeploymentController.ReadyGeneration
import LandscapeOrchestrator.ArtifactDeploymentController.Reconcile
import LandscapeOrchestrator.ArtifactDeploymentController.Reconcilers
import LandscapeOrchestrator.ArtifactDeploymentController.Rounds
import LandscapeOrchestrator.ArtifactDeploymentController.Settling
import LandscapeOrchestrator.DeploymentResult
import LandscapeOrchestrator.FinalizerEdits
import LandscapeOrchestrator.FluxDeployer.ImageReference
import LandscapeOrchestrator.FluxDeployer.Mapper
import LandscapeOrchestrator.FluxDeployer.Names
import LandscapeOrchestrator.FluxDeployer.Publishing
import LandscapeOrchestrator.FluxDeployer.Services
import LandscapeOrchestrator.FluxDeployer.WireFormat
import LandscapeOrchestrator.Golib.Format
import LandscapeOrchestrator.Golib.Iteration
import LandscapeOrchestrator.Golib.Maps
import LandscapeOrchestrator.Golib.Path
import LandscapeOrchestrator.Golib.Singleflight
import LandscapeOrchestrator.Golib.Strings
import LandscapeOrchestrator.Jsonlib.Decoder
import LandscapeOrchestrator.Jsonlib.Record
import LandscapeOrchestrator.Jsonlib.RoundTrip
import LandscapeOrchestrator.Jsonlib.Text
import LandscapeOrchestrator.Jsonlib.Unmarshal
import LandscapeOrchestrator.Jsonlib.Value
import LandscapeOrchestrator.TaskExecutionController.Finality
import LandscapeOrchestrator.TaskExecutionController.Incarnations
import LandscapeOrchestrator.TaskExecutionController.JobName
import LandscapeOrchestrator.TaskExecutionController.LaggingCache
import LandscapeOrchestrator.TaskExecutionController.Progress
import LandscapeOrchestrator.TaskExecutionController.Reconcile
import LandscapeOrchestrator.TaskExecutionController.Watches
import LandscapeOrchestrator.VectorDataController.Lifecycle
import LandscapeOrchestrator.VectorDataController.Progress
import LandscapeOrchestrator.VectorDataController.Reconcile
import LandscapeOrchestrator.VectorDataController.Render
import LandscapeOrchestrator.VectorDataController.Watches
import LandscapeOrchestrator.VectorDataService.Agreement
import LandscapeOrchestrator.VectorDataService.Coherence
import LandscapeOrchestrator.VectorDataService.Configuration
import LandscapeOrchestrator.VectorDataService.EndToEnd
import LandscapeOrchestrator.VectorDataService.Handlers
import LandscapeOrchestrator.VectorDataService.Isolation
import LandscapeOrchestrator.VectorDataService.Process
import LandscapeOrchestrator.VectorDataService.ReadBack
import LandscapeOrchestrator.VectorDataService.Servable
